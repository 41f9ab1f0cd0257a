import Verdict.Text.Pieces

/-!
# Pieces between separators

Cutting a text at every separator is cutting the list of its characters (`splitAt_eq_splitOn`).  So
pieces without separators are found again in the text that joins them (`splitAt_intercalate`,
`split_intercalate`).
-/

namespace Verdict.Text

theorem splitAt_eq_splitOn (sep : Char) (cs : List Char) : splitAt sep cs = cs.splitOn sep := by
  induction cs with
  | nil => rfl
  | cons c cs ih =>
    rw [splitAt, ih, List.splitOn, List.splitOn, List.splitOnP_cons_eq_if_modifyHead]
    by_cases here : c = sep
    · rw [if_pos here, if_pos (beq_iff_eq.mpr here)]
    · rw [if_neg here, if_neg (beq_eq_false_iff_ne.mpr here ▸ Bool.false_ne_true)]
      cases pieces : cs.splitOnP (· == sep) with
      | nil => exact absurd pieces (List.splitOnP_ne_nil _ _)
      | cons piece rest => rfl

theorem intercalate_splitAt (sep : Char) (cs : List Char) :
    [sep].intercalate (splitAt sep cs) = cs := by
  rw [splitAt_eq_splitOn, List.intercalate_splitOn]

/-- Pieces without separators are cut out of the text that joins them. -/
theorem splitAt_intercalate {sep : Char} {pieces : List (List Char)} (some_piece : pieces ≠ [])
    (free : ∀ piece ∈ pieces, sep ∉ piece) : splitAt sep ([sep].intercalate pieces) = pieces := by
  rw [splitAt_eq_splitOn, List.splitOn_intercalate _ free some_piece]

theorem split_intercalate {sep : Char} {pieces : List String} (some_piece : pieces ≠ [])
    (free : ∀ piece ∈ pieces, sep ∉ piece.toList) :
    split ((String.singleton sep).intercalate pieces) sep = pieces := by
  have chars : ((String.singleton sep).intercalate pieces).toList =
      [sep].intercalate (pieces.map String.toList) := by
    rw [String.toList_intercalate, String.toList_singleton]
  have some_chars : pieces.map String.toList ≠ [] := mt List.map_eq_nil_iff.mp some_piece
  rw [split, chars, splitAt_intercalate some_chars (List.forall_mem_map.mpr free), List.map_map]
  exact (List.map_congr_left fun s _ => String.ofList_toList).trans (List.map_id _)

/-- A joined text is its first piece, and each other piece behind a separator. -/
theorem intercalate_cons (sep : Char) (piece : List Char) (pieces : List (List Char)) :
    [sep].intercalate (piece :: pieces) = piece ++ (pieces.map (sep :: ·)).flatten := by
  induction pieces generalizing piece with
  | nil => simp [List.intercalate]
  | cons next rest ih => simp [List.intercalate_cons_cons, ih next]

/-- The last piece of a joined text stands behind a separator, or alone. -/
theorem intercalate_concat (sep : Char) (pieces : List (List Char)) (last : List Char) :
    [sep].intercalate (pieces ++ [last]) = last ∨
      ∃ lead, [sep].intercalate (pieces ++ [last]) = lead ++ sep :: last := by
  cases pieces with
  | nil => exact .inl (by simp [List.intercalate])
  | cons piece rest =>
    refine .inr ⟨piece ++ (rest.map (sep :: ·)).flatten, ?_⟩
    rw [List.cons_append, intercalate_cons]
    simp

end Verdict.Text
