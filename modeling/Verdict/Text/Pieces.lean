/-!
# Cutting texts into pieces and looking for one text inside another

`splitAt sep` cuts at every occurrence of one character, keeping empty pieces.  `hasPiece` and its
two anchored forms say where one text occurs inside another.
-/

namespace Verdict.Text

/-- The pieces between the occurrences of `sep`; `n` occurrences make `n + 1` pieces. -/
def splitAt (sep : Char) : List Char → List (List Char)
  | [] => [[]]
  | c :: cs =>
      if c = sep then [] :: splitAt sep cs
      else
        match splitAt sep cs with
        | [] => [[c]]
        | piece :: pieces => (c :: piece) :: pieces

/-- Cuts at the first occurrence of `sep`, if there is one. -/
def cutOnce (sep : Char) : List Char → Option (List Char × List Char)
  | [] => none
  | c :: cs =>
      if c = sep then some ([], cs)
      else (cutOnce sep cs).map fun (left, right) => (c :: left, right)

/-- Whether `piece` occurs somewhere in the text. -/
def hasPiece (piece : List Char) : List Char → Bool
  | [] => piece.isEmpty
  | c :: cs => piece.isPrefixOf (c :: cs) || hasPiece piece cs

/-- Whether the text `s` contains `piece`. -/
def contains (s piece : String) : Bool :=
  hasPiece piece.toList s.toList

/-- Whether the text `s` begins with `piece`. -/
def startsWith (s piece : String) : Bool :=
  piece.toList.isPrefixOf s.toList

/-- Whether the text `s` ends with `piece`. -/
def endsWith (s piece : String) : Bool :=
  piece.toList.isSuffixOf s.toList

/-- The pieces of a text between the occurrences of `sep`, as texts. -/
def split (s : String) (sep : Char) : List String :=
  (splitAt sep s.toList).map String.ofList

/-- One text occurs inside another exactly where it is an infix. -/
theorem hasPiece_iff {piece cs : List Char} : hasPiece piece cs = true ↔ piece <:+: cs := by
  induction cs with
  | nil => simp [hasPiece]
  | cons c cs ih =>
      simp only [hasPiece, Bool.or_eq_true, List.isPrefixOf_iff_prefix, ih, List.infix_cons_iff]

theorem contains_iff {s piece : String} :
    contains s piece = true ↔ piece.toList <:+: s.toList :=
  hasPiece_iff

theorem startsWith_iff {s piece : String} :
    startsWith s piece = true ↔ piece.toList <+: s.toList :=
  List.isPrefixOf_iff_prefix

theorem endsWith_iff {s piece : String} :
    endsWith s piece = true ↔ piece.toList <:+ s.toList :=
  List.isSuffixOf_iff_suffix

/-- A cut leaves what stands before and behind the first separator. -/
theorem cutOnce_eq_some_iff {sep : Char} {cs left right : List Char} :
    cutOnce sep cs = some (left, right) ↔ cs = left ++ sep :: right ∧ sep ∉ left := by
  induction cs generalizing left with
  | nil => simp [cutOnce]
  | cons c cs ih =>
      rw [cutOnce]
      by_cases here : c = sep
      · subst here
        cases left with
        | nil => simp
        | cons d left =>
            simp only [if_true, Option.some.injEq, Prod.mk.injEq, List.nil_eq, reduceCtorEq,
              false_and, false_iff, List.cons_append, List.cons.injEq, List.mem_cons, not_or]
            rintro ⟨⟨same, -⟩, other, -⟩
            exact other same
      · simp only [if_neg here, Option.map_eq_some_iff, Prod.exists, Prod.mk.injEq]
        cases left with
        | nil => simp [here]
        | cons d left =>
            simp only [List.cons_append, List.cons.injEq, List.mem_cons, not_or]
            constructor
            · rintro ⟨front, back, cut, ⟨rfl, rfl⟩, rfl⟩
              obtain ⟨rfl, absent⟩ := ih.mp cut
              exact ⟨⟨rfl, rfl⟩, fun same => here same.symm, absent⟩
            · rintro ⟨⟨rfl, rfl⟩, -, absent⟩
              exact ⟨left, right, ih.mpr ⟨rfl, absent⟩, ⟨rfl, rfl⟩, rfl⟩

theorem splitAt_ne_nil (sep : Char) (cs : List Char) : splitAt sep cs ≠ [] := by
  cases cs with
  | nil => simp [splitAt]
  | cons c cs =>
      simp only [splitAt]
      split
      · simp
      · split <;> simp

end Verdict.Text
