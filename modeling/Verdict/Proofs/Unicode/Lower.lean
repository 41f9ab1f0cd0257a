import Verdict.Proofs.Unicode.Members
import Mathlib.Data.List.TakeWhile

/-!
# Parts of a text in lower case

Only the form of a capital sigma depends on the text around it: it is final where a letter with
case comes before it and none after it, ignorable characters aside.  `lowerWithin` is what becomes
of a part of a text between its surroundings, and `lowerWithin_eq` says when these do not matter.
So a text that starts with a part has a lower-case form that starts with that of the part, whatever
follows, exactly if the part does not end with a sigma that is final only for want of a letter
after it (`startsWith_lower_iff`); and likewise for what a text ends with or contains.
-/

namespace Verdict.Unicode

/-- The only character whose lower-case form depends on the text around it. -/
def capitalSigma : Char := '\u03a3'

/-- Its form at the end of a word. -/
def finalSigma : Char := '\u03c2'

/-- Its form elsewhere. -/
def smallSigma : Char := '\u03c3'

/-- Whether a sigma between the text `before`, last character first, and the text `after` stands at
    the end of a word. -/
def isFinal (before after : List Char) : Bool :=
  meetsCased before && !meetsCased after

/-- The lower-case form of a part of a text that stands between `before`, last character first, and
    `after`. -/
def lowerWithin (after : List Char) : List Char → List Char → List Char
  | _, [] => []
  | before, c :: cs => lowerAt before c (cs ++ after) ++ lowerWithin after (c :: before) cs

/-- Whether a text ends, ignorable characters aside, with a sigma that stands at the end of a word
    but would not if a letter came after the text. -/
def endsFinal (cs : List Char) : Bool :=
  match cs.reverse.dropWhile caseIgnorableSet.has with
  | [] => false
  | c :: before => c == capitalSigma && meetsCased before

/-- Whether a text starts, ignorable characters aside, with a sigma that would stand at the end of a
    word if a letter came before the text. -/
def startsOpen (cs : List Char) : Bool :=
  match cs.dropWhile caseIgnorableSet.has with
  | [] => false
  | c :: after => c == capitalSigma && !meetsCased after

section

variable {before before' after after' cs ds front rest : List Char} {c x : Char}

/-! ## Letters around a sigma -/

theorem meetsCased_of_ignorable (ignorable : cs.all caseIgnorableSet.has = true) :
    meetsCased cs = false := by
  have skipped : cs.dropWhile caseIgnorableSet.has = [] :=
    List.dropWhile_eq_nil_iff.mpr (List.all_eq_true.mp ignorable)
  rw [meetsCased, skipped]

/-- Whether a letter comes next is decided by the first text unless it is ignorable throughout. -/
theorem meetsCased_append :
    meetsCased (cs ++ ds) =
      if cs.all caseIgnorableSet.has then meetsCased ds else meetsCased cs := by
  unfold meetsCased
  rw [List.dropWhile_append]
  cases skipped : cs.dropWhile caseIgnorableSet.has with
  | nil =>
    have ignorable := List.all_eq_true.mpr (List.dropWhile_eq_nil_iff.mp skipped)
    simp [ignorable]
  | cons d kept =>
    have some : cs.all caseIgnorableSet.has = false := by
      rw [Bool.eq_false_iff]
      intro ignorable
      have none := List.dropWhile_eq_nil_iff.mpr (List.all_eq_true.mp ignorable)
      simp [none] at skipped
    simp [some]

theorem meetsCased_append_of_meetsCased (cased : meetsCased cs = true) :
    meetsCased (cs ++ ds) = true := by
  rw [meetsCased_append]
  split
  next ignorable => simp [meetsCased_of_ignorable ignorable] at cased
  next => exact cased

/-- What is left after the ignorable characters of a text with a sigma after them. -/
theorem dropWhile_append_sigma (ignorable : front.all caseIgnorableSet.has = true) :
    (front ++ capitalSigma :: rest).dropWhile caseIgnorableSet.has = capitalSigma :: rest := by
  have stops : ¬ caseIgnorableSet.has capitalSigma = true :=
    Bool.eq_false_iff.mp ignorable_capitalSigma
  rw [List.dropWhile_append_of_pos (List.all_eq_true.mp ignorable),
    List.dropWhile_cons_of_neg stops]

theorem startsOpen_append_sigma (ignorable : front.all caseIgnorableSet.has = true) :
    startsOpen (front ++ capitalSigma :: rest) = !meetsCased rest := by
  rw [startsOpen, dropWhile_append_sigma ignorable]
  simp

theorem endsFinal_append_sigma (ignorable : rest.all caseIgnorableSet.has = true) :
    endsFinal (front ++ capitalSigma :: rest) = meetsCased front.reverse := by
  have reversed : (front ++ capitalSigma :: rest).reverse =
      rest.reverse ++ capitalSigma :: front.reverse := by simp
  rw [endsFinal, reversed, dropWhile_append_sigma (by rw [List.all_reverse, ignorable])]
  simp

theorem exists_of_dropWhile (skipped : cs.dropWhile caseIgnorableSet.has = c :: rest) :
    ∃ front, cs = front ++ c :: rest ∧ front.all caseIgnorableSet.has = true := by
  refine ⟨cs.takeWhile caseIgnorableSet.has, ?_, List.all_takeWhile⟩
  rw [← skipped, List.takeWhile_append_dropWhile]

theorem exists_of_startsOpen (starts : startsOpen cs = true) :
    ∃ front rest, cs = front ++ capitalSigma :: rest ∧ front.all caseIgnorableSet.has = true ∧
      meetsCased rest = false := by
  unfold startsOpen at starts
  split at starts
  next => simp at starts
  next c rest skipped =>
    obtain ⟨front, whole, ignorable⟩ := exists_of_dropWhile skipped
    simp only [Bool.and_eq_true, beq_iff_eq, Bool.not_eq_true'] at starts
    exact ⟨front, rest, by rw [whole, starts.1], ignorable, starts.2⟩

theorem exists_of_endsFinal (ends : endsFinal cs = true) :
    ∃ front rest, cs = front ++ capitalSigma :: rest ∧ rest.all caseIgnorableSet.has = true ∧
      meetsCased front.reverse = true := by
  unfold endsFinal at ends
  split at ends
  next => simp at ends
  next c before skipped =>
    obtain ⟨later, whole, ignorable⟩ := exists_of_dropWhile skipped
    simp only [Bool.and_eq_true, beq_iff_eq] at ends
    refine ⟨before.reverse, later.reverse, ?_, by rw [List.all_reverse, ignorable], ?_⟩
    · rw [← List.reverse_reverse cs, whole, ends.1]
      simp
    · rw [List.reverse_reverse, ends.2]

/-- Surroundings leave a sigma of a text at the end of a word, or not there, as it is in the text
    alone, unless they decide about the first or the last of its letters. -/
theorem isFinal_within (ends : after = [] ∨ endsFinal cs = false)
    (starts : before = [] ∨ startsOpen cs = false) (place : cs = front ++ capitalSigma :: rest) :
    isFinal (front.reverse ++ before) (rest ++ after) = isFinal front.reverse rest := by
  have nothing : meetsCased [] = false := rfl
  subst place
  unfold isFinal
  rw [meetsCased_append, meetsCased_append, List.all_reverse]
  cases leading : front.all caseIgnorableSet.has with
  | false =>
    cases trailing : rest.all caseIgnorableSet.has with
    | false => rfl
    | true =>
      rw [endsFinal_append_sigma trailing] at ends
      rcases ends with rfl | ends
      · simp [nothing, meetsCased_of_ignorable trailing]
      · simp [ends]
  | true =>
    have first : meetsCased front.reverse = false :=
      meetsCased_of_ignorable (by rw [List.all_reverse, leading])
    rw [startsOpen_append_sigma leading] at starts
    rcases starts with rfl | starts
    · simp [nothing, first]
    · have later : meetsCased rest = true := by simpa using starts
      have some : rest.all caseIgnorableSet.has = false := by
        rw [Bool.eq_false_iff]
        intro trailing
        simp [meetsCased_of_ignorable trailing] at later
      simp [some, later]

/-! ## Parts in lower case -/

theorem lowerAt_capitalSigma :
    lowerAt before capitalSigma after =
      if isFinal before after then [finalSigma] else [smallSigma] :=
  rfl

/-- The form of any other character is the same everywhere. -/
theorem lowerAt_of_ne (other : c ≠ capitalSigma) :
    lowerAt before c after = lowerAt before' c after' := by
  have apart : (c.toNat == 0x3a3) = false := by
    rw [beq_eq_false_iff_ne]
    intro same
    exact other (Char.toNat_inj.mp same)
  simp only [lowerAt, apart, Bool.false_eq_true, if_false]

theorem lowerWithin_nil (cs : List Char) : lowerWithin [] before cs = lowerFrom before cs := by
  induction cs generalizing before with
  | nil => rfl
  | cons c cs ih => rw [lowerWithin, lowerFrom, ih, List.append_nil]

theorem lowerWithin_append :
    lowerWithin after before (cs ++ ds) =
      lowerWithin (ds ++ after) before cs ++ lowerWithin after (cs.reverse ++ before) ds := by
  induction cs generalizing before with
  | nil => rfl
  | cons c cs ih =>
    simp only [List.cons_append, lowerWithin, ih, List.append_assoc, List.reverse_cons,
      List.nil_append]

theorem lower_toList (s : String) : (lower s).toList = lowerWithin [] [] s.toList := by
  rw [lower, String.toList_ofList, lowerWithin_nil]

/-- The lower-case form of a text by a part of it and the text before and after the part. -/
theorem lowerWithin_around (front cs rest : List Char) :
    lowerWithin [] [] (front ++ cs ++ rest) =
      lowerWithin (cs ++ rest) [] front ++ lowerWithin rest front.reverse cs ++
        lowerWithin [] (cs.reverse ++ front.reverse) rest := by
  simp only [lowerWithin_append, List.append_nil, List.reverse_append]

theorem lowerWithin_congr
    (same : ∀ front rest, cs = front ++ capitalSigma :: rest →
      isFinal (front.reverse ++ before) (rest ++ after) =
        isFinal (front.reverse ++ before') (rest ++ after')) :
    lowerWithin after before cs = lowerWithin after' before' cs := by
  induction cs generalizing before before' with
  | nil => rfl
  | cons c cs ih =>
    have here : lowerAt before c (cs ++ after) = lowerAt before' c (cs ++ after') := by
      by_cases sigma : c = capitalSigma
      · have first := same [] cs (by rw [sigma, List.nil_append])
        rw [sigma, lowerAt_capitalSigma, lowerAt_capitalSigma]
        exact if_congr (by rw [show isFinal before (cs ++ after) = _ from first]; rfl) rfl rfl
      · exact lowerAt_of_ne sigma
    have later : lowerWithin after (c :: before) cs = lowerWithin after' (c :: before') cs := by
      apply ih
      intro front rest place
      have deeper := same (c :: front) rest (by rw [place, List.cons_append])
      simpa using deeper
    rw [lowerWithin, lowerWithin, here, later]

/-- A part comes out as it does alone unless its surroundings decide about its first or its last
    letter. -/
theorem lowerWithin_eq (ends : after = [] ∨ endsFinal cs = false)
    (starts : before = [] ∨ startsOpen cs = false) :
    lowerWithin after before cs = lowerWithin [] [] cs := by
  apply lowerWithin_congr
  intro front rest place
  rw [isFinal_within ends starts place, List.append_nil, List.append_nil]

/-! ## Sigmas that change -/

theorem count_final_le (kept : isFinal before after = true → isFinal before' after' = true) :
    (lowerAt before c after).count finalSigma ≤ (lowerAt before' c after').count finalSigma := by
  by_cases sigma : c = capitalSigma
  · rw [sigma, lowerAt_capitalSigma, lowerAt_capitalSigma]
    cases here : isFinal before after with
    | true => rw [kept here]
    | false => exact Nat.zero_le _
  · rw [lowerAt_of_ne sigma]

theorem count_small_le (kept : isFinal before' after' = true → isFinal before after = true) :
    (lowerAt before c after).count smallSigma ≤ (lowerAt before' c after').count smallSigma := by
  by_cases sigma : c = capitalSigma
  · rw [sigma, lowerAt_capitalSigma, lowerAt_capitalSigma]
    cases there : isFinal before' after' with
    | true => rw [kept there]
    | false => split <;> decide
  · rw [lowerAt_of_ne sigma]

/-- If each character has no more of some letter in its form, then the whole text has. -/
theorem count_lowerWithin_le
    (le : ∀ front c rest, cs = front ++ c :: rest →
      (lowerAt (front.reverse ++ before) c (rest ++ after)).count x ≤
        (lowerAt (front.reverse ++ before') c (rest ++ after')).count x) :
    (lowerWithin after before cs).count x ≤ (lowerWithin after' before' cs).count x := by
  induction cs generalizing before before' with
  | nil => exact Nat.le_refl _
  | cons c cs ih =>
    rw [lowerWithin, lowerWithin, List.count_append, List.count_append]
    refine Nat.add_le_add (le [] c cs rfl) (ih ?_)
    intro front d rest place
    simpa using le (c :: front) d rest (by rw [place, List.cons_append])

theorem count_lowerWithin_lt
    (le : ∀ front c rest, cs = front ++ c :: rest →
      (lowerAt (front.reverse ++ before) c (rest ++ after)).count x ≤
        (lowerAt (front.reverse ++ before') c (rest ++ after')).count x)
    (place : cs = front ++ c :: rest)
    (lt : (lowerAt (front.reverse ++ before) c (rest ++ after)).count x <
      (lowerAt (front.reverse ++ before') c (rest ++ after')).count x) :
    (lowerWithin after before cs).count x < (lowerWithin after' before' cs).count x := by
  induction front generalizing cs before before' with
  | nil =>
    subst place
    rw [List.nil_append, lowerWithin, lowerWithin, List.count_append, List.count_append]
    refine Nat.add_lt_add_of_lt_of_le lt (count_lowerWithin_le ?_)
    intro front d later place
    simpa using le (c :: front) d later (by rw [place, List.cons_append, List.nil_append])
  | cons d front ih =>
    subst place
    rw [List.cons_append, lowerWithin, lowerWithin, List.count_append, List.count_append]
    refine Nat.add_lt_add_of_le_of_lt (le [] d _ rfl) (ih ?_ rfl (by simpa using lt))
    intro earlier e later place
    simpa using le (d :: earlier) e later (by rw [List.cons_append, place, List.cons_append])

/-- A letter after a text that ends with a final sigma leaves one final sigma less. -/
theorem count_final_lt (ends : endsFinal cs = true) (cased : meetsCased after = true) :
    (lowerWithin after [] cs).count finalSigma < (lowerWithin [] [] cs).count finalSigma := by
  obtain ⟨front, rest, place, ignorable, letter⟩ := exists_of_endsFinal ends
  refine count_lowerWithin_lt ?_ place ?_
  · intro front c rest _
    apply count_final_le
    intro final
    simp only [List.append_nil, isFinal, Bool.and_eq_true, Bool.not_eq_true'] at final ⊢
    refine ⟨final.1, Bool.eq_false_iff.mpr fun later => ?_⟩
    simp [meetsCased_append_of_meetsCased later] at final
  · have inside : isFinal front.reverse (rest ++ after) = false := by
      rw [isFinal, meetsCased_append, if_pos ignorable, cased, Bool.not_true, Bool.and_false]
    have alone : isFinal front.reverse rest = true := by
      rw [isFinal, letter, meetsCased_of_ignorable ignorable, Bool.not_false, Bool.and_true]
    rw [List.append_nil, List.append_nil, lowerAt_capitalSigma, lowerAt_capitalSigma, inside, alone]
    decide

/-- A letter before a text that starts with an open sigma leaves one small sigma less. -/
theorem count_small_lt (starts : startsOpen cs = true) (cased : meetsCased before = true) :
    (lowerWithin [] before cs).count smallSigma < (lowerWithin [] [] cs).count smallSigma := by
  obtain ⟨front, rest, place, ignorable, later⟩ := exists_of_startsOpen starts
  have reversed : front.reverse.all caseIgnorableSet.has = true := by
    rw [List.all_reverse, ignorable]
  refine count_lowerWithin_lt ?_ place ?_
  · intro front c rest _
    apply count_small_le
    intro final
    simp only [List.append_nil, isFinal, Bool.and_eq_true, Bool.not_eq_true'] at final ⊢
    exact ⟨meetsCased_append_of_meetsCased final.1, final.2⟩
  · have inside : isFinal (front.reverse ++ before) rest = true := by
      rw [isFinal, meetsCased_append, if_pos reversed, cased, later, Bool.not_false, Bool.and_true]
    have alone : isFinal front.reverse rest = false := by
      rw [isFinal, meetsCased_of_ignorable reversed, Bool.false_and]
    rw [List.append_nil, List.append_nil, lowerAt_capitalSigma, lowerAt_capitalSigma, inside, alone]
    decide

/-! ## Parts that stay parts -/

/-- A letter with case. -/
def capitalAlpha : Char := '\u0391'

theorem meetsCased_capitalAlpha : meetsCased [capitalAlpha] = true := by
  have stops : ¬ caseIgnorableSet.has capitalAlpha = true :=
    Bool.eq_false_iff.mp ignorable_capitalAlpha
  rw [meetsCased, List.dropWhile_cons_of_neg stops]
  exact cased_capitalAlpha

theorem lowerAt_capitalAlpha : lowerAt before capitalAlpha after = ['\u03b1'] := by
  have form : lowerChar capitalAlpha = '\u03b1' := by decide +kernel
  rw [← form]
  rfl

/-- The form of a text that goes on after a final sigma does not contain that of its start. -/
theorem not_infix_of_endsFinal (ends : endsFinal cs = true) :
    ¬ lowerWithin [] [] cs <:+: lowerWithin [] [] (cs ++ [capitalAlpha]) := by
  intro inside
  have fewer := inside.sublist.count_le finalSigma
  have lt := count_final_lt ends meetsCased_capitalAlpha
  rw [lowerWithin_append, lowerWithin, lowerWithin, lowerAt_capitalAlpha, List.append_nil,
    List.append_nil, List.count_append] at fewer
  exact Nat.lt_irrefl _ (Nat.lt_of_lt_of_le lt fewer)

theorem not_infix_of_startsOpen (starts : startsOpen cs = true) :
    ¬ lowerWithin [] [] cs <:+: lowerWithin [] [] (capitalAlpha :: cs) := by
  intro inside
  have fewer := inside.sublist.count_le smallSigma
  have lt := count_small_lt starts meetsCased_capitalAlpha
  rw [lowerWithin, lowerAt_capitalAlpha, List.count_append] at fewer
  have none : List.count smallSigma ['\u03b1'] = 0 := by decide
  omega

end

/-- A text keeps what it starts with in lower case, for every text, exactly if that does not end
    with a final sigma. -/
theorem startsWith_lower_iff (piece : String) :
    (∀ s, Text.startsWith s piece = true → Text.startsWith (lower s) (lower piece) = true) ↔
      endsFinal piece.toList = false := by
  simp only [Text.startsWith_iff, lower_toList]
  constructor
  · intro kept
    rw [Bool.eq_false_iff]
    intro ends
    have longer := kept (String.ofList (piece.toList ++ [capitalAlpha])) (by simp)
    rw [String.toList_ofList] at longer
    exact not_infix_of_endsFinal ends longer.isInfix
  · rintro ends s ⟨rest, whole⟩
    have inside : lowerWithin (rest ++ []) [] piece.toList = lowerWithin [] [] piece.toList :=
      lowerWithin_eq (.inr ends) (.inl rfl)
    rw [← whole, lowerWithin_append, inside]
    exact List.prefix_append ..

/-- A text keeps what it ends with in lower case, for every text, exactly if that does not start
    with an open sigma. -/
theorem endsWith_lower_iff (piece : String) :
    (∀ s, Text.endsWith s piece = true → Text.endsWith (lower s) (lower piece) = true) ↔
      startsOpen piece.toList = false := by
  simp only [Text.endsWith_iff, lower_toList]
  constructor
  · intro kept
    rw [Bool.eq_false_iff]
    intro starts
    have longer := kept (String.ofList (capitalAlpha :: piece.toList)) (by simp)
    rw [String.toList_ofList] at longer
    exact not_infix_of_startsOpen starts longer.isInfix
  · rintro starts s ⟨front, whole⟩
    have inside : lowerWithin [] (front.reverse ++ []) piece.toList =
        lowerWithin [] [] piece.toList :=
      lowerWithin_eq (.inl rfl) (.inr starts)
    rw [← whole, lowerWithin_append, inside]
    exact List.suffix_append ..

/-- A text keeps what it contains in lower case, for every text, exactly if that neither ends with a
    final sigma nor starts with an open one. -/
theorem contains_lower_iff (piece : String) :
    (∀ s, Text.contains s piece = true → Text.contains (lower s) (lower piece) = true) ↔
      endsFinal piece.toList = false ∧ startsOpen piece.toList = false := by
  simp only [Text.contains_iff, lower_toList]
  constructor
  · intro kept
    constructor <;> rw [Bool.eq_false_iff]
    · intro ends
      have longer := kept (String.ofList (piece.toList ++ [capitalAlpha]))
        (by simpa using (List.prefix_append ..).isInfix)
      rw [String.toList_ofList] at longer
      exact not_infix_of_endsFinal ends longer
    · intro starts
      have longer := kept (String.ofList (capitalAlpha :: piece.toList))
        (by simpa using (List.suffix_cons ..).isInfix)
      rw [String.toList_ofList] at longer
      exact not_infix_of_startsOpen starts longer
  · rintro ⟨ends, starts⟩ s ⟨front, rest, whole⟩
    have inside : lowerWithin rest front.reverse piece.toList = lowerWithin [] [] piece.toList :=
      lowerWithin_eq (.inr ends) (.inr starts)
    rw [← whole, lowerWithin_around, inside]
    exact List.infix_append ..

/-! ## Texts without letters -/

/-- The characters below the first letter have no other case. -/
theorem lowerFrom_of_below {before cs : List Char} (below : ∀ c ∈ cs, c.toNat < 65) :
    lowerFrom before cs = cs := by
  induction cs generalizing before with
  | nil => rfl
  | cons c cs ih =>
    obtain ⟨here, later⟩ := List.forall_mem_cons.mp below
    have notCapital : ¬ (decide ('A' ≤ c) && decide (c ≤ 'Z')) = true := by
      rw [Bool.and_eq_true, decide_eq_true_eq]
      rintro ⟨capital, -⟩
      exact absurd here (Nat.not_lt.mpr capital)
    have single : lowerChar c = c := by
      rw [lowerChar, if_pos (Nat.lt_trans here (by decide)), Text.asciiLower, if_neg notCapital]
    have notSigma : ¬ (c.toNat == 0x3a3) = true := by
      rw [beq_iff_eq]
      omega
    have notDotted : ¬ (c.toNat == 0x130) = true := by
      rw [beq_iff_eq]
      omega
    rw [lowerFrom, ih later, lowerAt, if_neg notSigma, if_neg notDotted, single]
    rfl

theorem lower_of_below {s : String} (below : ∀ c ∈ s.toList, c.toNat < 65) : lower s = s := by
  rw [lower, lowerFrom_of_below below, String.ofList_toList]

end Verdict.Unicode
