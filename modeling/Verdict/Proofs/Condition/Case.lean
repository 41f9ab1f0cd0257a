import Verdict.Proofs.Condition.Malformed
import Verdict.Proofs.Unicode.Lower

/-!
# Conditions that ignore case

A condition that ignores case compares texts in lower case.  Equal texts stay equal, so nothing is
lost where whole texts are compared.  A part of a text may be lost: a capital sigma has another form
at the end of a word, and a part may end there where the text goes on.
`matches_ignoring_case_iff` says for which expected texts no match is ever lost.
-/

namespace Verdict

open Unicode (lower endsFinal startsOpen)

namespace Operator

/-- The operators that compare texts, other than by a pattern, and match where they find
    something. -/
def findsTexts : Operator → Bool
  | .equals | .contains | .startsWith | .endsWith | .isIn => true
  | _ => false

/-- Whether texts in which the operator finds an expected text as it is written are such that it
    finds it in lower case too. -/
def isSafeInLowerCase (op : Operator) (expected : String) : Bool :=
  match op with
  | .contains => !endsFinal expected.toList && !startsOpen expected.toList
  | .startsWith => !endsFinal expected.toList
  | .endsWith => !startsOpen expected.toList
  | _ => true

/-- Only capital sigmas are unsafe. -/
theorem isSafeInLowerCase_of_not_mem {expected : String}
    (none : Unicode.capitalSigma ∉ expected.toList) (op : Operator) :
    op.isSafeInLowerCase expected = true := by
  have ends : endsFinal expected.toList = false := by
    rw [Bool.eq_false_iff]
    intro ends
    obtain ⟨front, rest, whole, -⟩ := Unicode.exists_of_endsFinal ends
    simp [whole] at none
  have starts : startsOpen expected.toList = false := by
    rw [Bool.eq_false_iff]
    intro starts
    obtain ⟨front, rest, whole, -⟩ := Unicode.exists_of_startsOpen starts
    simp [whole] at none
  cases op <;> simp [isSafeInLowerCase, ends, starts]

end Operator

/-- A weaker test finds what a stronger one finds. -/
theorem Value.anyText_mono {test test' : String → Bool}
    (weaker : ∀ s, test s = true → test' s = true) {v : Value} (found : v.anyText test = true) :
    v.anyText test' = true := by
  unfold anyText at found ⊢
  split at found
  · rw [List.any_eq_true] at found ⊢
    obtain ⟨s, member, here⟩ := found
    exact ⟨s, member, weaker s here⟩
  · rw [Option.any_eq_true] at found ⊢
    obtain ⟨s, text, here⟩ := found
    exact ⟨s, text, weaker s here⟩

namespace Condition

variable {c : Condition} {expected : Value}

/-- The condition with case minded or not. -/
def mindingCase (c : Condition) (minded : Bool) : Condition :=
  { c with caseSensitive := minded }

/-! ## Comparing texts -/

theorem fold_ignoring_case (s : String) : fold false s = lower s := by
  rw [fold, if_neg Bool.false_ne_true]

theorem textEquals_ignoring_case {numeric : Bool} {s : String}
    (equal : textEquals true numeric expected s = true) :
    textEquals false numeric expected s = true := by
  unfold textEquals at equal ⊢
  cases numeric with
  | true => exact equal
  | false =>
    cases text : expected.text? with
    | none => simp [text] at equal
    | some e =>
      have same : s = e := by simpa [text, fold] using equal
      simp [same]

theorem isMember_ignoring_case {actual : Value} (member : isMember true actual expected = true) :
    isMember false actual expected = true := by
  unfold isMember at member ⊢
  cases listed : expected.list? with
  | none => simp [listed] at member
  | some items =>
    rw [listed] at member
    refine Value.anyText_mono (fun a here => ?_) member
    rw [List.any_eq_true] at here ⊢
    obtain ⟨i, isItem, same⟩ := here
    have equal : i = a := by simpa [fold] using same
    exact ⟨i, isItem, by simp [equal]⟩

theorem compare_contains (operator : c.operator = .contains) (minded : Bool) (s e : String) :
    (c.mindingCase minded).compare none (.text s) (.text e) =
      Text.contains (fold minded s) (fold minded e) := by
  unfold compare mindingCase
  rw [operator]
  rfl

/-- A relation of texts is never lost in lower case exactly if it is not for the expected text. -/
theorem textRelates_ignoring_case_iff {relation : String → String → Bool} :
    (∀ actual : Value, actual.isNull = false → textRelates true relation actual expected = true →
        textRelates false relation actual expected = true) ↔
      ∀ e, expected.text? = some e → ∀ s, relation s e = true →
        relation (lower s) (lower e) = true := by
  unfold textRelates
  cases text : expected.text? with
  | none => simp
  | some e =>
    simp only [Option.some.injEq, forall_eq']
    constructor
    · intro kept s related
      exact kept (.text s) rfl related
    · intro kept actual _ related
      exact Value.anyText_mono kept related

/-- Comparing by an operator that finds texts loses nothing when case is ignored exactly if the
    expected text is safe for the operator. -/
theorem compare_ignoring_case_iff (finds : c.operator.findsTexts = true) :
    (∀ actual : Value, actual.isNull = false →
        (c.mindingCase true).compare none actual expected = true →
        (c.mindingCase false).compare none actual expected = true) ↔
      ∀ e, expected.text? = some e → c.operator.isSafeInLowerCase e = true := by
  unfold compare mindingCase
  cases operator : c.operator with
  | equals =>
    simp only [Operator.isSafeInLowerCase, implies_true, iff_true]
    exact fun actual _ => Value.anyText_mono fun s => textEquals_ignoring_case
  | isIn =>
    simp only [Operator.isSafeInLowerCase, implies_true, iff_true]
    exact fun actual _ => isMember_ignoring_case
  | contains =>
    simp only [textRelates_ignoring_case_iff, Unicode.contains_lower_iff,
      Operator.isSafeInLowerCase, Bool.and_eq_true, Bool.not_eq_true']
  | startsWith =>
    simp only [textRelates_ignoring_case_iff, Unicode.startsWith_lower_iff,
      Operator.isSafeInLowerCase, Bool.not_eq_true']
  | endsWith =>
    simp only [textRelates_ignoring_case_iff, Unicode.endsWith_lower_iff,
      Operator.isSafeInLowerCase, Bool.not_eq_true']
  | _ => simp [operator, Operator.findsTexts] at finds

/-! ## Conditions -/

/-- A condition that finds texts matches, from any cache, if it has a value to look at and finds an
    expected value of the declared type in it. -/
theorem judge_iff_of_findsTexts (finds : c.operator.findsTexts = true) (plain : c.negate = false)
    (cache : PatternCache) (actual : Option Value) :
    (cache.judge c actual).1 = true ↔
      ∃ v expected, actual = some v ∧ v.isNull = false ∧
        c.value.coerce c.valueType = some expected ∧ c.compare none v expected = true := by
  have compares : c.operator.isExistence = false := by
    cases operator : c.operator <;> simp [operator, Operator.findsTexts] at finds <;> rfl
  have unneeded : c.neededPattern? actual = none := by
    unfold neededPattern?
    cases operator : c.operator <;> simp [operator, Operator.findsTexts] at finds <;> rfl
  rw [PatternCache.judge, unneeded]
  constructor
  · intro judged
    cases found : actual.any fun v => !v.isNull with
    | false =>
      have lost := holds_of_absent compares found
      rw [holds, unneeded] at lost
      exact absurd judged (Bool.eq_false_iff.mp lost)
    | true =>
      rw [Option.any_eq_true] at found
      obtain ⟨v, is, present⟩ := found
      rw [Bool.not_eq_true'] at present
      rw [is, judge_of_compares compares present, plain, Bool.bne_false,
        Option.any_eq_true] at judged
      obtain ⟨expected, typed, here⟩ := judged
      exact ⟨v, expected, is, present, typed, here⟩
  · rintro ⟨v, expected, rfl, present, typed, here⟩
    rw [judge_of_compares compares present, typed, Option.any_some, here, plain]
    rfl

/-- Ignoring case never loses a match of a condition that finds texts, whatever the value of its
    field, exactly if its expected text is safe for its operator: always where whole texts are
    compared, and where parts are, unless a capital sigma at an edge of the part can be at the end
    of a word or not there as the text goes on. -/
theorem matches_ignoring_case_iff (finds : c.operator.findsTexts = true)
    (plain : c.negate = false) :
    (∀ actual cache cache', (PatternCache.judge cache (c.mindingCase true) actual).1 = true →
        (PatternCache.judge cache' (c.mindingCase false) actual).1 = true) ↔
      ∀ expected e, c.value.coerce c.valueType = some expected → expected.text? = some e →
        c.operator.isSafeInLowerCase e = true := by
  simp only [judge_iff_of_findsTexts (c := c.mindingCase true) finds plain,
    judge_iff_of_findsTexts (c := c.mindingCase false) finds plain]
  constructor
  · intro kept expected e typed text
    refine (compare_ignoring_case_iff finds).mp ?_ e text
    intro actual present here
    obtain ⟨v, expected', is, -, typed', there⟩ :=
      kept (some actual) .empty .empty ⟨actual, expected, rfl, present, typed, here⟩
    obtain rfl : actual = v := Option.some.inj is
    obtain rfl : expected = expected' := Option.some.inj (typed.symm.trans typed')
    exact there
  · rintro safe actual cache cache' ⟨v, expected, is, present, typed, here⟩
    have kept := (compare_ignoring_case_iff finds).mpr fun e => safe expected e typed
    exact ⟨v, expected, is, present, typed, kept v present here⟩

/-- The suffix of a path is found in lower case wherever it is found as it is written. -/
theorem matches_ignoring_case_iff_extension :
    let c : Condition := { field := "path", operator := .endsWith, value := .text ".PHP" }
    c.operator.findsTexts = true ∧ c.negate = false ∧
      ∀ actual cache cache', (PatternCache.judge cache (c.mindingCase true) actual).1 = true →
        (PatternCache.judge cache' (c.mindingCase false) actual).1 = true := by
  refine ⟨rfl, rfl, (matches_ignoring_case_iff rfl rfl).mpr ?_⟩
  intro expected e typed text
  obtain rfl : Value.text ".PHP" = expected := Option.some.inj typed
  obtain rfl : ".PHP" = e := Option.some.inj text
  exact Operator.isSafeInLowerCase_of_not_mem (by decide) _

/-- The Greek capitals `ΑΣ` are found in `ΑΣΑ` but no longer when case is ignored: in lower case the
    one ends with the final form of sigma and the other has the other form there. -/
theorem sigma_lost_ignoring_case :
    let c : Condition := { field := "path", operator := .contains, value := .text "\u0391\u03a3" }
    let actual := some (.text "\u0391\u03a3\u0391")
    (PatternCache.judge .empty (c.mindingCase true) actual).1 = true ∧
      (PatternCache.judge .empty (c.mindingCase false) actual).1 = false := by
  have part : "\u0391\u03a3".toList = [Unicode.capitalAlpha] ++ [Unicode.capitalSigma] := rfl
  have whole : "\u0391\u03a3\u0391".toList =
      [Unicode.capitalAlpha] ++ [Unicode.capitalSigma] ++ [Unicode.capitalAlpha] := rfl
  have ends : endsFinal ([Unicode.capitalAlpha] ++ [Unicode.capitalSigma]) = true := by
    rw [Unicode.endsFinal_append_sigma rfl]
    exact Unicode.meetsCased_capitalAlpha
  refine ⟨by decide +kernel, Bool.eq_false_iff.mpr fun matched => ?_⟩
  obtain ⟨v, expected, is, -, typed, found⟩ := (judge_iff_of_findsTexts rfl rfl _ _).mp matched
  obtain rfl : _ = v := Option.some.inj is
  obtain rfl : Value.text "\u0391\u03a3" = expected := Option.some.inj typed
  rw [compare_contains rfl, fold_ignoring_case, fold_ignoring_case, Text.contains_iff,
    Unicode.lower_toList, Unicode.lower_toList, part, whole] at found
  exact Unicode.not_infix_of_endsFinal ends found

end Condition

end Verdict
