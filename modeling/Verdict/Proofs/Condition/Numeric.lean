import Verdict.Proofs.Condition.Opposites
import Verdict.Proofs.Condition.Typed
import Verdict.Proofs.Number.Plain
import Verdict.Proofs.Unicode.Lower

/-!
# Conditions on numbers

Where a number is declared, equality reads the text of the value of the field, and the orderings
take its number.  Both come to a comparison with the number that is found in the value
(`judge_of_relation`), since the text of a number is read as a number of the same rank.  So the
operators are those of one order (`numeric_operators_order`), and where no number is declared two
numbers are equal as texts exactly if they are the same (`fold_numberText_beq`).
-/

namespace Verdict

open Number (Shows isFinite rank? same less atMost)

/-- The relation to the expected number that an operator asks for. -/
def Operator.relation? : Operator → Option (Float → Float → Bool)
  | .equals => some same
  | .lessThan => some less
  | .lessEqual => some atMost
  | .greaterThan => some fun a e => less e a
  | .greaterEqual => some fun a e => atMost e a
  | _ => none

/-- The values that a number may be found in. -/
def Value.mayBeNumber : Value → Bool
  | .number _ | .text _ => true
  | _ => false

theorem Value.anyText_text (s : String) (test : String → Bool) : (text s).anyText test = test s :=
  rfl

theorem Value.anyText_number (x : Float) (test : String → Bool) :
    (number x).anyText test = test (numberText x) :=
  rfl

namespace Condition

variable {c : Condition} {v : Value} {s : String} {x e : Float}

/-! ## Texts of numbers -/

/-- Case makes no difference to a text in full decimal notation. -/
theorem fold_of_shows (shows : Shows s x) (caseSensitive : Bool) : fold caseSensitive s = s := by
  unfold fold
  split
  · rfl
  · refine Unicode.lower_of_below fun c member => ?_
    have range := Number.toNat_of_isPlainChar (shows.chars c member)
    omega

theorem not_plain_of_endless : ∀ s ∈ Value.endlessTexts, ∀ caseSensitive,
    (fold caseSensitive s).toList.all Number.isPlainChar = false := by
  decide +kernel

/-- Numbers have the same text, whether case is minded or not, if they are the same. -/
theorem fold_numberText_beq (finite : isFinite e = true) (caseSensitive : Bool) :
    (fold caseSensitive (Value.numberText x) == fold caseSensitive (Value.numberText e)) =
      same x e := by
  obtain ⟨z, shows', ranks'⟩ := Value.exists_shows_numberText finite
  rw [Bool.eq_iff_iff, beq_iff_eq, Number.same_iff finite]
  constructor
  · intro texts
    rw [fold_of_shows shows'] at texts
    cases finite' : isFinite x with
    | true =>
      obtain ⟨y, shows, ranks⟩ := Value.exists_shows_numberText finite'
      rw [fold_of_shows shows] at texts
      have read := shows.read
      rw [texts, shows'.read, Option.some.injEq] at read
      rw [← ranks, ← ranks', read]
    | false =>
      -- the text of a number that is not finite is a word
      have letters := not_plain_of_endless _ (Value.numberText_of_not_finite finite') caseSensitive
      rw [texts, List.all_eq_true.mpr shows'.chars] at letters
      cases letters
  · intro ranks
    rw [Value.numberText_of_rank finite ranks]

/-! ## Comparing with a number -/

/-- Only a finite number is the same as a finite number. -/
theorem any_same_filter (finite : isFinite e = true) (read : Option Float) :
    (read.filter isFinite).any (same · e) = read.any (same · e) := by
  cases read with
  | none => rfl
  | some a =>
    cases finite' : isFinite a with
    | true => rw [Option.filter_some, if_pos finite']
    | false =>
      rw [Option.filter_some, if_neg (by simp [finite'])]
      refine (Bool.eq_false_iff.mpr fun equal => ?_).symm
      have ranks := (Number.same_iff finite).mp equal
      rw [Number.isFinite_of_rank_eq finite ranks] at finite'
      cases finite'

/-- Texts are equal to a number if the number read of them is the same. -/
theorem textEquals_numeric (finite : isFinite e = true) (caseSensitive : Bool) :
    textEquals caseSensitive true (.number e) s = (Value.readNumber? s).any (same · e) := by
  rw [textEquals, if_pos rfl, Value.number?_number finite, Value.readNumber?,
    any_same_filter finite]
  cases Number.readFloat? (Text.trim s) <;> rfl

theorem any_same_of_ranks {a b : Option Float} (ranks : a.map rank? = b.map rank?) :
    a.any (same · e) = b.any (same · e) := by
  cases a with
  | none =>
    cases b with
    | none => rfl
    | some b => cases ranks
  | some a =>
    cases b with
    | none => cases ranks
    | some b => exact Number.same_congr (Option.some.inj ranks)

/-- A value that a number may be found in is equal to a number if that number is the same. -/
theorem anyText_textEquals (scalar : v.mayBeNumber = true) (finite : isFinite e = true)
    (caseSensitive : Bool) :
    v.anyText (textEquals caseSensitive true (.number e)) = v.number?.any (same · e) := by
  cases v with
  | text s =>
    rw [Value.anyText_text, textEquals_numeric finite]
    rfl
  | number x =>
    rw [Value.anyText_number, textEquals_numeric finite]
    exact any_same_of_ranks (Value.readNumber?_numberText x)
  | null | bool _ | list _ => cases scalar

theorem numberRelates_number (finite : isFinite e = true) (relation : Float → Float → Bool) :
    numberRelates relation v (.number e) = v.number?.any fun a => relation a e := by
  rw [numberRelates, Value.number?_number finite]
  cases v.number? <;> rfl

/-- Operators that compare numbers come to a relation to the number found in the value. -/
theorem compare_of_relation {relation : Float → Float → Bool}
    (asks : c.operator.relation? = some relation) (numeric : c.valueType = .number)
    (scalar : v.mayBeNumber = true) (finite : isFinite e = true) (pattern : Option Pattern.Expr) :
    c.compare pattern v (.number e) = v.number?.any fun a => relation a e := by
  have declared : (c.valueType == .number) = true := by rw [numeric]; rfl
  unfold compare
  cases operator : c.operator with
  | equals =>
    rw [operator] at asks
    obtain rfl : same = relation := Option.some.inj asks
    show v.anyText (textEquals c.caseSensitive (c.valueType == .number) (.number e)) = _
    rw [declared]
    exact anyText_textEquals scalar finite _
  | lessThan | lessEqual | greaterThan | greaterEqual =>
    rw [operator] at asks
    rw [← Option.some.inj asks]
    exact numberRelates_number finite _
  | _ => simp [operator, Operator.relation?] at asks

/-! ## Judging -/

section

variable (cache : PatternCache)

theorem judge_typed_number (compares : c.operator.isExistence = false)
    (numeric : c.valueType = .number) (plain : c.negate = false)
    (expected : c.value.number? = some e) (scalar : v.mayBeNumber = true) :
    (cache.judge c (some v)).1 = c.compare (cache.patternFor c (some v)) v (.number e) := by
  have present : v.isNull = false := by cases v <;> first | rfl | cases scalar
  have typed : c.value.coerce c.valueType = some (.number e) := by
    rw [numeric]
    exact congrArg (Option.map Value.number) expected
  rw [judge_of_coerce cache typed compares present, plain, Bool.bne_false]

/-- A condition with a declared number matches if the number found in the value stands in the
    relation to it. -/
theorem judge_of_relation {relation : Float → Float → Bool}
    (asks : c.operator.relation? = some relation) (numeric : c.valueType = .number)
    (plain : c.negate = false) (expected : c.value.number? = some e)
    (scalar : v.mayBeNumber = true) :
    (cache.judge c (some v)).1 = v.number?.any fun a => relation a e := by
  have compares : c.operator.isExistence = false := by
    cases operator : c.operator <;> simp [operator, Operator.relation?] at asks <;> rfl
  rw [judge_typed_number cache compares numeric plain expected scalar]
  exact compare_of_relation asks numeric scalar (Value.isFinite_of_number? expected) _

/-- Without a declared type two numbers are compared as texts, and are equal if they are the same. -/
theorem judge_equals_auto (operator : c.operator = .equals) (auto : c.valueType = .auto)
    (plain : c.negate = false) (expected : c.value = .number e) (finite : isFinite e = true) :
    (cache.judge c (some (.number x))).1 = same x e := by
  have compares : c.operator.isExistence = false := by rw [operator]; rfl
  rw [judge_auto cache auto compares rfl, plain, Bool.bne_false, expected]
  unfold compare
  rw [operator, auto]
  exact fold_numberText_beq finite c.caseSensitive

end

/-- Whether what operators find is what they would of two numbers of one order. -/
structure Ordered (found : Operator → Bool) : Prop where
  exactly_one : [found .lessThan, found .equals, found .greaterThan].count true = 1
  lessEqual : found .lessEqual = (found .lessThan || found .equals)
  greaterEqual : found .greaterEqual = (found .greaterThan || found .equals)
  notEquals : found .notEquals = !found .equals

theorem ordered_of_relations {found : Operator → Bool} (finite : isFinite x = true)
    (finite' : isFinite e = true)
    (relates : ∀ op relation, op.relation? = some relation → found op = relation x e)
    (opposite : found .notEquals = !found .equals) : Ordered found := by
  obtain ⟨a, rank⟩ := Number.exists_rank_of_isFinite finite
  obtain ⟨b, rank'⟩ := Number.exists_rank_of_isFinite finite'
  have lessThan := relates .lessThan _ rfl
  have equals := relates .equals _ rfl
  have greaterThan := relates .greaterThan _ rfl
  have same_comm : same e x = same x e := by
    simp only [same, Number.compareRanks, rank, rank', eq_comm]
  refine ⟨?_, ?_, ?_, opposite⟩
  · rw [lessThan, equals, greaterThan]
    simp only [less, same, Number.compareRanks, rank, rank']
    rcases Int.lt_trichotomy a b with below | rfl | above
    · simp [below, below.ne, below.not_gt]
    · simp
    · simp [above, above.ne', above.not_gt]
  · rw [relates .lessEqual _ rfl, lessThan, equals]
    exact Number.atMost_eq x e
  · rw [relates .greaterEqual _ rfl, greaterThan, equals, ← same_comm]
    exact Number.atMost_eq e x

/-- On a number or a text, the operators of a condition with a declared number are those of one order
    if a number is found there; if none is, equality and the orderings match nothing.  On a number,
    equality comes to the same without the declared type. -/
theorem numeric_operators_order {c : Condition} {v : Value} {e : Float}
    (numeric : c.valueType = .number) (plain : c.negate = false)
    (expected : c.value.number? = some e) (scalar : v.mayBeNumber = true)
    (caches : Operator → PatternCache) :
    let found op := ((caches op).judge (c.asking op) (some v)).1
    (v.number?.isSome = true → Ordered found) ∧
      (v.number? = none → ∀ op : Operator, op = .equals ∨ op.isOrdering = true →
        found op = false) ∧
      ∀ x y, v = .number x → c.value = .number y → ∀ cache : PatternCache,
        (cache.judge ((c.asking .equals).declaring .auto) (some v)).1 = found .equals := by
  intro found
  have relates (op : Operator) (relation) (asks : op.relation? = some relation) :
      found op = v.number?.any fun a => relation a e :=
    judge_of_relation (c := c.asking op) (caches op) asks numeric plain expected scalar
  have opposite : found .notEquals = !found .equals := by
    have turned := judge_typed_number (c := c.asking .notEquals) (caches .notEquals) rfl numeric
      plain expected scalar
    have straight := judge_typed_number (c := c.asking .equals) (caches .equals) rfl numeric
      plain expected scalar
    exact turned.trans ((compare_asking_of_opposes .equals rfl).trans (congrArg not straight.symm))
  refine ⟨fun readable => ?_, fun unreadable op member => ?_, ?_⟩
  · obtain ⟨a, number⟩ := Option.isSome_iff_exists.mp readable
    refine ordered_of_relations (Value.isFinite_of_number? number)
      (Value.isFinite_of_number? expected) (fun op relation asks => ?_) opposite
    rw [relates op relation asks, number, Option.any_some]
  · have asks : op.relation?.isSome = true := by cases op <;> revert member <;> decide
    obtain ⟨relation, asks⟩ := Option.isSome_iff_exists.mp asks
    rw [relates op relation asks, unreadable, Option.any_none]
  · rintro x y rfl value cache
    have finite : isFinite e = true := Value.isFinite_of_number? expected
    have itself : c.value = .number e := by
      rw [value] at expected ⊢
      exact congrArg Value.number (Option.some.inj (Option.ite_none_right_eq_some.mp expected).2)
    have texts := judge_equals_auto (c := (c.asking .equals).declaring .auto) (x := x) cache rfl rfl
      plain itself finite
    have number : (Value.number x).number? = (some x).filter isFinite := Option.filter_some.symm
    rw [texts, relates .equals same rfl, number, any_same_filter finite, Option.any_some]

/-- The two zeros are one number and have one text. -/
theorem numeric_operators_order_zeros :
    let c : Condition :=
      { field := "device_score", operator := .equals, value := .number 0, valueType := .number }
    let v := Value.number (-0.0)
    let found op := (PatternCache.empty.judge (c.asking op) (some v)).1
    c.valueType = .number ∧ c.negate = false ∧ c.value.number? = some 0 ∧ v.mayBeNumber = true ∧
      Ordered found ∧ found .equals = true ∧
      (PatternCache.empty.judge ((c.asking .equals).declaring .auto) (some v)).1 = true := by
  intro c v found
  have expected : c.value.number? = some 0 := Value.number?_number (by decide +kernel)
  have readable : v.number?.isSome = true := by decide +kernel
  have equal : found .equals = true := by decide +kernel
  obtain ⟨order, -, texts⟩ :=
    numeric_operators_order (c := c) (v := v) rfl rfl expected rfl fun _ => .empty
  exact ⟨rfl, rfl, expected, rfl, order readable, equal,
    (texts (-0.0) 0 rfl rfl .empty).trans equal⟩

end Condition

end Verdict
