import Verdict.Proofs.Condition.Malformed

/-!
# Opposite operators and negation

Three operators have an opposite, which is compared by code of its own; negation comes after every
comparison.  On a value that is present an operator matches exactly where its opposite does not
(`compare_asking_of_opposes`), and on a list it looks for one item (`compare_list`).  Absence comes
before negation, except to the two operators that ask about presence, each of which is the other one
negated.
-/

namespace Verdict

/-- Whether the first of two operators matches where the second does not. -/
inductive Operator.Opposes : Operator → Operator → Prop
  | equals : Opposes .notEquals .equals
  | contains : Opposes .notContains .contains
  | isIn : Opposes .notIn .isIn

/-- The operators that match a list if they match one of its items. -/
def Operator.seeksItem : Operator → Bool
  | .equals | .contains | .startsWith | .endsWith | .isIn | .regex | .ipInRange => true
  | _ => false

theorem Operator.Opposes.seeksItem {negative positive : Operator}
    (opposes : Opposes negative positive) : positive.seeksItem = true := by
  cases opposes <;> rfl

namespace Condition

variable {c : Condition} {pattern : Option Pattern.Expr} {v expected : Value}

/-- The condition with another operator. -/
def asking (c : Condition) (op : Operator) : Condition :=
  { c with operator := op }

/-- The condition negated or not. -/
def negating (c : Condition) (negate : Bool) : Condition :=
  { c with negate := negate }

/-! ## Comparing -/

/-- An operator comes to the contrary of its opposite where there is something to compare with. -/
theorem compare_asking_of_opposes {negative positive : Operator}
    (opposes : negative.Opposes positive) (nonnull : expected.isNull = false) :
    (c.asking negative).compare pattern v expected =
      !(c.asking positive).compare pattern v expected := by
  cases opposes with
  | equals => rfl
  | contains => rfl
  | isIn =>
    have listed : expected.list?.isSome = true := by
      cases expected with
      | null => cases nonnull
      | _ => rfl
    show (expected.list?.isSome && !isMember c.caseSensitive v expected) = _
    rw [listed, Bool.true_and]
    rfl

/-- On a list, an operator that seeks an item comes to whether it finds one. -/
theorem compare_list (seeks : c.operator.seeksItem = true) (items : List String) :
    c.compare pattern (.list items) expected =
      items.any fun i => c.compare pattern (.text i) expected := by
  have never : ∀ items : List String, false = items.any fun _ => false :=
    fun items => (List.any_eq_false.mpr fun _ _ => Bool.false_ne_true).symm
  unfold compare
  cases operator : c.operator with
  | equals => rfl
  | contains | startsWith | endsWith =>
    simp only [textRelates]
    cases expected.text? with
    | none => exact never items
    | some e => rfl
  | isIn =>
    simp only [isMember]
    cases expected.list? with
    | none => exact never items
    | some members => rfl
  | regex =>
    cases pattern with
    | none => exact never items
    | some e => rfl
  | ipInRange => rfl
  | _ => simp [operator, Operator.seeksItem] at seeks

/-! ## Judging -/

/-- Negation turns round what is found of a value that is present, and of any value where presence
    is all that is asked about. -/
theorem judge_negating {actual : Option Value}
    (found : c.operator.isExistence = true ∨ ∃ v, actual = some v ∧ v.isNull = false)
    (negate : Bool) :
    (c.negating negate).judge pattern actual =
      ((c.negating false).judge pattern actual != negate) := by
  cases compares : c.operator.isExistence with
  | true =>
    unfold judge negating
    cases operator : c.operator with
    | present => simp only [Bool.bne_false]
    | absent =>
      simp only [Bool.bne_false]
      exact (Bool.not_bne ..).symm
    | _ => simp [operator, Operator.isExistence] at compares
  | false =>
    rcases found with existence | ⟨v, rfl, present⟩
    · rw [existence] at compares
      cases compares
    · have negated : (c.negating negate).operator.isExistence = false := compares
      have plain : (c.negating false).operator.isExistence = false := compares
      rw [judge_of_compares negated present, judge_of_compares plain present]
      show _ = ((_ != false) != negate)
      rw [Bool.bne_false]
      rfl

section

variable (cache : PatternCache)

/-- A value that is present is compared with what the expected value is read as. -/
theorem judge_of_coerce (typed : c.value.coerce c.valueType = some expected)
    (compares : c.operator.isExistence = false) (present : v.isNull = false) :
    (cache.judge c (some v)).1 =
      (c.compare (cache.patternFor c (some v)) v expected != c.negate) := by
  rw [cache.judge_fst, judge_of_compares compares present, typed, Option.any_some]

/-- Without a declared type the expected value is compared with as it is. -/
theorem judge_auto (auto : c.valueType = .auto) (compares : c.operator.isExistence = false)
    (present : v.isNull = false) :
    (cache.judge c (some v)).1 =
      (c.compare (cache.patternFor c (some v)) v c.value != c.negate) :=
  judge_of_coerce cache (by rw [auto]; rfl) compares present

/-- An operator that seeks an item, if it is not negated, matches a list if it matches an item. -/
theorem judge_list_iff (auto : c.valueType = .auto) (plain : c.negate = false)
    (seeks : c.operator.seeksItem = true) (items : List String) :
    (cache.judge c (some (.list items))).1 = true ↔
      ∃ i ∈ items, (cache.judge c (some (.text i))).1 = true := by
  have compares : c.operator.isExistence = false := by
    cases operator : c.operator <;> simp [operator, Operator.seeksItem] at seeks <;> rfl
  have item (i : String) : (cache.judge c (some (.text i))).1 =
      c.compare (cache.patternFor c (some (.list items))) (.text i) c.value := by
    rw [judge_auto cache auto compares (v := .text i) rfl, plain, Bool.bne_false,
      cache.patternFor_of_present c (v := .list items) (w := .text i) rfl rfl]
  rw [judge_auto cache auto compares rfl, plain, Bool.bne_false, compare_list seeks,
    List.any_eq_true]
  simp only [item]

/-- An operator and its opposite, each from a cache of its own. -/
theorem judge_of_opposes (auto : c.valueType = .auto) (nonnull : c.value.isNull = false)
    {negative positive : Operator} (opposes : negative.Opposes positive) (present : v.isNull = false)
    (cache' : PatternCache) :
    (cache.judge (c.asking negative) (some v)).1 =
      !(cache'.judge (c.asking positive) (some v)).1 := by
  have compares : (c.asking negative).operator.isExistence = false := by cases opposes <;> rfl
  have compares' : (c.asking positive).operator.isExistence = false := by cases opposes <;> rfl
  have none : cache.patternFor (c.asking negative) (some v) = none := by cases opposes <;> rfl
  have none' : cache'.patternFor (c.asking positive) (some v) = .none := by cases opposes <;> rfl
  rw [judge_auto (c := c.asking negative) cache auto compares present,
    judge_auto (c := c.asking positive) cache' auto compares' present, none, none']
  show ((c.asking negative).compare .none v c.value != c.negate) =
    !((c.asking positive).compare .none v c.value != c.negate)
  rw [compare_asking_of_opposes opposes nonnull, Bool.not_bne]

/-- What is found of a condition and of its negation from one cache. -/
theorem judge_negated {actual : Option Value}
    (found : c.operator.isExistence = true ∨ ∃ v, actual = some v ∧ v.isNull = false) :
    (cache.judge (c.negating true) actual).1 = !(cache.judge (c.negating false) actual).1 := by
  rw [cache.judge_fst, cache.judge_fst, judge_negating found]
  exact Bool.bne_true _

end

/-- How the operators of a condition without a declared type stand to each other on values that are
    present, from any cache. -/
structure Complements (c : Condition) : Prop where
  /-- An operator matches a value exactly where its opposite does not. -/
  opposite : ∀ {negative positive : Operator}, negative.Opposes positive → ∀ v : Value,
    v.isNull = false → ∀ cache cache' : PatternCache,
      (cache.judge (c.asking negative) (some v)).1 =
        !(cache'.judge (c.asking positive) (some v)).1
  /-- Negation turns every operator round. -/
  negated : ∀ op v, v.isNull = false → ∀ cache : PatternCache,
    (cache.judge ((c.asking op).negating true) (some v)).1 =
      !(cache.judge ((c.asking op).negating false) (some v)).1
  /-- So it does where the two are judged from different caches that keep patterns as they
      compile. -/
  negated_apart : ∀ op v, v.isNull = false → (c.asking op).FlagAgrees (some v) →
    ∀ cache cache' : PatternCache, cache.Faithful → cache'.Faithful →
      (cache.judge ((c.asking op).negating true) (some v)).1 =
        !(cache'.judge ((c.asking op).negating false) (some v)).1
  /-- Operators that seek an item match a list if some item satisfies them. -/
  some_item : ∀ op : Operator, op.seeksItem = true → ∀ items (cache : PatternCache),
    (cache.judge ((c.asking op).negating false) (some (.list items))).1 = true ↔
      ∃ i ∈ items, (cache.judge ((c.asking op).negating false) (some (.text i))).1 = true
  /-- Their opposites match a list if no item satisfies them. -/
  no_item : ∀ {negative positive : Operator}, negative.Opposes positive →
    ∀ items (cache cache' : PatternCache),
      (cache.judge ((c.asking negative).negating false) (some (.list items))).1 = true ↔
        ¬ ∃ i ∈ items,
          (cache'.judge ((c.asking positive).negating false) (some (.text i))).1 = true

/-- How the operators of a condition treat absence. -/
structure AbsenceFirst (c : Condition) : Prop where
  /-- A value that is absent or null is no match, negated or not. -/
  absent : ∀ op : Operator, op.isExistence = false → ∀ negate actual,
    (actual.any fun v => !v.isNull) = false → ∀ cache : PatternCache,
      (cache.judge ((c.asking op).negating negate) actual).1 = false
  /-- The operators that ask about presence are each the other one negated, on all values. -/
  presence : ∀ negate actual (cache cache' : PatternCache),
    (cache.judge ((c.asking .present).negating negate) actual).1 =
      (cache'.judge ((c.asking .absent).negating (!negate)) actual).1
  /-- Negation turns those two round on all values. -/
  presence_negated : ∀ op : Operator, op.isExistence = true → ∀ actual (cache : PatternCache),
    (cache.judge ((c.asking op).negating true) actual).1 =
      !(cache.judge ((c.asking op).negating false) actual).1

theorem complements (auto : c.valueType = .auto) (nonnull : c.value.isNull = false) :
    c.Complements where
  opposite opposes v present cache cache' :=
    judge_of_opposes cache auto nonnull opposes present cache'
  negated op v present cache := judge_negated cache (.inr ⟨v, rfl, present⟩)
  negated_apart op v present flag cache cache' faithful faithful' := by
    have plain : ((c.asking op).negating false).FlagAgrees (some v) := flag
    have same : (cache.judge ((c.asking op).negating false) (some v)).1 =
        (cache'.judge ((c.asking op).negating false) (some v)).1 :=
      (faithful.judge plain).1.trans (faithful'.judge plain).1.symm
    rw [judge_negated cache (.inr ⟨v, rfl, present⟩), same]
  some_item op seeks items cache :=
    judge_list_iff (c := (c.asking op).negating false) cache auto rfl seeks items
  no_item {negative positive} opposes items cache cache' := by
    have turned : (cache.judge ((c.asking negative).negating false) (some (.list items))).1 =
        !(cache'.judge ((c.asking positive).negating false) (some (.list items))).1 :=
      judge_of_opposes (c := c.negating false) cache auto nonnull opposes rfl cache'
    rw [turned, Bool.not_eq_true', ← Bool.not_eq_true]
    exact not_congr (judge_list_iff (c := (c.asking positive).negating false) cache' auto rfl
      opposes.seeksItem items)

theorem absenceFirst (c : Condition) : c.AbsenceFirst where
  absent op compares negate actual absent cache := by
    rw [cache.judge_fst]
    exact judge_of_absent compares absent _
  presence negate actual cache cache' := by
    rw [cache.judge_fst, cache'.judge_fst]
    show ((actual.any fun v => !v.isNull) != negate) = !((actual.any fun v => !v.isNull) != !negate)
    rw [Bool.bne_not, Bool.not_not]
  presence_negated op asks actual cache := judge_negated cache (.inl asks)

/-- The operators of a condition without a declared type and with a value to compare with stand to
    each other as their names say, and those of any condition put absence before negation. -/
theorem operators_complement (c : Condition) :
    (c.valueType = .auto → c.value.isNull = false → c.Complements) ∧ c.AbsenceFirst :=
  ⟨complements, absenceFirst c⟩

/-- An administrator is found in a list of roles in any case, so a condition on all but administrators
    and staff does not match her.  Negated it does, but not a caller without roles. -/
theorem operators_complement_roles :
    let c : Condition :=
      { field := "roles", operator := .isIn, value := .text "admin, staff", caseSensitive := false }
    let actual := some (.list ["guest", "ADMIN"])
    c.valueType = .auto ∧ c.value.isNull = false ∧ c.Complements ∧
      (PatternCache.empty.judge (c.asking .isIn) actual).1 = true ∧
      (PatternCache.empty.judge (c.asking .notIn) actual).1 = false ∧
      (PatternCache.empty.judge ((c.asking .notIn).negating true) actual).1 = true ∧
      (PatternCache.empty.judge ((c.asking .notIn).negating true) none).1 = false := by
  intro c actual
  obtain ⟨complements, absence⟩ := operators_complement c
  have complements := complements rfl rfl
  have found : (PatternCache.empty.judge (c.asking .isIn) actual).1 = true := by decide +kernel
  have missed : (PatternCache.empty.judge (c.asking .notIn) actual).1 = false := by
    rw [complements.opposite .isIn _ rfl .empty .empty, found]
    rfl
  refine ⟨rfl, rfl, complements, found, missed, ?_, absence.absent .notIn rfl true none rfl .empty⟩
  rw [complements.negated .notIn _ rfl .empty]
  exact congrArg not missed

end Condition

end Verdict
