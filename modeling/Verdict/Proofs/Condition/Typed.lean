import Verdict.Proofs.Condition.Malformed

/-!
# Declared types

An operator reads its expected value as a text, as a list or as a number, and a value that was read
so once is read so again (`coerce_coerce`, `text?_of_coerce`, `list?_of_coerce`,
`number?_of_coerce`).  So to declare the type that the operator asks for anyway changes nothing, not
even which pattern is looked up (`judge_declaring_ownType`).
-/

namespace Verdict

/-- The type that an operator reads its expected value as. -/
def Operator.ownType : Operator → ValueType
  | .equals | .notEquals | .contains | .notContains | .startsWith | .endsWith | .regex => .string
  | .isIn | .notIn | .ipInRange => .list
  | .greaterThan | .lessThan | .greaterEqual | .lessEqual => .number
  | .present | .absent => .auto

namespace Value

variable {v w : Value}

theorem isFinite_of_number? {x : Float} (number : v.number? = some x) :
    Number.isFinite x = true := by
  cases v with
  | number y =>
    obtain ⟨finite, same⟩ := Option.ite_none_right_eq_some.mp number
    rwa [← Option.some.inj same]
  | text s =>
    have read : (Number.readFloat? (Text.trim s)).filter Number.isFinite = some x := number
    exact (Option.filter_eq_some_iff.mp read).2
  | _ => cases number

theorem number?_number {x : Float} (finite : Number.isFinite x = true) :
    (Value.number x).number? = some x :=
  if_pos finite

/-- What was read as a type is of that type. -/
theorem coerce_of_coerce {t : ValueType} (typed : v.coerce t = some w) : w.coerce t = some w := by
  cases t with
  | auto => rfl
  | string =>
    obtain ⟨s, -, rfl⟩ := Option.map_eq_some_iff.mp typed
    rfl
  | number =>
    obtain ⟨x, number, rfl⟩ := Option.map_eq_some_iff.mp typed
    exact congrArg (Option.map Value.number) (number?_number (isFinite_of_number? number))
  | boolean =>
    cases v with
    | bool b => cases typed; rfl
    | number x => obtain rfl := Option.some.inj typed; rfl
    | text s =>
      have read : (readBool? s).map .bool = some w := typed
      obtain ⟨b, -, rfl⟩ := Option.map_eq_some_iff.mp read
      rfl
    | null | list _ => cases typed
  | list =>
    obtain ⟨items, -, rfl⟩ := Option.map_eq_some_iff.mp typed
    rfl

theorem coerce_coerce (v : Value) (t : ValueType) :
    (v.coerce t).bind (fun w => w.coerce t) = v.coerce t := by
  cases typed : v.coerce t with
  | none => rfl
  | some w => exact coerce_of_coerce typed

/-- The text of a value is its own text. -/
theorem text?_of_coerce (typed : v.coerce .string = some w) : w.text? = v.text? := by
  obtain ⟨s, text, rfl⟩ := Option.map_eq_some_iff.mp typed
  exact text.symm

/-- The list of a value is its own list. -/
theorem list?_of_coerce (typed : v.coerce .list = some w) : w.list? = v.list? := by
  obtain ⟨items, list, rfl⟩ := Option.map_eq_some_iff.mp typed
  exact list.symm

/-- The number of a value is its own number. -/
theorem number?_of_coerce (typed : v.coerce .number = some w) : w.number? = v.number? := by
  obtain ⟨x, number, rfl⟩ := Option.map_eq_some_iff.mp typed
  rw [number, number?_number (isFinite_of_number? number)]

/-- Whatever is not null has a text and a list. -/
theorem exists_coerce_string (nonnull : v.isNull = false) : ∃ w, v.coerce .string = some w := by
  cases v with
  | null => cases nonnull
  | _ => exact ⟨_, rfl⟩

theorem exists_coerce_list (nonnull : v.isNull = false) : ∃ w, v.coerce .list = some w := by
  cases v with
  | null => cases nonnull
  | _ => exact ⟨_, rfl⟩

end Value

namespace Condition

variable {c : Condition}

/-- The condition with another declared type. -/
def declaring (c : Condition) (t : ValueType) : Condition :=
  { c with valueType := t }

/-! ## What operators see of the expected value -/

section

variable {pattern : Option Pattern.Expr} {v e e' : Value}

theorem textEquals_of_text (same : e.text? = e'.text?) (caseSensitive : Bool) :
    textEquals caseSensitive false e = textEquals caseSensitive false e' := by
  funext s
  simp only [textEquals, Bool.false_eq_true, if_false, same]

/-- Operators on texts see its text, unless a number is declared. -/
theorem compare_of_text (own : c.operator.ownType = .string) (same : e.text? = e'.text?) :
    (c.declaring .string).compare pattern v e = (c.declaring .auto).compare pattern v e' := by
  have equals := textEquals_of_text same c.caseSensitive
  unfold compare declaring
  cases operator : c.operator with
  | equals => exact congrArg v.anyText equals
  | notEquals => exact congrArg (fun test => !v.anyText test) equals
  | contains | notContains | startsWith | endsWith => simp only [textRelates, same]
  | regex => rfl
  | _ => simp [operator, Operator.ownType] at own

/-- Operators on lists see its list. -/
theorem compare_of_list (own : c.operator.ownType = .list) (same : e.list? = e'.list?) :
    (c.declaring .list).compare pattern v e = (c.declaring .auto).compare pattern v e' := by
  unfold compare declaring
  cases operator : c.operator with
  | isIn | notIn => simp only [isMember, same]
  | ipInRange => simp only [same]
  | _ => simp [operator, Operator.ownType] at own

/-- Operators on numbers see its number. -/
theorem compare_of_number (own : c.operator.ownType = .number) (same : e.number? = e'.number?) :
    (c.declaring .number).compare pattern v e = (c.declaring .auto).compare pattern v e' := by
  unfold compare declaring
  cases operator : c.operator with
  | greaterThan | lessThan | greaterEqual | lessEqual => simp only [numberRelates, same]
  | _ => simp [operator, Operator.ownType] at own

/-- Declaring the type that the operator asks for does not change what the comparison comes to. -/
theorem any_compare_declaring (nonnull : c.value.isNull = false) :
    (c.value.coerce c.operator.ownType).any
        ((c.declaring c.operator.ownType).compare pattern v) =
      (c.declaring .auto).compare pattern v c.value := by
  cases own : c.operator.ownType with
  | string =>
    obtain ⟨w, typed⟩ := Value.exists_coerce_string nonnull
    rw [typed, Option.any_some]
    exact compare_of_text own (Value.text?_of_coerce typed)
  | list =>
    obtain ⟨w, typed⟩ := Value.exists_coerce_list nonnull
    rw [typed, Option.any_some]
    exact compare_of_list own (Value.list?_of_coerce typed)
  | number =>
    cases typed : c.value.coerce .number with
    | none =>
      have ordering : (c.declaring .auto).operator.isOrdering = true := by
        show c.operator.isOrdering = true
        cases operator : c.operator <;> simp [operator, Operator.ownType] at own <;> rfl
      have noNumber : c.value.number? = none := Option.map_eq_none_iff.mp typed
      rw [Option.any_none, compare_of_noNumber ordering (.inr noNumber)]
    | some w =>
      rw [Option.any_some]
      exact compare_of_number own (Value.number?_of_coerce typed)
  | auto => rfl
  | boolean => cases operator : c.operator <;> simp [operator, Operator.ownType] at own

end

/-! ## Judging -/

/-- Nor does it change which pattern is looked up. -/
theorem neededPattern?_declaring (nonnull : c.value.isNull = false) (actual : Option Value) :
    (c.declaring c.operator.ownType).neededPattern? actual =
      (c.declaring .auto).neededPattern? actual := by
  unfold neededPattern? declaring
  cases operator : c.operator with
  | regex =>
    obtain ⟨w, typed⟩ := Value.exists_coerce_string nonnull
    have same : (c.value.coerce .string).bind Value.text? =
        (c.value.coerce .auto).bind Value.text? := by
      rw [typed, Option.bind_some, Value.text?_of_coerce typed]
      rfl
    simp only [Operator.ownType, same]
  | _ => rfl

theorem judge_declaring (nonnull : c.value.isNull = false) (pattern : Option Pattern.Expr)
    (actual : Option Value) :
    (c.declaring c.operator.ownType).judge pattern actual =
      (c.declaring .auto).judge pattern actual := by
  cases compares : c.operator.isExistence with
  | true => cases operator : c.operator <;> simp [operator, Operator.isExistence] at compares <;> rfl
  | false =>
    have own : (c.declaring c.operator.ownType).operator.isExistence = false := compares
    have auto : (c.declaring .auto).operator.isExistence = false := compares
    cases found : actual.any fun v => !v.isNull with
    | false => rw [judge_of_absent own found, judge_of_absent auto found]
    | true =>
      obtain ⟨v, rfl, isPresent⟩ := (Option.any_eq_true ..).mp found
      have present : v.isNull = false := Bool.not_eq_true' _ ▸ isPresent
      rw [judge_of_compares own present, judge_of_compares auto present]
      exact congrArg (· != c.negate) (any_compare_declaring nonnull)

end Condition

/-- Declaring the type that an operator reads its expected value as changes neither the answer of a
    cache nor the cache, for any value of the field; and a value read as a type is of that type. -/
theorem judge_declaring_ownType {c : Condition} (nonnull : c.value.isNull = false) :
    (∀ (cache : PatternCache) (actual : Option Value),
      cache.judge (c.declaring c.operator.ownType) actual =
        cache.judge (c.declaring .auto) actual) ∧
      ∀ (v : Value) (t : ValueType), (v.coerce t).bind (fun w => w.coerce t) = v.coerce t := by
  refine ⟨fun cache actual => ?_, Value.coerce_coerce⟩
  unfold PatternCache.judge
  rw [Condition.neededPattern?_declaring nonnull]
  simp only [Condition.judge_declaring nonnull]
  rfl

theorem judge_declaring_ownType_joined_list :
    let c : Condition := { field := "roles", operator := .regex, value := .list ["^a", "b$"] }
    let actual := some (.list ["x", "a,b"])
    c.value.isNull = false ∧ (PatternCache.empty.judge (c.declaring .string) actual).1 = true ∧
      PatternCache.empty.judge (c.declaring .string) actual =
        PatternCache.empty.judge (c.declaring .auto) actual := by
  intro c actual
  exact ⟨rfl, by decide +kernel, (judge_declaring_ownType (c := c) rfl).1 .empty actual⟩

end Verdict
