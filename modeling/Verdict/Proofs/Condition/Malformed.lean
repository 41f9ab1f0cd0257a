import Verdict.Proofs.Resolution.Alone

/-!
# Malformed conditions

A condition that is not about presence is malformed on a value when its expected value is not of the
declared type, its pattern does not compile, or one side of a comparison by size is no finite
number.  Comparing then comes to false; but the outcome is negated after that, so the condition
matches exactly when it is negated (`holds_of_malformed`).  A rule of malformed conditions none of
which is negated never matches, and decisions are made as if it were not there.  A negated one
fires on every request that has the field: `negated_malformed_denies`.
-/

namespace Verdict

namespace Condition

/-- Whether a condition cannot be judged on a value that is present. -/
inductive Malformed (c : Condition) (v : Value) : Prop
  /-- The expected value is not of the declared type. -/
  | untyped (none : c.value.coerce c.valueType = none)
  /-- There is no pattern, or it does not compile. -/
  | noPattern (operator : c.operator = .regex)
      (bad : ∀ pattern, (c.value.coerce c.valueType).bind Value.text? = some pattern →
        compile c.caseSensitive pattern = none)
  /-- One side is no finite number. -/
  | noNumber (operator : c.operator.isOrdering = true)
      (bad : v.number? = none ∨ (c.value.coerce c.valueType).bind Value.number? = none)

/-- Whether a condition cannot be judged for a request, if there is anything to judge it on. -/
structure MalformedFor (c : Condition) (ctx : Context) : Prop where
  compares : c.operator.isExistence = false
  malformed : ∀ v, ctx.resolve c.field = some v → v.isNull = false → c.Malformed v

variable {c : Condition} {v : Value}

/-- What is judged on a value that is present is the comparison, negated where that is asked for. -/
theorem judge_of_compares (compares : c.operator.isExistence = false) (present : v.isNull = false)
    (pattern : Option Pattern.Expr) :
    c.judge pattern (some v) =
      ((c.value.coerce c.valueType).any (c.compare pattern v) != c.negate) := by
  unfold judge
  simp only [present]
  cases operator : c.operator with
  | present | absent => simp [operator, Operator.isExistence] at compares
  | _ => cases c.value.coerce c.valueType <;> rfl

/-- An absent value, or a null one, is no match. -/
theorem judge_of_absent (compares : c.operator.isExistence = false) {actual : Option Value}
    (absent : (actual.any fun v => !v.isNull) = false) (pattern : Option Pattern.Expr) :
    c.judge pattern actual = false := by
  unfold judge
  cases operator : c.operator with
  | present | absent => simp [operator, Operator.isExistence] at compares
  | _ =>
    cases actual with
    | none => rfl
    | some v =>
      have null : v.isNull = true := by simpa using absent
      simp [null]

theorem holds_of_absent (compares : c.operator.isExistence = false) {actual : Option Value}
    (absent : (actual.any fun v => !v.isNull) = false) : c.holds actual = false :=
  judge_of_absent compares absent _

/-- Numbers are compared only if both sides have one. -/
theorem compare_of_noNumber (ordering : c.operator.isOrdering = true) {expected : Value}
    (bad : v.number? = none ∨ expected.number? = none) (pattern : Option Pattern.Expr) :
    c.compare pattern v expected = false := by
  have apart : ∀ relation, numberRelates relation v expected = false := by
    intro relation
    unfold numberRelates
    rcases bad with actual | expected
    · rw [actual]
    · rw [expected]
      cases v.number? <;> rfl
  unfold compare
  cases operator : c.operator with
  | greaterThan | lessThan | greaterEqual | lessEqual => exact apart _
  | _ => simp [operator, Operator.isOrdering] at ordering

/-- Comparing by a malformed condition comes to false. -/
theorem compare_of_malformed (present : v.isNull = false) (malformed : c.Malformed v) :
    (c.value.coerce c.valueType).any
      (c.compare ((c.neededPattern? (some v)).bind (compile c.caseSensitive)) v) = false := by
  cases typed : c.value.coerce c.valueType with
  | none => rfl
  | some expected =>
    rw [Option.any_some]
    cases malformed with
    | untyped none => simp [typed] at none
    | noPattern operator bad =>
      have uncompiled : (c.neededPattern? (some v)).bind (compile c.caseSensitive) = none := by
        have needed : c.neededPattern? (some v) =
            (c.value.coerce c.valueType).bind Value.text? := by
          simp [neededPattern?, operator, present]
        rw [needed, Option.bind_eq_none_iff]
        exact bad
      rw [uncompiled, compare, operator]
    | noNumber operator bad =>
      rw [typed, Option.bind_some] at bad
      exact compare_of_noNumber operator bad _

/-- On a value that is present, a malformed condition matches exactly when it is negated. -/
theorem holds_of_malformed (compares : c.operator.isExistence = false) (present : v.isNull = false)
    (malformed : c.Malformed v) : c.holds (some v) = c.negate := by
  rw [holds, judge_of_compares compares present, compare_of_malformed present malformed]
  exact Bool.false_bne _

/-- For a request, a malformed condition matches exactly when it is negated and has something to be
    judged on. -/
theorem holds_of_malformedFor {ctx : Context} (malformed : c.MalformedFor ctx) :
    c.holds (ctx.resolve c.field) =
      (c.negate && (ctx.resolve c.field).any fun v => !v.isNull) := by
  cases found : (ctx.resolve c.field).any fun v => !v.isNull with
  | false => rw [holds_of_absent malformed.compares found, Bool.and_false]
  | true =>
    rw [Bool.and_true]
    cases resolved : ctx.resolve c.field with
    | none => simp [resolved] at found
    | some v =>
      have present : v.isNull = false := by simpa [resolved] using found
      exact holds_of_malformed malformed.compares present (malformed.malformed v resolved present)

end Condition

/-- From every cache that keeps patterns as they compile, a malformed condition is found to match
    exactly when it is negated. -/
theorem PatternCache.Faithful.serve_malformed {cache : PatternCache} (faithful : cache.Faithful)
    {c : Condition} {v : Value} (compares : c.operator.isExistence = false)
    (present : v.isNull = false) (malformed : c.Malformed v) (flag : c.FlagAgrees (some v)) :
    (cache.serve (.judge c (some v))).reply = some (c.finding c.negate) := by
  have flags : ∀ c' actual, Call.judge c (some v) = .judge c' actual → c'.FlagAgrees actual := by
    intro c' actual equal
    cases equal
    exact flag
  rw [(faithful.serve flags).1, Call.alone, Condition.holds_of_malformed compares present malformed]

/-! ## Rules of malformed conditions -/

section

variable {ctx : Context} {conditions : List Condition}

/-- Malformed conditions match as if each came to whether it is negated and has something to be
    judged on. -/
theorem matched_of_malformed (malformed : ∀ c ∈ conditions, c.MalformedFor ctx) :
    (matchAlone conditions ctx).matched =
      joined (fun c => c.negate && (ctx.resolve c.field).any fun v => !v.isNull) conditions := by
  rw [matchAlone, matched_run]
  apply joined_congr
  intro c member
  exact Condition.holds_of_malformedFor (malformed c member)

/-- Malformed conditions do not match if there are some and none is negated. -/
theorem not_matched_of_malformed (malformed : ∀ c ∈ conditions, c.MalformedFor ctx)
    (some : conditions ≠ []) (plain : ∀ c ∈ conditions, c.negate = false) :
    (matchAlone conditions ctx).matched = false := by
  rw [matched_of_malformed malformed]
  apply joined_of_none _ some
  intro c member
  rw [plain c member, Bool.false_and]

end

/-- A condition that is malformed on a value that is present matches exactly when it is negated:
    what is found of it is then its weight, else nothing.  So a rule of malformed conditions matches
    as if each of them came to its negation, where its field is present; if there are some and none
    is negated, the rule never matches and is ignored. -/
theorem malformed_matches_iff_negated {c : Condition} {v : Value}
    (compares : c.operator.isExistence = false) (present : v.isNull = false)
    (malformed : c.Malformed v) :
    (∀ cache : PatternCache, cache.Faithful → c.FlagAgrees (some v) →
      (cache.serve (.judge c (some v))).reply = some (c.finding c.negate) ∧
        ((cache.serve (.judge c (some v))).reply = some ⟨false, 0⟩ ↔ c.negate = false)) ∧
      ∀ (r : Rule) (ctx : Context), (∀ c ∈ r.conditions, c.MalformedFor ctx) →
        (∀ cache : PatternCache, cache.Faithful → FlagsAgree r.conditions ctx →
          ((matchConditions r.conditions ctx).run cache).1.matched =
            joined (fun c => c.negate && (ctx.resolve c.field).any fun v => !v.isNull)
              r.conditions) ∧
          (r.conditions ≠ [] → (∀ c ∈ r.conditions, c.negate = false) →
            (matchAlone r.conditions ctx).matched = false ∧ r.Ignored ctx) := by
  constructor
  · intro cache faithful flag
    have found := faithful.serve_malformed compares present malformed flag
    refine ⟨found, ?_⟩
    rw [found]
    constructor
    · intro none
      exact congrArg Condition.Finding.matched (Option.some.inj none)
    · intro plain
      rw [plain]
      rfl
  · intro r ctx malformed
    constructor
    · intro cache faithful flags
      rw [(gives_matchConditions flags.judgesAlone cache faithful).1]
      exact matched_of_malformed malformed
    · intro some plain
      have misses := not_matched_of_malformed malformed some plain
      exact ⟨misses, ignored_of_not_matched misses⟩

theorem malformed_matches_iff_negated_bad_pattern :
    let now : Instant := ⟨0, 0, 0, by decide, by decide⟩
    let ctx : Context := { path := "/x", timestamp := now }
    let c : Condition := { field := "path", operator := .regex, value := .text "(a" }
    let r : Rule :=
      { id := "r", name := "r", createdAt := now, updatedAt := now, conditions := [c],
        actions := [{ actionType := .block }] }
    let cache := PatternCache.ofCapacity 1
    c.Malformed (.text "/x") ∧ (∀ c ∈ r.conditions, c.MalformedFor ctx) ∧ cache.Faithful ∧
      (cache.serve (.judge c (some (.text "/x")))).reply = some ⟨false, 0⟩ ∧
      ((resolve .access [r] ctx).run cache).1.SameButCount
        ((resolve .access [] ctx).run cache).1 := by
  intro now ctx c r cache
  have malformed (v : Value) : c.Malformed v := by
    apply Condition.Malformed.noPattern rfl
    intro pattern read
    cases read
    decide +kernel
  have malformedFor : ∀ c ∈ r.conditions, c.MalformedFor ctx :=
    List.forall_mem_singleton.mpr ⟨rfl, fun v _ _ => malformed v⟩
  have flag (actual : Option Value) : c.FlagAgrees actual := nofun
  have flags : ∀ r' ∈ [] ++ r :: [], r'.isApplicable ctx = true → FlagsAgree r'.conditions ctx :=
    List.forall_mem_singleton.mpr fun _ => List.forall_mem_singleton.mpr (flag _)
  have faithful : cache.Faithful := PatternCache.faithful_ofCapacity 1
  obtain ⟨conditions, rules⟩ :=
    @malformed_matches_iff_negated c (.text "/x") rfl rfl (malformed _)
  have found := (conditions cache faithful (flag _)).2
  have decided := ((rules r ctx malformedFor).2 (List.cons_ne_nil _ _)
    (List.forall_mem_singleton.mpr rfl)).2
  exact ⟨malformed _, malformedFor, faithful, found.mpr rfl,
    decided .access [] [] flags cache cache faithful faithful⟩

/-- A negated condition whose pattern does not compile matches with its whole weight, and a rule
    with nothing else denies a request that it has no quarrel with. -/
theorem negated_malformed_denies :
    let now : Instant := ⟨0, 0, 0, by decide, by decide⟩
    let ctx : Context := { path := "/x", timestamp := now }
    let c : Condition :=
      { field := "path", operator := .regex, value := .text "(a", negate := true }
    let r : Rule :=
      { id := "r", name := "r", createdAt := now, updatedAt := now, conditions := [c],
        actions := [{ actionType := .block }] }
    let cache := PatternCache.ofCapacity 1
    c.operator.isExistence = false ∧ c.Malformed (.text "/x") ∧
      (cache.serve (.judge c (some (.text "/x")))).reply = some ⟨true, 1⟩ ∧
      ((resolve .access [r] ctx).run cache).1.allow = false ∧
      ((resolve .access [] ctx).run cache).1.allow = true := by
  intro now ctx c r cache
  have malformed : c.Malformed (.text "/x") := by
    apply Condition.Malformed.noPattern rfl
    intro pattern read
    cases read
    decide +kernel
  have matched : (cache.judge c (some (.text "/x"))).1 = true := by decide +kernel
  have found : (cache.serve (.judge c (some (.text "/x")))).reply = some ⟨true, 1⟩ :=
    congrArg (fun matched => some (c.finding matched)) matched
  exact ⟨rfl, malformed, found, by decide +kernel, by decide +kernel⟩

end Verdict
