import Verdict.Proofs.Resolution.Alone

/-!
# What a decision depends on

A decision sees the rules only through those that apply to the request, in the one order by
descending priority.  So two lists of rules that hold the same applicable rules at each priority, in
the same order among themselves, get the same decision, however they mix the priorities and whatever
else they hold (`resolve_of_same_applicable`).  Neither do the patterns that were kept before
matter, as long as they are kept as they compile (`gives_resolve`).
-/

namespace Verdict

/-- The rules of a priority that apply to a request: enabled, active and in scope. -/
def applicableAt (rules : List Rule) (ctx : Context) (priority : Int) : List Rule :=
  rules.filter fun r =>
    (r.enabled && r.status == .active && r.scope.holds ctx) && r.priority == priority

variable {ctx : Context} {rules rules' : List Rule}

/-! ## The order of evaluation -/

theorem filter_applicable (rules : List Rule) (ctx : Context) (priority : Int) :
    (rules.filter fun r => r.isApplicable ctx).filter (fun r => r.priority == priority) =
      applicableAt rules ctx priority := by
  rw [List.filter_filter]
  apply List.filter_congr
  intro r _
  rw [Bool.and_comm]
  rfl

/-- Rules are evaluated in the same order exactly when the same ones apply at each priority. -/
theorem applicableRules_eq_iff :
    applicableRules rules ctx = applicableRules rules' ctx ↔
      ∀ priority, applicableAt rules ctx priority = applicableAt rules' ctx priority := by
  constructor
  · intro same priority
    have kept := congrArg (List.filter fun r => r.priority == priority) same
    unfold applicableRules at kept
    rwa [filter_sortByPriority, filter_sortByPriority, filter_applicable, filter_applicable] at kept
  · intro same
    apply descendingOrder_iff.mp
    refine ⟨(descendingOrder_sortByPriority _).descending, fun priority => ?_⟩
    unfold applicableRules
    rw [filter_sortByPriority, filter_applicable, filter_applicable, same priority]

/-- A decision depends on the rules through the order of evaluation only. -/
theorem resolve_of_applicableRules (vocabulary : Vocabulary)
    (same : applicableRules rules ctx = applicableRules rules' ctx) :
    resolve vocabulary rules ctx = resolve vocabulary rules' ctx := by
  unfold resolve
  rw [same]

/-- A rule that does not apply is as if it were not there. -/
theorem applicableAt_insert {r : Rule} (out : r.isApplicable ctx = false) (front back : List Rule)
    (priority : Int) :
    applicableAt (front ++ r :: back) ctx priority = applicableAt (front ++ back) ctx priority := by
  have dropped : (r.enabled && r.status == .active && r.scope.holds ctx) = false := out
  simp only [applicableAt, List.filter_append, List.filter_cons, dropped, Bool.false_and,
    Bool.false_eq_true, if_false]

/-- Neighbours of different priorities may change places. -/
theorem applicableAt_swap {r r' : Rule} (apart : r.priority ≠ r'.priority) (front back : List Rule)
    (priority : Int) :
    applicableAt (front ++ r :: r' :: back) ctx priority =
      applicableAt (front ++ r' :: r :: back) ctx priority := by
  simp only [applicableAt, List.filter_append, List.filter_cons]
  congr 1
  by_cases here : r.priority = priority
  · have other : (r'.priority == priority) = false := by
      rw [beq_eq_false_iff_ne]
      exact fun there => apart (here.trans there.symm)
    simp only [other, Bool.and_false, Bool.false_eq_true, if_false]
  · have other : (r.priority == priority) = false := by simpa using here
    simp only [other, Bool.and_false, Bool.false_eq_true, if_false]

/-! ## The patterns kept -/

/-- A decision is the same from every cache that keeps patterns as they compile. -/
theorem gives_resolve (flags : ∀ r ∈ rules, r.isApplicable ctx = true → FlagsAgree r.conditions ctx)
    (vocabulary : Vocabulary) : ∃ d, Gives PatternCache.Faithful (resolve vocabulary rules ctx) d :=
  ⟨_, gives_resolveAlone flags vocabulary⟩

/-! ## Two lists of rules -/

/-- Lists of rules of which the same ones apply to a request at each priority, in the same order,
    get the same decision on it and leave the same patterns; the decisions are equal also if other
    patterns were kept before, all as they compile.  In particular rules that do not apply may come
    and go anywhere, and neighbours of different priorities may change places. -/
theorem resolve_of_same_applicable (vocabulary : Vocabulary) (ctx : Context)
    {rules rules' : List Rule}
    (same : ∀ priority, applicableAt rules ctx priority = applicableAt rules' ctx priority) :
    (∀ cache : PatternCache,
        (resolve vocabulary rules ctx).run cache = (resolve vocabulary rules' ctx).run cache) ∧
      ((∀ r ∈ rules, r.isApplicable ctx = true → FlagsAgree r.conditions ctx) →
        ∀ cache cache' : PatternCache, cache.Faithful → cache'.Faithful →
          ((resolve vocabulary rules ctx).run cache).1 =
            ((resolve vocabulary rules' ctx).run cache').1) ∧
      (∀ (front back : List Rule) (r : Rule), r.isApplicable ctx = false →
        resolve vocabulary (front ++ r :: back) ctx = resolve vocabulary (front ++ back) ctx) ∧
      ∀ (front back : List Rule) (r r' : Rule), r.priority ≠ r'.priority →
        resolve vocabulary (front ++ r :: r' :: back) ctx =
          resolve vocabulary (front ++ r' :: r :: back) ctx := by
  have equal : resolve vocabulary rules ctx = resolve vocabulary rules' ctx :=
    resolve_of_applicableRules vocabulary (applicableRules_eq_iff.mpr same)
  refine ⟨fun cache => by rw [equal], ?_, ?_, ?_⟩
  · intro flags cache cache' faithful faithful'
    obtain ⟨d, given⟩ := gives_resolve flags vocabulary
    rw [← equal]
    exact given.eq faithful faithful'
  · intro front back r out
    exact resolve_of_applicableRules vocabulary
      (applicableRules_eq_iff.mpr (applicableAt_insert out front back))
  · intro front back r r' apart
    exact resolve_of_applicableRules vocabulary
      (applicableRules_eq_iff.mpr (applicableAt_swap apart front back))

theorem resolve_of_same_applicable_mixed :
    let now : Instant := ⟨0, 0, 0, by decide, by decide⟩
    let ctx : Context := { path := "/x", timestamp := now }
    let rule (name : String) (priority : Int) : Rule :=
      { id := name, name := name, priority := priority, createdAt := now, updatedAt := now,
        actions := [{ actionType := .block }] }
    let rules := [rule "a" 10, rule "b" 5, rule "c" 10]
    let rules' := [{ rule "off" 10 with enabled := false }, rule "b" 5, rule "a" 10,
      { rule "elsewhere" 5 with scope := { endpoints := ["/y"] } }, rule "c" 10,
      { rule "draft" 10 with status := .draft }]
    (∀ priority, applicableAt rules ctx priority = applicableAt rules' ctx priority) ∧
      ∀ cache : PatternCache,
        (resolve .access rules ctx).run cache = (resolve .access rules' ctx).run cache := by
  intro now ctx rule rules rules'
  have same : ∀ priority, applicableAt rules ctx priority = applicableAt rules' ctx priority := by
    intro priority
    have elsewhere : ({ endpoints := ["/y"] } : Scope).holds ctx = false := by decide +kernel
    have everywhere : ({} : Scope).holds ctx = true := by decide +kernel
    have draft : (Status.draft == Status.active) = false := rfl
    simp only [applicableAt, rules, rules', rule, elsewhere, everywhere, draft, List.filter_cons,
      List.filter_nil, Bool.and_false, Bool.false_and, Bool.and_true, Bool.true_and, BEq.rfl,
      Bool.false_eq_true, if_false]
    by_cases ten : (10 : Int) = priority
    · subst ten
      rfl
    · have other : ((10 : Int) == priority) = false := by simpa using ten
      simp only [other, Bool.false_eq_true, if_false]
  exact ⟨same, (resolve_of_same_applicable .access ctx same).1⟩

end Verdict
