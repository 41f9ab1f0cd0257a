import Mathlib.Data.List.Nodup
import Verdict.Proofs.Condition.Joined
import Verdict.Proofs.Resolution.Sequence

/-!
# Decisions from conditions that are judged alone

An evaluation keeps patterns on the way, and stops at a cut.  As the patterns make no difference, a
decision is what `resolveAlone` makes of the rules, each of them judged alone and nothing stopped
(`gives_resolveAlone`).  Of the rules that apply it tells only those that match: rules that do not
match may come and go, and change nothing but the number of rules that were evaluated
(`resolveAlone_of_same_matching`).
-/

namespace Verdict

variable {ctx : Context}

/-- A rule with what matching gives when its conditions are judged alone. -/
def Judged.alone (ctx : Context) (r : Rule) : Judged :=
  ⟨r, matchAlone r.conditions ctx⟩

/-- The rules, each judged alone. -/
def judgedAlone (ctx : Context) (rules : List Rule) : List Judged :=
  rules.map (Judged.alone ctx)

theorem gives_judgeEach {rules : List Rule} (flags : ∀ r ∈ rules, FlagsAgree r.conditions ctx) :
    Gives PatternCache.Faithful (judgeEach ctx rules) (judgedAlone ctx rules) := by
  induction rules with
  | nil => exact .pure []
  | cons r rest ih =>
    obtain ⟨here, later⟩ := List.forall_mem_cons.mp flags
    have matched := gives_matchConditions here.judgesAlone
    exact matched.bind ((ih later).bind (.pure _))

/-- What is known after some rules were judged, up to the cut. -/
def Resolution.ofJudged (vocabulary : Vocabulary) (judged : List Judged) : Resolution :=
  { (throughCut judged).foldl (takeIn vocabulary) {} with
    shortCircuited := judged.any Judged.cuts }

/-- What is reported of rules that were judged, whatever the vocabulary. -/
theorem Resolution.ofJudged_reports (v : Vocabulary) (judged : List Judged) (ctx : Context) :
    ((ofJudged v judged).finish v ctx).evaluatedRules = (throughCut judged).length ∧
      ((ofJudged v judged).finish v ctx).shortCircuited = judged.any Judged.cuts ∧
      ((ofJudged v judged).finish v ctx).matchedRules =
        ((throughCut judged).filter fun j => j.outcome.matched).map Judged.record := by
  obtain ⟨evaluated, matched, -⟩ := foldl_takeIn v {} (throughCut judged)
  have cut : (ofJudged v judged).shortCircuited = true → (ofJudged v judged).matched ≠ [] := by
    intro cut none
    change judged.any Judged.cuts = true at cut
    rw [← any_cuts_throughCut] at cut
    exact any_matched_of_any_cuts cut (List.map_eq_nil_iff.mp (matched.symm.trans none))
  obtain ⟨counted, flagged, recorded⟩ := finish_reports v ctx _ cut
  exact ⟨counted.trans (evaluated.trans (Nat.zero_add _)), flagged, recorded.trans matched⟩

/-- A decision folds the rules that apply, judged in turn, into a verdict; the vocabulary neither
    changes how they are judged nor which patterns are left. -/
theorem resolve_judged (v : Vocabulary) {rules : List Rule} {ctx : Context} {cache : PatternCache}
    {judged : List Judged}
    (all : ((judgeEach ctx (applicableRules rules ctx)).run cache).1 = judged) :
    (resolve v rules ctx).run cache =
      ((Resolution.ofJudged v judged).finish v ctx,
        ((judgeEach ctx ((throughCut judged).map Judged.rule)).run cache).2) := by
  obtain ⟨-, -, whole⟩ := Resolution.foldl_takeIn v {} (throughCut judged)
  rw [resolve_run, Resolution.run_eq_foldl all rfl, whole]
  rfl

/-- The decision of some rules on a request, every condition judged alone. -/
def resolveAlone (vocabulary : Vocabulary) (rules : List Rule) (ctx : Context) : Decision :=
  (Resolution.ofJudged vocabulary (judgedAlone ctx (applicableRules rules ctx))).finish
    vocabulary ctx

theorem mem_applicableRules {rules : List Rule} {r : Rule} :
    r ∈ applicableRules rules ctx ↔ r ∈ rules ∧ r.isApplicable ctx = true := by
  rw [applicableRules, sortByPriority, List.mem_mergeSort, List.mem_filter]

/-- From every cache that keeps patterns as they compile, a decision is what the conditions come to
    when they are judged alone. -/
theorem gives_resolveAlone {rules : List Rule}
    (flags : ∀ r ∈ rules, r.isApplicable ctx = true → FlagsAgree r.conditions ctx)
    (vocabulary : Vocabulary) :
    Gives PatternCache.Faithful (resolve vocabulary rules ctx)
      (resolveAlone vocabulary rules ctx) := by
  intro cache faithful
  have ordered : ∀ r ∈ applicableRules rules ctx, FlagsAgree r.conditions ctx := by
    intro r member
    obtain ⟨inside, applies⟩ := mem_applicableRules.mp member
    exact flags r inside applies
  have all := (gives_judgeEach ordered cache faithful).1
  rw [resolve_judged vocabulary all]
  constructor
  · rfl
  · -- what is judged through the cut is among what applies
    have evaluated : ∀ r ∈ (throughCut (judgedAlone ctx (applicableRules rules ctx))).map
        Judged.rule, FlagsAgree r.conditions ctx := by
      intro r member
      obtain ⟨j, taken, rfl⟩ := List.mem_map.mp member
      obtain ⟨r, applies, rfl⟩ := List.mem_map.mp (List.mem_of_mem_take taken)
      exact ordered r applies
    exact (gives_judgeEach evaluated cache faithful).2

/-! ## The records of a decision -/

namespace Rule

/-- Whether a rule of a list is evaluated before another one: its priority is higher, or it is the
    same and the rule stands before the other. -/
def Precedes (rules : List Rule) (r' r : Rule) : Prop :=
  r.priority < r'.priority ∨ r'.priority = r.priority ∧ List.Sublist [r', r] rules

end Rule

/-- What ends an evaluation has matched, so the cut is seen among the rules that match. -/
theorem filter_throughCut (judged : List Judged) :
    (throughCut judged).filter (fun j => j.outcome.matched) =
      throughCut (judged.filter fun j => j.outcome.matched) := by
  induction judged with
  | nil => rfl
  | cons j rest ih =>
    cases hit : j.outcome.matched with
    | false =>
      have goesOn : j.cuts = false := by simp [Judged.cuts, hit]
      rw [throughCut_cons_of_not_cuts goesOn, List.filter_cons_of_neg (by simp [hit]),
        List.filter_cons_of_neg (by simp [hit]), ih]
    | true =>
      rw [List.filter_cons_of_pos (by simp [hit])]
      cases cut : j.cuts with
      | true =>
        rw [throughCut_cons_of_cuts cut, throughCut_cons_of_cuts cut]
        simp [hit]
      | false =>
        rw [throughCut_cons_of_not_cuts cut, throughCut_cons_of_not_cuts cut,
          List.filter_cons_of_pos (by simp [hit]), ih]

theorem any_cuts_filter (judged : List Judged) :
    (judged.filter fun j => j.outcome.matched).any Judged.cuts = judged.any Judged.cuts := by
  rw [List.any_filter]
  congr 1
  funext j
  cases hit : j.outcome.matched <;> simp [Judged.cuts, hit]

namespace Resolution

/-- What is known of the rules so far but for how many there were. -/
def uncounted (s : Resolution) : Resolution :=
  { s with evaluated := 0 }

theorem deny_uncounted (s : Resolution) (r : Rule) : (s.deny r).uncounted = s.uncounted.deny r := by
  rw [deny, apply_ite uncounted]
  rfl

theorem fix_uncounted (s : Resolution) (r : Rule) : (s.fix r).uncounted = s.uncounted.fix r := by
  rw [fix, apply_ite uncounted]
  rfl

theorem warn_uncounted (s : Resolution) (r : Rule) : (s.warn r).uncounted = s.uncounted.warn r := by
  rw [warn, apply_ite uncounted]
  rfl

/-- Taking in a rule does not look at the count. -/
theorem apply_uncounted (vocabulary : Vocabulary) (s : Resolution) (r : Rule) (m : Match) :
    (s.apply vocabulary r m).uncounted = s.uncounted.apply vocabulary r m := by
  have enforced : (if vocabulary.enforces then ((s.deny r).fix r).warn r else s).uncounted =
      if vocabulary.enforces then ((s.uncounted.deny r).fix r).warn r else s.uncounted := by
    rw [apply_ite uncounted, warn_uncounted, fix_uncounted, deny_uncounted]
  let recorded (t : Resolution) : Resolution :=
    { t with
      reasons := t.reasons ++ [noteOf vocabulary s.verdictFixed r]
      matched := t.matched ++ [recordOf r m] }
  exact congrArg recorded enforced

theorem takeIn_uncounted (vocabulary : Vocabulary) {s t : Resolution}
    (same : s.uncounted = t.uncounted) (j : Judged) :
    (takeIn vocabulary s j).uncounted = (takeIn vocabulary t j).uncounted := by
  cases hit : j.outcome.matched with
  | false => simpa [takeIn, hit, uncounted] using same
  | true =>
    simp only [takeIn, hit, if_true]
    rw [apply_uncounted, apply_uncounted]
    exact congrArg (fun s => s.apply vocabulary j.rule j.outcome) same

/-- Rules that did not match leave no trace but in the count. -/
theorem foldl_takeIn_filter (vocabulary : Vocabulary) {s t : Resolution}
    (same : s.uncounted = t.uncounted) (judged : List Judged) :
    (judged.foldl (takeIn vocabulary) s).uncounted =
      ((judged.filter fun j => j.outcome.matched).foldl (takeIn vocabulary) t).uncounted := by
  induction judged generalizing s t with
  | nil => exact same
  | cons j rest ih =>
    rw [List.foldl_cons]
    cases hit : j.outcome.matched with
    | false =>
      have ignored : (takeIn vocabulary s j).uncounted = s.uncounted := by
        simp [takeIn, hit, uncounted]
      rw [List.filter_cons_of_neg (by simp [hit])]
      exact ih (ignored.trans same)
    | true =>
      rw [List.filter_cons_of_pos (by simp [hit]), List.foldl_cons]
      exact ih (takeIn_uncounted vocabulary same j)

/-- What is known after some rules were judged is, but for the count, known from those that
    matched. -/
theorem ofJudged_uncounted (vocabulary : Vocabulary) (judged : List Judged) :
    (ofJudged vocabulary judged).uncounted =
      (ofJudged vocabulary (judged.filter fun j => j.outcome.matched)).uncounted := by
  have taken := @foldl_takeIn_filter vocabulary {} {} rfl (throughCut judged)
  rw [filter_throughCut] at taken
  have flagged : ∀ judged, (ofJudged vocabulary judged).uncounted =
      { ((throughCut judged).foldl (takeIn vocabulary) {}).uncounted with
        shortCircuited := judged.any Judged.cuts } := fun _ => rfl
  rw [flagged, flagged, any_cuts_filter, taken]

/-- A decision takes the count of the rules as it is. -/
theorem finish_uncounted (vocabulary : Vocabulary) (ctx : Context) (s : Resolution) :
    s.finish vocabulary ctx =
      { s.uncounted.finish vocabulary ctx with evaluatedRules := s.evaluated } := by
  unfold finish
  cases empty : s.matched with
  | nil => simp [uncounted, empty, Decision.noMatch]
  | cons first rest => simp [uncounted, empty, reason, matchedReason]

end Resolution

/-! ## Rules that come and go -/

/-- The rules that apply to a request and match it. -/
def matchingRules (rules : List Rule) (ctx : Context) : List Rule :=
  rules.filter fun r => r.isApplicable ctx && (matchAlone r.conditions ctx).matched

/-- Sorting by priority and leaving items out may change places. -/
theorem filter_sortByPriority_comm (keep : Rule → Bool) (rules : List Rule) :
    (sortByPriority Rule.priority rules).filter keep =
      sortByPriority Rule.priority (rules.filter keep) := by
  apply descendingOrder_iff.mp
  constructor
  · exact (descendingOrder_sortByPriority rules).descending.filter keep
  · intro p
    rw [List.filter_comm, filter_sortByPriority, List.filter_comm]

theorem filter_judgedAlone (rules : List Rule) :
    (judgedAlone ctx (applicableRules rules ctx)).filter (fun j => j.outcome.matched) =
      judgedAlone ctx (sortByPriority Rule.priority (matchingRules rules ctx)) := by
  have kept : (applicableRules rules ctx).filter (fun r => (matchAlone r.conditions ctx).matched) =
      sortByPriority Rule.priority (matchingRules rules ctx) := by
    rw [applicableRules, filter_sortByPriority_comm, List.filter_filter, matchingRules]
    congr 2
    funext r
    exact Bool.and_comm ..
  rw [judgedAlone, List.filter_map, ← kept]
  rfl

/-- Whether two decisions are the same but for the number of rules evaluated. -/
def Decision.SameButCount (d d' : Decision) : Prop :=
  d = { d' with evaluatedRules := d.evaluatedRules }

/-- Rules that do not match change nothing in a decision but the number of rules evaluated. -/
theorem resolveAlone_of_same_matching (vocabulary : Vocabulary) {rules rules' : List Rule}
    (same : matchingRules rules ctx = matchingRules rules' ctx) :
    (resolveAlone vocabulary rules ctx).SameButCount (resolveAlone vocabulary rules' ctx) := by
  have equal :
      (Resolution.ofJudged vocabulary (judgedAlone ctx (applicableRules rules ctx))).uncounted =
        (Resolution.ofJudged vocabulary
          (judgedAlone ctx (applicableRules rules' ctx))).uncounted := by
    rw [Resolution.ofJudged_uncounted, filter_judgedAlone, same, ← filter_judgedAlone,
      ← Resolution.ofJudged_uncounted]
  have finished := Resolution.finish_uncounted vocabulary ctx
    (Resolution.ofJudged vocabulary (judgedAlone ctx (applicableRules rules' ctx)))
  unfold Decision.SameButCount resolveAlone
  rw [finished, Resolution.finish_uncounted, equal]

/-- A rule that does not match is as if it were not there, but for the number of rules
    evaluated. -/
theorem matchingRules_insert {r : Rule} (misses : (matchAlone r.conditions ctx).matched = false)
    (front back : List Rule) :
    matchingRules (front ++ r :: back) ctx = matchingRules (front ++ back) ctx := by
  simp [matchingRules, misses]

/-- Whether decisions on a request are made as if a rule were not there, but for the number of rules
    evaluated, from all caches that keep patterns as they compile. -/
def Rule.Ignored (ctx : Context) (r : Rule) : Prop :=
  ∀ (vocabulary : Vocabulary) (front back : List Rule),
    (∀ r' ∈ front ++ r :: back, r'.isApplicable ctx = true → FlagsAgree r'.conditions ctx) →
    ∀ cache cache' : PatternCache, cache.Faithful → cache'.Faithful →
      ((resolve vocabulary (front ++ r :: back) ctx).run cache).1.SameButCount
        ((resolve vocabulary (front ++ back) ctx).run cache').1

theorem ignored_of_not_matched {r : Rule} (misses : (matchAlone r.conditions ctx).matched = false) :
    r.Ignored ctx := by
  intro vocabulary front back flags cache cache' faithful faithful'
  have others : ∀ r' ∈ front ++ back, r'.isApplicable ctx = true →
      FlagsAgree r'.conditions ctx := by
    intro r' member
    apply flags
    rcases List.mem_append.mp member with before | after
    · exact List.mem_append_left _ before
    · exact List.mem_append_right _ (List.mem_cons_of_mem _ after)
  rw [(gives_resolveAlone flags vocabulary cache faithful).1,
    (gives_resolveAlone others vocabulary cache' faithful').1]
  exact resolveAlone_of_same_matching vocabulary (matchingRules_insert misses front back)

end Verdict
