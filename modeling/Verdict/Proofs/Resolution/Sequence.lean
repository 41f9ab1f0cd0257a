import Verdict.Proofs.Priority
import Verdict.Resolution

/-!
# Which rules are evaluated

A decision evaluates the rules that apply, by descending priority, through the first one that cuts
the evaluation: one whose conditions match, that is fail-fast and that has an enabled block action.
`judgeEach` judges every rule in that order, as if nothing were cut; `resolve_evaluates_through_cut`
says which part of that a decision reports, and that it depends on nothing else.
-/

namespace Verdict

/-- A rule with what matching its conditions gave. -/
structure Judged where
  rule : Rule
  outcome : Match

namespace Judged

/-- Whether the rule ends the evaluation. -/
def cuts (j : Judged) : Bool :=
  j.outcome.matched && j.rule.failFast &&
    j.rule.actions.any fun a => a.enabled && a.actionType == .block

/-- The record of the rule. -/
def record (j : Judged) : MatchedRule :=
  Resolution.recordOf j.rule j.outcome

end Judged

/-- Judges each rule in turn. -/
def judgeEach (ctx : Context) : List Rule → Judge (List Judged)
  | [] => pure []
  | r :: rest => do
      let m ← matchConditions r.conditions ctx
      let others ← judgeEach ctx rest
      return ⟨r, m⟩ :: others

/-- The rules up to the first one that ends the evaluation, that one included; all if none does. -/
def throughCut (judged : List Judged) : List Judged :=
  judged.take (judged.findIdx Judged.cuts + 1)

/-! ## Rules that were judged -/

theorem judgeEach_cons {ctx : Context} {r : Rule} {rest : List Rule} {cache : PatternCache}
    {m : Match × PatternCache} {others : List Judged × PatternCache}
    (matched : (matchConditions r.conditions ctx).run cache = m)
    (judged : (judgeEach ctx rest).run m.2 = others) :
    (judgeEach ctx (r :: rest)).run cache = (⟨r, m.1⟩ :: others.1, others.2) := by
  subst matched judged
  rfl

theorem map_rule_judgeEach (ctx : Context) (rules : List Rule) (cache : PatternCache) :
    ((judgeEach ctx rules).run cache).1.map Judged.rule = rules := by
  induction rules generalizing cache with
  | nil => rfl
  | cons r rest ih =>
    rw [judgeEach_cons rfl rfl]
    simp only [List.map_cons, ih]

theorem judgeEach_append {ctx : Context} {rules more : List Rule} {cache : PatternCache}
    {judged others : List Judged × PatternCache}
    (first : (judgeEach ctx rules).run cache = judged)
    (second : (judgeEach ctx more).run judged.2 = others) :
    (judgeEach ctx (rules ++ more)).run cache = (judged.1 ++ others.1, others.2) := by
  induction rules generalizing cache judged with
  | nil =>
    subst first
    exact second
  | cons r rest ih =>
    rw [judgeEach_cons rfl rfl] at first
    subst first
    rw [List.cons_append, judgeEach_cons rfl (ih rfl second)]
    rfl

@[simp] theorem throughCut_nil : throughCut [] = [] := rfl

theorem throughCut_cons_of_cuts {j : Judged} {rest : List Judged} (cut : j.cuts = true) :
    throughCut (j :: rest) = [j] := by
  simp [throughCut, List.findIdx_cons, cut]

theorem throughCut_cons_of_not_cuts {j : Judged} {rest : List Judged} (goesOn : j.cuts = false) :
    throughCut (j :: rest) = j :: throughCut rest := by
  simp [throughCut, List.findIdx_cons, goesOn]

/-- What ends an evaluation is among what is evaluated. -/
theorem any_cuts_throughCut (judged : List Judged) :
    (throughCut judged).any Judged.cuts = judged.any Judged.cuts := by
  induction judged with
  | nil => rfl
  | cons j rest ih =>
    cases cut : j.cuts with
    | true => simp [throughCut_cons_of_cuts cut, cut]
    | false => simp [throughCut_cons_of_not_cuts cut, cut, ih]

theorem throughCut_append_of_cuts {judged : List Judged} (cut : judged.any Judged.cuts = true)
    (more : List Judged) : throughCut (judged ++ more) = throughCut judged := by
  induction judged with
  | nil => simp at cut
  | cons j rest ih =>
    cases here : j.cuts with
    | true => rw [List.cons_append, throughCut_cons_of_cuts here, throughCut_cons_of_cuts here]
    | false =>
      rw [List.cons_append, throughCut_cons_of_not_cuts here, throughCut_cons_of_not_cuts here,
        ih (by simpa [here] using cut)]

/-- What is evaluated is judged as it is when nothing is cut. -/
theorem judgeEach_throughCut {ctx : Context} {rules : List Rule} {cache : PatternCache}
    {judged : List Judged} (all : ((judgeEach ctx rules).run cache).1 = judged) :
    ((judgeEach ctx ((throughCut judged).map Judged.rule)).run cache).1 = throughCut judged := by
  induction rules generalizing cache judged with
  | nil =>
    subst all
    rfl
  | cons r rest ih =>
    generalize matched : (matchConditions r.conditions ctx).run cache = m
    rw [judgeEach_cons matched rfl] at all
    subst all
    cases cut : (⟨r, m.1⟩ : Judged).cuts with
    | true =>
      rw [throughCut_cons_of_cuts cut, List.map_cons, List.map_nil, judgeEach_cons matched rfl]
      rfl
    | false =>
      rw [throughCut_cons_of_not_cuts cut, List.map_cons, judgeEach_cons matched rfl]
      exact congrArg _ (ih rfl)

theorem cuts_eq (r : Rule) (m : Match) : (⟨r, m⟩ : Judged).cuts = (m.matched && r.cuts) := by
  simp only [Judged.cuts, Rule.cuts, hasEffect, Rule.enabledActions, List.any_filter,
    Bool.and_assoc]
  congr 3
  funext a
  cases a.actionType <;> rfl

/-! ## The run of an evaluation -/

namespace Resolution

/-- Takes in a rule that was judged. -/
def takeIn (vocabulary : Vocabulary) (s : Resolution) (j : Judged) : Resolution :=
  let s := { s with evaluated := s.evaluated + 1 }
  if j.outcome.matched then s.apply vocabulary j.rule j.outcome else s

theorem run_cons {vocabulary : Vocabulary} {ctx : Context} {s : Resolution} {r : Rule}
    {rest : List Rule} {cache : PatternCache} {m : Match × PatternCache}
    (matched : (matchConditions r.conditions ctx).run cache = m) :
    (run vocabulary ctx s (r :: rest)).run cache =
      if (⟨r, m.1⟩ : Judged).cuts then
        ({ takeIn vocabulary s ⟨r, m.1⟩ with shortCircuited := true }, m.2)
      else (run vocabulary ctx (takeIn vocabulary s ⟨r, m.1⟩) rest).run m.2 := by
  let counted := { s with evaluated := s.evaluated + 1 }
  have step : (run vocabulary ctx s (r :: rest)).run cache =
      (if !m.1.matched then run vocabulary ctx counted rest
      else if r.cuts then
        pure { counted.apply vocabulary r m.1 with shortCircuited := true }
      else run vocabulary ctx (counted.apply vocabulary r m.1) rest).run m.2 := by
    rw [← matched]
    rfl
  rw [step, cuts_eq]
  cases hit : m.1.matched with
  | false => simp [takeIn, hit, counted]
  | true =>
    cases cut : r.cuts with
    | false => simp [takeIn, hit, counted]
    | true =>
      simp only [takeIn, hit, counted, Bool.and_self, if_true, Bool.not_true]
      rfl

/-- Two states that tell the same of the rules so far, whatever their verdicts. -/
structure SameLog (s t : Resolution) : Prop where
  reasons : s.reasons = t.reasons
  matched : s.matched = t.matched
  evaluated : s.evaluated = t.evaluated
  shortCircuited : s.shortCircuited = t.shortCircuited

theorem SameLog.trans {s t u : Resolution} (h : SameLog s t) (h' : SameLog t u) : SameLog s u :=
  ⟨h.reasons.trans h'.reasons, h.matched.trans h'.matched, h.evaluated.trans h'.evaluated,
    h.shortCircuited.trans h'.shortCircuited⟩

theorem deny_sameLog (s : Resolution) (r : Rule) : SameLog (s.deny r) s := by
  unfold deny
  split <;> exact ⟨rfl, rfl, rfl, rfl⟩

theorem fix_sameLog (s : Resolution) (r : Rule) : SameLog (s.fix r) s := by
  unfold fix
  split <;> exact ⟨rfl, rfl, rfl, rfl⟩

theorem warn_sameLog (s : Resolution) (r : Rule) : SameLog (s.warn r) s := by
  unfold warn
  split <;> exact ⟨rfl, rfl, rfl, rfl⟩

/-- The verdict of a rule leaves what is told of the rules so far. -/
theorem enforce_sameLog (vocabulary : Vocabulary) (s : Resolution) (r : Rule) :
    SameLog (if vocabulary.enforces then ((s.deny r).fix r).warn r else s) s := by
  split
  · exact (warn_sameLog _ r).trans ((fix_sameLog _ r).trans (deny_sameLog s r))
  · exact ⟨rfl, rfl, rfl, rfl⟩

theorem takeIn_evaluated (vocabulary : Vocabulary) (s : Resolution) (j : Judged) :
    (takeIn vocabulary s j).evaluated = s.evaluated + 1 := by
  unfold takeIn
  split
  · exact (enforce_sameLog vocabulary _ j.rule).evaluated
  · rfl

theorem takeIn_matched (vocabulary : Vocabulary) (s : Resolution) (j : Judged) :
    (takeIn vocabulary s j).matched =
      s.matched ++ ([j].filter fun j => j.outcome.matched).map Judged.record := by
  unfold takeIn
  cases hit : j.outcome.matched with
  | false => simp [hit]
  | true =>
    simp only [List.filter_cons, hit, if_true, List.filter_nil, List.map_cons, List.map_nil]
    exact congrArg (· ++ [j.record]) (enforce_sameLog vocabulary _ j.rule).matched

theorem takeIn_shortCircuited (vocabulary : Vocabulary) (s : Resolution) (j : Judged) :
    (takeIn vocabulary s j).shortCircuited = s.shortCircuited := by
  unfold takeIn
  split
  · exact (enforce_sameLog vocabulary _ j.rule).shortCircuited
  · rfl

/-- What is told after some rules were taken in. -/
theorem foldl_takeIn (vocabulary : Vocabulary) (s : Resolution) (judged : List Judged) :
    (judged.foldl (takeIn vocabulary) s).evaluated = s.evaluated + judged.length ∧
      (judged.foldl (takeIn vocabulary) s).matched =
        s.matched ++ (judged.filter fun j => j.outcome.matched).map Judged.record ∧
      (judged.foldl (takeIn vocabulary) s).shortCircuited = s.shortCircuited := by
  induction judged generalizing s with
  | nil => simp
  | cons j rest ih =>
    obtain ⟨evaluated, matched, shortCircuited⟩ := ih (takeIn vocabulary s j)
    rw [List.foldl_cons]
    refine ⟨?_, ?_, ?_⟩
    · rw [evaluated, takeIn_evaluated, List.length_cons]
      omega
    · rw [matched, takeIn_matched, List.append_assoc, ← List.map_append, ← List.filter_append,
        List.singleton_append]
    · rw [shortCircuited, takeIn_shortCircuited]

/-- An evaluation takes in what is judged through the cut, and judges nothing else. -/
theorem run_eq_foldl {vocabulary : Vocabulary} {ctx : Context} {s s' : Resolution}
    {rules : List Rule} {cache : PatternCache} {judged : List Judged}
    (all : ((judgeEach ctx rules).run cache).1 = judged)
    (taken : (throughCut judged).foldl (takeIn vocabulary) s = s') :
    (run vocabulary ctx s rules).run cache =
      ({ s' with shortCircuited := s'.shortCircuited || judged.any Judged.cuts },
        ((judgeEach ctx ((throughCut judged).map Judged.rule)).run cache).2) := by
  induction rules generalizing s cache judged with
  | nil =>
    subst all taken
    change (s, cache) = ({ s with shortCircuited := s.shortCircuited || false }, cache)
    rw [Bool.or_false]
  | cons r rest ih =>
    generalize matched : (matchConditions r.conditions ctx).run cache = m
    rw [judgeEach_cons matched rfl] at all
    subst all
    rw [run_cons matched]
    cases cut : (⟨r, m.1⟩ : Judged).cuts with
    | true =>
      rw [throughCut_cons_of_cuts cut] at taken ⊢
      subst taken
      simp only [if_true, List.any_cons, cut, Bool.true_or, Bool.or_true, List.map_cons,
        List.map_nil, List.foldl_cons, List.foldl_nil]
      rw [judgeEach_cons matched rfl]
      rfl
    | false =>
      rw [throughCut_cons_of_not_cuts cut] at taken ⊢
      rw [if_neg (by simp), ih rfl taken, List.any_cons, cut, Bool.false_or, List.map_cons,
        judgeEach_cons matched rfl]

/-- What is told after an evaluation. -/
theorem run_log {vocabulary : Vocabulary} {ctx : Context} {rules : List Rule}
    {cache : PatternCache} {judged : List Judged} {s : Resolution}
    (all : ((judgeEach ctx rules).run cache).1 = judged)
    (after : ((run vocabulary ctx {} rules).run cache).1 = s) :
    s.evaluated = (throughCut judged).length ∧
      s.matched = ((throughCut judged).filter fun j => j.outcome.matched).map Judged.record ∧
      s.shortCircuited = judged.any Judged.cuts := by
  obtain ⟨evaluated, matched, shortCircuited⟩ := foldl_takeIn vocabulary {} (throughCut judged)
  rw [run_eq_foldl all rfl] at after
  subst after
  refine ⟨?_, matched, ?_⟩
  · rw [evaluated]
    exact Nat.zero_add _
  · rw [shortCircuited]
    exact Bool.false_or _

/-- Rules after a cut are as if they were not there. -/
theorem run_append_of_cuts {vocabulary : Vocabulary} {ctx : Context} {s : Resolution}
    {rules : List Rule} {cache : PatternCache}
    (cut : ((judgeEach ctx rules).run cache).1.any Judged.cuts = true) (more : List Rule) :
    (run vocabulary ctx s (rules ++ more)).run cache = (run vocabulary ctx s rules).run cache := by
  have all := congrArg Prod.fst (@judgeEach_append ctx rules more cache _ _ rfl rfl)
  rw [run_eq_foldl all rfl, run_eq_foldl rfl rfl, throughCut_append_of_cuts cut, List.any_append,
    cut, Bool.true_or]

end Resolution

/-! ## What a decision reports -/

theorem resolve_run (vocabulary : Vocabulary) (rules : List Rule) (ctx : Context)
    (cache : PatternCache) :
    (resolve vocabulary rules ctx).run cache =
      (((Resolution.run vocabulary ctx {} (applicableRules rules ctx)).run cache).1.finish
          vocabulary ctx,
        ((Resolution.run vocabulary ctx {} (applicableRules rules ctx)).run cache).2) := rfl

/-- A rule that ends an evaluation is one that matched. -/
theorem any_matched_of_any_cuts {judged : List Judged} (cut : judged.any Judged.cuts = true) :
    (judged.filter fun j => j.outcome.matched) ≠ [] := by
  obtain ⟨j, member, cuts⟩ := List.any_eq_true.mp cut
  have hit : j.outcome.matched = true := by
    simp only [Judged.cuts, Bool.and_eq_true] at cuts
    exact cuts.1.1
  exact List.ne_nil_of_mem (List.mem_filter.mpr ⟨member, hit⟩)

/-- The decision with no match reports what every decision reports. -/
theorem finish_reports (vocabulary : Vocabulary) (ctx : Context) (s : Resolution)
    (cut : s.shortCircuited = true → s.matched ≠ []) :
    (s.finish vocabulary ctx).evaluatedRules = s.evaluated ∧
      (s.finish vocabulary ctx).shortCircuited = s.shortCircuited ∧
      (s.finish vocabulary ctx).matchedRules = s.matched := by
  unfold Resolution.finish
  cases empty : s.matched with
  | cons m rest => simp
  | nil =>
    have whole : s.shortCircuited = false := by
      cases h : s.shortCircuited with
      | false => rfl
      | true => exact absurd empty (cut h)
    simp [Decision.noMatch, whole]

/-- A decision evaluates the rules that are enabled, active and in scope, by descending priority,
    through the first one that cuts the evaluation.  It reports how many these are, whether there
    was such a rule, and of those that matched a record with their enabled actions.  Rules after
    the cut change neither the decision nor the patterns kept. -/
theorem resolve_evaluates_through_cut (vocabulary : Vocabulary) (rules : List Rule) (ctx : Context)
    (cache : PatternCache) :
    let order := applicableRules rules ctx
    let judged := ((judgeEach ctx order).run cache).1
    let evaluated := throughCut judged
    let matched := evaluated.filter fun j => j.outcome.matched
    let d := ((resolve vocabulary rules ctx).run cache).1
    DescendingOrder Rule.priority
        (rules.filter fun r => r.enabled && r.status == .active && r.scope.holds ctx) order ∧
      judged.map Judged.rule = order ∧
      d.evaluatedRules = evaluated.length ∧
      d.shortCircuited = judged.any Judged.cuts ∧
      d.matchedRules = matched.map Judged.record ∧
      d.matchedRules.map MatchedRule.actions =
        matched.map (fun j => j.rule.actions.filter Action.enabled) ∧
      ((resolve vocabulary rules ctx).run cache).2 =
        ((judgeEach ctx (evaluated.map Judged.rule)).run cache).2 ∧
      (d.shortCircuited = true → ∀ rules' tail,
        applicableRules rules' ctx = evaluated.map Judged.rule ++ tail →
        (resolve vocabulary rules' ctx).run cache = (resolve vocabulary rules ctx).run cache) := by
  intro order judged evaluated matched d
  have rulesOfJudged : judged.map Judged.rule = order := map_rule_judgeEach ctx order cache
  have run := @Resolution.run_eq_foldl vocabulary ctx {} _ order cache _ rfl rfl
  obtain ⟨counted, recorded, flagged⟩ := @Resolution.run_log vocabulary ctx order cache _ _ rfl rfl
  obtain ⟨evaluatedRules, shortCircuited, matchedRules⟩ := finish_reports vocabulary ctx
    ((Resolution.run vocabulary ctx {} order).run cache).1 (by
      intro cut none
      rw [flagged, ← any_cuts_throughCut] at cut
      rw [recorded] at none
      exact any_matched_of_any_cuts cut (List.map_eq_nil_iff.mp none))
  have records : d.matchedRules = matched.map Judged.record := matchedRules.trans recorded
  refine ⟨descendingOrder_sortByPriority _, rulesOfJudged, evaluatedRules.trans counted,
    shortCircuited.trans flagged, records, ?_, ?_, ?_⟩
  · rw [records, List.map_map]
    rfl
  · rw [resolve_run, run]
  · intro cut rules' tail order'
    have whole : order = evaluated.map Judged.rule ++
        (judged.drop (judged.findIdx Judged.cuts + 1)).map Judged.rule := by
      rw [← List.map_append, ← rulesOfJudged]
      exact congrArg _ (List.take_append_drop _ judged).symm
    have cutsIn : ((judgeEach ctx (evaluated.map Judged.rule)).run cache).1.any Judged.cuts =
        true := by
      rw [judgeEach_throughCut rfl, any_cuts_throughCut]
      exact (shortCircuited.trans flagged).symm.trans cut
    have same : (Resolution.run vocabulary ctx {} (applicableRules rules' ctx)).run cache =
        (Resolution.run vocabulary ctx {} order).run cache := by
      rw [order', whole, Resolution.run_append_of_cuts cutsIn, Resolution.run_append_of_cuts cutsIn]
    rw [resolve_run, resolve_run, same]

end Verdict
