import Verdict.Proofs.Engine.Judging

/-!
# What scoring rules make of a score

Which rules match does not depend on the score: an assessment is found by judging the enabled rules
in their order (`matchingOf`) and then giving each one that matched its turn at the score
(`assess_eq`).  A turn is skipped where the adjustment would divide by zero or leave no finite
number, and the score stays as it is; `turnsFrom` are the turns of a list of rules, each one at the
score that the one before it left (`foldl_adjust`).
-/

namespace Verdict

/-! ## The rules that match -/

/-- The rules of a list that match a request, each judged after those before it. -/
def matchingOf (ctx : Context) : List ScoringRule → Judge (List ScoringRule)
  | [] => pure []
  | r :: rest => do
      let m ← matchConditions r.conditions ctx
      let later ← matchingOf ctx rest
      return if m.matched then r :: later else later

/-- Whether the conditions of a rule match a request when each of them is judged alone. -/
def ScoringRule.matchesAlone (r : ScoringRule) (ctx : Context) : Bool :=
  (matchAlone r.conditions ctx).matched

/-- The conditions of the enabled rules. -/
def enabledConditions (rules : List ScoringRule) : List Condition :=
  (rules.filter ScoringRule.enabled).flatMap ScoringRule.conditions

theorem mem_enabledConditions {rules : List ScoringRule} {c : Condition} :
    c ∈ enabledConditions rules ↔ ∃ r ∈ rules, r.enabled = true ∧ c ∈ r.conditions := by
  simp [enabledConditions, and_assoc]

/-- The enabled rules of a priority. -/
def enabledAt (rules : List ScoringRule) (priority : Int) : List ScoringRule :=
  rules.filter fun r => r.enabled && r.priority == priority

variable {ctx : Context}

theorem matchingOf_cons {r : ScoringRule} {rest : List ScoringRule} {cache : PatternCache}
    {m : Match × PatternCache} {later : List ScoringRule × PatternCache}
    (matched : (matchConditions r.conditions ctx).run cache = m)
    (judged : (matchingOf ctx rest).run m.2 = later) :
    (matchingOf ctx (r :: rest)).run cache =
      (if m.1.matched then r :: later.1 else later.1, later.2) := by
  subst matched judged
  rfl

theorem matchingOf_sublist (ctx : Context) (order : List ScoringRule) (cache : PatternCache) :
    ((matchingOf ctx order).run cache).1.Sublist order := by
  induction order generalizing cache with
  | nil => exact List.Sublist.refl []
  | cons r rest ih =>
    rw [matchingOf_cons rfl rfl]
    dsimp only
    split
    · exact (ih _).cons_cons r
    · exact (ih _).cons r

/-- Where conditions are judged as alone, those rules match that match alone. -/
theorem gives_matchingOf {kept : PatternCache → Prop} {order : List ScoringRule}
    (alone : ∀ r ∈ order, JudgesAlone kept r.conditions ctx) :
    Gives kept (matchingOf ctx order) (order.filter fun r => r.matchesAlone ctx) := by
  induction order with
  | nil => exact .pure []
  | cons r rest ih =>
    obtain ⟨here, later⟩ := List.forall_mem_cons.mp alone
    rw [List.filter_cons]
    exact (gives_matchConditions here).bind ((ih later).bind (.pure _))

/-- Enabled rules are judged as alone from caches that were used for patterns by which all their
    conditions are. -/
theorem judgesAlone_of_enabled {rules : List ScoringRule} {uses : List PatternUse}
    (own : usesOf (enabledConditions rules) ctx ⊆ uses)
    (served : ∀ c ∈ enabledConditions rules, c.ServedAlike uses (ctx.resolve c.field)) :
    ∀ r ∈ rules, r.enabled = true → JudgesAlone (PatternCache.UsedFor uses) r.conditions ctx := by
  intro r member enabled
  have among : r.conditions ⊆ enabledConditions rules := fun c inside =>
    mem_enabledConditions.mpr ⟨r, member, enabled, inside⟩
  exact judgesAlone_of_servedAlike (List.Subset.trans (usesOf_subset among) own) fun c inside =>
    served c (among inside)

/-! ## The order of the turns -/

theorem descendingOrder_orderedRules (rules : List ScoringRule) :
    DescendingOrder ScoringRule.priority (rules.filter ScoringRule.enabled) (orderedRules rules) :=
  descendingOrder_sortByPriority _

/-- What is left of items in order is in order. -/
theorem DescendingOrder.filter {α : Type} {priority : α → Int} {items sorted : List α}
    (order : DescendingOrder priority items sorted) (keep : α → Bool) :
    DescendingOrder priority (items.filter keep) (sorted.filter keep) where
  descending := order.descending.filter keep
  stable p := by
    rw [List.filter_filter, List.filter_filter]
    simp only [Bool.and_comm _ (keep _)]
    rw [← List.filter_filter, ← List.filter_filter, order.stable]

theorem filter_enabled (rules : List ScoringRule) (priority : Int) :
    (rules.filter ScoringRule.enabled).filter (fun r => r.priority == priority) =
      enabledAt rules priority := by
  rw [List.filter_filter, enabledAt]
  simp only [Bool.and_comm]

/-- Lists of which the same rules are enabled at each priority have the same order. -/
theorem orderedRules_eq {rules rules' : List ScoringRule}
    (same : ∀ priority, enabledAt rules' priority = enabledAt rules priority) :
    orderedRules rules' = orderedRules rules := by
  apply descendingOrder_iff.mp
  refine ⟨(descendingOrder_orderedRules rules').descending, fun priority => ?_⟩
  rw [(descendingOrder_orderedRules rules').stable, filter_enabled, filter_enabled, same]

/-! ## Turns -/

/-- A rule that matched, and the score when its turn comes. -/
structure ScoringTurn (ν : Type) where
  rule : ScoringRule
  before : ν

section

variable {ν : Type} [Scalar ν]

namespace ScoringTurn

/-- What the adjustment gives, if it does not divide by zero. -/
def result? (t : ScoringTurn ν) : Option ν :=
  t.rule.adjustment.adjustmentType.apply t.before (Scalar.ofFloat t.rule.adjustment.value)

/-- The score that the adjustment leaves, if it is made. -/
def next? (t : ScoringTurn ν) : Option ν :=
  t.result?.filter Scalar.isFinite

/-- Whether the adjustment is made. -/
def isMade (t : ScoringTurn ν) : Bool :=
  t.next?.isSome

/-- The score after the turn. -/
def after (t : ScoringTurn ν) : ν :=
  t.next?.getD t.before

/-- What is recorded of an adjustment that is made. -/
def record (t : ScoringTurn ν) : AppliedAdjustment ν where
  ruleId := t.rule.id
  ruleName := t.rule.name
  adjustmentType := t.rule.adjustment.adjustmentType
  value := Scalar.ofFloat t.rule.adjustment.value
  delta := t.after - t.before
  reason := t.rule.adjustment.reason

variable {t : ScoringTurn ν}

theorem next_of_finite {x : ν} (result : t.result? = some x) (finite : Scalar.isFinite x = true) :
    t.next? = some x := by
  rw [next?, result, Option.filter_some, if_pos finite]

theorem after_of_next {x : ν} (next : t.next? = some x) : t.isMade = true ∧ t.after = x := by
  rw [isMade, after, next]
  exact ⟨rfl, rfl⟩

theorem after_of_none (next : t.next? = none) : t.isMade = false ∧ t.after = t.before := by
  rw [isMade, after, next]
  exact ⟨rfl, rfl⟩

/-- An adjustment is made and leaves what it gives, or it is skipped and the score stays: then it
    divides by zero, or what it gives is not finite. -/
theorem cases (t : ScoringTurn ν) :
    (t.isMade = true ∧ t.result? = some t.after ∧ Scalar.isFinite t.after = true) ∨
      (t.isMade = false ∧ t.after = t.before ∧
        (t.result? = none ∨ ∃ x, t.result? = some x ∧ Scalar.isFinite x = false)) := by
  cases result : t.result? with
  | none =>
    obtain ⟨skipped, stays⟩ := after_of_none (t := t) (by rw [next?, result]; rfl)
    exact .inr ⟨skipped, stays, .inl rfl⟩
  | some x =>
    cases finite : Scalar.isFinite x with
    | true =>
      obtain ⟨made, after⟩ := after_of_next (next_of_finite result finite)
      exact .inl ⟨made, by rw [after], by rw [after, finite]⟩
    | false =>
      have next : t.next? = none := by
        rw [next?, result, Option.filter_some, if_neg (by simp [finite])]
      obtain ⟨skipped, stays⟩ := after_of_none next
      exact .inr ⟨skipped, stays, .inr ⟨x, rfl, finite⟩⟩

/-- Only a division by zero gives nothing. -/
theorem result_eq_none_iff : t.result? = none ↔ t.rule.adjustment.adjustmentType = .divide ∧
    Scalar.same (Scalar.ofFloat t.rule.adjustment.value : ν) (Scalar.nat 0) = true := by
  unfold result? AdjustmentType.apply
  cases t.rule.adjustment.adjustmentType <;> simp

end ScoringTurn

/-- The turns of some rules, from a score on. -/
def turnsFrom (score : ν) : List ScoringRule → List (ScoringTurn ν)
  | [] => []
  | r :: rest => ⟨r, score⟩ :: turnsFrom (ScoringTurn.after ⟨r, score⟩) rest

/-- The score after the turns of some rules. -/
def scoreAfter (score : ν) (rules : List ScoringRule) : ν :=
  rules.foldl (fun score r => ScoringTurn.after ⟨r, score⟩) score

theorem scoreAfter_append (score : ν) (front back : List ScoringRule) :
    scoreAfter score (front ++ back) = scoreAfter (scoreAfter score front) back :=
  List.foldl_append

theorem turnsFrom_rules (score : ν) (rules : List ScoringRule) :
    (turnsFrom score rules).map ScoringTurn.rule = rules := by
  induction rules generalizing score with
  | nil => rfl
  | cons r rest ih => rw [turnsFrom, List.map_cons, ih]

/-- Each turn starts from the score that the one before it left. -/
theorem turnsFrom_chain (score : ν) (rules : List ScoringRule) :
    (turnsFrom score rules).map ScoringTurn.before ++ [scoreAfter score rules] =
      score :: (turnsFrom score rules).map ScoringTurn.after := by
  induction rules generalizing score with
  | nil => rfl
  | cons r rest ih =>
    rw [turnsFrom, List.map_cons, List.map_cons, List.cons_append]
    exact congrArg (score :: ·) (ih _)

/-- So does each turn at which the adjustment is made, from the last one before it that was. -/
theorem turnsFrom_made_chain (score : ν) (rules : List ScoringRule) :
    let made := (turnsFrom score rules).filter ScoringTurn.isMade
    made.map ScoringTurn.before ++ [scoreAfter score rules] =
      score :: made.map ScoringTurn.after := by
  induction rules generalizing score with
  | nil => rfl
  | cons r rest ih =>
    dsimp only at ih ⊢
    rw [turnsFrom]
    rcases ScoringTurn.cases (⟨r, score⟩ : ScoringTurn ν) with ⟨made, -⟩ | ⟨skipped, stays, -⟩
    · rw [List.filter_cons_of_pos made, List.map_cons, List.map_cons, List.cons_append]
      exact congrArg (score :: ·) (ih _)
    · have score_ : scoreAfter score (r :: rest) = scoreAfter score rest :=
        congrArg (scoreAfter · rest) stays
      rw [List.filter_cons_of_neg (by simp [skipped]), score_, stays]
      exact ih score

/-! ## Assessments -/

theorem Tally.adjust_eq (t : Tally ν (AppliedAdjustment ν)) (r : ScoringRule) :
    let turn : ScoringTurn ν := ⟨r, t.score⟩
    t.adjust r =
      if turn.isMade then ⟨turn.after, t.applied ++ [turn.record]⟩ else t := by
  intro turn
  unfold Tally.adjust
  dsimp only
  split
  next skipped =>
    have next : turn.next? = none := skipped
    rw [if_neg (by simp [ScoringTurn.after_of_none next])]
  next x left =>
    have next : turn.next? = some x := left
    obtain ⟨made, after⟩ := ScoringTurn.after_of_next next
    rw [if_pos made, ScoringTurn.record, after]

/-- Adjustments record the turns at which they are made. -/
theorem foldl_adjust (t : Tally ν (AppliedAdjustment ν)) (rules : List ScoringRule) :
    rules.foldl Tally.adjust t =
      ⟨scoreAfter t.score rules,
        t.applied ++ ((turnsFrom t.score rules).filter ScoringTurn.isMade).map
          ScoringTurn.record⟩ := by
  induction rules generalizing t with
  | nil => simp [scoreAfter, turnsFrom]
  | cons r rest ih =>
    rw [List.foldl_cons, ih, Tally.adjust_eq, turnsFrom]
    have step : scoreAfter t.score (r :: rest) =
        scoreAfter (ScoringTurn.after ⟨r, t.score⟩) rest := rfl
    rw [step]
    rcases ScoringTurn.cases (⟨r, t.score⟩ : ScoringTurn ν) with ⟨made, -⟩ | ⟨skipped, stays, -⟩
    · rw [List.filter_cons_of_pos made, if_pos made, List.map_cons, List.append_assoc,
        List.singleton_append]
    · rw [List.filter_cons_of_neg (by simp [skipped]), if_neg (by simp [skipped]), stays]

/-- Adjusting a score judges the rules first and then gives those that matched their turns. -/
theorem adjustAll_eq (t : Tally ν (AppliedAdjustment ν)) (order : List ScoringRule) :
    t.adjustAll ctx order = (fun matching => matching.foldl Tally.adjust t) <$>
      matchingOf ctx order := by
  induction order generalizing t with
  | nil => rfl
  | cons r rest ih =>
    have turn (m : Match) (later : List ScoringRule) :
        later.foldl Tally.adjust (if m.matched then t.adjust r else t) =
          (if m.matched then r :: later else later).foldl Tally.adjust t := by
      split <;> rfl
    simp only [Tally.adjustAll, matchingOf, ih, map_eq_pure_bind, bind_assoc, pure_bind, turn]

/-- The assessment of a request under a profile, once the rules that match have had their turns. -/
def assessmentOf (id : String) (ctx : Context) (p : Profile)
    (adjusted : Tally ν (AppliedAdjustment ν)) : Assessment ν :=
  let scaled := Tally.scaleAll ctx p ⟨adjusted.score, []⟩
  let subScores : SubScores ν := ctx.subScores
  let blended := blend subScores.weighted scaled.score
  let score := clampScore blended
  { id := id
    requestId := ctx.requestId
    score := score
    level := p.thresholds.levelFor score
    profileUsed := p.id
    breakdown := {
      baseScore := Scalar.ofFloat p.baseScore
      adjustments := adjusted.applied
      multipliers := scaled.applied
      adjustedScore := scaled.score
      subScores := subScores
      weightedScore := subScores.weighted
      blendedScore := blended }
    assessedAt := ctx.timestamp }

/-- The score and the records that some rules make of the base score of a profile. -/
def Profile.adjustedBy (p : Profile) (matching : List ScoringRule) :
    Tally ν (AppliedAdjustment ν) :=
  matching.foldl Tally.adjust ⟨Scalar.ofFloat p.baseScore, []⟩

/-- An assessment depends on the rules only through those that match, in their order. -/
theorem assess_eq (id : String) (p : Profile) (rules : List ScoringRule) :
    (assess id ctx p rules : Judge (Assessment ν)) =
      (fun matching => assessmentOf id ctx p (p.adjustedBy matching)) <$>
        matchingOf ctx (orderedRules rules) := by
  have staged : (assess id ctx p rules : Judge (Assessment ν)) =
      assessmentOf id ctx p <$>
        Tally.adjustAll ctx ⟨Scalar.ofFloat p.baseScore, []⟩ (orderedRules rules) := rfl
  rw [staged, adjustAll_eq, ← comp_map]
  rfl

theorem fst_assess (id : String) (p : Profile) (rules : List ScoringRule) (cache : PatternCache) :
    ((assess id ctx p rules : Judge (Assessment ν)).run cache).1 =
      assessmentOf id ctx p
        (p.adjustedBy ((matchingOf ctx (orderedRules rules)).run cache).1) := by
  rw [assess_eq]
  rfl

/-- The name of an assessment is only passed on. -/
theorem assess_id (id id' : String) (p : Profile) (rules : List ScoringRule) :
    (assess id' ctx p rules : Judge (Assessment ν)) =
      (fun a => { a with id := id' }) <$> assess id ctx p rules := by
  rw [assess_eq, assess_eq, ← comp_map]
  rfl

/-- Where conditions are judged as alone, assessments are those of the rules that match alone. -/
theorem gives_assess_alone {kept : PatternCache → Prop} {rules : List ScoringRule}
    (alone : ∀ r ∈ rules, r.enabled = true → JudgesAlone kept r.conditions ctx) (id : String)
    (p : Profile) :
    Gives kept (assess id ctx p rules : Judge (Assessment ν)) (assessmentOf id ctx p
      (p.adjustedBy ((orderedRules rules).filter fun r => r.matchesAlone ctx))) := by
  rw [assess_eq, map_eq_pure_bind]
  exact (gives_matchingOf (forall_orderedRules alone)).bind (.pure _)

end

end Verdict
