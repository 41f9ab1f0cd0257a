import Verdict.Matching
import Verdict.Risk.Factors
import Verdict.Risk.ScoringRule

/-!
# Risk assessments

The score of a request starts from its profile's base score.  Matching scoring rules change it in
the order of their priority, active multipliers scale it, and the result is blended with the
weighted sub-scores.  All numbers are of one type of scalars.
-/

namespace Verdict

section

variable {ν : Type}

/-- A scoring rule that changed the score. -/
structure AppliedAdjustment (ν : Type) where
  ruleId : String
  ruleName : String
  adjustmentType : AdjustmentType
  value : ν
  delta : ν
  reason : String
  deriving Repr, BEq

/-- A multiplier that changed the score. -/
structure AppliedMultiplier (ν : Type) where
  factor : String
  multiplier : ν
  delta : ν
  deriving Repr, BEq

/-- Every intermediate value of an assessment. -/
structure Breakdown (ν : Type) where
  baseScore : ν
  adjustments : List (AppliedAdjustment ν)
  multipliers : List (AppliedMultiplier ν)
  adjustedScore : ν
  subScores : SubScores ν
  weightedScore : ν
  blendedScore : ν
  deriving Repr, BEq

/-- The risk of a request. -/
structure Assessment (ν : Type) where
  id : String
  requestId : String
  score : ν
  level : RiskLevel
  profileUsed : String
  breakdown : Breakdown ν
  assessedAt : Instant
  deriving Repr, BEq

variable [Scalar ν]

/-- The score with the record of what changed it. -/
structure Tally (ν α : Type) where
  score : ν
  applied : List α

/-- Applies the adjustment of a rule that matched; one that gives no finite score is skipped. -/
def Tally.adjust (t : Tally ν (AppliedAdjustment ν)) (r : ScoringRule) :
    Tally ν (AppliedAdjustment ν) :=
  let value : ν := Scalar.ofFloat r.adjustment.value
  match (r.adjustment.adjustmentType.apply t.score value).filter Scalar.isFinite with
  | none => t
  | some next =>
      ⟨next, t.applied ++
        [⟨r.id, r.name, r.adjustment.adjustmentType, value, next - t.score, r.adjustment.reason⟩]⟩

/-- Applies the rules that match, in turn. -/
def Tally.adjustAll (ctx : Context) (t : Tally ν (AppliedAdjustment ν)) :
    List ScoringRule → Judge (Tally ν (AppliedAdjustment ν))
  | [] => pure t
  | r :: rest => do
      let m ← matchConditions r.conditions ctx
      adjustAll ctx (if m.matched then t.adjust r else t) rest

/-- Applies a multiplier. -/
def Tally.scale (t : Tally ν (AppliedMultiplier ν)) (factor : String) (multiplier : Float) :
    Tally ν (AppliedMultiplier ν) :=
  let multiplier : ν := Scalar.ofFloat multiplier
  let next := t.score * multiplier
  ⟨next, t.applied ++ [⟨factor, multiplier, next - t.score⟩]⟩

/-- Applies the multipliers of a profile whose factors are active. -/
def Tally.scaleAll (ctx : Context) (p : Profile) (t : Tally ν (AppliedMultiplier ν)) :
    Tally ν (AppliedMultiplier ν) :=
  (p.multipliers.entries.filter fun (factor, _) => ctx.isActive factor).foldl
    (fun t (factor, multiplier) => t.scale factor multiplier) t

/-- The enabled scoring rules in the order of their evaluation. -/
def orderedRules (rules : List ScoringRule) : List ScoringRule :=
  sortByPriority ScoringRule.priority (rules.filter ScoringRule.enabled)

/-- The blend of the weighted sub-scores and the adjusted score. -/
def blend (weighted adjusted : ν) : ν :=
  weighted * Scalar.ratio 7 10 + adjusted * Scalar.ratio 3 10

/-- Assesses the risk of a request under a profile. -/
def assess (id : String) (ctx : Context) (p : Profile) (rules : List ScoringRule) :
    Judge (Assessment ν) := do
  let base : ν := Scalar.ofFloat p.baseScore
  let adjusted ← Tally.adjustAll ctx ⟨base, []⟩ (orderedRules rules)
  let scaled := Tally.scaleAll ctx p ⟨adjusted.score, []⟩
  let subScores : SubScores ν := ctx.subScores
  let blended := blend subScores.weighted scaled.score
  let score := clampScore blended
  return {
    id := id
    requestId := ctx.requestId
    score := score
    level := p.thresholds.levelFor score
    profileUsed := p.id
    breakdown := {
      baseScore := base
      adjustments := adjusted.applied
      multipliers := scaled.applied
      adjustedScore := scaled.score
      subScores := subScores
      weightedScore := subScores.weighted
      blendedScore := blended }
    assessedAt := ctx.timestamp }

/-- The ids of the rules that changed the score. -/
def Assessment.appliedRules (a : Assessment ν) : List String :=
  a.breakdown.adjustments.map AppliedAdjustment.ruleId

end

/-- The JSON form of sub-scores. -/
def SubScores.toJson (s : SubScores Float) : Json :=
  .obj [("data_sensitivity", .ofFloat s.sensitivity), ("exposure", .ofFloat s.exposure),
    ("access_controls", .ofFloat s.controls), ("vulnerabilities", .ofFloat s.vulnerability),
    ("compliance", .ofFloat s.compliance)]

/-- The JSON form of an applied adjustment. -/
def AppliedAdjustment.toJson (a : AppliedAdjustment Float) : Json :=
  .obj [("rule_id", .str a.ruleId), ("rule_name", .str a.ruleName),
    ("adjustment_type", Named.toJson a.adjustmentType), ("value", .ofFloat a.value),
    ("delta", .ofFloat a.delta), ("reason", .str a.reason)]

/-- The JSON form of an applied multiplier. -/
def AppliedMultiplier.toJson (a : AppliedMultiplier Float) : Json :=
  .obj [("factor", .str a.factor), ("multiplier", .ofFloat a.multiplier),
    ("delta", .ofFloat a.delta)]

/-- The JSON form of a breakdown. -/
def Breakdown.toJson (b : Breakdown Float) : Json :=
  .obj [("base_score", .ofFloat b.baseScore),
    ("adjustments", .arr (b.adjustments.map AppliedAdjustment.toJson)),
    ("multipliers", .arr (b.multipliers.map AppliedMultiplier.toJson)),
    ("adjusted_score", .ofFloat b.adjustedScore), ("sub_scores", b.subScores.toJson),
    ("weighted_score", .ofFloat b.weightedScore), ("blended_score", .ofFloat b.blendedScore)]

/-- The JSON form of an assessment. -/
def Assessment.toJson (a : Assessment Float) : Json :=
  .obj [("id", .str a.id), ("request_id", .str a.requestId), ("score", .ofFloat a.score),
    ("level", Named.toJson a.level), ("profile_used", .str a.profileUsed),
    ("applied_rules", .ofStrings a.appliedRules), ("breakdown", a.breakdown.toJson),
    ("assessed_at", a.assessedAt.toJson)]

end Verdict
