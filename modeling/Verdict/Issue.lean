import Verdict.Number.Decimal

/-!
# What can be wrong with an entity

Validation collects every `Issue` of a rule, a scoring rule or a profile; `Issue.text` words them.
-/

namespace Verdict

/-- Something that keeps an entity from being accepted. -/
inductive Issue where
  | badFieldName (field : String)
  | badWeight (field : String) (weight : Float)
  | badPattern (field : String)
  | noPattern (field : String)
  | noRanges (field : String)
  | badRange (field range : String)
  | needsNumber (field operator : String)
  | needsValue (field operator : String)
  | noId (kind : String)
  | noName (kind : String)
  | noConditions (rule : String)
  | noActions (rule : String)
  | badPriority (rule : String) (priority low high : Int)
  | badScoringPriority (rule : String)
  | badScopeRange (range : String)
  | badWindow (start stop : Nat)
  | badDay
  | badBaseScore (profile : String)
  | badThresholds (profile : String)
  | badMultiplier (profile factor : String)
  | endlessAdjustment (rule : String)
  | badFactor (rule : String)
  | other (text : String)
  deriving Repr, BEq

/-- The wording of an issue. -/
def Issue.text : Issue → String
  | .badFieldName field => s!"invalid field name '{field}'"
  | .badWeight field weight =>
      s!"condition on '{field}' has invalid weight {Number.plain weight}"
  | .badPattern field => s!"invalid regex for '{field}'"
  | .noPattern field => s!"regex condition on '{field}' has no pattern"
  | .noRanges field => s!"ip_in_range on '{field}' has no ranges"
  | .badRange field range => s!"invalid CIDR '{range}' on '{field}'"
  | .needsNumber field operator => s!"{operator} on '{field}' needs a numeric value"
  | .needsValue field operator => s!"{operator} on '{field}' needs a value"
  | .noId kind => s!"{kind} id is required"
  | .noName kind => s!"{kind} name is required"
  | .noConditions rule => s!"rule '{rule}' needs at least one condition"
  | .noActions rule => s!"rule '{rule}' needs at least one action"
  | .badPriority rule priority low high =>
      s!"rule '{rule}' priority {priority} outside [{low}, {high}]"
  | .badScoringPriority rule => s!"scoring rule '{rule}' priority out of range"
  | .badScopeRange range => s!"invalid scope ip range '{range}'"
  | .badWindow start stop => s!"invalid time window {start}-{stop}"
  | .badDay => "time window days must be 0 (Monday) to 6 (Sunday)"
  | .badBaseScore profile => s!"profile '{profile}' base score must be in [0, 100]"
  | .badThresholds profile => s!"profile '{profile}' thresholds must be strictly increasing"
  | .badMultiplier profile factor =>
      s!"profile '{profile}' multiplier '{factor}' must be a non-negative number"
  | .endlessAdjustment rule => s!"scoring rule '{rule}' adjustment must be finite"
  | .badFactor rule => s!"scoring rule '{rule}' multiply/divide value must be positive"
  | .other text => text

end Verdict
