import Verdict.Number.Scalar
import Verdict.Rule

/-!
# Scoring rules

A scoring rule changes the running score of a request when its conditions match.
-/

namespace Verdict

/-- How a scoring rule changes the running score. -/
inductive AdjustmentType where
  | add
  | subtract
  | multiply
  | divide
  | set
  deriving Repr, DecidableEq, Inhabited

instance : Named AdjustmentType where
  all := [.add, .subtract, .multiply, .divide, .set]
  name
    | .add => "add"
    | .subtract => "subtract"
    | .multiply => "multiply"
    | .divide => "divide"
    | .set => "set"

/-- The score after an adjustment; nothing divides by zero. -/
def AdjustmentType.apply {ν : Type} [Scalar ν] (t : AdjustmentType) (current value : ν) :
    Option ν :=
  match t with
  | .add => some (current + value)
  | .subtract => some (current - value)
  | .multiply => some (current * value)
  | .divide => if Scalar.same value (Scalar.nat 0) then none else some (current / value)
  | .set => some value

/-- A change of the running score. -/
structure Adjustment where
  adjustmentType : AdjustmentType
  value : Float
  reason : String := ""
  deriving Repr, BEq, Inhabited

namespace Adjustment

/-- Reads an adjustment. -/
def ofDatum? (d : Datum) : Option Adjustment := do
  let fields ← d.fields? [⟨"type", []⟩, ⟨"value", []⟩, ⟨"reason", []⟩]
  return {
    adjustmentType := ← fields.required "type" Named.ofDatum?
    value := ← fields.required "value" Datum.float?
    reason := ← fields.orElse "reason" "" Datum.text? }

/-- The JSON form of an adjustment. -/
def toJson (a : Adjustment) : Json :=
  .obj [("type", Named.toJson a.adjustmentType), ("value", .ofFloat a.value),
    ("reason", .str a.reason)]

end Adjustment

/-- Conditions and the change of the score for when they match. -/
structure ScoringRule where
  id : String
  name : String
  priority : Int := 0
  enabled : Bool := true
  conditions : List Condition := []
  adjustment : Adjustment
  version : UInt64 := 1
  updatedAt : Instant
  deriving Repr, BEq, Inhabited

namespace ScoringRule

/-- A scoring rule with the defaults. -/
def new (now : Instant) (id : String) (conditions : List Condition) (type : AdjustmentType)
    (value : Float) : ScoringRule :=
  { id := id, name := id, conditions := conditions, adjustment := ⟨type, value, ""⟩,
    updatedAt := now }

/-- Everything that is wrong with a scoring rule. -/
def issues (r : ScoringRule) : List Issue :=
  let value := r.adjustment.value
  let scales := r.adjustment.adjustmentType == .multiply || r.adjustment.adjustmentType == .divide
  (if Text.isAllBlank r.id then [.noId "scoring rule"] else []) ++
    (if Text.isAllBlank r.name then [.noName "scoring rule"] else []) ++
    (if isPriority r.priority then [] else [.badScoringPriority r.id]) ++
    (if Number.isFinite value then [] else [.endlessAdjustment r.id]) ++
    (if scales && Number.atMost value 0 then [.badFactor r.id] else []) ++
    r.conditions.flatMap Condition.issues

instance : Entity ScoringRule where
  kind := "scoring rule"
  id := ScoringRule.id
  name := ScoringRule.name
  version := ScoringRule.version
  isEnabled := ScoringRule.enabled
  issues := ScoringRule.issues
  succeed r version now := { r with version := version + 1, updatedAt := now }

/-- The names of a scoring rule's fields. -/
def fieldNames : List FieldName :=
  ["id", "name", "priority", "enabled", "conditions", "adjustment", "version",
    "updated_at"].map fun name => ⟨name, []⟩

/-- Reads a scoring rule; a time that is left out is the present one. -/
def ofDatum? (now : Instant) (d : Datum) : Option ScoringRule := do
  let fields ← d.fields? fieldNames
  return {
    id := ← fields.required "id" Datum.text?
    name := ← fields.required "name" Datum.text?
    priority := ← fields.orElse "priority" 0 Datum.priority?
    enabled := ← fields.orElse "enabled" true Datum.bool?
    conditions := ← fields.orElse "conditions" [] (Datum.list? Condition.ofDatum?)
    adjustment := ← fields.required "adjustment" Adjustment.ofDatum?
    version := ← fields.orElse "version" 1 Datum.version?
    updatedAt := ← fields.orElse "updated_at" now Datum.instant? }

/-- The JSON form of a scoring rule. -/
def toJson (r : ScoringRule) : Json :=
  .obj [("id", .str r.id), ("name", .str r.name), ("priority", .ofInt r.priority),
    ("enabled", .bool r.enabled), ("conditions", .arr (r.conditions.map Condition.toJson)),
    ("adjustment", r.adjustment.toJson), ("version", .ofVersion r.version),
    ("updated_at", r.updatedAt.toJson)]

end ScoringRule

end Verdict
