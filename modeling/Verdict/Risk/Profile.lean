import Verdict.Number.Scalar
import Verdict.Rule

/-!
# Risk profiles

A profile holds the base score of a class of data, the multipliers of factors and the thresholds
of risk levels.
-/

namespace Verdict

/-- How high a risk is; also the class of data that a profile is for. -/
inductive RiskLevel where
  | low
  | medium
  | high
  | critical
  deriving Repr, DecidableEq, Inhabited

instance : Named RiskLevel where
  all := [.low, .medium, .high, .critical]
  name
    | .low => "low"
    | .medium => "medium"
    | .high => "high"
    | .critical => "critical"

/-- The scores at which levels start. -/
structure Thresholds where
  low : Float := 20
  medium : Float := 40
  high : Float := 60
  critical : Float := 80
  deriving Repr, BEq, Inhabited

namespace Thresholds

/-- The level of a score.  Whatever lies below the medium threshold is low. -/
def levelFor {ν : Type} [Scalar ν] (t : Thresholds) (score : ν) : RiskLevel :=
  if Scalar.atMost (Scalar.ofFloat t.critical) score then .critical
  else if Scalar.atMost (Scalar.ofFloat t.high) score then .high
  else if Scalar.atMost (Scalar.ofFloat t.medium) score then .medium
  else .low

/-- Whether each threshold lies above the one before it. -/
def isIncreasing (t : Thresholds) : Bool :=
  Number.less t.low t.medium && Number.less t.medium t.high && Number.less t.high t.critical

/-- Reads thresholds. -/
def ofDatum? (d : Datum) : Option Thresholds := do
  let fields ← d.fields? [⟨"low", []⟩, ⟨"medium", []⟩, ⟨"high", []⟩, ⟨"critical", []⟩]
  return {
    low := ← fields.required "low" Datum.float?
    medium := ← fields.required "medium" Datum.float?
    high := ← fields.required "high" Datum.float?
    critical := ← fields.required "critical" Datum.float? }

/-- The JSON form of thresholds. -/
def toJson (t : Thresholds) : Json :=
  .obj [("low", .ofFloat t.low), ("medium", .ofFloat t.medium), ("high", .ofFloat t.high),
    ("critical", .ofFloat t.critical)]

end Thresholds

/-- The base score of a class of data, with multipliers and thresholds. -/
structure Profile where
  id : String
  name : String
  description : Option String := none
  category : RiskLevel
  baseScore : Float
  multipliers : KeyMap Float := .empty
  thresholds : Thresholds := {}
  isDefault : Bool := false
  version : UInt64 := 1
  updatedAt : Instant
  deriving Repr, BEq, Inhabited

namespace Profile

/-- A profile with the defaults. -/
def new (now : Instant) (id : String) (category : RiskLevel) (baseScore : Float) : Profile :=
  { id := id, name := id, category := category, baseScore := baseScore, updatedAt := now }

/-- The profile with one more multiplier. -/
def withMultiplier (p : Profile) (factor : String) (multiplier : Float) : Profile :=
  { p with multipliers := p.multipliers.insert factor multiplier }

/-- Everything that is wrong with a profile. -/
def issues (p : Profile) : List Issue :=
  (if Text.isAllBlank p.id then [.noId "profile"] else []) ++
    (if Text.isAllBlank p.name then [.noName "profile"] else []) ++
    (if Number.atMost 0 p.baseScore && Number.atMost p.baseScore 100 then []
      else [.badBaseScore p.id]) ++
    (if p.thresholds.isIncreasing then [] else [.badThresholds p.id]) ++
    (p.multipliers.entries.filter fun (_, x) => !Condition.isWeight x).map fun (factor, _) =>
      .badMultiplier p.id factor

instance : Entity Profile where
  kind := "risk profile"
  id := Profile.id
  name := Profile.name
  version := Profile.version
  isEnabled _ := true
  issues := Profile.issues
  succeed p version now := { p with version := version + 1, updatedAt := now }

/-- The names of a profile's fields. -/
def fieldNames : List FieldName :=
  ["id", "name", "description", "category", "base_score", "multipliers", "thresholds",
    "is_default", "version", "updated_at"].map fun name => ⟨name, []⟩

/-- Reads a profile; a time that is left out is the present one. -/
def ofDatum? (now : Instant) (d : Datum) : Option Profile := do
  let fields ← d.fields? fieldNames
  return {
    id := ← fields.required "id" Datum.text?
    name := ← fields.required "name" Datum.text?
    description := ← fields.optional "description" Datum.text?
    category := ← fields.required "category" Named.ofDatum?
    baseScore := ← fields.required "base_score" Datum.float?
    multipliers := ← fields.orElse "multipliers" .empty (Datum.map? Datum.float?)
    thresholds := ← fields.orElse "thresholds" {} Thresholds.ofDatum?
    isDefault := ← fields.orElse "is_default" false Datum.bool?
    version := ← fields.orElse "version" 1 Datum.version?
    updatedAt := ← fields.orElse "updated_at" now Datum.instant? }

/-- The JSON form of a profile. -/
def toJson (p : Profile) : Json :=
  .obj [("id", .str p.id), ("name", .str p.name), ("description", .ofOptional p.description),
    ("category", Named.toJson p.category), ("base_score", .ofFloat p.baseScore),
    ("multipliers", .obj (p.multipliers.map Json.ofFloat).entries),
    ("thresholds", p.thresholds.toJson), ("is_default", .bool p.isDefault),
    ("version", .ofVersion p.version), ("updated_at", p.updatedAt.toJson)]

/-- One profile for each class of data; the medium one is the default. -/
def standardSet (now : Instant) : List Profile :=
  [{ (((new now "critical-data" .critical 70).withMultiplier "external_access" 1.3).withMultiplier
        "unencrypted_transport" 1.5) with thresholds := ⟨10, 30, 50, 70⟩ },
    { (((new now "high-risk-data" .high 50).withMultiplier "pii_detected" 1.2).withMultiplier
        "external_access" 1.2) with thresholds := ⟨15, 35, 55, 75⟩ },
    { ((new now "standard" .medium 30).withMultiplier "external_access" 1.1) with
      isDefault := true },
    { new now "low-risk-data" .low 10 with thresholds := ⟨25, 50, 75, 90⟩ }]

end Profile

end Verdict
