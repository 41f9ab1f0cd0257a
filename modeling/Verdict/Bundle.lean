import Verdict.Digest
import Verdict.Risk.ScoringRule
import Verdict.Risk.Profile
import Verdict.Yaml.Writer

/-!
# Export bundles

A bundle is a copy of all managed entities with a checksum over their canonical JSON, so that a
changed bundle is found out by `Bundle.verify`.
-/

namespace Verdict

/-- All entities of an engine. -/
structure Holdings where
  rules : List Rule := []
  scoringRules : List ScoringRule := []
  profiles : List Profile := []
  deriving Repr, BEq, Inhabited

namespace Holdings

/-- The members of the JSON form. -/
def members (h : Holdings) : List (String × Json) :=
  [("rules", .arr (h.rules.map Rule.toJson)),
    ("scoring_rules", .arr (h.scoringRules.map ScoringRule.toJson)),
    ("profiles", .arr (h.profiles.map Profile.toJson))]

/-- The number of entities. -/
def size (h : Holdings) : Nat :=
  h.rules.length + h.scoringRules.length + h.profiles.length

/-- The canonical text of the entities. -/
def canonical (h : Holdings) : String :=
  (Json.obj h.members).canonical

/-- The checksum of the entities. -/
def checksum (h : Holdings) : String :=
  Digest.ofText h.canonical

/-- The names of the fields. -/
def fieldNames : List FieldName :=
  [⟨"rules", []⟩, ⟨"scoring_rules", []⟩, ⟨"profiles", []⟩]

/-- Reads the entities from the fields of a record. -/
def ofFields? (now : Instant) (fields : Fields) : Option Holdings := do
  return {
    rules := ← fields.orElse "rules" [] (Datum.list? (Rule.ofDatum? now))
    scoringRules := ← fields.orElse "scoring_rules" [] (Datum.list? (ScoringRule.ofDatum? now))
    profiles := ← fields.orElse "profiles" [] (Datum.list? (Profile.ofDatum? now)) }

/-- Everything that is wrong with the entities. -/
def issues (h : Holdings) : List Issue :=
  h.rules.flatMap Rule.issues ++ h.scoringRules.flatMap ScoringRule.issues ++
    h.profiles.flatMap Profile.issues

end Holdings

/-- A checksummed copy of all entities. -/
structure Bundle where
  formatVersion : String
  exportedAt : Instant
  checksum : String
  holdings : Holdings
  deriving Repr, BEq, Inhabited

namespace Bundle

/-- The layout that is written. -/
def currentFormat : String := "1.0"

/-- A bundle of some entities. -/
def new (now : Instant) (h : Holdings) : Bundle :=
  ⟨currentFormat, now, h.checksum, h⟩

/-- The checksum that a bundle should have. -/
def computed (b : Bundle) : String :=
  b.holdings.checksum

/-- Whether the contents have the checksum of the bundle. -/
def verify (b : Bundle) : Except Failure Unit :=
  if b.computed == b.checksum then .ok ()
  else .error (.integrity b.checksum b.computed)

/-- A bundle has its checksum when it is made. -/
theorem verify_new (now : Instant) (h : Holdings) : (new now h).verify = .ok () :=
  if_pos (beq_self_eq_true h.checksum)

/-- The names of a bundle's fields. -/
def fieldNames : List FieldName :=
  [⟨"format_version", []⟩, ⟨"exported_at", []⟩, ⟨"checksum", []⟩] ++ Holdings.fieldNames

/-- Reads a bundle. -/
def ofDatum? (now : Instant) (d : Datum) : Option Bundle := do
  let fields ← d.fields? fieldNames
  return {
    formatVersion := ← fields.required "format_version" Datum.text?
    exportedAt := ← fields.required "exported_at" Datum.instant?
    checksum := ← fields.required "checksum" Datum.text?
    holdings := ← Holdings.ofFields? now fields }

/-- The JSON form of a bundle. -/
def toJson (b : Bundle) : Json :=
  .obj ([("format_version", .str b.formatVersion), ("exported_at", b.exportedAt.toJson),
    ("checksum", .str b.checksum)] ++ b.holdings.members)

/-- The text of a bundle as JSON. -/
def jsonText (b : Bundle) : String :=
  b.toJson.pretty

/-- The text of a bundle as YAML. -/
def yamlText (b : Bundle) : String :=
  Yaml.text b.toJson

end Bundle

end Verdict
