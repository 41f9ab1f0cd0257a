import Verdict.Action
import Verdict.Condition.Basic
import Verdict.Entity
import Verdict.Scope

/-!
# Rules

A `Rule` joins conditions with the actions for when they match.  Policy, compliance and
classification rules all have this shape.
-/

namespace Verdict

/-- Where a rule is in its life. -/
inductive Status where
  | draft
  | active
  | inactive
  | archived
  deriving Repr, DecidableEq, Inhabited

instance : Named Status where
  all := [.draft, .active, .inactive, .archived]
  name
    | .draft => "draft"
    | .active => "active"
    | .inactive => "inactive"
    | .archived => "archived"

namespace Datum

/-- Reads a priority, an integer of 32 bits. -/
def priority? : Datum → Option Int :=
  int? (-2147483648) 2147483647

/-- Reads a version, a natural number of 64 bits. -/
def version? (d : Datum) : Option UInt64 :=
  (d.nat? (UInt64.size - 1)).map UInt64.ofNat

end Datum

/-- A version as a JSON number. -/
def Json.ofVersion (v : UInt64) : Json :=
  .ofNat v.toNat

/-- Conditions and the actions for when they match.  Rules of higher priority are evaluated
    first; a fail-fast rule that blocks ends the evaluation. -/
structure Rule where
  id : String
  name : String
  description : Option String := none
  priority : Int := 0
  enabled : Bool := true
  status : Status := .active
  conditions : List Condition := []
  actions : List Action := []
  failFast : Bool := false
  scope : Scope := {}
  version : UInt64 := 1
  createdAt : Instant
  updatedAt : Instant
  deriving Repr, BEq, Inhabited

namespace Rule

/-- Whether a rule is considered at all. -/
def isEnabled (r : Rule) : Bool :=
  r.enabled && r.status == .active

/-- Everything that is wrong with a rule. -/
def issues (r : Rule) : List Issue :=
  (if Text.isAllBlank r.id then [.noId "rule"] else []) ++
    (if Text.isAllBlank r.name then [.noName "rule"] else []) ++
    (if r.conditions.isEmpty then [.noConditions r.id] else []) ++
    (if r.actions.isEmpty then [.noActions r.id] else []) ++
    (if isPriority r.priority then []
      else [.badPriority r.id r.priority minPriority maxPriority]) ++
    r.conditions.flatMap Condition.issues ++ r.scope.issues

instance : Entity Rule where
  kind := "rule"
  id := Rule.id
  name := Rule.name
  version := Rule.version
  isEnabled := Rule.isEnabled
  issues := Rule.issues
  succeed r version now := { r with version := version + 1, updatedAt := now }

/-- A rule made of its parts, if nothing is wrong with it. -/
def build (now : Instant) (id name : String) (priority : Int) (conditions : List Condition)
    (actions : List Action) : Except Failure Rule :=
  Entity.validate
    { id := id, name := name, priority := priority, conditions := conditions, actions := actions,
      createdAt := now, updatedAt := now }

/-- Whether a rule is considered for a request. -/
def isApplicable (r : Rule) (ctx : Context) : Bool :=
  r.isEnabled && r.scope.holds ctx

/-- The actions that are not switched off. -/
def enabledActions (r : Rule) : List Action :=
  r.actions.filter Action.enabled

/-- The names of a rule's fields. -/
def fieldNames : List FieldName :=
  [⟨"id", []⟩, ⟨"name", []⟩, ⟨"description", []⟩, ⟨"priority", []⟩, ⟨"enabled", []⟩,
    ⟨"status", []⟩, ⟨"conditions", []⟩, ⟨"actions", []⟩, ⟨"fail_fast", ["failFast"]⟩,
    ⟨"scope", []⟩, ⟨"version", []⟩, ⟨"created_at", []⟩, ⟨"updated_at", []⟩]

/-- Reads a rule; times that are left out are the present one. -/
def ofDatum? (now : Instant) (d : Datum) : Option Rule := do
  let fields ← d.fields? fieldNames
  return {
    id := ← fields.required "id" Datum.text?
    name := ← fields.required "name" Datum.text?
    description := ← fields.optional "description" Datum.text?
    priority := ← fields.orElse "priority" 0 Datum.priority?
    enabled := ← fields.orElse "enabled" true Datum.bool?
    status := ← fields.orElse "status" .active Named.ofDatum?
    conditions := ← fields.orElse "conditions" [] (Datum.list? Condition.ofDatum?)
    actions := ← fields.orElse "actions" [] (Datum.list? Action.ofDatum?)
    failFast := ← fields.orElse "fail_fast" false Datum.bool?
    scope := ← fields.orElse "scope" {} Scope.ofDatum?
    version := ← fields.orElse "version" 1 Datum.version?
    createdAt := ← fields.orElse "created_at" now Datum.instant?
    updatedAt := ← fields.orElse "updated_at" now Datum.instant? }

/-- The JSON form of a rule. -/
def toJson (r : Rule) : Json :=
  .obj [("id", .str r.id), ("name", .str r.name), ("description", .ofOptional r.description),
    ("priority", .ofInt r.priority), ("enabled", .bool r.enabled),
    ("status", Named.toJson r.status), ("conditions", .arr (r.conditions.map Condition.toJson)),
    ("actions", .arr (r.actions.map Action.toJson)), ("fail_fast", .bool r.failFast),
    ("scope", r.scope.toJson), ("version", .ofVersion r.version),
    ("created_at", r.createdAt.toJson), ("updated_at", r.updatedAt.toJson)]

end Rule

end Verdict
