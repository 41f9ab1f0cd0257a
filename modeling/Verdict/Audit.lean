import Verdict.Decision
import Verdict.Risk.Assessment
import Verdict.Text.Shown

/-!
# The audit

Every decision, every assessment, every action that was carried out and every change of an entity
leaves a note.
-/

namespace Verdict

/-- How an entity was changed. -/
inductive Change where
  | create
  | update
  | delete
  deriving Repr, DecidableEq

instance : Named Change where
  all := [.create, .update, .delete]
  name
    | .create => "create"
    | .update => "update"
    | .delete => "delete"

/-- Something worth a note. -/
inductive Note where
  | decided (decision : Decision)
  | assessed (assessment : Assessment Float)
  | dispatched (requestId ruleId action topic key : String)
  /-- The version is that after the change; a deleted entity has none. -/
  | changed (kind id : String) (version : Option UInt64) (change : Change)
  deriving Repr, BEq

namespace Note

/-- The text of an optional version. -/
def versionText : Option UInt64 → String
  | some version => s!"Some({version.toNat})"
  | none => "None"

/-- What kind of note it is. -/
def eventType : Note → String
  | .decided _ => "decision"
  | .assessed _ => "risk_assessment"
  | .dispatched _ _ _ _ _ => "action_dispatched"
  | .changed _ _ _ _ => "entity_change"

/-- What happened, in words. -/
def message : Note → String
  | .decided _ => "Decision resolved"
  | .assessed _ => "Risk assessed"
  | .dispatched _ _ _ _ _ => "Action dispatched"
  | .changed _ _ _ _ => "Managed entity changed"

/-- The members of the JSON form that depend on the kind of note. -/
def details : Note → List (String × Json)
  | .decided d =>
      [("request_id", .str d.requestId), ("allow", .bool d.allow), ("verdict", .str d.verdict),
        ("reason", .str d.reason), ("matched_rules", .str (Text.shownList d.matchedIds)),
        ("evaluated_rules", .ofNat d.evaluatedRules),
        ("short_circuited", .bool d.shortCircuited)]
  | .assessed a =>
      [("assessment_id", .str a.id), ("request_id", .str a.requestId),
        ("score", .ofFloat a.score), ("level", Named.toJson a.level),
        ("profile", .str a.profileUsed),
        ("applied_rules", .str (Text.shownList a.appliedRules))]
  | .dispatched requestId ruleId action topic key =>
      [("request_id", .str requestId), ("rule_id", .str ruleId), ("action", .str action),
        ("topic", .str topic), ("idempotency_key", .str key)]
  | .changed kind id version change =>
      [("kind", .str kind), ("id", .str id), ("version", .str (versionText version)),
        ("operation", Named.toJson change)]

/-- The JSON form of a note. -/
def toJson (n : Note) : Json :=
  .obj ([("event_type", .str n.eventType), ("message", .str n.message)] ++ n.details)

end Note

end Verdict
