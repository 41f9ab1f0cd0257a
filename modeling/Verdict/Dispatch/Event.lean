import Verdict.Digest
import Verdict.Payload

/-!
# Events

An `Event` tells of one action of one rule on one request.  Its key is the same whenever the same
action is published again, so that a consumer can drop repetitions.
-/

namespace Verdict

namespace Event

/-- The text that a key is the digest of. -/
def keyText (requestId ruleId action : String) : String :=
  s!"{requestId}:{ruleId}:{action}"

/-- The key of an action of a rule on a request. -/
def keyOf (requestId ruleId action : String) : String :=
  Digest.ofText (keyText requestId ruleId action)

end Event

/-- What is published of an action. -/
structure Event where
  id : String
  key : String
  requestId : String
  ruleId : String
  ruleName : String
  verdict : String
  allow : Bool
  timestamp : Instant
  method : String
  path : String
  clientIp : Option String
  userId : Option String
  payload : Payload
  deriving Repr, BEq

namespace Event

/-- The event of a payload. -/
def new (id : String) (d : Decision) (rule : MatchedRule) (ctx : Context) (payload : Payload) :
    Event where
  id := id
  key := keyOf d.requestId rule.ruleId (Named.name payload.actionType)
  requestId := d.requestId
  ruleId := rule.ruleId
  ruleName := rule.ruleName
  verdict := d.verdict
  allow := d.allow
  timestamp := d.timestamp
  method := ctx.method
  path := ctx.path
  clientIp := ctx.clientIp
  userId := ctx.userId
  payload := payload

/-- The JSON form of an event. -/
def toJson (e : Event) : Json :=
  .obj ([("event_id", .str e.id), ("idempotency_key", .str e.key),
    ("request_id", .str e.requestId), ("rule_id", .str e.ruleId),
    ("rule_name", .str e.ruleName), ("verdict", .str e.verdict), ("allow", .bool e.allow),
    ("timestamp", e.timestamp.toJson), ("method", .str e.method), ("path", .str e.path),
    ("client_ip", .ofOptional e.clientIp), ("user_id", .ofOptional e.userId)] ++
      e.payload.members)

end Event

end Verdict
