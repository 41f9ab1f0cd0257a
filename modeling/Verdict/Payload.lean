import Verdict.Config

/-!
# Payloads

Parameters are looked at when an action is carried out, not when its rule is stored.
`Payload.ofAction?` reads them: it refuses an action whose parameters make no sense, and it fills
in what is left out.  `ActionType.topic?` says where the payload goes.
-/

namespace Verdict

/-- The topic under which actions of a type are published; allowing a request publishes
    nothing. -/
def ActionType.topic? (topics : Topics) : ActionType → Option String
  | .allow => none
  | .block => some topics.blockRequests
  | .alert => some topics.securityAlerts
  | .log => some topics.auditLog
  | .notify => some topics.notifications
  | .quarantine => some topics.quarantine
  | .rateLimit | .throttle => some topics.rateLimits
  | .redirect => some topics.redirects
  | .updateRule => some topics.ruleUpdates

/-- What an action asks for, with its parameters read.  Spans are in seconds. -/
inductive Payload where
  | block (reason : String)
  | alert (severity message : String)
  | log (level message : String)
  | notify (channel message : String)
  | quarantine (reason : String) (duration : Option Nat)
  | rateLimit (limit : Float) (window : Nat)
  | throttle (limit : Float) (window : Nat)
  | redirect (url : String) (status : Nat)
  | updateRule (target : Option String) (parameters : KeyMap Value)
  deriving Repr, BEq

/-- Why the parameters of an action make no sense. -/
inductive ParameterFault where
  | noChannel
  | noLimit
  | badWindow
  | noUrl
  | badStatus (code : Float)
  deriving Repr, BEq

/-- The wording of a parameter fault. -/
def ParameterFault.message : ParameterFault → String
  | .noChannel => "notify requires a 'channel' parameter"
  | .noLimit => "rate limits require a positive 'limit' parameter"
  | .badWindow => "'window_secs' must be a positive number"
  | .noUrl => "redirect requires a 'url' parameter"
  | .badStatus code => s!"redirect status {Number.plain code} is not a 3xx code"

namespace Action

/-- The text of a parameter. -/
def textOf? (a : Action) (name : String) : Option String :=
  (a.parameters.get? name).bind Value.text?

/-- The text of a parameter that holds more than blanks. -/
def wordOf? (a : Action) (name : String) : Option String :=
  (a.textOf? name).filter fun s => !Text.isAllBlank s

/-- The number of a parameter, if it is positive. -/
def positiveOf? (a : Action) (name : String) : Option Float :=
  ((a.parameters.get? name).bind Value.number?).filter fun x => Number.less 0 x

end Action

namespace Payload

/-- The seconds of a window that is not given. -/
def defaultWindow : Nat := 60

/-- The status of a redirect that gives none. -/
def defaultStatus : Nat := 302

/-- Whole seconds, as many as 64 bits can count. -/
def seconds (x : Float) : Nat :=
  Number.whole (UInt64.size - 1) x

/-- The limit and the window of an action that limits a rate. -/
def limits? (a : Action) : Except ParameterFault (Float × Nat) :=
  match a.positiveOf? "limit" with
  | none => .error .noLimit
  | some limit =>
      match a.parameters.get? "window_secs", a.positiveOf? "window_secs" with
      | none, _ => .ok (limit, defaultWindow)
      | some _, some window => .ok (limit, seconds window)
      | some _, none => .error .badWindow

/-- The status of a redirect: a number of three digits that starts with 3. -/
def status? (a : Action) : Except ParameterFault Nat :=
  match (a.parameters.get? "status").bind Value.number? with
  | none => .ok defaultStatus
  | some code =>
      if Number.atMost 300 code && Number.less code 400 then .ok (Number.whole 65535 code)
      else .error (.badStatus code)

/-- The payload of an action of a rule that matched; allowing a request has none. -/
def ofAction? (ruleName : String) (a : Action) : Except ParameterFault (Option Payload) :=
  let message := (a.textOf? "message").getD s!"rule '{ruleName}' matched"
  let reason := (a.textOf? "reason").getD ruleName
  match a.actionType with
  | .allow => .ok none
  | .block => .ok (some (.block reason))
  | .alert => .ok (some (.alert ((a.textOf? "severity").getD "medium") message))
  | .log => .ok (some (.log ((a.textOf? "level").getD "info") message))
  | .notify =>
      match a.wordOf? "channel" with
      | some channel => .ok (some (.notify channel message))
      | none => .error .noChannel
  | .quarantine =>
      .ok (some (.quarantine reason ((a.positiveOf? "duration_secs").map seconds)))
  | .rateLimit => (limits? a).map fun (limit, window) => some (.rateLimit limit window)
  | .throttle => (limits? a).map fun (limit, window) => some (.throttle limit window)
  | .redirect =>
      match a.wordOf? "url" with
      | some url => (status? a).map fun status => some (.redirect url status)
      | none => .error .noUrl
  | .updateRule => .ok (some (.updateRule (a.textOf? "rule_id") a.parameters))

/-- The type of action that a payload is of. -/
def actionType : Payload → ActionType
  | .block _ => .block
  | .alert _ _ => .alert
  | .log _ _ => .log
  | .notify _ _ => .notify
  | .quarantine _ _ => .quarantine
  | .rateLimit _ _ => .rateLimit
  | .throttle _ _ => .throttle
  | .redirect _ _ => .redirect
  | .updateRule _ _ => .updateRule

/-- The members of a payload's JSON form beside its type. -/
def details : Payload → List (String × Json)
  | .block reason => [("reason", .str reason)]
  | .alert severity message => [("severity", .str severity), ("message", .str message)]
  | .log level message => [("level", .str level), ("message", .str message)]
  | .notify channel message => [("channel", .str channel), ("message", .str message)]
  | .quarantine reason duration =>
      [("reason", .str reason), ("duration_secs", (duration.map Json.ofNat).getD .null)]
  | .rateLimit limit window | .throttle limit window =>
      [("limit", .ofFloat limit), ("window_secs", .ofNat window)]
  | .redirect url status => [("url", .str url), ("status", .ofNat status)]
  | .updateRule target parameters =>
      [("target_rule", .ofOptional target),
        ("parameters", .obj (parameters.map Value.toJson).entries)]

/-- The members of a payload's JSON form. -/
def members (p : Payload) : List (String × Json) :=
  ("action", Named.toJson p.actionType) :: p.details

end Payload

end Verdict
