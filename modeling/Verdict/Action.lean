import Verdict.KeyMap
import Verdict.Named

/-!
# Actions

A rule carries actions for when it matches.  `ActionType.effect` says what an action does to the
decision.  Its parameters are looked at only when it is carried out.
-/

namespace Verdict

/-- What is to be done. -/
inductive ActionType where
  | block
  | allow
  | log
  | alert
  | rateLimit
  | redirect
  | throttle
  | notify
  | quarantine
  | updateRule
  deriving Repr, DecidableEq, Inhabited

instance : Named ActionType where
  all := [.block, .allow, .log, .alert, .rateLimit, .redirect, .throttle, .notify, .quarantine,
    .updateRule]
  name
    | .block => "block"
    | .allow => "allow"
    | .log => "log"
    | .alert => "alert"
    | .rateLimit => "rate_limit"
    | .redirect => "redirect"
    | .throttle => "throttle"
    | .notify => "notify"
    | .quarantine => "quarantine"
    | .updateRule => "update_rule"
  otherNames := [("rateLimit", .rateLimit), ("updateRule", .updateRule)]

/-- What an action does to the decision. -/
inductive Effect where
  | deny
  | warn
  | allow
  | neutral
  deriving Repr, DecidableEq

/-- The effect of a type of action. -/
def ActionType.effect : ActionType → Effect
  | .block => .deny
  | .alert | .notify | .quarantine | .redirect => .warn
  | .allow => .allow
  | .log | .throttle | .rateLimit | .updateRule => .neutral

/-- An action of a rule. -/
structure Action where
  actionType : ActionType
  parameters : KeyMap Value := .empty
  enabled : Bool := true
  deriving Repr, BEq, Inhabited

namespace Action

/-- The names of an action's fields. -/
def fieldNames : List FieldName :=
  [⟨"type", []⟩, ⟨"parameters", []⟩, ⟨"enabled", []⟩]

/-- Reads an action. -/
def ofDatum? (d : Datum) : Option Action := do
  let fields ← d.fields? fieldNames
  return {
    actionType := ← fields.required "type" Named.ofDatum?
    parameters := ← fields.orElse "parameters" .empty (Datum.map? Datum.value?)
    enabled := ← fields.orElse "enabled" true Datum.bool? }

/-- The JSON form of an action. -/
def toJson (a : Action) : Json :=
  .obj [("type", Named.toJson a.actionType),
    ("parameters", .obj (a.parameters.map Value.toJson).entries), ("enabled", .bool a.enabled)]

end Action

/-- Whether some of the actions has an effect. -/
def hasEffect (actions : List Action) (effect : Effect) : Bool :=
  actions.any fun a => a.actionType.effect == effect

end Verdict
