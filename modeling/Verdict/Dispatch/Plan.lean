import Verdict.Audit
import Verdict.Dispatch.Bus
import Verdict.Dispatch.Event

/-!
# Carrying out the actions of a decision

`Decision.plan` settles for every action of every rule that matched whether it is published: it is
left out if it is switched off, if it blocks a request that is allowed, if it has no topic, or if
its parameters make no sense.  `publishAll` publishes the rest in turn and counts.
-/

namespace Verdict

/-- Why an action is not published. -/
inductive Omission where
  | disabled
  /-- It blocks, but the decision allows the request. -/
  | overruled
  | silent
  | unusable (fault : ParameterFault)
  deriving Repr, BEq

/-- What is sent to a topic: an event, or the record of something else. -/
inductive Content where
  | event (e : Event)
  | record (j : Json)
  deriving Repr, BEq

/-- The JSON form of what is sent. -/
def Content.toJson : Content → Json
  | .event e => e.toJson
  | .record j => j

/-- Something on its way to a topic. -/
structure Delivery where
  topic : String
  content : Content
  deriving Repr, BEq

/-- The note of a delivery once it is accepted; only events leave one. -/
def Delivery.note? (d : Delivery) : Option Note :=
  match d.content with
  | .event e =>
      some (.dispatched e.requestId e.ruleId (Named.name e.payload.actionType) d.topic e.key)
  | .record _ => none

/-- What is to be done about an action of a rule that matched. -/
def Action.delivery (topics : Topics) (d : Decision) (ctx : Context) (id : String)
    (rule : MatchedRule) (a : Action) : Except Omission Delivery :=
  if !a.enabled then .error .disabled
  else if a.actionType == .block && d.allow then .error .overruled
  else
    match a.actionType.topic? topics with
    | none => .error .silent
    | some topic =>
        match Payload.ofAction? rule.ruleName a with
        | .error fault => .error (.unusable fault)
        | .ok none => .error .silent
        | .ok (some payload) => .ok ⟨topic, .event (.new id d rule ctx payload)⟩

/-- The actions of the rules that matched, each with its rule, in order. -/
def Decision.actions (d : Decision) : List (MatchedRule × Action) :=
  d.matchedRules.flatMap fun rule => rule.actions.map fun a => (rule, a)

/-- What is to be done about every action of a decision; `ids` names the events. -/
def Decision.plan (topics : Topics) (ids : Nat → String) (ctx : Context) (d : Decision) :
    List (Except Omission Delivery) :=
  d.actions.zipIdx.map fun ((rule, a), i) => a.delivery topics d ctx (ids i) rule

/-- How many actions were published, left out, and not taken. -/
structure Report where
  dispatched : Nat := 0
  skipped : Nat := 0
  failed : Nat := 0
  deriving Repr, DecidableEq

namespace Report

/-- One more action that was left out. -/
def skip (r : Report) : Report :=
  { r with skipped := r.skipped + 1 }

/-- One more action that was published, or not taken. -/
def count (r : Report) (accepted : Bool) : Report :=
  if accepted then { r with dispatched := r.dispatched + 1 }
  else { r with failed := r.failed + 1 }

/-- The JSON form of a report. -/
def toJson (r : Report) : Json :=
  .obj [("dispatched", .ofNat r.dispatched), ("skipped", .ofNat r.skipped),
    ("failed", .ofNat r.failed)]

end Report

/-- Publishes what is planned, in turn, by a function that says whether an event was taken. -/
def publishAll {m : Type → Type} [Monad m] (publish : Delivery → m Bool) (r : Report) :
    List (Except Omission Delivery) → m Report
  | [] => pure r
  | .error _ :: rest => publishAll publish r.skip rest
  | .ok d :: rest => do
      let accepted ← publish d
      publishAll publish (r.count accepted) rest

/-- Publishes a delivery on a bus. -/
def Delivery.publish (timeout : Nat) (d : Delivery) : StateM Bus Bool := do
  let bus ← get
  set (bus.publish timeout d.topic d.content.toJson)
  return bus.outcome timeout d.topic == .accepted

/-- Carries out the actions of a decision on a bus. -/
def Decision.execute (topics : Topics) (timeout : Nat) (ids : Nat → String) (ctx : Context)
    (d : Decision) : StateM Bus Report :=
  publishAll (Delivery.publish timeout) {} (d.plan topics ids ctx)

end Verdict
