import Verdict.Engine.Management

/-!
# Engines at work

A `Live` engine has jobs that go on in the background: actions and records on their way to the
bus, and loops that refresh the snapshots.  They have their turns while someone waits for
something.
-/

namespace Verdict

/-- The kinds of entities. -/
inductive EntityKind where
  | rule
  | scoringRule
  | profile
  deriving Repr, DecidableEq

/-- Something that goes on in the background. -/
inductive Job where
  /-- Deliveries that nothing was done about yet. -/
  | deliver (rest : List Delivery)
  /-- A delivery that was waited for, and those after it. -/
  | settle (first : Delivery) (rest : List Delivery)
  | refresh (kind : EntityKind) (loop : RefreshLoop)

/-- An engine with its jobs. -/
abbrev Live := Timeline Job Engine

namespace Engine

/-- Posts deliveries in turn up to the first that takes some time. -/
def deliver : List Delivery → Engine → Engine × Next Job
  | [], e => (e, .done)
  | d :: rest, e =>
      match e.bus.wait e.config.publishMillis.toNat d.topic with
      | 0 => deliver rest ((post d).run e).2
      | n + 1 => (e, .again (n + 1) (Nat.succ_pos n) (.settle d rest))

/-- One turn of the refresh loop of a kind. -/
def refreshTurn (α : Type) [Managed α] (loop : RefreshLoop) (e : Engine) : Engine :=
  Managed.withStore (loop.turn (Managed.store e : Store α)).1 e

/-- One turn of a job. -/
def turn : Job → Engine → Engine × Next Job
  | .deliver rest, e => deliver rest e
  | .settle first rest, e => deliver rest ((post first).run e).2
  | .refresh kind loop, e =>
      let e :=
        match kind with
        | .rule => refreshTurn Rule loop e
        | .scoringRule => refreshTurn ScoringRule loop e
        | .profile => refreshTurn Profile loop e
      (e, .again loop.period loop.positive (.refresh kind { loop with started := true }))

end Engine

namespace Live

/-- Lets some time pass, in milliseconds. -/
def wait (span : Nat) : StateM Live Unit :=
  modify (Timeline.wait Engine.turn span)

/-- Does something to the engine without any time passing. -/
def act {β : Type} (f : StateM Engine β) : StateM Live β := fun t =>
  let (b, e) := f t.state
  (b, { t with state := e })

/-- Does something to the engine that may fail. -/
def attempt {β : Type} (f : Operation β) : StateM Live (Except Failure β) :=
  act f.run

/-- Leaves deliveries to the background. -/
def send (ds : List Delivery) : StateM Live Unit :=
  modify (Timeline.spawn (.deliver ds))

/-- Publishes a delivery and waits for the outcome; says whether it was accepted. -/
def publish (d : Delivery) : StateM Live Bool := do
  let e := (← get).state
  wait (e.bus.wait e.config.publishMillis.toNat d.topic)
  act (Engine.post d)

/-- Publishes something under a topic. -/
def publishRecord (topic : String) (payload : Json) : StateM Live (Except Failure Unit) := do
  let e := (← get).state
  let _ ← publish ⟨topic, .record payload⟩
  return e.bus.check e.config.publishMillis.toNat topic

/-- What is planned about the actions of a decision. -/
def planOf (ids : Nat → String) (ctx : Context) (d : Decision) :
    StateM Live (List (Except Omission Delivery)) := do
  return d.plan (← get).state.config.topics ids ctx

/-- Decides on a request; its actions and the record of the decision are published in the
    background.  `ids` names the events. -/
def evaluate (ids : Nat → String) (ctx : Context) : StateM Live Decision := do
  let d ← act (Engine.decide ctx)
  let plan ← planOf ids ctx d
  let e := (← get).state
  send (plan.filterMap Except.toOption ++ [e.decisionRecord d])
  return d

/-- Decides on a request and waits until its actions and the record of the decision are
    published. -/
def evaluateAndDispatch (ids : Nat → String) (ctx : Context) : StateM Live (Decision × Report) := do
  let d ← act (Engine.decide ctx)
  let report ← publishAll publish {} (← planOf ids ctx d)
  let e := (← get).state
  let _ ← publish (e.decisionRecord d)
  return (d, report)

/-- Assesses the risk of a request; the assessment is published in the background. -/
def score (now : Instant) (id : String) (ctx : Context) : StateM Live (Assessment Float) := do
  let a ← act (Engine.assess now id ctx)
  let e := (← get).state
  send [e.assessmentRecord a]
  return a

/-- Asks the providers about the address of a request and waits for their answers. -/
def enrich (ctx : Context) : StateM Live Context := do
  let e := (← get).state
  let timeout := e.config.providerMillis.toNat
  if ctx.clientIp.isSome then wait (Provider.wait e.providers timeout)
  return ctx.enrich e.providers timeout

/-- Starts the loops that refresh the snapshots. -/
def startRefresh : StateM Live Unit := do
  let e := (← get).state
  match RefreshLoop.every? (e.config.refreshSecs.toNat * 1000) with
  | none => return
  | some loop =>
      modify (Timeline.spawn (.refresh .rule loop))
      modify (Timeline.spawn (.refresh .scoringRule loop))
      modify (Timeline.spawn (.refresh .profile loop))

end Live

/-- Whether a job is a refresh loop. -/
def Job.isRefresh : Job → Bool
  | .refresh _ _ => true
  | _ => false

/-- Tells the refresh loops something; gives the number of those that ended. -/
def Live.stopRefresh (s : Shutdown) : StateM Live Nat :=
  Timeline.stop Engine.turn Job.isRefresh s

end Verdict
