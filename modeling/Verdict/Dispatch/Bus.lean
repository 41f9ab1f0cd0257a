import Verdict.KeyMap
import Verdict.Failure

/-!
# The event bus

Events are published under topics.  What becomes of an event depends on its topic only: the bus
takes it, refuses it, or does not take it in time.
-/

namespace Verdict

/-- An event that the bus took. -/
structure PublishedEvent where
  topic : String
  payload : Json
  deriving Repr, BEq

/-- A bus that keeps its events. -/
structure Bus where
  /-- Topics that refuse every event. -/
  refusing : List String := []
  /-- How many milliseconds a topic takes for an event, if it takes any. -/
  delays : KeyMap Nat := .empty
  events : List PublishedEvent := []
  deriving Repr, BEq

/-- What becomes of an event. -/
inductive Outcome where
  | accepted
  | refused
  | late
  deriving Repr, DecidableEq

namespace Bus

/-- How many milliseconds a topic takes for an event. -/
def delay (bus : Bus) (topic : String) : Nat :=
  (bus.delays.get? topic).getD 0

/-- What becomes of an event under a topic when there is some time for it; an event that is taken
    just as the time is over counts as in time. -/
def outcome (bus : Bus) (timeout : Nat) (topic : String) : Outcome :=
  if timeout < bus.delay topic then .late
  else if bus.refusing.contains topic then .refused
  else .accepted

/-- How many milliseconds a publisher waits until it knows what becomes of an event. -/
def wait (bus : Bus) (timeout : Nat) (topic : String) : Nat :=
  Nat.min (bus.delay topic) timeout

/-- Keeps an event. -/
def accept (bus : Bus) (topic : String) (payload : Json) : Bus :=
  { bus with events := bus.events ++ [⟨topic, payload⟩] }

/-- The bus once it is known what becomes of an event. -/
def publish (bus : Bus) (timeout : Nat) (topic : String) (payload : Json) : Bus :=
  match bus.outcome timeout topic with
  | .accepted => bus.accept topic payload
  | _ => bus

/-- The outcome of a publication as a failure or none. -/
def check (bus : Bus) (timeout : Nat) (topic : String) : Except Failure Unit :=
  match bus.outcome timeout topic with
  | .accepted => .ok ()
  | .refused => .error (.publish topic "topic rejected the event")
  | .late => .error (.timeout s!"publish to {topic}" (timeout * 1000000))

/-- The payloads of the events under a topic. -/
def eventsOn (bus : Bus) (topic : String) : List Json :=
  (bus.events.filter fun e => e.topic == topic).map PublishedEvent.payload

end Bus

end Verdict
