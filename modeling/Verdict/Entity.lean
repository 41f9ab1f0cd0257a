import Verdict.Failure
import Verdict.Instant

/-!
# Managed entities

What the stores need to know of rules, scoring rules and profiles.
-/

namespace Verdict

/-- Something that is stored under an id, checked and versioned. -/
class Entity (α : Type) where
  /-- What entities of this type are called in messages. -/
  kind : String
  id : α → String
  name : α → String
  version : α → UInt64
  isEnabled : α → Bool
  /-- Everything that is wrong with an entity. -/
  issues : α → List Issue
  /-- The entity as the successor of a version, updated at an instant. -/
  succeed : α → UInt64 → Instant → α
  /-- A successor keeps the id. -/
  id_succeed : ∀ a v now, id (succeed a v now) = id a := by intros; rfl
  /-- A successor is one version further. -/
  version_succeed : ∀ a v now, version (succeed a v now) = v + 1 := by intros; rfl

/-- Accepts an entity with which nothing is wrong. -/
def Entity.validate {α : Type} [Entity α] (a : α) : Except Failure α :=
  accept (Entity.issues a) a

/-- Whether an entity has a version that has a successor. -/
def Entity.HasSuccessor {α : Type} [Entity α] (a : α) : Prop :=
  (Entity.version a).toNat + 1 < UInt64.size

instance {α : Type} [Entity α] (a : α) : Decidable (Entity.HasSuccessor a) :=
  inferInstanceAs (Decidable (_ < _))

/-- An entity as the successor of another one, updated at an instant; the last version has none. -/
def Entity.succeeding {α : Type} [Entity α] (now : Instant) (a b : α) : Except Failure α :=
  if Entity.HasSuccessor b then .ok (Entity.succeed a (Entity.version b) now)
  else .error .overflow

/-- The lowest priority that is accepted. -/
def minPriority : Int := 0

/-- The highest priority that is accepted. -/
def maxPriority : Int := 100

/-- Whether a priority is accepted. -/
def isPriority (n : Int) : Bool :=
  minPriority ≤ n && n ≤ maxPriority

/-- Sorts by priority, highest first; equal priorities keep their order. -/
def sortByPriority {α : Type} (priority : α → Int) (items : List α) : List α :=
  items.mergeSort fun a b => decide (priority b ≤ priority a)

end Verdict
