import Verdict.Entity
import Verdict.Text.Pieces
import Verdict.Unicode.Case

/-!
# Repositories

A repository is the record of all entities of one kind, in the order in which they were created.
It gives out the versions: an update is stored as the successor of what it replaces, whatever
version came in.  While it is unavailable every call fails.
-/

namespace Verdict

/-- Which entities are listed. -/
structure Filter where
  enabledOnly : Bool := false
  /-- The ids that are listed; all if none is given. -/
  ids : List String := []
  /-- A part of the name, in any case. -/
  namePart : Option String := none
  deriving Repr, DecidableEq, Inhabited

/-- Whether an entity is listed. -/
def Filter.holds {α : Type} [Entity α] (f : Filter) (a : α) : Bool :=
  (!f.enabledOnly || Entity.isEnabled a) && (f.ids.isEmpty || f.ids.contains (Entity.id a)) &&
    f.namePart.all fun part => Text.contains (Unicode.lower (Entity.name a)) (Unicode.lower part)

/-- The entities of one kind. -/
structure Repository (α : Type) where
  items : List α := []
  available : Bool := true
  deriving Repr, BEq, Inhabited

namespace Repository

variable {α : Type} [Entity α]

/-- The entities, if the repository is available. -/
def reach (r : Repository α) : Except Failure (List α) :=
  if r.available then .ok r.items
  else .error (.store s!"{Entity.kind α} repository unavailable")

/-- The first entity of an id. -/
def find? (r : Repository α) (id : String) : Except Failure (Option α) :=
  r.reach.map fun items => items.find? fun a => Entity.id a == id

/-- The entities that a filter lists. -/
def list (r : Repository α) (f : Filter) : Except Failure (List α) :=
  r.reach.map fun items => items.filter f.holds

/-- The number of entities. -/
def count (r : Repository α) : Except Failure Nat :=
  (r.list {}).map List.length

/-- Adds an entity of a new id. -/
def create (r : Repository α) (a : α) : Except Failure (Repository α) := do
  let items ← r.reach
  if items.any fun b => Entity.id b == Entity.id a then
    throw (.alreadyExists (Entity.kind α) (Entity.id a))
  else return { r with items := items ++ [a] }

/-- Puts an entity in the place of the first one of its id, as its successor; gives what is
    stored. -/
def succeedItem (now : Instant) (a : α) : List α → Except Failure (α × List α)
  | [] => .error (.notFound (Entity.kind α) (Entity.id a))
  | b :: rest =>
      if Entity.id b == Entity.id a then
        (Entity.succeeding now a b).map fun stored => (stored, stored :: rest)
      else (succeedItem now a rest).map fun (stored, rest) => (stored, b :: rest)

/-- Replaces the entity of the same id; gives what is stored. -/
def update (r : Repository α) (now : Instant) (a : α) : Except Failure (α × Repository α) := do
  let (stored, items) ← succeedItem now a (← r.reach)
  return (stored, { r with items := items })

/-- Drops the entities of an id. -/
def delete (r : Repository α) (id : String) : Except Failure (Repository α) := do
  let items ← r.reach
  if items.any fun a => Entity.id a == id then
    return { r with items := items.filter fun a => Entity.id a != id }
  else throw (.notFound (Entity.kind α) id)

end Repository

end Verdict
