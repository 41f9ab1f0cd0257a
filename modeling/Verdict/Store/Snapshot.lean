import Verdict.Entity

/-!
# Snapshots

Requests are judged by a snapshot of the entities.  Every change of a snapshot raises its version
by one, whether or not the entities change.  An entity that is put in never takes the place of a
newer one; a list that replaces all entities, and an id that is dropped, are not compared with what
is there.
-/

namespace Verdict

/-- The entities in force, with the number of changes so far. -/
structure Snapshot (α : Type) where
  version : UInt64 := 0
  items : List α := []
  deriving Repr, BEq, Inhabited

namespace Snapshot

variable {α : Type}

/-- Changes the entities. -/
def change (s : Snapshot α) (f : List α → List α) : Snapshot α :=
  ⟨s.version + 1, f s.items⟩

/-- Takes other entities instead of all. -/
def replace (s : Snapshot α) (items : List α) : Snapshot α :=
  s.change fun _ => items

variable [Entity α]

/-- The first entity of an id. -/
def get? (s : Snapshot α) (id : String) : Option α :=
  s.items.find? fun a => Entity.id a == id

/-- Puts an entity in the place of the first one of its id, unless that is newer; an entity of a
    new id goes to the end. -/
def upsertItem (a : α) : List α → List α
  | [] => [a]
  | b :: rest =>
      if Entity.id b == Entity.id a then
        (if Entity.version a < Entity.version b then b else a) :: rest
      else b :: upsertItem a rest

/-- Takes in one entity. -/
def upsert (s : Snapshot α) (a : α) : Snapshot α :=
  s.change (upsertItem a)

/-- Drops the entities of an id. -/
def remove (s : Snapshot α) (id : String) : Snapshot α :=
  s.change (List.filter fun a => Entity.id a != id)

/-- Drops the entities of an id; says whether there were any. -/
def drop (s : Snapshot α) (id : String) : Bool × Snapshot α :=
  let rest := s.remove id
  (rest.items.length != s.items.length, rest)

end Snapshot

end Verdict
