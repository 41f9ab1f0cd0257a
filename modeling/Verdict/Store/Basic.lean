import Verdict.Store.Repository
import Verdict.Store.Snapshot
import Verdict.Timeline

/-!
# Stores

A `Store` is a repository with a snapshot of it.  A change goes to the repository first and, once
it succeeded there, to the snapshot; one that fails leaves both as they were.
-/

namespace Verdict

/-- A repository and the snapshot that requests are judged by. -/
structure Store (α : Type) where
  repository : Repository α := {}
  snapshot : Snapshot α := {}
  deriving Repr, BEq, Inhabited

namespace Store

variable {α : Type} [Entity α]

/-- Takes a new snapshot of the whole repository. -/
def refresh (s : Store α) : Except Failure (Store α) :=
  (s.repository.list {}).map fun items => { s with snapshot := s.snapshot.replace items }

/-- The entity of an id. -/
def get (s : Store α) (id : String) : Except Failure α := do
  match ← s.repository.find? id with
  | some a => return a
  | none => throw (.notFound (Entity.kind α) id)

/-- The entities that a filter lists. -/
def list (s : Store α) (f : Filter) : Except Failure (List α) :=
  s.repository.list f

/-- Adds an entity of a new id, if nothing is wrong with it. -/
def create (s : Store α) (a : α) : Except Failure (α × Store α) := do
  let a ← Entity.validate a
  let repository ← s.repository.create a
  return (a, ⟨repository, s.snapshot.upsert a⟩)

/-- Replaces the entity of the same id, if nothing is wrong with the new one; gives what is
    stored. -/
def update (s : Store α) (now : Instant) (a : α) : Except Failure (α × Store α) := do
  let a ← Entity.validate a
  let (stored, repository) ← s.repository.update now a
  return (stored, ⟨repository, s.snapshot.upsert stored⟩)

/-- Drops the entity of an id. -/
def delete (s : Store α) (id : String) : Except Failure (Store α) := do
  let repository ← s.repository.delete id
  return ⟨repository, s.snapshot.remove id⟩

/-- What was done about an entity that was put. -/
inductive Put (α : Type) where
  | created (stored : α)
  | updated (stored : α)
  /-- There was one of the same id, and it was left alone. -/
  | kept
  deriving Repr, BEq

/-- Adds an entity, or replaces the one of the same id if that is asked for. -/
def put (s : Store α) (now : Instant) (overwrite : Bool) (a : α) :
    Except Failure (Put α × Store α) := do
  match ← s.repository.find? (Entity.id a) with
  | none => (s.create a).map fun (stored, s) => (.created stored, s)
  | some _ =>
      if overwrite then (s.update now a).map fun (stored, s) => (.updated stored, s)
      else return (.kept, s)

/-- Takes a new snapshot, or keeps the old one when the repository is unavailable. -/
def refreshed (s : Store α) : Store α :=
  match s.refresh with
  | .ok s => s
  | .error _ => s

end Store

/-- A loop that refreshes a snapshot whenever a period is over, counted from its first turn. -/
structure RefreshLoop where
  period : Nat
  positive : 0 < period
  started : Bool := false

namespace RefreshLoop

/-- A loop for a period, if it takes any time. -/
def every? (period : Nat) : Option RefreshLoop :=
  if h : 0 < period then some { period := period, positive := h } else none

/-- The turn after this one. -/
def next (l : RefreshLoop) : Next RefreshLoop :=
  .again l.period l.positive { l with started := true }

/-- One turn of a loop: the first one only starts the count. -/
def turn {α : Type} [Entity α] (l : RefreshLoop) (s : Store α) : Store α × Next RefreshLoop :=
  (if l.started then s.refreshed else s, l.next)

end RefreshLoop

end Verdict
