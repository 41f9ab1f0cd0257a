import Verdict.Bundle
import Verdict.Engine.Basic

/-!
# Management of the entities of an engine

Each operation works on the store of one kind of entity and leaves a note in the audit.  Several
entities at once are handled one by one, and one that fails does not stop the rest; only an overflow
breaks them off.
-/

namespace Verdict

/-- A kind of entity that engines have a store of. -/
class Managed (α : Type) extends Entity α where
  store : Engine → Store α
  withStore : Store α → Engine → Engine
  /-- Whether the entities have conditions, the patterns of which are kept. -/
  hasPatterns : Bool

instance : Managed Rule where
  store := Engine.rules
  withStore s e := { e with rules := s }
  hasPatterns := true

instance : Managed ScoringRule where
  store := Engine.scoringRules
  withStore s e := { e with scoringRules := s }
  hasPatterns := true

instance : Managed Profile where
  store := Engine.profiles
  withStore s e := { e with profiles := s }
  hasPatterns := false

namespace Engine

section

variable {α : Type} [Managed α]

/-- Reads from the store of a kind. -/
def read {β : Type} (f : Store α → Except Failure β) : Operation β := do
  ofExcept (f (Managed.store (← get)))

/-- Changes the store of a kind. -/
def change {β : Type} (f : Store α → Except Failure (β × Store α)) : Operation β := do
  let e ← get
  let (b, s) ← ofExcept (f (Managed.store e))
  set (Managed.withStore s e)
  return b

/-- Notes the change of a stored entity. -/
def noteStored (a : α) (c : Change) : Operation Unit :=
  modify (note (.changed (Entity.kind α) (Entity.id a) (some (Entity.version a)) c))

/-- Drops the compiled patterns if entities of a kind may have had some. -/
def dropPatternsOf (α : Type) [Managed α] : Operation Unit :=
  modify fun e => if Managed.hasPatterns α then e.dropPatterns else e

/-- Adds an entity. -/
def create (a : α) : Operation α := do
  let stored ← change fun s => s.create a
  noteStored stored .create
  return stored

/-- Replaces an entity and keeps the compiled patterns. -/
def replace (now : Instant) (a : α) : Operation α := do
  let stored ← change fun s => s.update now a
  noteStored stored .update
  return stored

/-- Replaces an entity. -/
def update (now : Instant) (a : α) : Operation α := do
  let stored ← replace now a
  dropPatternsOf α
  return stored

/-- Drops an entity. -/
def delete (α : Type) [Managed α] (id : String) : Operation Unit := do
  change fun (s : Store α) => (s.delete id).map fun s => ((), s)
  modify (note (.changed (Entity.kind α) id none .delete))
  dropPatternsOf α

/-- Adds an entity, or replaces the one of its id if that is asked for; says whether it did. -/
def put (now : Instant) (overwrite : Bool) (a : α) : Operation Bool := do
  match ← change fun s => s.put now overwrite a with
  | .created stored =>
      noteStored stored .create
      return true
  | .updated stored =>
      noteStored stored .update
      return true
  | .kept => return false

/-- Takes a new snapshot of a kind. -/
def refreshOf (α : Type) [Managed α] : Operation Unit :=
  change fun (s : Store α) => s.refresh.map fun s => ((), s)

end

/-- Takes new snapshots of all kinds, up to the first that fails. -/
def refresh : Operation Unit := do
  refreshOf Rule
  refreshOf ScoringRule
  refreshOf Profile
  modify dropPatterns

end Engine

/-- What became of one entity of several. -/
inductive ItemOutcome where
  | done
  /-- There was one of its id, and it was left alone. -/
  | kept
  | failed (cause : Failure)
  deriving Repr, BEq

/-- What became of the entity of an id. -/
structure ItemResult where
  id : String
  outcome : ItemOutcome
  deriving Repr, BEq

namespace ItemResult

/-- The result of an entity that was put. -/
def ofPut (id : String) : Except Failure Bool → ItemResult
  | .ok true => ⟨id, .done⟩
  | .ok false => ⟨id, .kept⟩
  | .error cause => ⟨id, .failed cause⟩

/-- The JSON form of a result; only one that is not plain success has an explanation. -/
def toJson (r : ItemResult) : Json :=
  match r.outcome with
  | .done => .obj [("id", .str r.id), ("success", .bool true)]
  | .kept =>
      .obj [("id", .str r.id), ("success", .bool true), ("error", .str "already exists")]
  | .failed cause =>
      .obj [("id", .str r.id), ("success", .bool false), ("error", .str cause.message)]

end ItemResult

/-- The results of an import, in the order of the entities. -/
structure ImportReport where
  items : List ItemResult
  deriving Repr, BEq

namespace ImportReport

/-- The number of entities that were stored. -/
def imported (r : ImportReport) : Nat :=
  (r.items.filter fun i => i.outcome == .done).length

/-- The number of entities that were left alone. -/
def skipped (r : ImportReport) : Nat :=
  (r.items.filter fun i => i.outcome == .kept).length

/-- The number of entities that failed. -/
def failed (r : ImportReport) : Nat :=
  r.items.length - r.imported - r.skipped

/-- The JSON form of a report. -/
def toJson (r : ImportReport) : Json :=
  .obj [("imported", .ofNat r.imported), ("skipped", .ofNat r.skipped),
    ("failed", .ofNat r.failed), ("items", .arr (r.items.map ItemResult.toJson))]

end ImportReport

namespace Engine

/-- Does something about the entity of an id and gives the result.  A failure is a result like
    others, but for an overflow. -/
def attempt (id : String) (step : Operation Bool) : Operation ItemResult :=
  tryCatch (do return .ofPut id (.ok (← step))) fun
    | .overflow => throw .overflow
    | cause => return .ofPut id (.error cause)

/-- Does something to each entity in turn and collects the results. -/
def each {α : Type} [Entity α] (step : α → Operation Bool) (items : List α) :
    Operation (List ItemResult) :=
  items.mapM fun a => attempt (Entity.id a) (step a)

/-- Adds several rules. -/
def batchCreate (rules : List Rule) : Operation (List ItemResult) :=
  each (fun r => do let _ ← create r; return true) rules

/-- Replaces several rules. -/
def batchUpdate (now : Instant) (rules : List Rule) : Operation (List ItemResult) :=
  each (fun r => do let _ ← replace now r; return true) rules

/-- A bundle of all entities of the repositories. -/
def exportAll (now : Instant) : Operation Bundle := do
  let rules ← read fun (s : Store Rule) => s.list {}
  let scoringRules ← read fun (s : Store ScoringRule) => s.list {}
  let profiles ← read fun (s : Store Profile) => s.list {}
  return .new now ⟨rules, scoringRules, profiles⟩

/-- Puts the entities of a bundle if its checksum is right: profiles, then scoring rules, then
    rules. -/
def importAll (now : Instant) (overwrite : Bool) (b : Bundle) : Operation ImportReport := do
  ofExcept b.verify
  let profiles ← each (put now overwrite) b.holdings.profiles
  let scoringRules ← each (put now overwrite) b.holdings.scoringRules
  let rules ← each (put now overwrite) b.holdings.rules
  return ⟨profiles ++ scoringRules ++ rules⟩

end Engine

end Verdict
