import Mathlib.Logic.Relation
import Verdict.Proofs.Store.Mirror
import Verdict.Proofs.Store.Pending

/-!
# Writes at the same time

Writes to one store may run at the same time.  Each takes its step on the repository and later its
step on the snapshot, and between the two come steps of others, in any order that a discipline
permits.  `keeps_iff_safe` says which disciplines bring the snapshot back to the repository
whenever nothing is in flight: those that are `Discipline.Safe`, and no others.  The store itself
has no discipline (`Discipline.free`), so it is not safe: a version is compared only when an entity
is put in, and neither a late refresh nor a late delete is ever compared with anything.
-/

namespace Verdict
open Pending

variable {α : Type} [Entity α]

/-- The entities of an id. -/
def ofId (id : String) (items : List α) : List α :=
  items.filter fun a => Entity.id a == id

/-- The snapshot and the repository hold the same entities of every id. -/
def Store.Mirrors (s : Store α) : Prop :=
  ∀ id, ofId id s.snapshot.items = ofId id s.repository.items

/-- A mirror holds the same entities, if in another order. -/
theorem Store.Mirrors.perm {s : Store α} (mirrors : s.Mirrors) :
    s.snapshot.items.Perm s.repository.items := by
  classical
  rw [List.perm_iff_count]
  intro a
  have same := congrArg (List.count a) (mirrors (Entity.id a))
  rwa [ofId, ofId, List.count_filter (by simp), List.count_filter (by simp)] at same

namespace SnapshotStep

/-- Whether the step is about an id. -/
def concerns (id : String) : SnapshotStep α → Bool
  | .created a | .updated a => Entity.id a == id
  | .deleted id' => id' == id
  | .refreshed _ => true

/-- The step as far as it is about an id. -/
def ofId (id : String) : SnapshotStep α → SnapshotStep α
  | .refreshed items => .refreshed (Verdict.ofId id items)
  | e => e

@[simp] theorem kind_ofId (id : String) (e : SnapshotStep α) : (e.ofId id).kind = e.kind := by
  cases e <;> rfl

end SnapshotStep

/-! ## The entities of one id -/

theorem ofId_cons_self {a : α} {id : String} (here : Entity.id a = id) (items : List α) :
    ofId id (a :: items) = a :: ofId id items :=
  List.filter_cons_of_pos (by simpa using here)

theorem ofId_cons_other {a : α} {id : String} (other : Entity.id a ≠ id) (items : List α) :
    ofId id (a :: items) = ofId id items :=
  List.filter_cons_of_neg (by simpa using other)

theorem ofId_upsertItem (id : String) (a : α) (items : List α) :
    ofId id (Snapshot.upsertItem a items) =
      if Entity.id a == id then putFirst a (ofId id items) else ofId id items := by
  induction items with
  | nil =>
    simp only [Snapshot.upsertItem, ofId, List.filter_cons, List.filter_nil]
    rfl
  | cons b rest ih =>
    by_cases same : Entity.id b = Entity.id a
    · rw [Snapshot.upsertItem, if_pos (by simpa using same)]
      have kept : Entity.id (if Entity.version a < Entity.version b then b else a) =
          Entity.id a := by split <;> simp [same]
      by_cases about : Entity.id a = id
      · rw [ofId_cons_self (kept.trans about), ofId_cons_self (same.trans about), about,
          beq_self_eq_true, if_pos rfl, putFirst]
      · rw [ofId_cons_other (kept ▸ about), ofId_cons_other (same ▸ about),
          if_neg (by simpa using about)]
    · rw [Snapshot.upsertItem, if_neg (by simpa using same)]
      by_cases here : Entity.id b = id
      · have other : ¬ Entity.id a = id := fun about => same (here.trans about.symm)
        rw [ofId_cons_self here, ofId_cons_self here, ih, if_neg (by simpa using other),
          if_neg (by simpa using other)]
      · rw [ofId_cons_other here, ofId_cons_other here, ih]

theorem Snapshot.get?_eq_head? (s : Snapshot α) (id : String) :
    s.get? id = (ofId id s.items).head? :=
  List.head?_filter.symm

/-- What is in force under its id after a snapshot has taken in an entity. -/
theorem Snapshot.get?_upsert (s : Snapshot α) (a : α) :
    (s.upsert a).get? (Entity.id a) =
      some (match s.get? (Entity.id a) with
        | some held => if Entity.version a < Entity.version held then held else a
        | none => a) := by
  rw [get?_eq_head?, get?_eq_head?, upsert, change, ofId_upsertItem, if_pos (beq_self_eq_true _)]
  cases ofId (Entity.id a) s.items <;> rfl

/-- Other ids are left as they are. -/
theorem Snapshot.get?_upsert_other (s : Snapshot α) {a : α} {id : String}
    (other : Entity.id a ≠ id) : (s.upsert a).get? id = s.get? id := by
  rw [get?_eq_head?, get?_eq_head?, upsert, change, ofId_upsertItem, if_neg (by simpa using other)]

/-- Taking in an entity never brings the version of an id down. -/
theorem Snapshot.upsert_forwards (s : Snapshot α) (a : α) {id : String} {b : α}
    (held : s.get? id = some b) :
    ∃ b', (s.upsert a).get? id = some b' ∧ Entity.version b ≤ Entity.version b' := by
  by_cases same : Entity.id a = id
  · subst same
    have taken := s.get?_upsert a
    rw [held] at taken
    refine ⟨_, taken, ?_⟩
    by_cases newer : Entity.version a < Entity.version b
    · simp only [if_pos newer]
      exact UInt64.le_refl _
    · simp only [if_neg newer]
      exact UInt64.not_lt.mp newer
  · exact ⟨b, (s.get?_upsert_other same).trans held, UInt64.le_refl _⟩

/-- What a second step does to the entities of an id that it is about. -/
theorem ofId_onItems {id : String} {e : SnapshotStep α} (about : e.concerns id = true)
    (items : List α) : ofId id (e.onItems items) = (e.ofId id).onView (ofId id items) := by
  cases e with
  | created a | updated a =>
    simp only [SnapshotStep.concerns] at about
    simp only [SnapshotStep.onItems, ofId_upsertItem, about, if_true]
    rfl
  | deleted id' =>
    simp only [SnapshotStep.concerns, beq_iff_eq] at about
    subst about
    simp only [SnapshotStep.onItems, ofId, List.filter_filter]
    simp [SnapshotStep.ofId, SnapshotStep.onView]
  | refreshed items => rfl

theorem ofId_onItems_other {id : String} {e : SnapshotStep α} (other : e.concerns id = false)
    (items : List α) : ofId id (e.onItems items) = ofId id items := by
  cases e with
  | created a | updated a =>
    simp only [SnapshotStep.concerns] at other
    simp [SnapshotStep.onItems, ofId_upsertItem, other]
  | deleted id' =>
    simp only [SnapshotStep.concerns, beq_eq_false_iff_ne] at other
    simp only [SnapshotStep.onItems, ofId, List.filter_filter]
    apply List.filter_congr
    intro a _
    by_cases here : Entity.id a = id <;> simp [here, Ne.symm other]
  | refreshed items => cases other

theorem ofId_append (id : String) (items more : List α) :
    ofId id (items ++ more) = ofId id items ++ ofId id more :=
  List.filter_append ..

theorem ofId_eq_nil {id : String} {items : List α} (none : ∀ a ∈ items, Entity.id a ≠ id) :
    ofId id items = [] := by
  simpa [ofId] using none

/-- What a first step does to the entities of an id that it is about. -/
theorem Recorded.lineage {id : String} {e : SnapshotStep α} {items items' : List α}
    (recorded : Recorded items e items') (about : e.concerns id = true) :
    Lineage (ofId id items) (e.ofId id) (ofId id items') := by
  cases recorded with
  | @created _ a fresh =>
    simp only [SnapshotStep.concerns, beq_iff_eq] at about
    subst about
    rw [ofId_append, ofId_eq_nil fresh, ofId_cons_self rfl]
    exact .created
  | @updated front back b a first same low next =>
    simp only [SnapshotStep.concerns, beq_iff_eq] at about
    subst about
    rw [ofId_append, ofId_append, ofId_eq_nil first, ofId_cons_self same, ofId_cons_self rfl]
    exact .updated (next ▸ low.lt_successor)
  | @deleted _ id' found =>
    simp only [SnapshotStep.concerns, beq_iff_eq] at about
    subst about
    obtain ⟨b, member, same⟩ := found
    have dropped : ofId id' (items.filter fun a => Entity.id a != id') = [] :=
      ofId_eq_nil fun a kept => by simpa using (List.mem_filter.mp kept).2
    have there : b ∈ ofId id' items := List.mem_filter.mpr ⟨member, by simpa using same⟩
    rw [dropped]
    cases held : ofId id' items with
    | nil => simp [held] at there
    | cons first rest => exact .deleted
  | refreshed => exact .refreshed

theorem Recorded.ofId_other {id : String} {e : SnapshotStep α} {items items' : List α}
    (recorded : Recorded items e items') (other : e.concerns id = false) :
    ofId id items' = ofId id items := by
  cases recorded with
  | @created _ a fresh =>
    simp only [SnapshotStep.concerns, beq_eq_false_iff_ne] at other
    rw [ofId_append, ofId_cons_other other]
    simp [ofId]
  | @updated front back b a first same low next =>
    simp only [SnapshotStep.concerns, beq_eq_false_iff_ne] at other
    rw [ofId_append, ofId_append, ofId_cons_other other, ofId_cons_other (same ▸ other)]
  | deleted found => exact ofId_onItems_other other _
  | refreshed => rfl

/-! ## Runs -/

/-- A store, and the second steps that are still to be taken, in the order of the first ones. -/
structure Flight (α : Type) where
  store : Store α
  pending : List (SnapshotStep α) := []

namespace Discipline

/-- Whether a step may be taken while one of an earlier write waits. -/
def Permits (d : Discipline) (earlier later : SnapshotStep α) : Prop :=
  ∀ id, earlier.concerns id = true → later.concerns id = true →
    d.overtakes earlier.kind later.kind

/-- One step of some write.  A write that the repository refuses has no second step. -/
inductive Step (d : Discipline) : Flight α → Flight α → Prop
  | first {f : Flight α} {w : Write α} {e : SnapshotStep α} {r : Repository α}
      (recorded : f.store.repository.record w = .ok (e, r)) :
      Step d f ⟨{ f.store with repository := r }, f.pending ++ [e]⟩
  | second {s : Store α} {e : SnapshotStep α} {earlier later : List (SnapshotStep α)}
      (permitted : ∀ x ∈ earlier, d.Permits x e) :
      Step d ⟨s, earlier ++ e :: later⟩
        ⟨{ s with snapshot := e.apply s.snapshot }, earlier ++ later⟩

/-- Whether, from a mirror on, the snapshot mirrors the repository whenever nothing is in
    flight. -/
def Keeps (α : Type) [Entity α] (d : Discipline) : Prop :=
  ∀ f g : Flight α, f.pending = [] → f.store.Mirrors → Relation.ReflTransGen d.Step f g →
    g.pending = [] → g.store.Mirrors

end Discipline

/-- The steps about an id, as far as they are about it. -/
def pendingOf (id : String) (pending : List (SnapshotStep α)) : List (SnapshotStep α) :=
  (pending.filter fun e => e.concerns id).map fun e => e.ofId id

/-- The snapshot is on its way to the repository, for every id. -/
def Flight.Catching (f : Flight α) : Prop :=
  ∀ id, Pending.Catching (ofId id f.store.snapshot.items) (pendingOf id f.pending)
    (ofId id f.store.repository.items)

theorem Flight.Catching.step {d : Discipline} (safe : d.Safe) {f g : Flight α}
    (catching : f.Catching) (step : d.Step f g) : g.Catching := by
  intro id
  cases step with
  | @first _ w e r recorded =>
    have recorded' := (recorded_of_record recorded).1
    cases about : e.concerns id with
    | true =>
      have pending : pendingOf id (f.pending ++ [e]) = pendingOf id f.pending ++ [e.ofId id] := by
        simp [pendingOf, about]
      rw [pending]
      exact (catching id).record (recorded'.lineage about)
    | false =>
      have pending : pendingOf id (f.pending ++ [e]) = pendingOf id f.pending := by
        simp [pendingOf, about]
      rw [pending, recorded'.ofId_other about]
      exact catching id
  | @second s e earlier later permitted =>
    have before := catching id
    rw [SnapshotStep.apply_items]
    cases about : e.concerns id with
    | true =>
      simp only [pendingOf, List.filter_append, List.filter_cons, about, if_true, List.map_append,
        List.map_cons] at before ⊢
      rw [ofId_onItems about]
      refine before.finish safe ?_
      intro x member
      obtain ⟨y, held, rfl⟩ := List.mem_map.mp member
      obtain ⟨waiting, about'⟩ := List.mem_filter.mp held
      rw [SnapshotStep.kind_ofId, SnapshotStep.kind_ofId]
      exact permitted y waiting id about' about
    | false =>
      simp only [pendingOf, List.filter_append, List.filter_cons, about, Bool.false_eq_true,
        if_false, List.map_append] at before ⊢
      rw [ofId_onItems_other about]
      exact before

/-- Under a safe discipline the snapshot catches up whenever nothing is in flight. -/
theorem Discipline.Safe.keeps {d : Discipline} (safe : d.Safe) : d.Keeps α := by
  intro f g landed mirrors run landed' id
  have start : f.Catching := by
    intro id
    rw [mirrors id, landed]
    exact .of_eq _
  have catching : g.Catching := by
    clear landed'
    induction run with
    | refl => exact start
    | tail _ step ih => exact ih.step safe step
  have reached := catching id
  rw [landed'] at reached
  exact reached.eq

/-! ## What goes wrong otherwise -/

namespace Discipline

variable {d : Discipline} {items items₁ items₂ items₃ : List α} {w₁ w₂ w₃ : Write α}
  {e₁ e₂ e₃ : SnapshotStep α}

section overtaking

variable (recorded₁ : Repository.record ⟨items, true⟩ w₁ = .ok (e₁, ⟨items₁, true⟩))
  (recorded₂ : Repository.record ⟨items₁, true⟩ w₂ = .ok (e₂, ⟨items₂, true⟩))
  (recorded₃ : Repository.record ⟨items₂, true⟩ w₃ = .ok (e₃, ⟨items₃, true⟩))

include recorded₁ recorded₂

/-- Two writes may both be in flight. -/
theorem reaches_both :
    Relation.ReflTransGen d.Step ⟨⟨⟨items, true⟩, ⟨0, items⟩⟩, []⟩
      ⟨⟨⟨items₂, true⟩, ⟨0, items⟩⟩, [e₁, e₂]⟩ := by
  let f : Flight α := ⟨⟨⟨items, true⟩, ⟨0, items⟩⟩, []⟩
  have first₁ : d.Step f ⟨⟨⟨items₁, true⟩, ⟨0, items⟩⟩, [e₁]⟩ :=
    .first recorded₁
  have first₂ : d.Step ⟨⟨⟨items₁, true⟩, ⟨0, items⟩⟩, [e₁]⟩
      ⟨⟨⟨items₂, true⟩, ⟨0, items⟩⟩, [e₁, e₂]⟩ :=
    .first recorded₂
  exact .tail (.single first₁) first₂

/-- What the snapshot holds after two writes, the second of which overtook the first. -/
theorem Keeps.perm_of_overtaking (keeps : d.Keeps α) (allowed : d.overtakes e₁.kind e₂.kind) :
    (e₁.onItems (e₂.onItems items)).Perm items₂ := by
  have start := reaches_both (d := d) recorded₁ recorded₂
  have second₂ : d.Step ⟨⟨⟨items₂, true⟩, ⟨0, items⟩⟩, [e₁, e₂]⟩
      ⟨⟨⟨items₂, true⟩, e₂.apply ⟨0, items⟩⟩, [e₁]⟩ :=
    @Step.second α _ d _ e₂ [e₁] [] (by simp [Permits, allowed])
  have second₁ : d.Step ⟨⟨⟨items₂, true⟩, e₂.apply ⟨0, items⟩⟩, [e₁]⟩
      ⟨⟨⟨items₂, true⟩, e₁.apply (e₂.apply ⟨0, items⟩)⟩, []⟩ :=
    @Step.second α _ d _ e₁ [] [] nofun
  have mirrors := keeps _ _ rfl (fun _ => rfl) ((start.tail second₂).tail second₁) rfl
  simpa using mirrors.perm

include recorded₃

/-- What the snapshot holds after three writes, the last of which overtook the others. -/
theorem Keeps.perm_of_overtaking_both (keeps : d.Keeps α)
    (allowed₁ : d.overtakes e₁.kind e₃.kind) (allowed₂ : d.overtakes e₂.kind e₃.kind) :
    (e₂.onItems (e₁.onItems (e₃.onItems items))).Perm items₃ := by
  have start := reaches_both (d := d) recorded₁ recorded₂
  have first₃ : d.Step ⟨⟨⟨items₂, true⟩, ⟨0, items⟩⟩, [e₁, e₂]⟩
      ⟨⟨⟨items₃, true⟩, ⟨0, items⟩⟩, [e₁, e₂, e₃]⟩ :=
    .first recorded₃
  have second₃ : d.Step ⟨⟨⟨items₃, true⟩, ⟨0, items⟩⟩, [e₁, e₂, e₃]⟩
      ⟨⟨⟨items₃, true⟩, e₃.apply ⟨0, items⟩⟩, [e₁, e₂]⟩ :=
    @Step.second α _ d _ e₃ [e₁, e₂] [] (by simp [Permits, allowed₁, allowed₂])
  have second₁ : d.Step ⟨⟨⟨items₃, true⟩, e₃.apply ⟨0, items⟩⟩, [e₁, e₂]⟩
      ⟨⟨⟨items₃, true⟩, e₁.apply (e₃.apply ⟨0, items⟩)⟩, [e₂]⟩ :=
    @Step.second α _ d _ e₁ [] [e₂] nofun
  have second₂ : d.Step ⟨⟨⟨items₃, true⟩, e₁.apply (e₃.apply ⟨0, items⟩)⟩, [e₂]⟩
      ⟨⟨⟨items₃, true⟩, e₂.apply (e₁.apply (e₃.apply ⟨0, items⟩))⟩, []⟩ :=
    @Step.second α _ d _ e₂ [] [] nofun
  have mirrors := keeps _ _ rfl (fun _ => rfl)
    ((((start.tail first₃).tail second₃).tail second₁).tail second₂) rfl
  simpa using mirrors.perm

end overtaking

end Discipline

section runs

variable {a b : α}

theorem record_create (valid : Entity.issues a = []) :
    Repository.record ⟨[], true⟩ (.create a) = .ok (.created a, ⟨[a], true⟩) :=
  Repository.record_create_eq_ok.mpr ⟨valid, Repository.create_eq_ok.mpr ⟨rfl, nofun, rfl⟩, rfl⟩

theorem record_update (valid : Entity.issues a = []) (same : Entity.id b = Entity.id a)
    (low : Entity.HasSuccessor b) (now : Instant) :
    Repository.record ⟨[b], true⟩ (.update now a) =
      .ok (.updated (Entity.succeed a (Entity.version b) now),
        ⟨[Entity.succeed a (Entity.version b) now], true⟩) :=
  Repository.record_update_eq_ok.mpr ⟨valid, _, Repository.update_eq_ok.mpr
    ⟨rfl, _, Repository.succeedItem_eq_ok.mpr
      ⟨[], b, [], rfl, List.forall_mem_nil _, same, low, rfl, rfl⟩, rfl⟩, rfl⟩

theorem record_delete (b : α) :
    Repository.record ⟨[b], true⟩ (.delete (Entity.id b)) =
      .ok (.deleted (Entity.id b), ⟨[], true⟩) :=
  Repository.record_delete_eq_ok.mpr
    ⟨Repository.delete_eq_ok.mpr ⟨rfl, by simp, by simp⟩, rfl⟩

theorem record_refresh (items : List α) :
    Repository.record ⟨items, true⟩ .refresh = .ok (.refreshed items, ⟨items, true⟩) :=
  Repository.record_refresh_eq_ok.mpr
    ⟨items, Repository.list_all_eq_ok.mpr ⟨rfl, rfl⟩, rfl, rfl⟩

theorem onItems_updated (same : Entity.id b = Entity.id a) :
    (SnapshotStep.updated a).onItems [b] =
      [if Entity.version a < Entity.version b then b else a] :=
  upsertItem_of_first (List.forall_mem_nil _) same

theorem onItems_deleted {id : String} (same : Entity.id b = id) :
    (SnapshotStep.deleted id).onItems [b] = [] := by
  simp [SnapshotStep.onItems, same]

end runs

/-- A discipline that keeps the snapshot a mirror is safe, if there is anything to write at all. -/
theorem Discipline.Keeps.safe {d : Discipline} (keeps : d.Keeps α) {a : α}
    (valid : Entity.issues a = []) (low : Entity.HasSuccessor a) : d.Safe := by
  let now : Instant := ⟨0, 0, 0, by decide, by decide⟩
  -- `next` is what an update of `a` by itself stores
  let next := Entity.succeed a (Entity.version a) now
  have id_next : Entity.id next = Entity.id a := Entity.id_succeed ..
  have version_next : Entity.version next = Entity.version a + 1 := Entity.version_succeed ..
  have newer : Entity.version a < Entity.version next := by
    rw [version_next]
    exact low.lt_successor
  have other : a ≠ next := fun same => UInt64.lt_irrefl _ (same ▸ newer)
  have updated := record_update valid rfl low now
  have put_next : (SnapshotStep.updated next).onItems [a] = [next] := by
    rw [onItems_updated id_next.symm, if_neg (UInt64.lt_asymm newer)]
  exact {
    create_delete := fun allowed => by
      have same := keeps.perm_of_overtaking (record_create valid) (record_delete a) allowed
      simp [SnapshotStep.onItems, Snapshot.upsertItem] at same
    update_delete := fun allowed => by
      have same := keeps.perm_of_overtaking updated (record_delete next) allowed
      rw [onItems_deleted id_next.symm] at same
      simp [SnapshotStep.onItems, Snapshot.upsertItem] at same
    delete_create := fun allowed => by
      have same := keeps.perm_of_overtaking (record_delete a) (record_create valid) allowed
      simp [SnapshotStep.onItems, Snapshot.upsertItem] at same
    delete_update := fun allowed allowed' => by
      have same := keeps.perm_of_overtaking_both (record_delete a) (record_create valid) updated
        allowed allowed'
      rw [put_next, onItems_deleted id_next] at same
      exact other (List.singleton_perm_singleton.mp same)
    refresh_create := fun allowed => by
      have same := keeps.perm_of_overtaking (record_refresh []) (record_create valid) allowed
      simp [SnapshotStep.onItems] at same
    refresh_update := fun allowed => by
      have same := keeps.perm_of_overtaking (record_refresh [a]) updated allowed
      exact other (List.singleton_perm_singleton.mp same)
    refresh_delete := fun allowed => by
      have same := keeps.perm_of_overtaking (record_refresh [a]) (record_delete a) allowed
      simp [SnapshotStep.onItems] at same }

/-- The disciplines that bring the snapshot back to the repository whenever nothing is in flight are
    the safe ones. -/
theorem keeps_iff_safe {a : α} (valid : Entity.issues a = []) (low : Entity.HasSuccessor a)
    (d : Discipline) : d.Keeps α ↔ d.Safe := by
  constructor
  · intro keeps
    exact keeps.safe valid low
  · intro safe
    exact safe.keeps

theorem keeps_of_no_unsafe_overtaking :
    let now : Instant := ⟨0, 0, 0, by decide, by decide⟩
    let rule : Rule :=
      { id := "a", name := "a", createdAt := now, updatedAt := now,
        conditions := [{ field := "path", operator := .equals, value := .text "/x" }],
        actions := [{ actionType := .block }] }
    let unsafeOvertakings : List (WriteKind × WriteKind) :=
      [(.create, .delete), (.update, .delete), (.delete, .create), (.delete, .update),
        (.refresh, .create), (.refresh, .update), (.refresh, .delete)]
    let d : Discipline := ⟨fun earlier later => (earlier, later) ∉ unsafeOvertakings⟩
    Entity.issues rule = [] ∧ Entity.HasSuccessor rule ∧ d.overtakes .create .update ∧
      d.Keeps Rule := by
  intro now rule unsafeOvertakings d
  have valid : Entity.issues rule = [] := by decide +kernel
  have low : Entity.HasSuccessor rule := by decide
  have safe : d.Safe := by
    constructor <;> simp [d, unsafeOvertakings]
  exact ⟨valid, low, by simp [d, unsafeOvertakings], (keeps_iff_safe valid low d).mpr safe⟩

/-- No discipline at all, as writes to a store find it. -/
def Discipline.free : Discipline where
  overtakes _ _ := True

/-- A refresh reads a rule, an update replaces the rule in both places, and then the refresh puts
    the old one back: the snapshot is left with a version that the repository has replaced. -/
theorem late_refresh_rolls_back :
    let now : Instant := ⟨0, 0, 0, by decide, by decide⟩
    let old : Rule :=
      { id := "a", name := "a", createdAt := now, updatedAt := now,
        conditions := [{ field := "path", operator := .equals, value := .text "/x" }],
        actions := [{ actionType := .block }] }
    let new : Rule := { old with version := 2 }
    let f : Flight Rule := ⟨⟨⟨[old], true⟩, ⟨1, [old]⟩⟩, []⟩
    let g : Flight Rule := ⟨⟨⟨[new], true⟩, ⟨3, [old]⟩⟩, []⟩
    f.store.Mirrors ∧ Relation.ReflTransGen Discipline.free.Step f g ∧ ¬ g.store.Mirrors ∧
      ¬ Discipline.free.Keeps Rule := by
  intro now old new f g
  have mirrors : f.store.Mirrors := fun _ => rfl
  have valid : Entity.issues old = [] := by decide +kernel
  have read : Discipline.free.Step f ⟨⟨⟨[old], true⟩, ⟨1, [old]⟩⟩, [.refreshed [old]]⟩ :=
    .first (record_refresh [old])
  have next : Entity.succeed old (Entity.version old) now = new := rfl
  have low : Entity.HasSuccessor old := by decide
  have recorded := record_update valid (rfl : Entity.id old = Entity.id old) low now
  rw [next] at recorded
  have stored : Discipline.free.Step ⟨⟨⟨[old], true⟩, ⟨1, [old]⟩⟩, [.refreshed [old]]⟩
      ⟨⟨⟨[new], true⟩, ⟨1, [old]⟩⟩, [.refreshed [old], .updated new]⟩ :=
    .first recorded
  have put : Discipline.free.Step ⟨⟨⟨[new], true⟩, ⟨1, [old]⟩⟩, [.refreshed [old], .updated new]⟩
      ⟨⟨⟨[new], true⟩, SnapshotStep.apply ⟨1, [old]⟩ (.updated new)⟩, [.refreshed [old]]⟩ :=
    @Discipline.Step.second Rule _ _ _ (.updated new) [.refreshed [old]] [] fun _ _ _ _ _ => trivial
  have taken : Discipline.free.Step
      ⟨⟨⟨[new], true⟩, SnapshotStep.apply ⟨1, [old]⟩ (.updated new)⟩, [.refreshed [old]]⟩ g :=
    @Discipline.Step.second Rule _ _ _ (.refreshed [old]) [] [] (List.forall_mem_nil _)
  have run : Relation.ReflTransGen Discipline.free.Step f g :=
    (((Relation.ReflTransGen.single read).tail stored).tail put).tail taken
  have apart : ¬ g.store.Mirrors := by
    intro same
    have versions := congrArg (List.map Rule.version) (same "a")
    revert versions
    decide +kernel
  exact ⟨mirrors, run, apart, fun keeps => apart (keeps f g rfl mirrors run rfl)⟩

end Verdict
