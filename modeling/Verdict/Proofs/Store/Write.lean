import Mathlib.Algebra.Group.Nat.Defs
import Mathlib.Data.List.Basic
import Verdict.Store.Basic

/-!
# Writes in two steps

A call that writes to a store first carries out its write in the repository; once that succeeded,
the snapshot is left to change.  `Repository.record` is the first step, and what it gives is the
second one, a `SnapshotStep`.  `Recorded` says everything that a first step can do to the items;
what is proved of stores goes by cases on it.
-/

namespace Verdict

/-- A call that writes to a store, or takes a new snapshot of it. -/
inductive Write (α : Type) where
  | create (a : α)
  | update (now : Instant) (a : α)
  | delete (id : String)
  | refresh

/-- What is left to do to the snapshot after the step of a write on the repository. -/
inductive SnapshotStep (α : Type) where
  | created (stored : α)
  | updated (stored : α)
  | deleted (id : String)
  | refreshed (items : List α)

variable {α : Type} [Entity α]

namespace SnapshotStep

/-- What the step does to the entities. -/
def onItems : SnapshotStep α → List α → List α
  | .created a | .updated a => Snapshot.upsertItem a
  | .deleted id => List.filter fun a => Entity.id a != id
  | .refreshed items => fun _ => items

/-- Takes the step. -/
def apply (s : Snapshot α) : SnapshotStep α → Snapshot α
  | .created a | .updated a => s.upsert a
  | .deleted id => s.remove id
  | .refreshed items => s.replace items

@[simp] theorem apply_items (s : Snapshot α) (step : SnapshotStep α) :
    (apply s step).items = step.onItems s.items := by
  cases step <;> rfl

@[simp] theorem apply_version (s : Snapshot α) (step : SnapshotStep α) :
    (apply s step).version = s.version + 1 := by
  cases step <;> rfl

end SnapshotStep

/-- Carries out a write in the repository; gives what is left to do to the snapshot. -/
def Repository.record (r : Repository α) :
    Write α → Except Failure (SnapshotStep α × Repository α)
  | .create a => do
      let a ← Entity.validate a
      let r ← r.create a
      return (.created a, r)
  | .update now a => do
      let a ← Entity.validate a
      let (stored, r) ← r.update now a
      return (.updated stored, r)
  | .delete id => do
      let r ← r.delete id
      return (.deleted id, r)
  | .refresh => do
      let items ← r.list {}
      return (.refreshed items, r)

/-! ## A write as its two steps -/

theorem map_eq_ok {β γ : Type} {x : Except Failure β} {f : β → γ} {c : γ} :
    x.map f = .ok c ↔ ∃ b, x = .ok b ∧ f b = c := by
  cases x <;> simp [Except.map]

theorem bind_eq_ok {β γ : Type} {x : Except Failure β} {f : β → Except Failure γ} {c : γ} :
    x >>= f = .ok c ↔ ∃ b, x = .ok b ∧ f b = .ok c := by
  cases x <;> simp [bind, Except.bind]

theorem Entity.validate_eq_ok {a a' : α} :
    Entity.validate a = .ok a' ↔ Entity.issues a = [] ∧ a = a' := by
  rw [Entity.validate, accept]
  cases Entity.issues a <;> simp

namespace Store

/-- Takes both steps of a write, one right after the other. -/
def write (s : Store α) (w : Write α) : Except Failure (Store α) :=
  (s.repository.record w).map fun (step, repository) => ⟨repository, step.apply s.snapshot⟩

/-- Creating an entity is a write. -/
theorem map_snd_create (s : Store α) (a : α) :
    (s.create a).map Prod.snd = s.write (.create a) := by
  simp only [Store.create, write, Repository.record]
  cases Entity.validate a with
  | error e => rfl
  | ok a =>
    simp only [bind, Except.bind]
    cases s.repository.create a <;> rfl

/-- Updating an entity is a write. -/
theorem map_snd_update (s : Store α) (now : Instant) (a : α) :
    (s.update now a).map Prod.snd = s.write (.update now a) := by
  simp only [Store.update, write, Repository.record]
  cases Entity.validate a with
  | error e => rfl
  | ok a =>
    simp only [bind, Except.bind]
    cases s.repository.update now a <;> rfl

theorem delete_eq (s : Store α) (id : String) : s.delete id = s.write (.delete id) := by
  simp only [Store.delete, write, Repository.record]
  cases s.repository.delete id <;> rfl

theorem refresh_eq (s : Store α) : s.refresh = s.write .refresh := by
  simp only [Store.refresh, write, Repository.record]
  cases s.repository.list {} <;> rfl

/-- Putting an entity creates it, updates it or leaves the store alone. -/
theorem put_cases {s s' : Store α} {now : Instant} {overwrite : Bool} {a : α} {put : Put α}
    (done : s.put now overwrite a = .ok (put, s')) :
    match put with
    | .created stored => s.create a = .ok (stored, s')
    | .updated stored => s.update now a = .ok (stored, s')
    | .kept => s' = s := by
  simp only [Store.put, bind, Except.bind] at done
  cases found : s.repository.find? (Entity.id a) with
  | error cause => simp [found] at done
  | ok held =>
    simp only [found] at done
    cases held with
    | none =>
      obtain ⟨⟨stored, s''⟩, created, equal⟩ := map_eq_ok.mp done
      cases equal
      exact created
    | some held =>
      cases overwrite with
      | true =>
        obtain ⟨⟨stored, s''⟩, updated, equal⟩ := map_eq_ok.mp done
        cases equal
        exact updated
      | false =>
        cases done
        rfl

end Store

/-! ## What the first step can do -/

theorem Entity.hasSuccessor_iff {a : α} :
    Entity.HasSuccessor a ↔ (Entity.version a).toNat + 1 < 2 ^ 64 :=
  Iff.rfl

theorem Entity.HasSuccessor.toNat_successor {a : α} (low : Entity.HasSuccessor a) :
    (Entity.version a + 1).toNat = (Entity.version a).toNat + 1 := by
  have one : (1 : UInt64).toNat = 1 := rfl
  rw [UInt64.toNat_add, one]
  exact Nat.mod_eq_of_lt (Entity.hasSuccessor_iff.mp low)

/-- A version is lower than its successor, if it has one. -/
theorem Entity.HasSuccessor.lt_successor {a : α} (low : Entity.HasSuccessor a) :
    Entity.version a < Entity.version a + 1 := by
  rw [UInt64.lt_iff_toNat_lt, low.toNat_successor]
  exact Nat.lt_succ_self _

theorem Entity.succeeding_eq_ok {now : Instant} {a b stored : α} :
    Entity.succeeding now a b = .ok stored ↔
      Entity.HasSuccessor b ∧ Entity.succeed a (Entity.version b) now = stored := by
  unfold Entity.succeeding
  split <;> simp [*]

/-- The items before a write, what the write leaves to do to the snapshot, and the items after. -/
inductive Recorded : List α → SnapshotStep α → List α → Prop
  /-- An entity of a new id goes to the end. -/
  | created {items : List α} {a : α} (fresh : ∀ b ∈ items, Entity.id b ≠ Entity.id a) :
      Recorded items (.created a) (items ++ [a])
  /-- The first entity of an id gives way to its successor. -/
  | updated {front back : List α} {b a : α} (first : ∀ c ∈ front, Entity.id c ≠ Entity.id a)
      (same : Entity.id b = Entity.id a) (low : Entity.HasSuccessor b)
      (next : Entity.version a = Entity.version b + 1) :
      Recorded (front ++ b :: back) (.updated a) (front ++ a :: back)
  /-- The entities of an id, of which there are some, are dropped. -/
  | deleted {items : List α} {id : String} (found : ∃ b ∈ items, Entity.id b = id) :
      Recorded items (.deleted id) (items.filter fun b => Entity.id b != id)
  /-- All items are read. -/
  | refreshed {items : List α} : Recorded items (.refreshed items) items

theorem Recorded.updated_split {items items' : List α} {a : α}
    (recorded : Recorded items (.updated a) items') :
    ∃ front b back, items = front ++ b :: back ∧ (∀ c ∈ front, Entity.id c ≠ Entity.id a) ∧
      Entity.id b = Entity.id a ∧
      (Entity.version a).toNat = (Entity.version b).toNat + 1 ∧ items' = front ++ a :: back := by
  cases recorded with
  | updated first same low next =>
    exact ⟨_, _, _, rfl, first, same, next ▸ low.toNat_successor, rfl⟩

namespace Repository

theorem create_eq_ok {r r' : Repository α} {a : α} :
    r.create a = .ok r' ↔
      r.available = true ∧ (∀ b ∈ r.items, Entity.id b ≠ Entity.id a) ∧
        { r with items := r.items ++ [a] } = r' := by
  have fresh : (r.items.any fun b => Entity.id b == Entity.id a) = false ↔
      ∀ b ∈ r.items, Entity.id b ≠ Entity.id a := by simp
  rw [← fresh, create, reach]
  cases r.available with
  | false => simp [bind, Except.bind]
  | true =>
    simp only [bind, Except.bind, if_true, true_and]
    cases r.items.any fun b => Entity.id b == Entity.id a with
    | true => simp [throw, throwThe, MonadExceptOf.throw]
    | false => simp [pure, Except.pure]

theorem delete_eq_ok {r r' : Repository α} {id : String} :
    r.delete id = .ok r' ↔
      r.available = true ∧ (∃ b ∈ r.items, Entity.id b = id) ∧
        { r with items := r.items.filter fun b => Entity.id b != id } = r' := by
  have found : (r.items.any fun b => Entity.id b == id) = true ↔
      ∃ b ∈ r.items, Entity.id b = id := by simp
  rw [← found, delete, reach]
  cases r.available with
  | false => simp [bind, Except.bind]
  | true =>
    simp only [bind, Except.bind, if_true, true_and]
    cases r.items.any fun b => Entity.id b == id with
    | true => simp [pure, Except.pure]
    | false => simp [throw, throwThe, MonadExceptOf.throw]

/-- The filter that asks for nothing lists everything. -/
theorem list_all_eq_ok {r : Repository α} {items : List α} :
    r.list {} = .ok items ↔ r.available = true ∧ r.items = items := by
  have all : r.items.filter (Filter.holds {}) = r.items := by
    rw [List.filter_eq_self]
    intro a _
    simp [Filter.holds]
  rw [list, reach]
  cases r.available <;> simp [Except.map, all]

theorem succeedItem_of_fresh {now : Instant} {a : α} {items : List α}
    (fresh : ∀ b ∈ items, Entity.id b ≠ Entity.id a) :
    succeedItem now a items = .error (.notFound (Entity.kind α) (Entity.id a)) := by
  induction items with
  | nil => rfl
  | cons b rest ih =>
    obtain ⟨other, others⟩ := List.forall_mem_cons.mp fresh
    rw [succeedItem, if_neg (by simpa using other), ih others]
    rfl

/-- The first entity of an id gives way, if it has a successor. -/
theorem succeedItem_of_first {a b : α} {front : List α}
    (first : ∀ c ∈ front, Entity.id c ≠ Entity.id a) (same : Entity.id b = Entity.id a)
    (back : List α) (now : Instant) :
    succeedItem now a (front ++ b :: back) =
      (Entity.succeeding now a b).map fun stored => (stored, front ++ stored :: back) := by
  induction front with
  | nil => rw [List.nil_append, succeedItem, if_pos (by simpa using same)]; rfl
  | cons c front ih =>
    obtain ⟨other, others⟩ := List.forall_mem_cons.mp first
    rw [List.cons_append, succeedItem, if_neg (by simpa using other), ih others]
    cases Entity.succeeding now a b <;> rfl

/-- A list holds no entity of an id, or there is a first one. -/
theorem fresh_or_first (items : List α) (id : String) :
    (∀ b ∈ items, Entity.id b ≠ id) ∨ ∃ front b back, items = front ++ b :: back ∧
      (∀ c ∈ front, Entity.id c ≠ id) ∧ Entity.id b = id := by
  cases found : items.find? fun b => Entity.id b == id with
  | none => exact .inl (by simpa using found)
  | some b =>
    obtain ⟨same, front, back, split, first⟩ := List.find?_eq_some_iff_append.mp found
    exact .inr ⟨front, b, back, split, by simpa using first, beq_iff_eq.mp same⟩

theorem succeedItem_eq_ok {now : Instant} {a stored : α} {items items' : List α} :
    succeedItem now a items = .ok (stored, items') ↔
      ∃ front b back, items = front ++ b :: back ∧ (∀ c ∈ front, Entity.id c ≠ Entity.id a) ∧
        Entity.id b = Entity.id a ∧ Entity.HasSuccessor b ∧
        Entity.succeed a (Entity.version b) now = stored ∧ items' = front ++ stored :: back := by
  constructor
  · intro placed
    rcases fresh_or_first items (Entity.id a) with fresh | ⟨front, b, back, rfl, first, same⟩
    · rw [succeedItem_of_fresh fresh] at placed
      cases placed
    · rw [succeedItem_of_first first same] at placed
      obtain ⟨stored', succeeded, equal⟩ := map_eq_ok.mp placed
      obtain ⟨rfl, rfl⟩ := Prod.mk.inj equal
      obtain ⟨low, next⟩ := Entity.succeeding_eq_ok.mp succeeded
      exact ⟨front, b, back, rfl, first, same, low, next, rfl⟩
  · rintro ⟨front, b, back, rfl, first, same, low, next, rfl⟩
    rw [succeedItem_of_first first same, Entity.succeeding_eq_ok.mpr ⟨low, next⟩]
    rfl

theorem update_eq {r : Repository α} (available : r.available = true) (now : Instant) (a : α) :
    r.update now a =
      (succeedItem now a r.items).map fun x => (x.1, { r with items := x.2 }) := by
  have reached : r.reach = .ok r.items := if_pos available
  simp only [update, reached, bind, Except.bind]
  cases succeedItem now a r.items <;> rfl

theorem update_eq_ok {r r' : Repository α} {now : Instant} {a stored : α} :
    r.update now a = .ok (stored, r') ↔
      r.available = true ∧ ∃ items, succeedItem now a r.items = .ok (stored, items) ∧
        { r with items := items } = r' := by
  cases available : r.available with
  | false => simp [update, reach, available, bind, Except.bind]
  | true =>
    rw [update_eq available, map_eq_ok]
    simp [available]

section record

variable {r r' : Repository α} {step : SnapshotStep α}

theorem record_create_eq_ok {a : α} :
    r.record (.create a) = .ok (step, r') ↔
      Entity.issues a = [] ∧ r.create a = .ok r' ∧ .created a = step := by
  simp only [record, bind_eq_ok, Entity.validate_eq_ok, pure, Except.pure, Except.ok.injEq,
    Prod.mk.injEq]
  constructor
  · rintro ⟨_, ⟨valid, rfl⟩, after, created, rfl, rfl⟩
    exact ⟨valid, created, rfl⟩
  · rintro ⟨valid, created, rfl⟩
    exact ⟨a, ⟨valid, rfl⟩, r', created, rfl, rfl⟩

theorem record_update_eq_ok {now : Instant} {a : α} :
    r.record (.update now a) = .ok (step, r') ↔
      Entity.issues a = [] ∧
        ∃ stored, r.update now a = .ok (stored, r') ∧ .updated stored = step := by
  simp only [record, bind_eq_ok, Entity.validate_eq_ok, pure, Except.pure, Except.ok.injEq,
    Prod.mk.injEq]
  constructor
  · rintro ⟨_, ⟨valid, rfl⟩, ⟨stored, after⟩, updated, rfl, rfl⟩
    exact ⟨valid, stored, updated, rfl⟩
  · rintro ⟨valid, stored, updated, rfl⟩
    exact ⟨a, ⟨valid, rfl⟩, (stored, r'), updated, rfl, rfl⟩

theorem record_delete_eq_ok {id : String} :
    r.record (.delete id) = .ok (step, r') ↔ r.delete id = .ok r' ∧ .deleted id = step := by
  rw [record]
  cases r.delete id <;> simp [bind, Except.bind, pure, Except.pure, and_comm]

theorem record_refresh_eq_ok :
    r.record .refresh = .ok (step, r') ↔
      ∃ items, r.list {} = .ok items ∧ .refreshed items = step ∧ r = r' := by
  rw [record]
  cases r.list {} <;> simp [bind, Except.bind, pure, Except.pure]

end record

end Repository

section

variable {r r' : Repository α}

theorem Repository.recorded_of_create {a : α} (created : r.create a = .ok r') :
    Recorded r.items (.created a) r'.items ∧ r'.available = true := by
  obtain ⟨available, fresh, rfl⟩ := create_eq_ok.mp created
  exact ⟨.created fresh, available⟩

theorem Repository.recorded_of_update {now : Instant} {a stored : α}
    (updated : r.update now a = .ok (stored, r')) :
    Recorded r.items (.updated stored) r'.items ∧ r'.available = true := by
  obtain ⟨available, items', succeeded, rfl⟩ := update_eq_ok.mp updated
  obtain ⟨front, b, back, items, first, same, low, rfl, rfl⟩ := succeedItem_eq_ok.mp succeeded
  rw [items]
  refine ⟨.updated ?_ ?_ low (Entity.version_succeed ..), available⟩
  · rwa [Entity.id_succeed]
  · rwa [Entity.id_succeed]

theorem Repository.recorded_of_delete {id : String} (deleted : r.delete id = .ok r') :
    Recorded r.items (.deleted id) r'.items ∧ r'.available = true := by
  obtain ⟨available, found, rfl⟩ := delete_eq_ok.mp deleted
  exact ⟨.deleted found, available⟩

end

/-- A first step that succeeds does one of these, on a repository that is available. -/
theorem recorded_of_record {r r' : Repository α} {w : Write α} {step : SnapshotStep α}
    (h : r.record w = .ok (step, r')) :
    Recorded r.items step r'.items ∧ r'.available = true := by
  cases w with
  | create a =>
    obtain ⟨-, created, rfl⟩ := Repository.record_create_eq_ok.mp h
    exact Repository.recorded_of_create created
  | update now a =>
    obtain ⟨-, stored, updated, rfl⟩ := Repository.record_update_eq_ok.mp h
    exact Repository.recorded_of_update updated
  | delete id =>
    obtain ⟨deleted, rfl⟩ := Repository.record_delete_eq_ok.mp h
    exact Repository.recorded_of_delete deleted
  | refresh =>
    obtain ⟨items, listed, rfl, rfl⟩ := Repository.record_refresh_eq_ok.mp h
    obtain ⟨available, rfl⟩ := Repository.list_all_eq_ok.mp listed
    exact ⟨.refreshed, available⟩

/-- What both steps of a write do to a store. -/
theorem Store.recorded_of_write {s s' : Store α} {w : Write α} (h : s.write w = .ok s') :
    ∃ step, Recorded s.repository.items step s'.repository.items ∧
      s'.snapshot = step.apply s.snapshot := by
  obtain ⟨⟨step, r'⟩, recorded, rfl⟩ := map_eq_ok.mp h
  exact ⟨step, (recorded_of_record recorded).1, rfl⟩

end Verdict
