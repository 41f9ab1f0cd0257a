import Verdict.Proofs.Store.Concurrent

/-!
# A snapshot behind its repository

Other clients may write to the repository of a store, and its snapshot does not see that until it is
taken anew.  What the store itself writes it reads back (`Store.reads_its_writes`), but for one
case: the snapshot may hold a newer entity of the id than the one just written, and it keeps that
one.  This takes that the versions of the id began anew behind the snapshot, because another client
dropped the entity; `Store.Reached` keeps the ids of which this may be so.
-/

namespace Verdict
open Pending

variable {α : Type} [Entity α]

/-! ## The first entity of an id -/

/-- What a first step puts in is then the first entity of its id in the repository. -/
theorem Recorded.head_put {items items' : List α} {e : SnapshotStep α} {a : α}
    (recorded : Recorded items e items') (put : e.put? = some a) :
    (ofId (Entity.id a) items').head? = some a := by
  cases recorded with
  | created fresh =>
    cases put
    rw [ofId_append, ofId_eq_nil fresh, ofId_cons_self rfl]
    rfl
  | updated first same low next =>
    cases put
    rw [ofId_append, ofId_eq_nil first, ofId_cons_self rfl]
    rfl
  | deleted | refreshed => cases put

theorem SnapshotStep.concerns_of_put {e : SnapshotStep α} {a : α} (put : e.put? = some a)
    (id : String) : e.concerns id = (Entity.id a == id) := by
  cases e <;> cases put <;> rfl

/-- Whether a snapshot that holds the entities `c` of an id may lag behind a repository that holds
    the entities `r` of it: what it holds is not newer. -/
def Lags (c r : List α) : Prop :=
  ∀ held, c.head? = some held →
    ∃ there, r.head? = some there ∧ Entity.version held ≤ Entity.version there

namespace Lags

variable {c r r' : List α} {e : SnapshotStep α}

theorem nil (r : List α) : Lags [] r := nofun

theorem refl (r : List α) : Lags r r :=
  fun held first => ⟨held, first, UInt64.le_refl _⟩

theorem eq_nil (lags : Lags c []) : c = [] := by
  cases c with
  | nil => rfl
  | cons held rest =>
    obtain ⟨there, first, -⟩ := lags held rfl
    cases first

/-- A snapshot lags behind whatever is written to the repository, unless it is dropped. -/
theorem record (lags : Lags c r) (step : Lineage r e r') (kept : e.kind ≠ .delete) :
    Lags c r' := by
  cases step with
  | created =>
    rw [lags.eq_nil]
    exact nil _
  | @updated a b rest newer =>
    intro held first
    obtain ⟨there, equal, atMost⟩ := lags held first
    cases equal
    exact ⟨a, rfl, UInt64.le_of_lt (UInt64.lt_of_le_of_lt atMost newer)⟩
  | deleted => exact absurd rfl kept
  | refreshed => exact lags

/-- What is written to the repository is put in by a snapshot that lags behind. -/
theorem head_putFirst {a : α} (lags : Lags c r) (step : Lineage r e r') (put : e.put? = some a) :
    (putFirst a c).head? = some a := by
  cases step with
  | created =>
    cases put
    rw [lags.eq_nil]
    rfl
  | @updated _ b rest newer =>
    cases put
    cases c with
    | nil => rfl
    | cons held others =>
      obtain ⟨there, equal, atMost⟩ := lags held rfl
      cases equal
      have notNewer : ¬ Entity.version a < Entity.version held :=
        UInt64.lt_asymm (UInt64.lt_of_le_of_lt atMost newer)
      rw [putFirst, if_neg notNewer]
      rfl
  | deleted | refreshed => cases put

end Lags

namespace Store

/-! ## What a store writes -/

/-- The calls that store an entity: what is stored, and the store after. -/
inductive Stores (s : Store α) : α → Store α → Prop
  | create {a stored : α} {s' : Store α} (done : s.create a = .ok (stored, s')) :
      Stores s stored s'
  | update {now : Instant} {a stored : α} {s' : Store α}
      (done : s.update now a = .ok (stored, s')) : Stores s stored s'
  | putNew {now : Instant} {overwrite : Bool} {a stored : α} {s' : Store α}
      (done : s.put now overwrite a = .ok (.created stored, s')) : Stores s stored s'
  | putOver {now : Instant} {overwrite : Bool} {a stored : α} {s' : Store α}
      (done : s.put now overwrite a = .ok (.updated stored, s')) : Stores s stored s'

/-- What the repository does of a call, and what the snapshot takes in of it. -/
structure Wrote (s : Store α) (e : SnapshotStep α) (s' : Store α) : Prop where
  recorded : Recorded s.repository.items e s'.repository.items
  available : s'.repository.available = true
  snapshot : s'.snapshot = e.apply s.snapshot

theorem create_eq_ok {s s' : Store α} {a stored : α} :
    s.create a = .ok (stored, s') ↔
      Entity.issues a = [] ∧ a = stored ∧
        ∃ r, s.repository.create a = .ok r ∧ ⟨r, s.snapshot.upsert a⟩ = s' := by
  simp only [Store.create, bind_eq_ok, Entity.validate_eq_ok, pure, Except.pure, Except.ok.injEq,
    Prod.mk.injEq]
  constructor
  · rintro ⟨_, ⟨valid, rfl⟩, r, created, rfl, rfl⟩
    exact ⟨valid, rfl, r, created, rfl⟩
  · rintro ⟨valid, rfl, r, created, rfl⟩
    exact ⟨a, ⟨valid, rfl⟩, r, created, rfl, rfl⟩

theorem update_eq_ok {s s' : Store α} {now : Instant} {a stored : α} :
    s.update now a = .ok (stored, s') ↔
      Entity.issues a = [] ∧
        ∃ r, s.repository.update now a = .ok (stored, r) ∧ ⟨r, s.snapshot.upsert stored⟩ = s' := by
  simp only [Store.update, bind_eq_ok, Entity.validate_eq_ok, pure, Except.pure, Except.ok.injEq,
    Prod.mk.injEq]
  constructor
  · rintro ⟨_, ⟨valid, rfl⟩, ⟨stored, r⟩, updated, rfl, rfl⟩
    exact ⟨valid, r, updated, rfl⟩
  · rintro ⟨valid, r, updated, rfl⟩
    exact ⟨a, ⟨valid, rfl⟩, (stored, r), updated, rfl, rfl⟩

/-- What the repository answers to an update with which nothing is wrong, the store answers. -/
theorem update_eq_error {s : Store α} {now : Instant} {a : α} {cause : Failure}
    (valid : Entity.issues a = []) (failed : s.repository.update now a = .error cause) :
    s.update now a = .error cause := by
  simp only [Store.update, Entity.validate_eq_ok.mpr ⟨valid, rfl⟩, bind, Except.bind, failed]

theorem delete_eq_ok {s s' : Store α} {id : String} :
    s.delete id = .ok s' ↔
      ∃ r, s.repository.delete id = .ok r ∧ ⟨r, s.snapshot.remove id⟩ = s' := by
  simp only [Store.delete, bind_eq_ok, pure, Except.pure, Except.ok.injEq]

theorem wrote_of_create {s s' : Store α} {a stored : α} (done : s.create a = .ok (stored, s')) :
    Wrote s (.created stored) s' := by
  obtain ⟨-, rfl, r, created, rfl⟩ := create_eq_ok.mp done
  obtain ⟨recorded, available⟩ := Repository.recorded_of_create created
  exact ⟨recorded, available, rfl⟩

theorem wrote_of_update {s s' : Store α} {now : Instant} {a stored : α}
    (done : s.update now a = .ok (stored, s')) : Wrote s (.updated stored) s' := by
  obtain ⟨-, r, updated, rfl⟩ := update_eq_ok.mp done
  obtain ⟨recorded, available⟩ := Repository.recorded_of_update updated
  exact ⟨recorded, available, rfl⟩

theorem wrote_of_delete {s s' : Store α} {id : String} (done : s.delete id = .ok s') :
    Wrote s (.deleted id) s' := by
  obtain ⟨r, deleted, rfl⟩ := delete_eq_ok.mp done
  obtain ⟨recorded, available⟩ := Repository.recorded_of_delete deleted
  exact ⟨recorded, available, rfl⟩

theorem stores_of_create {s : Store α} {a : α} {r : Repository α} (valid : Entity.issues a = [])
    (created : s.repository.create a = .ok r) : s.Stores a ⟨r, s.snapshot.upsert a⟩ :=
  .create (create_eq_ok.mpr ⟨valid, rfl, r, created, rfl⟩)

theorem stores_of_update {s : Store α} {now : Instant} {a stored : α} {r : Repository α}
    (valid : Entity.issues a = []) (updated : s.repository.update now a = .ok (stored, r)) :
    s.Stores stored ⟨r, s.snapshot.upsert stored⟩ :=
  .update (update_eq_ok.mpr ⟨valid, r, updated, rfl⟩)

/-- A call that stores an entity puts it into the repository and then into the snapshot. -/
theorem Stores.wrote {s s' : Store α} {stored : α} (stores : s.Stores stored s') :
    ∃ e, Wrote s e s' ∧ e.put? = some stored := by
  cases stores with
  | create done => exact ⟨_, wrote_of_create done, rfl⟩
  | update done => exact ⟨_, wrote_of_update done, rfl⟩
  | putNew done => exact ⟨_, wrote_of_create (put_cases done), rfl⟩
  | putOver done => exact ⟨_, wrote_of_update (put_cases done), rfl⟩

/-! ## Other clients -/

/-- The states of a store over its repository, each with the ids whose versions may have begun anew
    behind the snapshot: other clients have dropped entities of them since the snapshot was taken or
    the store itself dropped the id. -/
inductive Reached : Store α → List String → Prop
  | opened (r : Repository α) : Reached { repository := r } []
  | stored {s s' : Store α} {behind : List String} {a : α} (before : Reached s behind)
      (done : s.Stores a s') : Reached s' behind
  | deleted {s s' : Store α} {behind : List String} {id : String} (before : Reached s behind)
      (done : s.delete id = .ok s') : Reached s' (behind.filter (· != id))
  | refreshed {s s' : Store α} {behind : List String} (before : Reached s behind)
      (done : s.refresh = .ok s') : Reached s' []
  | switched {s : Store α} {behind : List String} (before : Reached s behind) (available : Bool) :
      Reached { s with repository := { s.repository with available := available } } behind
  | othersCreated {s : Store α} {behind : List String} {a : α} {r : Repository α}
      (before : Reached s behind) (done : s.repository.create a = .ok r) :
      Reached { s with repository := r } behind
  | othersUpdated {s : Store α} {behind : List String} {now : Instant} {a stored : α}
      {r : Repository α} (before : Reached s behind)
      (done : s.repository.update now a = .ok (stored, r)) :
      Reached { s with repository := r } behind
  | othersDeleted {s : Store α} {behind : List String} {id : String} {r : Repository α}
      (before : Reached s behind) (done : s.repository.delete id = .ok r) :
      Reached { s with repository := r } (id :: behind)

/-- Whether the snapshot of a store lags behind the repository in all ids but some. -/
def LagsBut (s : Store α) (behind : List String) : Prop :=
  ∀ id, id ∉ behind → Lags (ofId id s.snapshot.items) (ofId id s.repository.items)

section

variable {s s' : Store α} {behind : List String} {e : SnapshotStep α}

/-- Ids that a step is not about are left as they are, whether the snapshot takes it in or not. -/
theorem LagsBut.elsewhere (lags : s.LagsBut behind) (after : Store α)
    (recorded : Recorded s.repository.items e after.repository.items)
    (snapshot : after.snapshot = s.snapshot ∨ after.snapshot = e.apply s.snapshot) {id : String}
    (apart : e.concerns id = false) (seen : id ∉ behind) :
    Lags (ofId id after.snapshot.items) (ofId id after.repository.items) := by
  rw [recorded.ofId_other apart]
  rcases snapshot with same | taken
  · rw [same]
    exact lags id seen
  · rw [taken, SnapshotStep.apply_items, ofId_onItems_other apart]
    exact lags id seen

/-- What begins the versions of an id anew is out of sight. -/
theorem LagsBut.hide (lags : s.LagsBut behind) (after : Store α)
    (recorded : Recorded s.repository.items e after.repository.items)
    (snapshot : after.snapshot = s.snapshot ∨ after.snapshot = e.apply s.snapshot) {id : String}
    (only : ∀ id', id' ≠ id → e.concerns id' = false) : after.LagsBut (id :: behind) := by
  intro id' seen
  rw [List.mem_cons, not_or] at seen
  exact lags.elsewhere after recorded snapshot (only id' seen.1) seen.2

/-- A write to the repository that drops nothing keeps the snapshot lagging behind. -/
theorem LagsBut.record (lags : s.LagsBut behind) {r : Repository α}
    (recorded : Recorded s.repository.items e r.items)
    (kept : e.kind ≠ .delete) : LagsBut { s with repository := r } behind := by
  intro id seen
  cases about : e.concerns id with
  | true =>
    have step := recorded.lineage about
    exact (lags id seen).record step (by rwa [SnapshotStep.kind_ofId])
  | false => exact lags.elsewhere { s with repository := r } recorded (.inl rfl) about seen

/-- What a store writes, its snapshot puts in. -/
theorem LagsBut.head_put (lags : s.LagsBut behind) (wrote : Wrote s e s') {a : α}
    (put : e.put? = some a) (seen : Entity.id a ∉ behind) :
    (ofId (Entity.id a) s'.snapshot.items).head? = some a := by
  have about : e.concerns (Entity.id a) = true := by
    rw [SnapshotStep.concerns_of_put put, beq_self_eq_true]
  have put' : (e.ofId (Entity.id a)).put? = some a := by
    cases e <;> cases put <;> rfl
  have step := wrote.recorded.lineage about
  rw [wrote.snapshot, SnapshotStep.apply_items, ofId_onItems about, SnapshotStep.onView_of_put put']
  exact (lags _ seen).head_putFirst step put'

/-- A call that stores an entity keeps the snapshot lagging behind. -/
theorem LagsBut.wrote (lags : s.LagsBut behind) (wrote : Wrote s e s') {a : α}
    (put : e.put? = some a) : s'.LagsBut behind := by
  intro id seen
  cases about : e.concerns id with
  | true =>
    obtain rfl : Entity.id a = id := by
      rwa [SnapshotStep.concerns_of_put put, beq_iff_eq] at about
    intro held first
    rw [lags.head_put wrote put seen] at first
    exact ⟨held, (wrote.recorded.head_put put).trans first, UInt64.le_refl _⟩
  | false => exact lags.elsewhere s' wrote.recorded (.inr wrote.snapshot) about seen

/-- What a store drops itself is gone from its snapshot, however far that was behind. -/
theorem LagsBut.delete (lags : s.LagsBut behind) {id : String}
    (wrote : Wrote s (.deleted id) s') : s'.LagsBut (behind.filter (· != id)) := by
  intro id' seen
  cases about : (SnapshotStep.deleted id : SnapshotStep α).concerns id' with
  | true =>
    rw [wrote.snapshot, SnapshotStep.apply_items, ofId_onItems about]
    exact Lags.nil _
  | false =>
    apply lags.elsewhere s' wrote.recorded (.inr wrote.snapshot) about
    intro member
    have other : (id' != id) = true := by
      rw [bne_iff_ne]
      exact (beq_eq_false_iff_ne.mp about).symm
    exact seen (List.mem_filter.mpr ⟨member, other⟩)

end

/-- In every reachable state the snapshot lags behind the repository, but for the ids whose versions
    may have begun anew. -/
theorem Reached.lagsBut {s : Store α} {behind : List String} (reached : Reached s behind) :
    s.LagsBut behind := by
  induction reached with
  | opened r =>
    intro id _
    exact Lags.nil _
  | @stored s s' behind a before done ih =>
    obtain ⟨e, wrote, put⟩ := done.wrote
    exact ih.wrote wrote put
  | deleted before done ih => exact ih.delete (wrote_of_delete done)
  | refreshed before done ih =>
    obtain ⟨items, listed, rfl⟩ := map_eq_ok.mp done
    obtain ⟨-, rfl⟩ := Repository.list_all_eq_ok.mp listed
    intro id _
    exact Lags.refl _
  | switched before available ih => exact ih
  | othersCreated before done ih =>
    obtain ⟨recorded, -⟩ := Repository.recorded_of_create done
    exact ih.record recorded nofun
  | @othersUpdated s behind now a stored r before done ih =>
    obtain ⟨recorded, -⟩ := Repository.recorded_of_update done
    exact ih.record recorded nofun
  | @othersDeleted s behind id r before done ih =>
    obtain ⟨recorded, -⟩ := Repository.recorded_of_delete done
    apply ih.hide { s with repository := r } recorded (.inl rfl)
    intro id other
    exact beq_eq_false_iff_ne.mpr other.symm

/-! ## Reading back -/

/-- A snapshot takes in an entity unless it holds a newer one of the id, which it then keeps. -/
theorem get?_upsert_iff (s : Snapshot α) (a : α) :
    ((s.upsert a).get? (Entity.id a) = some a ↔
        ∀ held, s.get? (Entity.id a) = some held → ¬ Entity.version a < Entity.version held) ∧
      ∀ held, s.get? (Entity.id a) = some held → Entity.version a < Entity.version held →
        (s.upsert a).get? (Entity.id a) = some held := by
  rw [Snapshot.get?_upsert]
  cases held : s.get? (Entity.id a) with
  | none => simp
  | some b =>
    by_cases newer : Entity.version a < Entity.version b
    · have other : b ≠ a := by
        rintro rfl
        exact UInt64.lt_irrefl _ newer
      simp [newer, other]
    · simp [newer, UInt64.not_lt.mp newer]

theorem find?_of_head {r : Repository α} (available : r.available = true) {id : String} {a : α}
    (first : (ofId id r.items).head? = some a) : r.find? id = .ok (some a) := by
  rw [Repository.find?, Repository.reach, if_pos available, ← first, ofId, List.head?_filter]
  rfl

/-- Right after a call has stored an entity, the repository has it under its id, and so does the
    snapshot, unless it held a newer one of the id, which it then keeps.  That takes an id whose
    versions began anew behind the snapshot.  Right after a call has dropped an id, the snapshot has
    nothing under it. -/
theorem reads_its_writes {s : Store α} {behind : List String} (reached : Reached s behind) :
    (∀ (stored : α) (s' : Store α), s.Stores stored s' →
        s'.repository.find? (Entity.id stored) = .ok (some stored) ∧
          (s'.snapshot.get? (Entity.id stored) = some stored ↔
            ∀ held, s.snapshot.get? (Entity.id stored) = some held →
              ¬ Entity.version stored < Entity.version held) ∧
          (∀ held, s.snapshot.get? (Entity.id stored) = some held →
            Entity.version stored < Entity.version held →
              s'.snapshot.get? (Entity.id stored) = some held) ∧
          (Entity.id stored ∉ behind →
            s'.snapshot.get? (Entity.id stored) = some stored)) ∧
      ∀ (id : String) (s' : Store α), s.delete id = .ok s' → s'.snapshot.get? id = none := by
  constructor
  · intro stored s' stores
    obtain ⟨e, wrote, put⟩ := stores.wrote
    have upserted : s'.snapshot = s.snapshot.upsert stored := by
      rw [wrote.snapshot]
      cases e <;> cases put <;> rfl
    have found := find?_of_head wrote.available (wrote.recorded.head_put put)
    obtain ⟨taken, kept⟩ := get?_upsert_iff s.snapshot stored
    rw [← upserted] at taken kept
    refine ⟨found, taken, kept, ?_⟩
    intro seen
    rw [Snapshot.get?_eq_head?]
    exact reached.lagsBut.head_put wrote put seen
  · intro id s' done
    have wrote := wrote_of_delete done
    have about : (SnapshotStep.deleted id : SnapshotStep α).concerns id = true := by
      simp [SnapshotStep.concerns]
    rw [Snapshot.get?_eq_head?, wrote.snapshot, SnapshotStep.apply_items, ofId_onItems about]
    rfl

theorem reads_its_writes_behind_another_client :
    let now : Instant := ⟨0, 0, 0, by decide, by decide⟩
    let rule (version : UInt64) : Rule :=
      { id := "a", name := "a", version := version, createdAt := now, updatedAt := now,
        conditions := [{ field := "path", operator := .equals, value := .text "/x" }],
        actions := [{ actionType := .block }] }
    let s : Store Rule := ⟨⟨[rule 2], true⟩, ⟨1, [rule 1]⟩⟩
    let s' : Store Rule := ⟨⟨[rule 3], true⟩, ⟨2, [rule 3]⟩⟩
    Reached s [] ∧ s.Stores (rule 3) s' ∧ s'.snapshot.get? "a" = some (rule 3) := by
  intro now rule s s'
  let opened : Store Rule := ⟨⟨[rule 1], true⟩, ⟨1, [rule 1]⟩⟩
  have loaded : Reached opened [] := .refreshed (.opened ⟨[rule 1], true⟩) rfl
  -- another client makes it version 2
  have behind : Reached s [] :=
    .othersUpdated loaded (show opened.repository.update now (rule 7) = .ok (rule 2, _) from rfl)
  have valid : Entity.issues (rule 1) = [] := by decide +kernel
  have stores : s.Stores (rule 3) s' :=
    stores_of_update valid (show s.repository.update now (rule 1) = .ok (rule 3, _) from rfl)
  refine ⟨behind, stores, ?_⟩
  exact ((reads_its_writes behind).1 _ _ stores).2.2.2 List.not_mem_nil

/-- Another client drops a rule of version 5, and the store then creates it again with version 1.
    The repository has the new rule, and the snapshot keeps the old one in force. -/
theorem created_again_behind_newer :
    let now : Instant := ⟨0, 0, 0, by decide, by decide⟩
    let rule (name : String) (version : UInt64) : Rule :=
      { id := "a", name := name, version := version, createdAt := now, updatedAt := now,
        conditions := [{ field := "path", operator := .equals, value := .text "/x" }],
        actions := [{ actionType := .block }] }
    let s : Store Rule := ⟨⟨[], true⟩, ⟨2, [rule "old" 5]⟩⟩
    let s' : Store Rule := ⟨⟨[rule "new" 1], true⟩, ⟨3, [rule "old" 5]⟩⟩
    Reached s ["a"] ∧ s.Stores (rule "new" 1) s' ∧
      s'.snapshot.get? "a" = some (rule "old" 5) ∧ rule "old" 5 ≠ rule "new" 1 := by
  intro now rule s s'
  let empty : Store Rule := ⟨⟨[], true⟩, ⟨1, []⟩⟩
  let held : Store Rule := ⟨⟨[rule "old" 5], true⟩, ⟨2, [rule "old" 5]⟩⟩
  have loaded : Reached empty [] := .refreshed (.opened ⟨[], true⟩) rfl
  have stored : empty.Stores (rule "old" 5) held :=
    stores_of_create (by decide +kernel)
      (show empty.repository.create (rule "old" 5) = .ok held.repository from rfl)
  have dropped : Reached s ["a"] :=
    .othersDeleted (.stored loaded stored)
      (show held.repository.delete "a" = .ok s.repository from rfl)
  have again : s.Stores (rule "new" 1) s' :=
    stores_of_create (by decide +kernel)
      (show s.repository.create (rule "new" 1) = .ok s'.repository from rfl)
  have kept : s'.snapshot.get? "a" = some (rule "old" 5) := List.find?_cons_of_pos (by decide)
  refine ⟨dropped, again, kept, ?_⟩
  intro same
  have names := congrArg Rule.name same
  revert names
  decide

end Store

end Verdict
