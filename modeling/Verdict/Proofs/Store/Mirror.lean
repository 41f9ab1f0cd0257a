import Mathlib.Algebra.Group.Nat.Defs
import Mathlib.Data.List.Nodup
import Verdict.Proofs.Store.Write
import Verdict.Rule

/-!
# The snapshot mirrors the repository

As long as the calls on a store come one after the other, its snapshot holds the items of its
repository, in their order.  The repository pushes, replaces in a slot and drops; the snapshot does
the same by other means, with a guard by versions in between.  `Recorded.onItems` is where the two
meet: the snapshot step of a write, taken on the items before it, gives the items after it.
-/

namespace Verdict

variable {α : Type} [Entity α]

/-! ## One write -/

theorem upsertItem_of_fresh {items : List α} {a : α}
    (fresh : ∀ b ∈ items, Entity.id b ≠ Entity.id a) :
    Snapshot.upsertItem a items = items ++ [a] := by
  induction items with
  | nil => rfl
  | cons b rest ih =>
    obtain ⟨other, others⟩ := List.forall_mem_cons.mp fresh
    rw [Snapshot.upsertItem, if_neg (by simpa using other), ih others, List.cons_append]

theorem upsertItem_of_first {front back : List α} {a b : α}
    (first : ∀ c ∈ front, Entity.id c ≠ Entity.id a) (same : Entity.id b = Entity.id a) :
    Snapshot.upsertItem a (front ++ b :: back) =
      front ++ (if Entity.version a < Entity.version b then b else a) :: back := by
  induction front with
  | nil => rw [List.nil_append, Snapshot.upsertItem, if_pos (by simpa using same)]; rfl
  | cons c front ih =>
    obtain ⟨other, others⟩ := List.forall_mem_cons.mp first
    rw [List.cons_append, Snapshot.upsertItem, if_neg (by simpa using other), ih others]; rfl

/-- An entity of a known id leaves the ids as they are. -/
theorem map_id_upsertItem {items : List α} {a : α} (known : Entity.id a ∈ items.map Entity.id) :
    (Snapshot.upsertItem a items).map Entity.id = items.map Entity.id := by
  induction items with
  | nil => cases known
  | cons b rest ih =>
    rw [Snapshot.upsertItem]
    by_cases same : Entity.id b = Entity.id a
    · rw [if_pos (by simpa using same), List.map_cons, List.map_cons]
      split
      · rfl
      · rw [same]
    · have later : Entity.id a ∈ rest.map Entity.id := by
        rw [List.map_cons, List.mem_cons] at known
        exact known.resolve_left fun equal => same equal.symm
      rw [if_neg (by simpa using same), List.map_cons, List.map_cons, ih later]

/-- The snapshot step of a write does to the items what the write did to them. -/
theorem Recorded.onItems {items items' : List α} {step : SnapshotStep α}
    (recorded : Recorded items step items') : step.onItems items = items' := by
  cases recorded with
  | created fresh => exact upsertItem_of_fresh fresh
  | @updated front back b a first same low next =>
    have older : ¬ Entity.version a < Entity.version b :=
      next ▸ UInt64.lt_asymm low.lt_successor
    rw [SnapshotStep.onItems, upsertItem_of_first first same, if_neg older]
  | deleted found => rfl
  | refreshed => rfl

/-- A write keeps the ids distinct. -/
theorem Recorded.distinct {items items' : List α} {step : SnapshotStep α}
    (recorded : Recorded items step items') (distinct : (items.map Entity.id).Nodup) :
    (items'.map Entity.id).Nodup := by
  cases recorded with
  | @created _ a fresh =>
    rw [List.map_append, List.nodup_append]
    refine ⟨distinct, by simp, ?_⟩
    simpa using fresh
  | @updated front back b a first same low next =>
    simpa [same] using distinct
  | deleted found => exact distinct.sublist (List.filter_sublist.map _)
  | refreshed => exact distinct

/-! ## Requests one after the other -/

namespace Store

/-- What is asked of a store, or done to the repository under it. -/
inductive Request (α : Type) where
  | create (a : α)
  | update (now : Instant) (a : α)
  | delete (id : String)
  | put (now : Instant) (overwrite : Bool) (a : α)
  | get (id : String)
  | list (f : Filter)
  | refresh
  /-- The repository becomes available or unavailable. -/
  | switch (available : Bool)

/-- How a request ended. -/
inductive Reply where
  /-- The repository was written, or the snapshot taken anew. -/
  | written
  /-- There was an entity of the id already, and it was left alone. -/
  | kept
  /-- There was nothing to write. -/
  | answered
  | switched
  | failed (cause : Failure)

/-- One request to a store. -/
structure Turn (α : Type) where
  before : Store α
  request : Request α
  reply : Reply
  after : Store α

/-- What a request that does not fail comes to. -/
def answer (s : Store α) : Request α → Except Failure (Reply × Store α)
  | .create a => (s.create a).map fun (_, s) => (.written, s)
  | .update now a => (s.update now a).map fun (_, s) => (.written, s)
  | .delete id => (s.delete id).map fun s => (.written, s)
  | .put now overwrite a =>
      (s.put now overwrite a).map fun
        | (.kept, s) => (.kept, s)
        | (_, s) => (.written, s)
  | .get id => (s.get id).map fun _ => (.answered, s)
  | .list f => (s.list f).map fun _ => (.answered, s)
  | .refresh => s.refresh.map fun s => (.written, s)
  | .switch available =>
      .ok (.switched, { s with repository := { s.repository with available := available } })

/-- Serves a request; one that fails leaves the store as it was. -/
def serve (s : Store α) (q : Request α) : Turn α :=
  match s.answer q with
  | .ok (reply, s') => ⟨s, q, reply, s'⟩
  | .error cause => ⟨s, q, .failed cause, s⟩

/-- Serves requests one after the other. -/
def turns (s : Store α) : List (Request α) → List (Turn α)
  | [] => []
  | q :: rest => s.serve q :: (s.serve q).after.turns rest

/-- What a request can do to a store. -/
inductive Served (s : Store α) : Reply → Store α → Prop
  | written {s' : Store α} {w : Write α} (write : s.write w = .ok s') : Served s .written s'
  | kept : Served s .kept s
  | answered : Served s .answered s
  | switched {available : Bool} :
      Served s .switched { s with repository := { s.repository with available := available } }
  | failed {cause : Failure} : Served s (.failed cause) s

theorem served_of_create {s s' : Store α} {a stored : α} (created : s.create a = .ok (stored, s')) :
    Served s .written s' :=
  .written (w := .create a) (by rw [← map_snd_create, created]; rfl)

theorem served_of_update {s s' : Store α} {now : Instant} {a stored : α}
    (updated : s.update now a = .ok (stored, s')) : Served s .written s' :=
  .written (w := .update now a) (by rw [← map_snd_update, updated]; rfl)

theorem served_of_put {s s' : Store α} {now : Instant} {overwrite : Bool} {a : α}
    {put : Put α} (done : s.put now overwrite a = .ok (put, s')) :
    Served s (match put with | .kept => .kept | _ => .written) s' := by
  have cases := put_cases done
  cases put with
  | created stored => exact served_of_create cases
  | updated stored => exact served_of_update cases
  | kept =>
    obtain rfl : s' = s := cases
    exact .kept

theorem served_of_answer {s s' : Store α} {q : Request α} {reply : Reply}
    (answered : s.answer q = .ok (reply, s')) : Served s reply s' := by
  cases q with
  | create a =>
    obtain ⟨_, created, equal⟩ := map_eq_ok.mp answered
    cases equal
    exact served_of_create created
  | update now a =>
    obtain ⟨_, updated, equal⟩ := map_eq_ok.mp answered
    cases equal
    exact served_of_update updated
  | delete id =>
    obtain ⟨_, deleted, equal⟩ := map_eq_ok.mp answered
    cases equal
    exact .written (delete_eq s id ▸ deleted)
  | put now overwrite a =>
    obtain ⟨⟨put, _⟩, done, equal⟩ := map_eq_ok.mp answered
    cases put <;> cases equal <;> exact served_of_put done
  | get id =>
    obtain ⟨_, _, equal⟩ := map_eq_ok.mp answered
    cases equal
    exact .answered
  | list f =>
    obtain ⟨_, _, equal⟩ := map_eq_ok.mp answered
    cases equal
    exact .answered
  | refresh =>
    obtain ⟨_, refreshed, equal⟩ := map_eq_ok.mp answered
    cases equal
    exact .written (refresh_eq s ▸ refreshed)
  | switch available =>
    cases answered
    exact .switched

theorem served_of_serve (s : Store α) (q : Request α) :
    Served s (s.serve q).reply (s.serve q).after := by
  unfold serve
  split
  · exact served_of_answer ‹_›
  · exact .failed

/-! ## The mirror -/

/-- What a request does to a store whose snapshot mirrors its repository. -/
structure Turn.Faithful (t : Turn α) : Prop where
  mirrors : t.after.snapshot.items = t.after.repository.items
  /-- A write is one change of the snapshot. -/
  written : t.reply = .written → t.after.snapshot.version = t.before.snapshot.version + 1
  /-- A request that fails, or leaves an entity alone, or only reads changes nothing at all. -/
  unchanged : t.reply ≠ .written → t.reply ≠ .switched → t.after = t.before
  switched : t.reply = .switched →
    t.after.snapshot = t.before.snapshot ∧
      t.after.repository.items = t.before.repository.items
  distinct : (t.before.repository.items.map Entity.id).Nodup →
    (t.after.repository.items.map Entity.id).Nodup

theorem serve_before (s : Store α) (q : Request α) : (s.serve q).before = s := by
  unfold serve
  split <;> rfl

theorem serve_faithful {s : Store α} (mirrors : s.snapshot.items = s.repository.items)
    (q : Request α) : (s.serve q).Faithful := by
  have served := served_of_serve s q
  have before := serve_before s q
  generalize s.serve q = t at served before
  obtain ⟨s₀, q, reply, s'⟩ := t
  obtain rfl : s₀ = s := before
  change Served s₀ reply s' at served
  cases served with
  | written write =>
    obtain ⟨step, recorded, snapshot⟩ := recorded_of_write write
    exact {
      mirrors := by
        rw [snapshot, SnapshotStep.apply_items, mirrors]
        exact recorded.onItems
      written := fun _ => by rw [snapshot, SnapshotStep.apply_version]
      unchanged := fun notWritten => absurd rfl notWritten
      switched := nofun
      distinct := recorded.distinct }
  | kept | answered | failed =>
    exact {
      mirrors := mirrors
      written := nofun
      unchanged := fun _ _ => rfl
      switched := nofun
      distinct := id }
  | switched =>
    exact {
      mirrors := mirrors
      written := nofun
      unchanged := fun _ notSwitched => absurd rfl notSwitched
      switched := fun _ => ⟨rfl, rfl⟩
      distinct := id }

theorem turns_faithful {s : Store α} (mirrors : s.snapshot.items = s.repository.items)
    (requests : List (Request α)) : ∀ t ∈ s.turns requests, t.Faithful := by
  induction requests generalizing s with
  | nil => simp [turns]
  | cons q rest ih =>
    have faithful := serve_faithful mirrors q
    exact List.forall_mem_cons.mpr ⟨faithful, ih faithful.mirrors⟩

theorem turns_distinct {s : Store α} {requests : List (Request α)}
    (faithful : ∀ t ∈ s.turns requests, t.Faithful)
    (distinct : (s.repository.items.map Entity.id).Nodup) :
    ∀ t ∈ s.turns requests, (t.after.repository.items.map Entity.id).Nodup := by
  induction requests generalizing s with
  | nil => simp [turns]
  | cons q rest ih =>
    rw [turns] at faithful ⊢
    obtain ⟨now, later⟩ := List.forall_mem_cons.mp faithful
    have distinctAfter := now.distinct (by rwa [serve_before])
    exact List.forall_mem_cons.mpr ⟨distinctAfter, ih later distinctAfter⟩

/-- From the time a store has loaded, its snapshot holds after every request the items of the
    repository, in their order.  What is written raises the version of the snapshot by one; what
    fails or leaves an entity alone changes nothing; and ids that were distinct stay so. -/
theorem load_mirrors {s₀ s : Store α} (loaded : s₀.refresh = .ok s)
    (requests : List (Request α)) :
    s.repository = s₀.repository ∧ s.snapshot.items = s.repository.items ∧
      s.snapshot.version = s₀.snapshot.version + 1 ∧ (∀ t ∈ s.turns requests, t.Faithful) ∧
      ((s₀.repository.items.map Entity.id).Nodup →
        ∀ t ∈ s.turns requests, (t.after.repository.items.map Entity.id).Nodup) := by
  obtain ⟨items, listed, rfl⟩ := map_eq_ok.mp loaded
  obtain ⟨-, rfl⟩ := Repository.list_all_eq_ok.mp listed
  let s : Store α := { s₀ with snapshot := s₀.snapshot.replace s₀.repository.items }
  have faithful : ∀ t ∈ s.turns requests, t.Faithful := turns_faithful rfl requests
  exact ⟨rfl, rfl, rfl, faithful, turns_distinct faithful⟩

theorem load_mirrors_of_rules :
    let now : Instant := ⟨0, 0, 0, by decide, by decide⟩
    let rule (id : String) : Rule :=
      { id := id, name := id, createdAt := now, updatedAt := now,
        conditions := [{ field := "path", operator := .equals, value := .text "/x" }],
        actions := [{ actionType := .block }] }
    let s₀ : Store Rule := { repository := { items := [rule "a"] } }
    let s : Store Rule := { s₀ with snapshot := ⟨1, [rule "a"]⟩ }
    let requests : List (Request Rule) :=
      [.update now (rule "a"), .create (rule "b"), .put now false (rule "b"), .switch false,
        .delete "a", .switch true, .delete "a"]
    s₀.refresh = .ok s ∧
      (∀ t ∈ s.turns requests, t.Faithful) ∧
      (s.turns requests).map (fun t => t.after.snapshot.items.map fun a => (a.id, a.version)) =
        [[("a", 2)], [("a", 2), ("b", 1)], [("a", 2), ("b", 1)], [("a", 2), ("b", 1)],
          [("a", 2), ("b", 1)], [("a", 2), ("b", 1)], [("b", 1)]] := by
  intro now rule s₀ s requests
  have loaded : s₀.refresh = .ok s := rfl
  exact ⟨loaded, (load_mirrors loaded requests).2.2.2.1, by decide +kernel⟩

end Store

end Verdict
