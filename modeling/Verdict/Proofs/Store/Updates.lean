import Mathlib.Data.List.Nodup
import Verdict.Proofs.Store.Concurrent

/-!
# Updates at the same time

A `Race` is a store while any number of updates are made on it.  Each update is stored in the
repository first and put into the snapshot later, in whatever order the second steps come.  The
repository numbers the updates of an id in turn (`Race.Numbered`); as an entity never takes the
place of a newer one, the snapshot goes through them forwards only, and it holds what the repository
holds once all are put in (`Race.updates_converge`).
-/

namespace Verdict
open Relation

variable {α : Type} [Entity α]

/-- A store while updates are made on it. -/
structure Race (α : Type) where
  store : Store α
  /-- What is stored in the repository and still to be put into the snapshot. -/
  pending : List α := []
  /-- What was stored in the repository, in that order. -/
  written : List α := []

namespace Race

/-- One step of some update: an entity is stored in the repository, or one that was is put into the
    snapshot. -/
inductive Step : Race α → Race α → Prop
  | record {f : Race α} {now : Instant} {a stored : α} {r : Repository α}
      (recorded : f.store.repository.record (.update now a) = .ok (.updated stored, r)) :
      Step f ⟨{ f.store with repository := r }, f.pending ++ [stored], f.written ++ [stored]⟩
  | put {s : Store α} {a : α} {earlier later written : List α} :
      Step ⟨s, earlier ++ a :: later, written⟩
        ⟨{ s with snapshot := s.snapshot.upsert a }, earlier ++ later, written⟩

/-- A store before any update is made on it. -/
def start (s : Store α) : Race α :=
  { store := s }

/-- What was stored under the id of an entity. -/
def updatesOf (f : Race α) (b : α) : List α :=
  ofId (Entity.id b) f.written

/-- What is stored in the place of an entity: the last update of its id, if there was one. -/
def latest (f : Race α) (b : α) : α :=
  (f.updatesOf b).getLast?.getD b

/-- Whether the updates of an id have the versions that follow on that of an entity, in turn. -/
def Numbered (f : Race α) (b : α) : Prop :=
  (f.updatesOf b).map (fun a => (Entity.version a).toNat) =
    List.range' ((Entity.version b).toNat + 1) (f.updatesOf b).length

/-! ## The updates of one id -/

section

variable {f : Race α} {b stored : α} {s : Store α} {pending : List α}

theorem updatesOf_record (same : Entity.id stored = Entity.id b) :
    updatesOf ⟨s, pending, f.written ++ [stored]⟩ b = f.updatesOf b ++ [stored] := by
  rw [updatesOf, ofId_append, ofId_cons_self same]
  rfl

theorem updatesOf_record_other (other : Entity.id stored ≠ Entity.id b) :
    updatesOf ⟨s, pending, f.written ++ [stored]⟩ b = f.updatesOf b := by
  rw [updatesOf, ofId_append, ofId_cons_other other]
  exact List.append_nil _

theorem latest_record (same : Entity.id stored = Entity.id b) :
    latest ⟨s, pending, f.written ++ [stored]⟩ b = stored := by
  rw [latest, updatesOf_record same, List.getLast?_concat, Option.getD_some]

theorem latest_record_other (other : Entity.id stored ≠ Entity.id b) :
    latest ⟨s, pending, f.written ++ [stored]⟩ b = f.latest b := by
  rw [latest, updatesOf_record_other other, latest]

theorem id_latest (f : Race α) (b : α) : Entity.id (f.latest b) = Entity.id b := by
  unfold latest
  cases last : (f.updatesOf b).getLast? with
  | none => rfl
  | some a =>
    have member : a ∈ f.updatesOf b := List.mem_of_getLast? last
    exact beq_iff_eq.mp (List.mem_filter.mp member).2

/-- The version of what is stored counts the updates. -/
theorem Numbered.version_latest (numbered : f.Numbered b) :
    (Entity.version (f.latest b)).toNat =
      (Entity.version b).toNat + (f.updatesOf b).length := by
  unfold Numbered at numbered
  unfold latest
  generalize f.updatesOf b = updates at numbered ⊢
  cases last : updates.getLast? with
  | none =>
    rw [List.getLast?_eq_none_iff.mp last]
    rfl
  | some a =>
    have some : updates.length ≠ 0 := by
      intro none
      rw [List.length_eq_zero_iff.mp none] at last
      cases last
    have top := congrArg List.getLast? numbered
    rw [List.getLast?_map, last, List.getLast?_range', if_neg some, Option.map_some] at top
    rw [Option.getD_some, Option.some.inj top]
    omega

/-- The updates stay numbered. -/
theorem Numbered.record (numbered : f.Numbered b)
    (next : Entity.id stored = Entity.id b →
      (Entity.version stored).toNat = (Entity.version (f.latest b)).toNat + 1) :
    Numbered ⟨s, pending, f.written ++ [stored]⟩ b := by
  by_cases same : Entity.id stored = Entity.id b
  · have version : (Entity.version stored).toNat =
        (Entity.version b).toNat + 1 + (f.updatesOf b).length := by
      rw [next same, numbered.version_latest]
      omega
    unfold Numbered at *
    rw [updatesOf_record same, List.map_append, numbered, List.length_append, List.length_singleton,
      List.range'_concat, Nat.one_mul, ← version]
    rfl
  · unfold Numbered at *
    rwa [updatesOf_record_other same]

end

/-! ## One step -/

/-- What holds while updates are made on a store that held some entities. -/
structure Sound (items : List α) (f : Race α) : Prop where
  /-- Every update stands where the entity that it replaced was. -/
  repository : f.store.repository.items = items.map f.latest
  numbered : ∀ b ∈ items, f.Numbered b
  known : ∀ a ∈ f.pending, Entity.id a ∈ items.map Entity.id
  /-- The snapshot keeps the ids and their order. -/
  snapshot : f.store.snapshot.items.map Entity.id = items.map Entity.id

/-- What the repository stores is the update after those before it, in the same place. -/
theorem Sound.recorded {items items' : List α} (distinct : (items.map Entity.id).Nodup)
    {f : Race α} (sound : f.Sound items) {stored : α}
    (recorded : Recorded f.store.repository.items (.updated stored) items') (s : Store α)
    (pending : List α) :
    items' = items.map (latest ⟨s, pending, f.written ++ [stored]⟩) ∧
      Entity.id stored ∈ items.map Entity.id ∧
      ∀ b ∈ items, Entity.id stored = Entity.id b →
        (Entity.version stored).toNat = (Entity.version (f.latest b)).toNat + 1 := by
  obtain ⟨front', b', back', split, -, same, next, rfl⟩ := recorded.updated_split
  rw [sound.repository] at split
  obtain ⟨front, rest, rfl, rfl, tail⟩ := List.map_eq_append_iff.mp split
  obtain ⟨b, back, rfl, rfl, rfl⟩ := List.map_eq_cons_iff.mp tail
  rw [id_latest] at same
  have apart : ∀ c ∈ front ++ back, Entity.id stored ≠ Entity.id c := by
    have whole := distinct
    rw [List.map_append, List.map_cons, List.nodup_middle, ← List.map_append,
      List.nodup_cons] at whole
    intro c member equal
    exact whole.1 (same.trans equal ▸ List.mem_map_of_mem member)
  refine ⟨?_, ?_, ?_⟩
  · have left : front.map f.latest =
        front.map (latest ⟨s, pending, f.written ++ [stored]⟩) := by
      apply List.map_congr_left
      intro c member
      exact (latest_record_other (apart c (List.mem_append_left _ member))).symm
    have right : back.map f.latest = back.map (latest ⟨s, pending, f.written ++ [stored]⟩) := by
      apply List.map_congr_left
      intro c member
      exact (latest_record_other (apart c (List.mem_append_right _ member))).symm
    rw [left, right, List.map_append, List.map_cons, latest_record same.symm]
  · rw [← same]
    exact List.mem_map_of_mem (by simp)
  · intro c member equal
    have held : b ∈ front ++ b :: back := by simp
    rw [List.inj_on_of_nodup_map distinct member held (equal.symm.trans same.symm)]
    exact next

/-- Every step keeps a race sound. -/
theorem Sound.step {items : List α} (distinct : (items.map Entity.id).Nodup) {f g : Race α}
    (sound : f.Sound items) (step : Step f g) : g.Sound items := by
  cases step with
  | @record _ now a stored r done =>
    obtain ⟨placed, known, next⟩ := sound.recorded distinct (recorded_of_record done).1
      { f.store with repository := r } (f.pending ++ [stored])
    refine ⟨placed, ?_, ?_, sound.snapshot⟩
    · intro b member
      exact (sound.numbered b member).record (next b member)
    · intro a' waiting
      rcases List.mem_append.mp waiting with before | here
      · exact sound.known a' before
      · obtain rfl := List.mem_singleton.mp here
        exact known
  | @put s a earlier later written =>
    refine ⟨sound.repository, sound.numbered, ?_, ?_⟩
    · intro a' waiting
      apply sound.known a'
      rcases List.mem_append.mp waiting with before | after
      · exact List.mem_append_left _ before
      · exact List.mem_append_right _ (List.mem_cons_of_mem _ after)
    · have known := sound.known a (by simp)
      exact (map_id_upsertItem (sound.snapshot ▸ known)).trans sound.snapshot

/-- The version of an id in the snapshot never goes down. -/
theorem Step.forwards {f g : Race α} (step : Step f g) {id : String} {a : α}
    (held : f.store.snapshot.get? id = some a) :
    ∃ a', g.store.snapshot.get? id = some a' ∧ Entity.version a ≤ Entity.version a' := by
  cases step with
  | record done => exact ⟨a, held, UInt64.le_refl _⟩
  | @put s a₁ earlier later written => exact s.snapshot.upsert_forwards a₁ held

/-! ## Convergence -/

/-- The discipline of updates that may overtake each other. -/
def discipline : Discipline where
  overtakes earlier later := earlier = .update ∧ later = .update

theorem safe_discipline : discipline.Safe := by
  constructor <;> simp [discipline]

/-- The store of a race with the second steps that are still to be taken. -/
def flight (f : Race α) : Flight α :=
  ⟨f.store, f.pending.map .updated⟩

/-- Every step of a race is one that the discipline permits. -/
theorem Step.permitted {f g : Race α} (step : Step f g) : discipline.Step f.flight g.flight := by
  cases step with
  | @record _ now a stored r done =>
    have taken := @Discipline.Step.first α _ discipline f.flight _ _ _ done
    unfold flight at taken ⊢
    rwa [List.map_append]
  | @put s a earlier later written =>
    unfold flight
    rw [List.map_append, List.map_append, List.map_cons]
    apply Discipline.Step.second
    intro x member id _ _
    obtain ⟨a', -, rfl⟩ := List.mem_map.mp member
    exact ⟨rfl, rfl⟩

/-- Lists with the same ids in the same order are equal if they hold the same entities of each. -/
theorem eq_of_same_ids {items items' : List α} (ids : items.map Entity.id = items'.map Entity.id)
    (same : ∀ id, ofId id items = ofId id items') : items = items' := by
  induction items generalizing items' with
  | nil => exact (List.map_eq_nil_iff.mp ids.symm).symm
  | cons a rest ih =>
    obtain ⟨a', rest', rfl, here, later⟩ := List.map_eq_cons_iff.mp ids.symm
    have heads := same (Entity.id a)
    rw [ofId_cons_self rfl, ofId_cons_self here] at heads
    obtain ⟨rfl, -⟩ := List.cons.inj heads
    have tails : ∀ id, ofId id rest = ofId id rest' := by
      intro id
      have whole := same id
      by_cases about : Entity.id a = id
      · rw [ofId_cons_self about, ofId_cons_self about] at whole
        exact (List.cons.inj whole).2
      · rwa [ofId_cons_other about, ofId_cons_other about] at whole
    rw [ih later.symm tails]

/-! ## Runs -/

section

variable {s : Store α} (distinct : (s.repository.items.map Entity.id).Nodup)
  (mirrors : s.snapshot.items = s.repository.items) {f g : Race α}

theorem forwards_of_run (run : ReflTransGen Step f g) {id : String} {a : α}
    (held : f.store.snapshot.get? id = some a) :
    ∃ a', g.store.snapshot.get? id = some a' ∧ Entity.version a ≤ Entity.version a' := by
  induction run with
  | refl => exact ⟨a, held, UInt64.le_refl _⟩
  | tail _ step ih =>
    obtain ⟨a₁, first, atMost⟩ := ih
    obtain ⟨a₂, second, atMost'⟩ := step.forwards first
    exact ⟨a₂, second, UInt64.le_trans atMost atMost'⟩

include mirrors

theorem sound_start : Sound s.repository.items (start s) where
  repository := by
    have none : (start s).latest = fun b => b := rfl
    rw [none, List.map_id']
    rfl
  numbered := fun _ _ => rfl
  known := nofun
  snapshot := by rw [start, mirrors]

include distinct

theorem sound_of_run (run : ReflTransGen Step (start s) g) : g.Sound s.repository.items := by
  induction run with
  | refl => exact sound_start mirrors
  | tail _ step ih => exact ih.step distinct step

end

/-- Any number of updates, made at the same time on a store whose snapshot mirrors its repository,
    are numbered by the repository: the versions given out for an id follow on the one that it had,
    one by one, and the repository holds the last of them where the entity was.  The version of an
    id in the snapshot never goes down, from any moment to a later one.  Once all updates are put
    in, the snapshot is what the repository is. -/
theorem updates_converge {s : Store α} (mirrors : s.snapshot.items = s.repository.items)
    (distinct : (s.repository.items.map Entity.id).Nodup) {g : Race α}
    (run : ReflTransGen Step (start s) g) :
    (∀ b ∈ s.repository.items, g.Numbered b) ∧
      g.store.repository.items = s.repository.items.map g.latest ∧
      (∀ f, ReflTransGen Step (start s) f → ReflTransGen Step f g → ∀ id a,
        f.store.snapshot.get? id = some a →
          ∃ a', g.store.snapshot.get? id = some a' ∧ Entity.version a ≤ Entity.version a') ∧
      (g.pending = [] → g.store.snapshot.items = g.store.repository.items) := by
  have sound := sound_of_run distinct mirrors run
  have flown : ReflTransGen discipline.Step (start s).flight g.flight :=
    run.lift flight fun _ _ step => step.permitted
  refine ⟨sound.numbered, sound.repository, ?_, ?_⟩
  · intro f _ later id a held
    exact forwards_of_run later held
  · intro done
    have landed : g.flight.pending = [] := by
      rw [flight, done]
      rfl
    have same : (start s).flight.store.Mirrors := by
      intro id
      rw [flight, start, mirrors]
    have mirrored := safe_discipline.keeps (start s).flight g.flight rfl same flown landed
    have ids : g.store.snapshot.items.map Entity.id = g.store.repository.items.map Entity.id := by
      rw [sound.snapshot, sound.repository, List.map_map]
      apply List.map_congr_left
      intro b _
      exact (g.id_latest b).symm
    exact eq_of_same_ids ids mirrored

theorem updates_converge_out_of_turn :
    let now : Instant := ⟨0, 0, 0, by decide, by decide⟩
    let rule (id : String) (version : UInt64) : Rule :=
      { id := id, name := id, version := version, createdAt := now, updatedAt := now,
        conditions := [{ field := "path", operator := .equals, value := .text "/x" }],
        actions := [{ actionType := .block }] }
    let s : Store Rule :=
      ⟨⟨[rule "a" 1, rule "b" 1], true⟩, ⟨1, [rule "a" 1, rule "b" 1]⟩⟩
    let written := [rule "a" 2, rule "b" 2, rule "a" 3]
    let g : Race Rule :=
      ⟨⟨⟨[rule "a" 3, rule "b" 2], true⟩, ⟨4, [rule "a" 3, rule "b" 2]⟩⟩, [], written⟩
    s.snapshot.items = s.repository.items ∧ (s.repository.items.map Entity.id).Nodup ∧
      ReflTransGen Step (start s) g ∧
      (∀ b ∈ s.repository.items, g.Numbered b) ∧
      g.store.snapshot.items = g.store.repository.items := by
  intro now rule s written g
  have valid (id : String) (issues : Entity.issues (rule id 7) = []) {r r' : Repository Rule}
      {stored : Rule} (updated : r.update now (rule id 7) = .ok (stored, r')) :
      r.record (.update now (rule id 7)) = .ok (.updated stored, r') :=
    Repository.record_update_eq_ok.mpr ⟨issues, stored, updated, rfl⟩
  have validA := @valid "a" (by decide +kernel)
  have validB := @valid "b" (by decide +kernel)
  -- two updates of `a`, one of `b` in between; the last one comes first to the snapshot
  have first : Step (start s)
      ⟨⟨⟨[rule "a" 2, rule "b" 1], true⟩, s.snapshot⟩, [rule "a" 2], [rule "a" 2]⟩ :=
    .record (validA rfl)
  have second : Step ⟨⟨⟨[rule "a" 2, rule "b" 1], true⟩, s.snapshot⟩, [rule "a" 2], [rule "a" 2]⟩
      ⟨⟨⟨[rule "a" 2, rule "b" 2], true⟩, s.snapshot⟩, [rule "a" 2, rule "b" 2],
        [rule "a" 2, rule "b" 2]⟩ :=
    .record (validB rfl)
  have third : Step ⟨⟨⟨[rule "a" 2, rule "b" 2], true⟩, s.snapshot⟩, [rule "a" 2, rule "b" 2],
        [rule "a" 2, rule "b" 2]⟩
      ⟨⟨⟨[rule "a" 3, rule "b" 2], true⟩, s.snapshot⟩, written, written⟩ :=
    .record (validA rfl)
  have put₁ : Step ⟨⟨⟨[rule "a" 3, rule "b" 2], true⟩, s.snapshot⟩, written, written⟩
      ⟨⟨⟨[rule "a" 3, rule "b" 2], true⟩, ⟨2, [rule "a" 3, rule "b" 1]⟩⟩,
        [rule "a" 2, rule "b" 2], written⟩ :=
    @Step.put Rule _ _ (rule "a" 3) [rule "a" 2, rule "b" 2] [] written
  have put₂ : Step ⟨⟨⟨[rule "a" 3, rule "b" 2], true⟩, ⟨2, [rule "a" 3, rule "b" 1]⟩⟩,
        [rule "a" 2, rule "b" 2], written⟩
      ⟨⟨⟨[rule "a" 3, rule "b" 2], true⟩, ⟨3, [rule "a" 3, rule "b" 1]⟩⟩, [rule "b" 2], written⟩ :=
    @Step.put Rule _ _ (rule "a" 2) [] [rule "b" 2] written
  have put₃ : Step ⟨⟨⟨[rule "a" 3, rule "b" 2], true⟩, ⟨3, [rule "a" 3, rule "b" 1]⟩⟩,
        [rule "b" 2], written⟩ g :=
    @Step.put Rule _ _ (rule "b" 2) [] [] written
  have run : ReflTransGen Step (start s) g :=
    (((((ReflTransGen.single first).tail second).tail third).tail put₁).tail put₂).tail put₃
  have distinct : (s.repository.items.map Entity.id).Nodup := by decide
  obtain ⟨numbered, -, -, converged⟩ := updates_converge rfl distinct run
  exact ⟨rfl, distinct, run, numbered, converged rfl⟩

end Race

end Verdict
