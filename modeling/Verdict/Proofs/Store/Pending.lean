import Verdict.Proofs.Store.Write

/-!
# Writes in flight about one id

The entities of one id, in the repository and in the snapshot, while some writes about them have
done their step on the repository and not yet the one on the snapshot.  `Lineage` is what a first
step does to these entities, `onView` what a second step does.  Second steps may be taken out of
turn; `Discipline` says which may overtake which.  Under a safe discipline `Catching` is kept by
every step, and with nothing left in flight it says that the two hold the same.
-/

namespace Verdict

/-- The kinds of writes. -/
inductive WriteKind where
  | create
  | update
  | delete
  | refresh
  deriving DecidableEq, Repr

/-- What is allowed of writes at the same time. -/
structure Discipline where
  /-- Whether a write may change the snapshot before an earlier one, of the first kind, about the
      same id does.  The earlier one is the one that was first in the repository. -/
  overtakes : WriteKind → WriteKind → Prop

/-- What a discipline must rule out for the snapshot to catch up with the repository. -/
structure Discipline.Safe (d : Discipline) : Prop where
  create_delete : ¬ d.overtakes .create .delete
  update_delete : ¬ d.overtakes .update .delete
  delete_create : ¬ d.overtakes .delete .create
  /-- An update that overtakes a delete also overtakes the creation in between. -/
  delete_update : d.overtakes .delete .update → ¬ d.overtakes .create .update
  refresh_create : ¬ d.overtakes .refresh .create
  refresh_update : ¬ d.overtakes .refresh .update
  refresh_delete : ¬ d.overtakes .refresh .delete

namespace SnapshotStep

variable {α : Type}

/-- The kind of write that a step belongs to. -/
def kind : SnapshotStep α → WriteKind
  | .created _ => .create
  | .updated _ => .update
  | .deleted _ => .delete
  | .refreshed _ => .refresh

/-- The entity that the step puts in. -/
def put? : SnapshotStep α → Option α
  | .created a | .updated a => some a
  | .deleted _ | .refreshed _ => none

end SnapshotStep

variable {α : Type} [Entity α]

/-- Puts an entity in for the first of the same id, unless that is newer. -/
def putFirst (a : α) : List α → List α
  | [] => [a]
  | b :: rest => (if Entity.version a < Entity.version b then b else a) :: rest

/-- What the second step of a write about an id does to the entities of the id. -/
def SnapshotStep.onView : SnapshotStep α → List α → List α
  | .created a | .updated a => putFirst a
  | .deleted _ => fun _ => []
  | .refreshed items => fun _ => items

theorem SnapshotStep.onView_of_put {e : SnapshotStep α} {a : α} (put : e.put? = some a) :
    e.onView = putFirst a := by
  cases e <;> cases put <;> rfl

namespace Pending

/-- What the first step of a write about an id does to the entities of the id. -/
inductive Lineage : List α → SnapshotStep α → List α → Prop
  | created {a : α} : Lineage [] (.created a) [a]
  | updated {a b : α} {rest : List α} (newer : Entity.version b < Entity.version a) :
      Lineage (b :: rest) (.updated a) (a :: rest)
  | deleted {b : α} {rest : List α} {id : String} : Lineage (b :: rest) (.deleted id) []
  | refreshed {items : List α} : Lineage items (.refreshed items) items

/-- What first steps, one after the other, do to the entities of an id. -/
inductive Path : List α → List (SnapshotStep α) → List α → Prop
  | nil {v : List α} : Path v [] v
  | cons {u v w : List α} {e : SnapshotStep α} {rest : List (SnapshotStep α)}
      (step : Lineage u e v) (path : Path v rest w) : Path u (e :: rest) w

/-- Whether putting an entity in would change nothing, as what is there is newer or the same. -/
def Absorbs (v : List α) (a : α) : Prop :=
  putFirst a v = v

theorem absorbs_cons {a b : α} {rest : List α} :
    Absorbs (b :: rest) a ↔ Entity.version a < Entity.version b ∨ a = b := by
  simp only [Absorbs, putFirst]
  by_cases older : Entity.version a < Entity.version b <;> simp [older]

theorem not_absorbs_nil {a : α} : ¬ Absorbs [] a := by
  simp [Absorbs, putFirst]

/-- An entity is put in for one that is not newer. -/
theorem putFirst_cons_eq {a b : α} {rest rest' : List α} :
    putFirst a (b :: rest) = a :: rest' ↔
      ¬ Entity.version a < Entity.version b ∧ rest = rest' := by
  simp only [putFirst]
  by_cases older : Entity.version a < Entity.version b
  · have other : b ≠ a := by
      rintro rfl
      exact UInt64.lt_irrefl _ older
    simp [older, other]
  · simp [older]

/-! ## One step -/

namespace Lineage

/-- The second step of a write, taken where its first one was, does the same. -/
theorem onView {v w : List α} {e : SnapshotStep α} (step : Lineage v e w) : e.onView v = w := by
  cases step with
  | created => rfl
  | updated newer => rw [SnapshotStep.onView, putFirst, if_neg (UInt64.lt_asymm newer)]
  | deleted => rfl
  | refreshed => rfl

/-- What a step puts in comes first. -/
theorem head_put {v w : List α} {e : SnapshotStep α} {a : α} (step : Lineage v e w)
    (put : e.put? = some a) : ∃ rest, w = a :: rest := by
  cases step <;> cases put <;> exact ⟨_, rfl⟩

theorem absorbs_put {v w : List α} {e : SnapshotStep α} {a : α} (step : Lineage v e w)
    (put : e.put? = some a) : Absorbs w a := by
  obtain ⟨rest, rfl⟩ := step.head_put put
  exact absorbs_cons.mpr (.inr rfl)

/-- What is absorbed stays so until the entities are dropped. -/
theorem absorbs {v w : List α} {e : SnapshotStep α} {a : α} (step : Lineage v e w)
    (kept : e.kind ≠ .delete) (absorbed : Absorbs v a) : Absorbs w a := by
  cases step with
  | created => exact absurd absorbed not_absorbs_nil
  | updated newer =>
    refine absorbs_cons.mpr (.inl ?_)
    rcases absorbs_cons.mp absorbed with older | rfl
    · exact UInt64.lt_trans older newer
    · exact newer
  | deleted => exact absurd rfl kept
  | refreshed => exact absorbed

/-- Only what is there is updated or deleted. -/
theorem ne_nil {v w : List α} {e : SnapshotStep α} (step : Lineage v e w)
    (changes : e.kind = .update ∨ e.kind = .delete) : v ≠ [] := by
  cases step <;> simp_all [SnapshotStep.kind]

end Lineage

/-! ## Paths -/

namespace Path

variable {u v w : List α} {e : SnapshotStep α} {A B : List (SnapshotStep α)}

theorem append (first : Path u A v) (second : Path v B w) : Path u (A ++ B) w := by
  induction first with
  | nil => exact second
  | cons step _ ih => exact .cons step (ih second)

theorem split (path : Path u (A ++ B) w) : ∃ v, Path u A v ∧ Path v B w := by
  induction A generalizing u with
  | nil => exact ⟨u, .nil, path⟩
  | cons e A ih =>
    cases path with
    | cons step path =>
      obtain ⟨v, first, second⟩ := ih path
      exact ⟨v, .cons step first, second⟩

/-- A path is one without its refreshes, too. -/
theorem drop_refresh {items : List α} (path : Path u (A ++ .refreshed items :: B) w) :
    Path u (A ++ B) w := by
  obtain ⟨v, first, second⟩ := path.split
  cases second with
  | cons step second =>
    cases step
    exact first.append second

/-- What is absorbed stays so along a path without deletes, and what the path puts in is. -/
theorem absorbs (path : Path u A w) (kept : ∀ e ∈ A, e.kind ≠ .delete) :
    (∀ a, Absorbs u a → Absorbs w a) ∧ ∀ e ∈ A, ∀ a, e.put? = some a → Absorbs w a := by
  induction path with
  | nil => exact ⟨fun _ => id, nofun⟩
  | cons step _ ih =>
    obtain ⟨keptHere, keptLater⟩ := List.forall_mem_cons.mp kept
    obtain ⟨later, puts⟩ := ih keptLater
    refine ⟨fun a absorbed => later a (step.absorbs keptHere absorbed), ?_⟩
    exact List.forall_mem_cons.mpr ⟨fun a put => later a (step.absorbs_put put), puts⟩

/-- A path from nothing to something creates an entity. -/
theorem creates (path : Path [] A w) (some : w ≠ []) : ∃ e ∈ A, e.kind = .create := by
  induction A with
  | nil =>
    cases path
    exact absurd rfl some
  | cons e A ih =>
    cases path with
    | cons step path =>
      cases step with
      | created => exact ⟨_, List.mem_cons_self, rfl⟩
      | refreshed =>
        obtain ⟨x, member, create⟩ := ih path
        exact ⟨x, List.mem_cons_of_mem _ member, create⟩

/-- Taken in place of all the steps of a path that puts in entities, the last step does the
    same. -/
theorem last_puts {a : α} (path : Path u (A ++ [e]) w) (puts : ∀ x ∈ A, x.put? ≠ none)
    (last : e.put? = some a) : putFirst a u = w := by
  induction A generalizing u with
  | nil =>
    cases path with
    | cons step path =>
      cases path
      rw [← SnapshotStep.onView_of_put last, step.onView]
  | cons x A ih =>
    obtain ⟨putsHere, putsLater⟩ := List.forall_mem_cons.mp puts
    obtain ⟨v, _, path'⟩ := path.split
    obtain ⟨rest, rfl⟩ : ∃ rest, w = a :: rest := by
      cases path' with
      | cons step nil =>
        cases nil
        exact step.head_put last
    cases path with
    | cons step path =>
      have fromNext := ih path putsLater
      -- the entities after the first step come from those before it by a put
      cases step with
      | created =>
        obtain ⟨-, rfl⟩ := putFirst_cons_eq.mp fromNext
        rfl
      | updated newer =>
        obtain ⟨notOlder, rfl⟩ := putFirst_cons_eq.mp fromNext
        refine putFirst_cons_eq.mpr ⟨fun older => notOlder ?_, rfl⟩
        exact UInt64.lt_trans older newer
      | deleted | refreshed => exact absurd rfl putsHere

end Path

/-! ## Catching up -/

/-- Whether some of the steps drops the entities. -/
def Deletes {α : Type} (steps : List (SnapshotStep α)) : Prop :=
  ∃ e ∈ steps, e.kind = .delete

/-- Whether the steps can no longer be missed where the entities are `v`: what they put in would
    change nothing there, or is dropped by one of them. -/
def Settled (steps : List (SnapshotStep α)) (v : List α) : Prop :=
  Deletes steps ∨ ∀ e ∈ steps, ∀ a, e.put? = some a → Absorbs v a

/-- The snapshot is on its way to the repository: `c` and `r` are the entities of an id in the one
    and in the other, and `pending` are the second steps that were not yet taken, in the order of
    the first ones. -/
structure Catching (c : List α) (pending : List (SnapshotStep α)) (r : List α) : Prop where
  /-- What comes after a delete leads from nothing to the repository. -/
  afterDelete : ∀ before e after, pending = before ++ e :: after → e.kind = .delete →
    Path [] after r
  /-- What comes after a refresh leads from what it read to the repository, and what comes before
      it is in there. -/
  afterRefresh : ∀ before items after, pending = before ++ .refreshed items :: after →
    Path items after r ∧ Settled before items
  /-- The snapshot is where the last of the steps lead from, or one of those before them drops what
      it holds. -/
  onPath : ∃ before after v, pending = before ++ after ∧ Path v after r ∧ Settled before v ∧
    (Deletes before ∨ c = v)

theorem settled_nil (v : List α) : Settled [] v :=
  .inr nofun

theorem append_eq_append_cons {β : Type} {front back before after : List β} {b : β}
    (equal : front ++ back = before ++ b :: after) :
    (∃ between, front = before ++ b :: between ∧ after = between ++ back) ∨
      ∃ between, before = front ++ between ∧ back = between ++ b :: after := by
  rcases List.append_eq_append_iff.mp equal with ⟨between, rfl, rfl⟩ | ⟨between, rfl, rest⟩
  · exact .inr ⟨between, rfl, rfl⟩
  · cases between with
    | nil => exact .inr ⟨[], by simp, rest.symm⟩
    | cons x between =>
      obtain ⟨rfl, rfl⟩ := List.cons.inj rest
      exact .inl ⟨between, rfl, rfl⟩

theorem concat_eq_append_cons {β : Type} {front before after : List β} {a b : β}
    (equal : front ++ [a] = before ++ b :: after) :
    (∃ between, front = before ++ b :: between ∧ after = between ++ [a]) ∨
      before = front ∧ b = a ∧ after = [] := by
  rcases append_eq_append_cons equal with whole | ⟨between, rfl, last⟩
  · exact .inl whole
  · cases between with
    | nil =>
      obtain ⟨rfl, rfl⟩ := List.cons.inj last
      exact .inr ⟨by simp, rfl, rfl⟩
    | cons x between => simp at last

/-- What a path puts in and does not drop again is absorbed at its end, as is what was absorbed at
    its start. -/
theorem Path.settled {before after : List (SnapshotStep α)} {v w : List α}
    (path : Path v after w) (settled : Settled before v) : Settled (before ++ after) w := by
  by_cases deletes : Deletes (before ++ after)
  · exact .inl deletes
  · have kept : ∀ e ∈ before ++ after, e.kind ≠ .delete := fun e member delete =>
      deletes ⟨e, member, delete⟩
    obtain ⟨stays, puts⟩ := path.absorbs fun e member => kept e (List.mem_append_right _ member)
    rcases settled with ⟨e, member, delete⟩ | absorbed
    · exact absurd delete (kept e (List.mem_append_left _ member))
    · refine .inr fun e member a put => ?_
      rcases List.mem_append.mp member with member | member
      · exact stays a (absorbed e member a put)
      · exact puts e member a put

theorem Deletes.erase {α : Type} {before after : List (SnapshotStep α)} {e : SnapshotStep α}
    (deletes : Deletes (before ++ e :: after)) (kept : e.kind ≠ .delete) :
    Deletes (before ++ after) := by
  obtain ⟨x, member, delete⟩ := deletes
  refine ⟨x, ?_, delete⟩
  rcases List.mem_append.mp member with member | member
  · exact List.mem_append_left _ member
  · rcases List.mem_cons.mp member with rfl | member
    · exact absurd delete kept
    · exact List.mem_append_right _ member

/-- A step that is no delete may be left out. -/
theorem Settled.erase {before after : List (SnapshotStep α)} {e : SnapshotStep α} {v : List α}
    (settled : Settled (before ++ e :: after) v) (kept : e.kind ≠ .delete) :
    Settled (before ++ after) v := by
  rcases settled with deletes | absorbed
  · exact .inl (deletes.erase kept)
  · refine .inr fun x member => absorbed x ?_
    exact ((List.sublist_cons_self e after).append_left before).subset member

namespace Catching

variable {c r r' : List α} {e : SnapshotStep α} {earlier later pending : List (SnapshotStep α)}

theorem of_eq (r : List α) : Catching r [] r where
  afterDelete := by simp
  afterRefresh := by simp
  onPath := ⟨[], [], r, rfl, .nil, settled_nil r, .inr rfl⟩

/-- With no step left, the snapshot has caught up. -/
theorem eq (catching : Catching c [] r) : c = r := by
  obtain ⟨before, after, v, none, path, -, reached⟩ := catching.onPath
  obtain ⟨rfl, rfl⟩ := List.append_eq_nil_iff.mp none.symm
  cases path
  rcases reached with ⟨e, member, -⟩ | equal
  · exact absurd member List.not_mem_nil
  · exact equal

theorem settled (catching : Catching c pending r) : Settled pending r := by
  obtain ⟨before, after, v, rfl, path, settled, -⟩ := catching.onPath
  exact path.settled settled

/-- A first step keeps the snapshot on its way. -/
theorem record (catching : Catching c pending r) (step : Lineage r e r') :
    Catching c (pending ++ [e]) r' where
  afterDelete before x after split delete := by
    rcases concat_eq_append_cons split with ⟨between, whole, rfl⟩ | ⟨rfl, rfl, rfl⟩
    · exact (catching.afterDelete _ _ _ whole delete).append (.cons step .nil)
    · cases step <;> cases delete
      exact .nil
  afterRefresh before items after split := by
    rcases concat_eq_append_cons split with ⟨between, whole, rfl⟩ | ⟨rfl, rfl, rfl⟩
    · obtain ⟨path, settled⟩ := catching.afterRefresh _ _ _ whole
      exact ⟨path.append (.cons step .nil), settled⟩
    · cases step
      exact ⟨.nil, catching.settled⟩
  onPath := by
    obtain ⟨before, after, v, rfl, path, settled, reached⟩ := catching.onPath
    exact ⟨before, after ++ [e], v, by simp, path.append (.cons step .nil), settled, reached⟩

/-- A refresh may be done at any time: the snapshot then is where the refresh leads from. -/
theorem finish_refresh {items : List α}
    (catching : Catching c (earlier ++ .refreshed items :: later) r) :
    Catching items (earlier ++ later) r where
  afterDelete before x after split delete := by
    rcases append_eq_append_cons split with ⟨between, rfl, rfl⟩ | ⟨between, rfl, rfl⟩
    · exact (catching.afterDelete before x (between ++ .refreshed items :: later) (by simp)
        delete).drop_refresh
    · exact catching.afterDelete (earlier ++ .refreshed items :: between) x after (by simp) delete
  afterRefresh before items' after split := by
    rcases append_eq_append_cons split with ⟨between, rfl, rfl⟩ | ⟨between, rfl, rfl⟩
    · obtain ⟨path, settled⟩ := catching.afterRefresh before items'
        (between ++ .refreshed items :: later) (by simp)
      exact ⟨path.drop_refresh, settled⟩
    · obtain ⟨path, settled⟩ := catching.afterRefresh (earlier ++ .refreshed items :: between)
        items' after (by simp)
      exact ⟨path, settled.erase nofun⟩
  onPath := by
    obtain ⟨path, settled⟩ := catching.afterRefresh earlier items later rfl
    exact ⟨earlier, later, items, rfl, path, settled, .inr rfl⟩

/-- Other steps may be done only when all steps that they overtake put in entities. -/
theorem overtaken_put {d : Discipline} (safe : d.Safe)
    (catching : Catching c (earlier ++ e :: later) r)
    (permitted : ∀ x ∈ earlier, d.overtakes x.kind e.kind) (other : e.kind ≠ .refresh) :
    ∀ x ∈ earlier, x.put? ≠ none := by
  intro x member none
  have allowed := permitted x member
  cases x with
  | created a | updated a => cases none
  | refreshed items =>
    cases kind : e.kind with
    | create => exact safe.refresh_create (kind ▸ allowed)
    | update => exact safe.refresh_update (kind ▸ allowed)
    | delete => exact safe.refresh_delete (kind ▸ allowed)
    | refresh => exact other kind
  | deleted id =>
    -- An update or a delete finds an entity, which was created after the one that it overtakes.
    have created (changes : e.kind = .update ∨ e.kind = .delete) : d.overtakes .create e.kind := by
      obtain ⟨before, between, rfl⟩ := List.append_of_mem member
      obtain ⟨v, path, rest⟩ := (catching.afterDelete before (.deleted id) (between ++ e :: later)
        (by simp) rfl).split
      cases rest with
      | cons step _ =>
        obtain ⟨y, created, create⟩ := path.creates (step.ne_nil changes)
        exact create ▸ permitted y (by simp [created])
    cases kind : e.kind with
    | create => exact safe.delete_create (kind ▸ allowed)
    | update => exact safe.delete_update (kind ▸ allowed) (kind ▸ created (.inl kind))
    | delete => exact safe.create_delete (kind ▸ created (.inr kind))
    | refresh => exact other kind

/-- A delete overtakes nothing. -/
theorem finish_delete {d : Discipline} (safe : d.Safe) {id : String}
    (catching : Catching c (earlier ++ .deleted id :: later) r)
    (permitted : ∀ x ∈ earlier, d.overtakes x.kind .delete) :
    Catching [] (earlier ++ later) r := by
  have puts := catching.overtaken_put safe permitted nofun
  obtain rfl : earlier = [] := by
    rw [List.eq_nil_iff_forall_not_mem]
    intro x member
    cases x with
    | created a => exact safe.create_delete (permitted _ member)
    | updated a => exact safe.update_delete (permitted _ member)
    | deleted _ | refreshed _ => exact puts _ member rfl
  have path : Path [] later r := catching.afterDelete [] _ later rfl rfl
  exact {
    afterDelete := fun before x after split delete =>
      catching.afterDelete (.deleted id :: before) x after (by simpa using split) delete
    afterRefresh := fun before items after split => by
      have split' : later = before ++ .refreshed items :: after := split
      obtain ⟨v, first, rest⟩ := (split' ▸ path).split
      cases rest with
      | cons step rest =>
        cases step
        have settled : Settled ([] ++ before) items := first.settled (settled_nil [])
        exact ⟨rest, settled⟩
    onPath := ⟨[], later, [], rfl, path, settled_nil [], .inr rfl⟩ }

/-- An entity put in out of turn only overtakes older ones. -/
theorem finish_put {d : Discipline} (safe : d.Safe) {a : α} (put : e.put? = some a)
    (catching : Catching c (earlier ++ e :: later) r)
    (permitted : ∀ x ∈ earlier, d.overtakes x.kind e.kind) :
    Catching (putFirst a c) (earlier ++ later) r := by
  have kept : e.kind ≠ .delete := by cases e <;> cases put <;> nofun
  have puts := catching.overtaken_put safe permitted (by cases e <;> cases put <;> nofun)
  exact {
    afterDelete := fun before x after split delete => by
      rcases append_eq_append_cons split with ⟨between, rfl, rfl⟩ | ⟨between, rfl, rfl⟩
      · refine absurd ?_ (puts x (by simp))
        cases x <;> cases delete
        rfl
      · exact catching.afterDelete (earlier ++ e :: between) x after (by simp) delete
    afterRefresh := fun before items after split => by
      rcases append_eq_append_cons split with ⟨between, rfl, rfl⟩ | ⟨between, rfl, rfl⟩
      · exact absurd rfl (puts (.refreshed items) (by simp))
      · obtain ⟨path, settled⟩ := catching.afterRefresh (earlier ++ e :: between) items after
          (by simp)
        exact ⟨path, settled.erase kept⟩
    onPath := by
      obtain ⟨before, after, v, split, path, settled, reached⟩ := catching.onPath
      rcases append_eq_append_cons split.symm with ⟨between, rfl, rfl⟩ | ⟨between, rfl, rfl⟩
      · refine ⟨earlier ++ between, after, v, by simp, path, settled.erase kept, ?_⟩
        rcases reached with deletes | rfl
        · exact .inl (deletes.erase kept)
        · rcases settled with deletes | absorbed
          · exact .inl (deletes.erase kept)
          · exact .inr (absorbed e (by simp) a put)
      · have whole : between ++ e :: later = (between ++ [e]) ++ later := by simp
        obtain ⟨w, first, second⟩ := (whole ▸ path).split
        obtain rfl : c = v := by
          rcases reached with ⟨x, member, delete⟩ | equal
          · refine absurd ?_ (puts x (by simp [member]))
            cases x <;> cases delete
            rfl
          · exact equal
        have older : ∀ x ∈ between, x.put? ≠ none := fun x member => puts x (by simp [member])
        have done : putFirst a c = w := first.last_puts older put
        have settled' := first.settled settled
        rw [← List.append_assoc] at settled'
        refine ⟨before ++ between, later, w, rfl, second, ?_, .inr done⟩
        simpa using settled'.erase kept }

/-- A second step that the discipline permits keeps the snapshot on its way. -/
theorem finish {d : Discipline} (safe : d.Safe) (catching : Catching c (earlier ++ e :: later) r)
    (permitted : ∀ x ∈ earlier, d.overtakes x.kind e.kind) :
    Catching (e.onView c) (earlier ++ later) r := by
  cases e with
  | created a => exact catching.finish_put safe rfl permitted
  | updated a => exact catching.finish_put safe rfl permitted
  | deleted id => exact catching.finish_delete safe permitted
  | refreshed items => exact catching.finish_refresh

end Catching

end Pending

end Verdict
