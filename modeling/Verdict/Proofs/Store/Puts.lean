import Verdict.Engine.Management
import Verdict.Proofs.Store.Behind
import Verdict.Proofs.Store.Edits

/-!
# Putting entities into a store

`Store.Putting` says all that putting one entity can do.  What becomes of it (`Store.outcomeOf`) and
of the entities of its id (`Leaves`) depends on nothing but whether the repository can be reached
and what is held under that id (`Store.view`).  So where several entities of distinct ids are put,
each meets the store as it was before the first (`Merged`), whatever became of those before it.
-/

namespace Verdict
open Pending

variable {α : Type} [Entity α]

/-! ## One entity -/

/-- The failure of every call on a repository that is unavailable. -/
def Repository.unreachable (α : Type) [Entity α] : Failure :=
  .store s!"{Entity.kind α} repository unavailable"

namespace Store

/-- A store with one more entity. -/
def add (s : Store α) (a : α) : Store α :=
  ⟨{ s.repository with items := s.repository.items ++ [a] }, s.snapshot.upsert a⟩

/-- The store after an entity was put; one that fails leaves it as it was. -/
def afterPut (s : Store α) (now : Instant) (overwrite : Bool) (a : α) : Store α :=
  match s.put now overwrite a with
  | .ok (_, s') => s'
  | .error _ => s

/-- All that putting an entity can come to. -/
inductive Putting (s : Store α) (now : Instant) (overwrite : Bool) (a : α) :
    Except Failure (Put α × Store α) → Prop
  | unavailable (off : s.repository.available = false) :
      Putting s now overwrite a (.error (Repository.unreachable α))
  | kept (on : s.repository.available = true) {b : α} (member : b ∈ s.repository.items)
      (same : Entity.id b = Entity.id a) (plain : overwrite = false) :
      Putting s now overwrite a (.ok (.kept, s))
  | invalid (on : s.repository.available = true)
      (due : overwrite = true ∨ ∀ b ∈ s.repository.items, Entity.id b ≠ Entity.id a)
      (wrong : Entity.issues a ≠ []) :
      Putting s now overwrite a (.error (.invalid (Entity.issues a)))
  | created (on : s.repository.available = true)
      (fresh : ∀ b ∈ s.repository.items, Entity.id b ≠ Entity.id a)
      (valid : Entity.issues a = []) :
      Putting s now overwrite a (.ok (.created a, s.add a))
  | updated (on : s.repository.available = true) {front back : List α} {b stored : α}
      (items : s.repository.items = front ++ b :: back)
      (first : ∀ c ∈ front, Entity.id c ≠ Entity.id a) (same : Entity.id b = Entity.id a)
      (replaces : overwrite = true) (valid : Entity.issues a = []) (low : Entity.HasSuccessor b)
      (next : stored = Entity.succeed a (Entity.version b) now) :
      Putting s now overwrite a (.ok (.updated stored,
        ⟨{ s.repository with items := front ++ stored :: back }, s.snapshot.upsert stored⟩))
  | overflowed (on : s.repository.available = true) {b : α} (member : b ∈ s.repository.items)
      (same : Entity.id b = Entity.id a) (last : ¬ Entity.HasSuccessor b) :
      Putting s now overwrite a (.error .overflow)

end Store

namespace Store

theorem create_of_issues {s : Store α} {a : α} (wrong : Entity.issues a ≠ []) :
    s.create a = .error (.invalid (Entity.issues a)) := by
  rw [create, Entity.validate, accept, if_neg (by simpa using wrong)]
  rfl

theorem update_of_issues {s : Store α} {a : α} (wrong : Entity.issues a ≠ []) (now : Instant) :
    s.update now a = .error (.invalid (Entity.issues a)) := by
  rw [update, Entity.validate, accept, if_neg (by simpa using wrong)]
  rfl

/-- The last version has no successor. -/
theorem update_of_last {s : Store α} {a b : α} {front back : List α}
    (on : s.repository.available = true) (valid : Entity.issues a = [])
    (items : s.repository.items = front ++ b :: back)
    (first : ∀ c ∈ front, Entity.id c ≠ Entity.id a) (same : Entity.id b = Entity.id a)
    (last : ¬ Entity.HasSuccessor b) (now : Instant) :
    s.update now a = .error .overflow := by
  refine update_eq_error valid ?_
  rw [Repository.update_eq on, items, Repository.succeedItem_of_first first same,
    Entity.succeeding, if_neg last]
  rfl

/-- An entity of a new id is created, whether or not others would be overwritten. -/
theorem put_of_fresh {s : Store α} {a : α} (available : s.repository.available = true)
    (valid : Entity.validate a = .ok a)
    (fresh : ∀ b ∈ s.repository.items, Entity.id b ≠ Entity.id a) (now : Instant)
    (overwrite : Bool) : s.put now overwrite a = .ok (.created a, s.add a) := by
  have absent : s.repository.find? (Entity.id a) = .ok none := by
    simpa [Repository.find?, Repository.reach, available, Except.map] using fresh
  have recorded : s.repository.create a = .ok (s.add a).repository :=
    Repository.create_eq_ok.mpr ⟨available, fresh, rfl⟩
  rw [put, absent]
  simp only [create, valid, recorded, bind, Except.bind, pure, Except.pure, Except.map]
  rfl

theorem putting_absent {s : Store α} (on : s.repository.available = true) {a : α}
    (fresh : ∀ b ∈ s.repository.items, Entity.id b ≠ Entity.id a)
    (absent : s.repository.find? (Entity.id a) = .ok none) (now : Instant) (overwrite : Bool) :
    Putting s now overwrite a (s.put now overwrite a) := by
  by_cases valid : Entity.issues a = []
  · rw [put_of_fresh on (Entity.validate_eq_ok.mpr ⟨valid, rfl⟩) fresh]
    exact .created on fresh valid
  · rw [put, absent]
    simp only [create_of_issues valid, bind, Except.bind, Except.map]
    exact .invalid on (.inr fresh) valid

theorem putting_present {s : Store α} (on : s.repository.available = true) {a b : α}
    {front back : List α} (items : s.repository.items = front ++ b :: back)
    (first : ∀ c ∈ front, Entity.id c ≠ Entity.id a) (same : Entity.id b = Entity.id a)
    (present : s.repository.find? (Entity.id a) = .ok (some b)) (now : Instant)
    (overwrite : Bool) : Putting s now overwrite a (s.put now overwrite a) := by
  cases overwrite with
  | false =>
    have put : s.put now false a = .ok (.kept, s) := by
      rw [put, present]
      rfl
    rw [put]
    exact .kept on (items ▸ List.mem_append_cons_self) same rfl
  | true =>
    have put : s.put now true a = (s.update now a).map fun p => (.updated p.1, p.2) := by
      rw [put, present]
      rfl
    rw [put]
    by_cases valid : Entity.issues a = []
    · by_cases low : Entity.HasSuccessor b
      · have succeeded : Repository.succeedItem now a s.repository.items = .ok (_, _) :=
          Repository.succeedItem_eq_ok.mpr ⟨front, b, back, items, first, same, low, rfl, rfl⟩
        have recorded := Repository.update_eq_ok.mpr ⟨on, _, succeeded, rfl⟩
        rw [update_eq_ok.mpr ⟨valid, _, recorded, rfl⟩]
        exact .updated on items first same rfl valid low rfl
      · rw [update_of_last on valid items first same low]
        exact .overflowed on (items ▸ List.mem_append_cons_self) same low
    · rw [update_of_issues valid]
      exact .invalid on (.inl rfl) valid

/-- Putting an entity comes to one of these. -/
theorem putting (s : Store α) (now : Instant) (overwrite : Bool) (a : α) :
    Putting s now overwrite a (s.put now overwrite a) := by
  cases on : s.repository.available with
  | false =>
    have put : s.put now overwrite a = .error (Repository.unreachable α) := by
      simp only [put, Repository.find?, Repository.reach, on, Bool.false_eq_true, if_false,
        Except.map, bind, Except.bind]
      rfl
    rw [put]
    exact .unavailable on
  | true =>
    have find : s.repository.find? (Entity.id a) =
        .ok (s.repository.items.find? fun b => Entity.id b == Entity.id a) := by
      simp only [Repository.find?, Repository.reach, on, if_true, Except.map]
    rcases Repository.fresh_or_first s.repository.items (Entity.id a) with
      fresh | ⟨front, b, back, items, first, same⟩
    · have absent : s.repository.items.find? (fun b => Entity.id b == Entity.id a) = none := by
        simpa using fresh
      exact putting_absent on fresh (absent ▸ find) now overwrite
    · have present : s.repository.items.find? (fun b => Entity.id b == Entity.id a) = some b := by
        rw [items, List.find?_append, List.find?_eq_none.mpr (by simpa using first), Option.none_or]
        exact List.find?_cons_of_pos (beq_iff_eq.mpr same)
      exact putting_present on items first same (present ▸ find) now overwrite

/-! ## What is held of an id -/

/-- The entities of an id in the repository and in the snapshot. -/
def view (s : Store α) (id : String) : List α × List α :=
  (ofId id s.repository.items, ofId id s.snapshot.items)

/-- What is reported of a put. -/
def reported : Except Failure (Put α × Store α) → ItemOutcome
  | .ok (.kept, _) => .kept
  | .ok (.created _, _) | .ok (.updated _, _) => .done
  | .error cause => .failed cause

/-- What becomes of an entity that is put. -/
def outcomeOf (s : Store α) (overwrite : Bool) (a : α) : ItemOutcome :=
  if s.repository.available = false then .failed (Repository.unreachable α)
  else if (s.view (Entity.id a)).1 ≠ [] ∧ overwrite = false then .kept
  else if Entity.issues a = [] then .done
  else .failed (.invalid (Entity.issues a))

/-- What is noted of a put. -/
def noted : Except Failure (Put α × Store α) → Option Note
  | .ok (.created stored, _) =>
      some (.changed (Entity.kind α) (Entity.id stored) (some (Entity.version stored)) .create)
  | .ok (.updated stored, _) =>
      some (.changed (Entity.kind α) (Entity.id stored) (some (Entity.version stored)) .update)
  | .ok (.kept, _) | .error _ => none

/-- What is noted of an entity that is put. -/
def noteOf (s : Store α) (overwrite : Bool) (a : α) : Option Note :=
  match s.outcomeOf overwrite a, (s.view (Entity.id a)).1 with
  | .done, [] => some (.changed (Entity.kind α) (Entity.id a) (some (Entity.version a)) .create)
  | .done, b :: _ =>
      some (.changed (Entity.kind α) (Entity.id a) (some (Entity.version b + 1)) .update)
  | _, _ => none

end Store

/-- What is held of the id of an entity before it was put, and after. -/
inductive Leaves (now : Instant) (a : α) : List α × List α → List α × List α → ItemOutcome → Prop
  /-- An entity of a new id is stored as it came. -/
  | created {seen : List α} : Leaves now a ([], seen) ([a], putFirst a seen) .done
  /-- Another one is stored with the next version, as updated now. -/
  | replaced {b stored : α} {rest seen : List α}
      (next : stored = Entity.succeed a (Entity.version b) now)
      (numbered : (Entity.version stored).toNat = (Entity.version b).toNat + 1) :
      Leaves now a (b :: rest, seen) (stored :: rest, putFirst stored seen) .done
  /-- One that is left alone, or fails, leaves no trace. -/
  | untouched {v : List α × List α} {outcome : ItemOutcome} (undone : outcome ≠ .done) :
      Leaves now a v v outcome

theorem Leaves.of_new {now : Instant} {a : α} {seen : List α} {v : List α × List α}
    (left : Leaves now a ([], seen) v .done) : v = ([a], putFirst a seen) := by
  cases left with
  | created => rfl
  | untouched undone => exact absurd rfl undone

theorem Leaves.of_known {now : Instant} {a b : α} {rest seen : List α} {v : List α × List α}
    (left : Leaves now a (b :: rest, seen) v .done) :
    let stored := Entity.succeed a (Entity.version b) now
    v = (stored :: rest, putFirst stored seen) := by
  cases left with
  | replaced next numbered => rw [next]
  | untouched undone => exact absurd rfl undone

theorem Leaves.of_undone {now : Instant} {a : α} {v v' : List α × List α} {outcome : ItemOutcome}
    (left : Leaves now a v v' outcome) (undone : outcome ≠ .done) : v' = v := by
  cases left with
  | created | replaced => exact absurd rfl undone
  | untouched => rfl

theorem Leaves.mirrors {now : Instant} {a : α} {v v' : List α × List α} {outcome : ItemOutcome}
    (left : Leaves now a v v' outcome) (same : v.2 = v.1) : v'.2 = v'.1 := by
  cases left with
  | created =>
    cases same
    rfl
  | @replaced b stored rest seen next numbered =>
    cases same
    have newer : ¬ Entity.version stored < Entity.version b := by
      rw [UInt64.lt_iff_toNat_lt]
      omega
    rw [putFirst, if_neg newer]
  | untouched undone => exact same

/-- The entities apart from those of the ids of some. -/
def apart (given items : List α) : List α :=
  items.filter fun b => Entity.id b ∉ given.map Entity.id

/-- What becomes of a store that is given entities, one after the other. -/
structure Store.Merged (now : Instant) (overwrite : Bool) (given : List α) (s s' : Store α) :
    Prop where
  available : s'.repository.available = s.repository.available
  /-- Other entities stay as they are, and in their order. -/
  repository : apart given s'.repository.items = apart given s.repository.items
  snapshot : apart given s'.snapshot.items = apart given s.snapshot.items
  /-- What was there stays in its place; what is new comes after it. -/
  ids : s.repository.items.map Entity.id <+: s'.repository.items.map Entity.id
  idsSeen : s.snapshot.ids <+: s'.snapshot.ids
  /-- Unless entities are to be replaced, what was there is not changed. -/
  kept : overwrite = false → s.repository.items <+: s'.repository.items
  left : ∀ a ∈ given,
    Leaves now a (s.view (Entity.id a)) (s'.view (Entity.id a)) (s.outcomeOf overwrite a)
  /-- Only what is stored changes the snapshot. -/
  counted : s'.snapshot.version =
    s.snapshot.version + .ofNat (given.countP fun a => s.outcomeOf overwrite a == .done)

/-! ## Putting one entity -/

theorem ofId_ne_nil {items : List α} {a b : α} (member : b ∈ items)
    (same : Entity.id b = Entity.id a) : ofId (Entity.id a) items ≠ [] :=
  List.ne_nil_of_mem (List.mem_filter.mpr ⟨member, beq_iff_eq.mpr same⟩)

theorem mem_view {s : Store α} {a b : α} (member : b ∈ s.repository.items)
    (same : Entity.id b = Entity.id a) : b ∈ (s.view (Entity.id a)).1 :=
  List.mem_filter.mpr ⟨member, beq_iff_eq.mpr same⟩

theorem Store.Putting.outcome {s : Store α} {now : Instant} {overwrite : Bool} {a : α}
    {result : Except Failure (Put α × Store α)} (putting : Putting s now overwrite a result)
    (low : ∀ b ∈ (s.view (Entity.id a)).1, Entity.HasSuccessor b) :
    s.outcomeOf overwrite a = reported result := by
  cases putting with
  | overflowed on member same last => exact absurd (low _ (mem_view member same)) last
  | unavailable off => simp [outcomeOf, reported, off]
  | kept on member same plain =>
    simp [outcomeOf, reported, on, plain, view, ofId_ne_nil member same]
  | invalid on due wrong =>
    rcases due with rfl | fresh
    · simp [outcomeOf, reported, on, wrong]
    · simp [outcomeOf, reported, on, wrong, view, ofId_eq_nil fresh]
  | created on fresh valid => simp [outcomeOf, reported, on, valid, view, ofId_eq_nil fresh]
  | updated on items first same replaces valid =>
    simp [outcomeOf, reported, on, replaces, valid]

theorem Store.Putting.note {s : Store α} {now : Instant} {overwrite : Bool} {a : α}
    {result : Except Failure (Put α × Store α)} (putting : Putting s now overwrite a result)
    (low : ∀ b ∈ (s.view (Entity.id a)).1, Entity.HasSuccessor b) :
    s.noteOf overwrite a = noted result := by
  have outcome := putting.outcome low
  unfold noteOf
  rw [outcome]
  cases putting with
  | overflowed on member same last => rfl
  | unavailable off => rfl
  | kept on member same plain => rfl
  | invalid on due wrong => rfl
  | created on fresh valid =>
    have absent : (s.view (Entity.id a)).1 = [] := ofId_eq_nil fresh
    rw [absent]
    rfl
  | @updated on front back b stored items first same replaces valid low next =>
    have held : (s.view (Entity.id a)).1 = b :: ofId (Entity.id a) back := by
      rw [view, items, ofId_append, ofId_eq_nil first, ofId_cons_self same, List.nil_append]
    rw [held, next]
    simp only [reported, noted, Entity.version_succeed, Entity.id_succeed]

theorem apart_cons (given : List α) (a : α) (items : List α) :
    apart given (a :: items) =
      if Entity.id a ∈ given.map Entity.id then apart given items else a :: apart given items := by
  rw [apart, List.filter_cons]
  by_cases named : Entity.id a ∈ given.map Entity.id
  · rw [if_pos named, if_neg (by simpa using named)]
    rfl
  · rw [if_neg named, if_pos (by simpa using named)]
    rfl

theorem apart_append (given items more : List α) :
    apart given (items ++ more) = apart given items ++ apart given more :=
  List.filter_append ..

theorem apart_upsertItem {a : α} {given : List α} (named : Entity.id a ∈ given.map Entity.id)
    (items : List α) : apart given (Snapshot.upsertItem a items) = apart given items := by
  induction items with
  | nil => rw [Snapshot.upsertItem, apart_cons, if_pos named]
  | cons b rest ih =>
    rw [Snapshot.upsertItem]
    by_cases same : Entity.id b = Entity.id a
    · have kept : Entity.id (if Entity.version a < Entity.version b then b else a) =
          Entity.id a := by split <;> simp [same]
      rw [if_pos (beq_iff_eq.mpr same), apart_cons, apart_cons, if_pos (kept ▸ named),
        if_pos (same ▸ named)]
    · rw [if_neg (by simpa using same), apart_cons, apart_cons, ih]

theorem ids_prefix_upsert (s : Snapshot α) (a : α) : s.ids <+: (s.upsert a).ids := by
  rw [Snapshot.ids_upsert]
  split
  · exact List.prefix_rfl
  · exact List.prefix_append ..

namespace Store

theorem beq_done {outcome : ItemOutcome} : (outcome == .done) = true ↔ outcome = .done := by
  cases outcome with
  | done => exact iff_of_true rfl rfl
  | kept | failed cause => exact iff_of_false Bool.false_ne_true ItemOutcome.noConfusion

/-- An entity that is not stored leaves the store as it was. -/
theorem merged_of_undone {s : Store α} {now : Instant} {overwrite : Bool} {a : α}
    (undone : s.outcomeOf overwrite a ≠ .done) : Merged now overwrite [a] s s where
  available := rfl
  repository := rfl
  snapshot := rfl
  ids := List.prefix_rfl
  idsSeen := List.prefix_rfl
  kept _ := List.prefix_rfl
  left := List.forall_mem_singleton.mpr (.untouched undone)
  counted := by
    rw [List.countP_singleton, if_neg (mt beq_done.mp undone)]
    exact (UInt64.add_zero _).symm

theorem merged_add {s : Store α} {now : Instant} {overwrite : Bool} {a : α}
    (fresh : ∀ b ∈ s.repository.items, Entity.id b ≠ Entity.id a)
    (done : s.outcomeOf overwrite a = .done) : Merged now overwrite [a] s (s.add a) where
  available := rfl
  repository := by
    have named : Entity.id a ∈ [a].map Entity.id := List.mem_singleton_self _
    rw [add, apart_append, apart_cons, if_pos named]
    exact List.append_nil _
  snapshot := apart_upsertItem (List.mem_singleton_self _) _
  ids := by
    rw [add, List.map_append]
    exact List.prefix_append ..
  idsSeen := ids_prefix_upsert s.snapshot a
  kept _ := List.prefix_append ..
  left := by
    have absent : ofId (Entity.id a) s.repository.items = [] := ofId_eq_nil fresh
    rw [List.forall_mem_singleton, done]
    simp only [view, add, ofId_append, absent, ofId_cons_self rfl, Snapshot.upsert,
      Snapshot.change, ofId_upsertItem, beq_self_eq_true, if_true]
    exact .created
  counted := by rw [List.countP_singleton, if_pos (beq_done.mpr done)]; rfl

theorem merged_replaced {s : Store α} {now : Instant} {a b stored : α} {front back : List α}
    (low : Entity.HasSuccessor b) (items : s.repository.items = front ++ b :: back)
    (first : ∀ c ∈ front, Entity.id c ≠ Entity.id a) (same : Entity.id b = Entity.id a)
    (next : stored = Entity.succeed a (Entity.version b) now)
    (done : s.outcomeOf true a = .done) :
    Merged now true [a] s
      ⟨{ s.repository with items := front ++ stored :: back }, s.snapshot.upsert stored⟩ := by
  have sameId : Entity.id stored = Entity.id a := next ▸ Entity.id_succeed ..
  have numbered : (Entity.version stored).toNat = (Entity.version b).toNat + 1 := by
    rw [next, Entity.version_succeed, low.toNat_successor]
  have named : Entity.id a ∈ [a].map Entity.id := List.mem_singleton_self _
  exact {
    available := rfl
    repository := by
      rw [items, apart_append, apart_append, apart_cons, apart_cons, if_pos (sameId ▸ named),
        if_pos (same ▸ named)]
    snapshot := apart_upsertItem (sameId ▸ named) _
    ids := by
      rw [items]
      simp [sameId, same]
    idsSeen := ids_prefix_upsert s.snapshot stored
    kept := fun plain => absurd plain.symm Bool.false_ne_true
    left := by
      rw [List.forall_mem_singleton, done]
      simp only [view, items, ofId_append, ofId_eq_nil first, ofId_cons_self same,
        ofId_cons_self sameId, Snapshot.upsert, Snapshot.change, ofId_upsertItem, sameId,
        beq_self_eq_true, if_true]
      exact .replaced next numbered
    counted := by rw [List.countP_singleton, if_pos (beq_done.mpr done)]; rfl }

/-- What one entity that is put does to a store. -/
theorem merged_afterPut {s : Store α} {a : α}
    (low : ∀ b ∈ (s.view (Entity.id a)).1, Entity.HasSuccessor b) (now : Instant)
    (overwrite : Bool) : Merged now overwrite [a] s (s.afterPut now overwrite a) := by
  have putting := s.putting now overwrite a
  have outcome := putting.outcome low
  unfold afterPut
  generalize s.put now overwrite a = result at putting outcome ⊢
  cases putting with
  | unavailable off => exact merged_of_undone (by simp [outcome, reported])
  | kept on member same plain => exact merged_of_undone (by simp [outcome, reported])
  | invalid on due wrong => exact merged_of_undone (by simp [outcome, reported])
  | created on fresh valid => exact merged_add fresh outcome
  | updated on items first same replaces valid low next =>
    subst replaces
    exact merged_replaced low items first same next outcome
  | overflowed on member same last => exact absurd (low _ (mem_view member same)) last

end Store

/-! ## Putting several entities -/

/-- Leaving the ids of several out one after the other. -/
theorem apart_apart (given more items : List α) :
    apart given (apart more items) = apart (given ++ more) items := by
  rw [apart, apart, apart, List.filter_filter]
  refine List.filter_congr fun b _ => ?_
  simp [not_or]

theorem apart_comm (given more items : List α) :
    apart given (apart more items) = apart more (apart given items) := by
  rw [apart, apart, apart, apart, List.filter_filter, List.filter_filter]
  exact List.filter_congr fun b _ => Bool.and_comm _ _

theorem ofId_apart {given : List α} {id : String} (unnamed : id ∉ given.map Entity.id)
    (items : List α) : ofId id (apart given items) = ofId id items := by
  rw [ofId, apart, List.filter_filter]
  refine List.filter_congr fun b _ => ?_
  by_cases here : Entity.id b = id
  · simp [here, unnamed]
  · simp [here]

namespace Store

variable {now : Instant} {overwrite : Bool} {given rest : List α} {a : α} {s s₁ s₂ : Store α}

theorem Merged.view_other (merged : Merged now overwrite given s s₁) {id : String}
    (unnamed : id ∉ given.map Entity.id) : s₁.view id = s.view id := by
  rw [view, view, ← ofId_apart unnamed s₁.repository.items, ← ofId_apart unnamed s₁.snapshot.items,
    merged.repository, merged.snapshot, ofId_apart unnamed, ofId_apart unnamed]

/-- What becomes of an entity depends on what is held of its id only. -/
theorem outcomeOf_congr (available : s₁.repository.available = s.repository.available)
    (held : s₁.view (Entity.id a) = s.view (Entity.id a)) :
    s₁.outcomeOf overwrite a = s.outcomeOf overwrite a := by
  rw [outcomeOf, outcomeOf, available, held]

theorem Merged.view_rest (first : Merged now overwrite [a] s s₁)
    (other : Entity.id a ∉ rest.map Entity.id) :
    ∀ x ∈ rest, s₁.view (Entity.id x) = s.view (Entity.id x) := by
  intro x member
  refine first.view_other fun named => other ?_
  rw [List.map_singleton, List.mem_singleton] at named
  exact named ▸ List.mem_map_of_mem member

theorem noteOf_congr (available : s₁.repository.available = s.repository.available)
    (held : s₁.view (Entity.id a) = s.view (Entity.id a)) :
    s₁.noteOf overwrite a = s.noteOf overwrite a := by
  rw [noteOf, noteOf, outcomeOf_congr available held, held]

/-- One entity and then others, of other ids. -/
theorem Merged.cons (first : Merged now overwrite [a] s s₁)
    (later : Merged now overwrite rest s₁ s₂) (other : Entity.id a ∉ rest.map Entity.id) :
    Merged now overwrite (a :: rest) s s₂ := by
  have before := first.view_rest other
  have outcomes : ∀ x ∈ rest, s₁.outcomeOf overwrite x = s.outcomeOf overwrite x :=
    fun x member => outcomeOf_congr first.available (before x member)
  have together (items : List α) : apart (a :: rest) items = apart [a] (apart rest items) :=
    (apart_apart [a] rest items).symm
  exact {
    available := later.available.trans first.available
    repository := by
      rw [together, later.repository, apart_comm, first.repository, apart_comm, together]
    snapshot := by
      rw [together, later.snapshot, apart_comm, first.snapshot, apart_comm, together]
    ids := first.ids.trans later.ids
    idsSeen := first.idsSeen.trans later.idsSeen
    kept := fun plain => (first.kept plain).trans (later.kept plain)
    left := by
      refine List.forall_mem_cons.mpr ⟨?_, fun x member => ?_⟩
      · rw [later.view_other other]
        exact first.left a (List.mem_singleton_self a)
      · rw [← before x member, ← outcomes x member]
        exact later.left x member
    counted := by
      have same : rest.countP (fun x => s₁.outcomeOf overwrite x == .done) =
          rest.countP fun x => s.outcomeOf overwrite x == .done :=
        List.countP_congr fun x member => by rw [outcomes x member]
      rw [later.counted, first.counted, List.countP_singleton, List.countP_cons, same,
        UInt64.add_assoc, ← UInt64.ofNat_add, Nat.add_comm] }

/-- The store after entities were put, one after the other. -/
def afterPuts (s : Store α) (now : Instant) (overwrite : Bool) (given : List α) : Store α :=
  given.foldl (fun s a => s.afterPut now overwrite a) s

theorem merged_afterPuts (distinct : (given.map Entity.id).Nodup)
    (low : ∀ a ∈ given, ∀ b ∈ (s.view (Entity.id a)).1, Entity.HasSuccessor b) (now : Instant)
    (overwrite : Bool) : Merged now overwrite given s (s.afterPuts now overwrite given) := by
  induction given generalizing s with
  | nil =>
    exact ⟨rfl, rfl, rfl, List.prefix_rfl, List.prefix_rfl, fun _ => List.prefix_rfl,
      List.forall_mem_nil _, (UInt64.add_zero _).symm⟩
  | cons a rest ih =>
    obtain ⟨lowNow, lowLater⟩ := List.forall_mem_cons.mp low
    obtain ⟨other, distinctLater⟩ := List.nodup_cons.mp distinct
    have first := merged_afterPut lowNow now overwrite
    refine first.cons (ih distinctLater fun x member => ?_) other
    rw [first.view_rest other x member]
    exact lowLater x member

/-! ## What an import does to a store -/

/-- Where the repository can be reached, the entities that are left alone are those of an id that is
    held already, unless they are to replace it. -/
theorem outcomeOf_eq_kept (on : s.repository.available = true) :
    s.outcomeOf overwrite a = .kept ↔
      overwrite = false ∧ ∃ b ∈ s.repository.items, Entity.id b = Entity.id a := by
  have held : (s.view (Entity.id a)).1 ≠ [] ↔
      ∃ b ∈ s.repository.items, Entity.id b = Entity.id a := by
    simp [view, ofId]
  rw [← held, outcomeOf, on, if_neg (by decide)]
  constructor
  · intro kept
    split at kept
    · exact And.comm.mp ‹_›
    · split at kept <;> cases kept
  · intro due
    exact if_pos due.symm

/-- Where the snapshot mirrors the repository, what is stored is in force at once. -/
theorem Merged.mirrors (merged : Merged now overwrite given s s₁) (mirrors : s.Mirrors) :
    s₁.Mirrors := by
  intro id
  by_cases named : id ∈ given.map Entity.id
  · obtain ⟨a, member, rfl⟩ := List.mem_map.mp named
    exact (merged.left a member).mirrors (mirrors _)
  · have same := merged.view_other named
    change (s₁.view id).2 = (s₁.view id).1
    rw [same]
    exact mirrors id

/-- Unless entities are to be replaced, what is held of an id keeps others of it out. -/
theorem outcomeOf_ne_done (plain : overwrite = false) {b : α} (member : b ∈ s.repository.items)
    (same : Entity.id b = Entity.id a) : s.outcomeOf overwrite a ≠ .done := by
  cases on : s.repository.available with
  | false => simp [outcomeOf, on]
  | true => simp [(outcomeOf_eq_kept on).mpr ⟨plain, b, member, same⟩]

theorem Merged.unchanged (merged : Merged now overwrite given s s₁) (plain : overwrite = false)
    {b : α} (member : b ∈ s.repository.items) :
    s₁.view (Entity.id b) = s.view (Entity.id b) := by
  by_cases named : Entity.id b ∈ given.map Entity.id
  · obtain ⟨a, there, same⟩ := List.mem_map.mp named
    rw [← same]
    exact (merged.left a there).of_undone (outcomeOf_ne_done plain member same.symm)
  · exact merged.view_other named

/-- What an import of entities of one kind does to their store. -/
structure Imported (now : Instant) (overwrite : Bool) (given : List α) (s s' : Store α) : Prop
    extends Merged now overwrite given s s' where
  skipped : s.repository.available = true → ∀ a ∈ given,
    (s.outcomeOf overwrite a = .kept ↔
      overwrite = false ∧ ∃ b ∈ s.repository.items, Entity.id b = Entity.id a)
  /-- Unless entities are to be replaced, those that the repository holds stay in force as well. -/
  unchanged : overwrite = false → ∀ b ∈ s.repository.items,
    s'.view (Entity.id b) = s.view (Entity.id b)
  mirrors : s.Mirrors → s'.Mirrors

theorem imported_afterPuts (distinct : (given.map Entity.id).Nodup)
    (low : ∀ b ∈ s.repository.items, Entity.HasSuccessor b) (now : Instant) (overwrite : Bool) :
    Imported now overwrite given s (s.afterPuts now overwrite given) := by
  have merged := merged_afterPuts distinct
    (fun _ _ b member => low b (List.mem_filter.mp member).1) now overwrite
  exact {
    merged with
    skipped := fun on _ _ => outcomeOf_eq_kept on
    unchanged := fun plain _ member => merged.unchanged plain member
    mirrors := merged.mirrors }

end Store

end Verdict
