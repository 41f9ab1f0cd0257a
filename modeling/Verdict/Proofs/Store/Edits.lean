import Verdict.Proofs.Store.Concurrent

/-!
# Edits of a snapshot

A snapshot is replaced, an entity is put into it, an id is dropped from it.  `Edit` is one of the
three, and a run is a list of them.  As long as no replacement comes in between, the edits work in
place: `Continues` says what they leave of the entities that were there, and it is shown for one
edit, for none and for two runs in a row.  Two entities of one id can only come in by a
replacement, so the ids of a snapshot are distinct where those of every replacement were.
-/

namespace Verdict.Snapshot

variable {α : Type} [Entity α]

/-- An edit of a snapshot. -/
inductive Edit (α : Type) where
  | replace (items : List α)
  | upsert (a : α)
  | remove (id : String)

/-- Carries out an edit. -/
def edit (s : Snapshot α) : Edit α → Snapshot α
  | .replace items => s.replace items
  | .upsert a => s.upsert a
  | .remove id => (s.drop id).2

/-- Carries out edits one after the other. -/
def edits (s : Snapshot α) (run : List (Edit α)) : Snapshot α :=
  run.foldl edit s

/-- The ids of the entities, in their order. -/
def ids (s : Snapshot α) : List String :=
  s.items.map Entity.id

namespace Edit

/-- Whether an edit is no replacement. -/
def InPlace : Edit α → Prop
  | .replace _ => False
  | _ => True

/-- Whether the entities of a replacement have distinct ids. -/
def Distinct : Edit α → Prop
  | .replace items => (items.map Entity.id).Nodup
  | _ => True

instance : (e : Edit α) → Decidable e.InPlace
  | .replace _ => inferInstanceAs (Decidable False)
  | .upsert _ | .remove _ => inferInstanceAs (Decidable True)

instance : (e : Edit α) → Decidable e.Distinct
  | .replace items => inferInstanceAs (Decidable (items.map Entity.id).Nodup)
  | .upsert _ | .remove _ => inferInstanceAs (Decidable True)

/-- The ids that a run drops. -/
def removed : List (Edit α) → List String
  | [] => []
  | .remove id :: run => id :: removed run
  | _ :: run => removed run

omit [Entity α] in
theorem removed_append (run more : List (Edit α)) :
    removed (run ++ more) = removed run ++ removed more := by
  induction run with
  | nil => rfl
  | cons e run ih => cases e <;> simp [removed, ih]

end Edit

open Edit

/-- What a run leaves of the entities that were in a snapshot before. -/
structure Continues (s : Snapshot α) (run : List (Edit α)) (s' : Snapshot α) : Prop where
  /-- The ids that are not dropped keep their order, and all others come after them. -/
  order : ∃ fresh, s'.ids = s.ids.filter (fun id => id ∉ removed run) ++ fresh
  /-- Until its id is dropped, the version of an entity does not go down. -/
  forwards : ∀ id a, s.get? id = some a → id ∉ removed run →
    ∃ a', s'.get? id = some a' ∧ Entity.version a ≤ Entity.version a'

/-- What becomes of an entity that is put into a snapshot. -/
structure Takes (s : Snapshot α) (a : α) : Prop where
  fresh : Entity.id a ∉ s.ids → s.upsert a = ⟨s.version + 1, s.items ++ [a]⟩
  older : ∀ b ∈ s.items, Entity.id b = Entity.id a → Entity.version a < Entity.version b →
    s.upsert a = ⟨s.version + 1, s.items⟩
  newer : ∀ front b back, s.items = front ++ b :: back → Entity.id b = Entity.id a →
    Entity.version b ≤ Entity.version a → s.upsert a = ⟨s.version + 1, front ++ a :: back⟩

/-! ## One edit -/

@[simp] theorem edit_version (s : Snapshot α) (e : Edit α) :
    (s.edit e).version = s.version + 1 := by
  cases e <;> rfl

theorem mem_ids {s : Snapshot α} {id : String} : id ∈ s.ids ↔ ∃ a ∈ s.items, Entity.id a = id :=
  List.mem_map

theorem ids_remove (s : Snapshot α) (id : String) :
    (s.remove id).ids = s.ids.filter fun id' => id' ≠ id := by
  simp only [ids, remove, change, List.filter_map]
  congr 1
  exact List.filter_congr fun a _ => (decide_not ..).symm

theorem ids_upsert (s : Snapshot α) (a : α) :
    (s.upsert a).ids = if Entity.id a ∈ s.ids then s.ids else s.ids ++ [Entity.id a] := by
  split
  · exact map_id_upsertItem ‹_›
  · rename_i unknown
    have others : ∀ b ∈ s.items, Entity.id b ≠ Entity.id a :=
      fun b member same => unknown (mem_ids.mpr ⟨b, member, same⟩)
    simp [ids, upsert, change, upsertItem_of_fresh others]

theorem get?_remove_other (s : Snapshot α) {id dropped : String} (other : id ≠ dropped) :
    (s.remove dropped).get? id = s.get? id := by
  rw [get?_eq_head?, get?_eq_head?]
  have unconcerned : (SnapshotStep.deleted dropped : SnapshotStep α).concerns id = false := by
    simpa [SnapshotStep.concerns] using other.symm
  exact congrArg List.head? (ofId_onItems_other unconcerned s.items)

/-- Dropping an id reports whether there was an entity of it. -/
theorem drop_reports (s : Snapshot α) (id : String) : (s.drop id).1 = true ↔ id ∈ s.ids := by
  have shorter : (s.remove id).items.length < s.items.length ↔ id ∈ s.ids := by
    rw [mem_ids, remove, change, List.length_filter_lt_length_iff_exists]
    simp
  have atMost : (s.remove id).items.length ≤ s.items.length := List.length_filter_le ..
  rw [drop, bne_iff_ne, ← shorter]
  exact ⟨fun other => Nat.lt_of_le_of_ne atMost other, Nat.ne_of_lt⟩

theorem edit_distinct {s : Snapshot α} (distinct : s.ids.Nodup) {e : Edit α}
    (replaced : e.Distinct) : (s.edit e).ids.Nodup := by
  cases e with
  | replace items => exact replaced
  | upsert a =>
    rw [edit, ids_upsert]
    split
    · exact distinct
    · exact distinct.append (by simp) (by simpa using ‹_›)
  | remove id =>
    change (s.remove id).ids.Nodup
    rw [ids_remove]
    exact distinct.filter _

theorem Continues.refl (s : Snapshot α) : s.Continues [] s where
  order := ⟨[], by simp [removed]⟩
  forwards _ a held _ := ⟨a, held, UInt64.le_refl _⟩

theorem continues_edit (s : Snapshot α) {e : Edit α} (inPlace : e.InPlace) :
    s.Continues [e] (s.edit e) := by
  cases e with
  | replace items => exact inPlace.elim
  | upsert a =>
    refine ⟨?_, fun id b held _ => s.upsert_forwards a held⟩
    rw [edit, ids_upsert]
    split
    · exact ⟨[], by simp [removed]⟩
    · exact ⟨[Entity.id a], by simp [removed]⟩
  | remove dropped =>
    refine ⟨⟨[], ?_⟩, ?_⟩
    · simp [edit, drop, ids_remove, removed]
    · intro id b held kept
      have other : id ≠ dropped := by simpa [removed] using kept
      exact ⟨b, (s.get?_remove_other other).trans held, UInt64.le_refl _⟩

/-! ## Runs -/

/-- What two runs leave, one after the other. -/
theorem Continues.trans {s s' s'' : Snapshot α} {run more : List (Edit α)}
    (first : s.Continues run s') (second : s'.Continues more s'') :
    s.Continues (run ++ more) s'' := by
  constructor
  · obtain ⟨fresh, order⟩ := first.order
    obtain ⟨later, order'⟩ := second.order
    refine ⟨fresh.filter (fun id => id ∉ removed more) ++ later, ?_⟩
    rw [order', order, List.filter_append, List.filter_filter, List.append_assoc]
    congr 1
    refine List.filter_congr fun id _ => ?_
    simp [removed_append, Bool.and_comm]
  · intro id a held kept
    rw [removed_append, List.mem_append, not_or] at kept
    obtain ⟨a', held', le⟩ := first.forwards id a held kept.1
    obtain ⟨a'', held'', le'⟩ := second.forwards id a' held' kept.2
    exact ⟨a'', held'', UInt64.le_trans le le'⟩

theorem continues_edits (s : Snapshot α) {run : List (Edit α)} (inPlace : ∀ e ∈ run, e.InPlace) :
    s.Continues run (s.edits run) := by
  induction run generalizing s with
  | nil => exact .refl s
  | cons e run ih =>
    obtain ⟨now, later⟩ := List.forall_mem_cons.mp inPlace
    exact (s.continues_edit now).trans (ih (s.edit e) later)

theorem edits_version (s : Snapshot α) (run : List (Edit α)) :
    (s.edits run).version = s.version + .ofNat run.length := by
  induction run generalizing s with
  | nil => exact (UInt64.add_zero _).symm
  | cons e run ih =>
    have counted : ((s.edit e).edits run).version = s.version + 1 + .ofNat run.length := by
      rw [ih, edit_version]
    rw [List.length_cons, Nat.add_comm, UInt64.ofNat_add, ← UInt64.add_assoc]
    exact counted

theorem edits_distinct {s : Snapshot α} (distinct : s.ids.Nodup) {run : List (Edit α)}
    (replaced : ∀ e ∈ run, e.Distinct) : (s.edits run).ids.Nodup := by
  induction run generalizing s with
  | nil => exact distinct
  | cons e run ih =>
    obtain ⟨now, later⟩ := List.forall_mem_cons.mp replaced
    exact ih (edit_distinct distinct now) later

/-! ## Putting an entity in -/

/-- Putting an entity in, where one of its id is held and the ids are distinct. -/
theorem upsertItem_of_distinct {front back : List α} {a b : α}
    (distinct : ((front ++ b :: back).map Entity.id).Nodup) (same : Entity.id b = Entity.id a) :
    upsertItem a (front ++ b :: back) =
      front ++ (if Entity.version a < Entity.version b then b else a) :: back := by
  rw [List.map_append, List.map_cons, List.nodup_append] at distinct
  refine upsertItem_of_first (fun c member => ?_) same
  exact same ▸ distinct.2.2 _ (List.mem_map_of_mem member) _ List.mem_cons_self

theorem takes_of_distinct {s : Snapshot α} (distinct : s.ids.Nodup) (a : α) : s.Takes a where
  fresh unknown := by
    rw [upsert, change, upsertItem_of_fresh]
    exact fun b member same => unknown (mem_ids.mpr ⟨b, member, same⟩)
  older b member same older := by
    obtain ⟨front, back, parts⟩ := List.append_of_mem member
    rw [ids, parts] at distinct
    rw [upsert, change, parts, upsertItem_of_distinct distinct same, if_pos older]
  newer front b back parts same newer := by
    rw [ids, parts] at distinct
    rw [upsert, change, parts, upsertItem_of_distinct distinct same,
      if_neg (UInt64.not_lt.mpr newer)]

/-- The version of a snapshot counts its edits, as a number of 64 bits.  Where the entities of every
    replacement have distinct ids, so has the snapshot; edits in place leave the ids that they do
    not drop in their order, before all others, and never bring a version down; an entity that is
    put in takes the place of the one of its id, unless that is newer, or goes to the end; and
    dropping an id reports whether it was there. -/
theorem edits_keep_order (run : List (Edit α)) :
    let s := ({} : Snapshot α).edits run
    (s.version = .ofNat run.length ∧
        (run.length < 2 ^ 64 → s.version.toNat = run.length)) ∧
      ((∀ e ∈ run, e.Distinct) →
        s.ids.Nodup ∧
          (∀ more : List (Edit α), (∀ e ∈ more, e.InPlace) → s.Continues more (s.edits more)) ∧
          (∀ a, s.Takes a) ∧ ∀ id, (s.drop id).1 = true ↔ id ∈ s.ids) := by
  intro s
  have counted : s.version = .ofNat run.length :=
    (edits_version {} run).trans (UInt64.zero_add _)
  refine ⟨⟨counted, fun few => ?_⟩, fun replaced => ?_⟩
  · rw [counted]
    exact UInt64.toNat_ofNat_of_lt few
  · have distinct : s.ids.Nodup := edits_distinct (s := {}) List.nodup_nil replaced
    exact ⟨distinct, fun more inPlace => s.continues_edits inPlace, takes_of_distinct distinct,
      s.drop_reports⟩

/-- An entity whose id was dropped comes back at the end, one that is older than what is held is
    left out. -/
theorem edits_keep_order_dropped_and_back :
    let now : Instant := ⟨0, 0, 0, by decide, by decide⟩
    let rule (id : String) (version : UInt64) : Rule :=
      { id := id, name := id, createdAt := now, updatedAt := now, version := version }
    let run : List (Edit Rule) := [.replace [rule "a" 1, rule "b" 3, rule "c" 1]]
    let more : List (Edit Rule) :=
      [.upsert (rule "b" 2), .remove "a", .upsert (rule "c" 2), .upsert (rule "a" 1), .remove "x"]
    let s := ({} : Snapshot Rule).edits run
    s.Continues more (s.edits more) ∧ s.Takes (rule "b" 2) ∧
      (s.edits more).version = 6 ∧
      (s.edits more).items.map (fun r => (r.id, r.version)) = [("b", 3), ("c", 2), ("a", 1)] := by
  intro now rule run more s
  have kept := (edits_keep_order run).2 (by decide)
  exact ⟨kept.2.1 more (by decide), kept.2.2.1 _, by decide, by decide +kernel⟩

end Verdict.Snapshot
