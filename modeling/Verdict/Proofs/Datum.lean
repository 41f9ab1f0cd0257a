import Verdict.Proofs.Bundle.Equality
import Verdict.Proofs.Json.Normal

/-!
# Written data are read back

A record that is written under its own field names is read field by field (`fields?_obj`).  Lists
and maps are read item by item, so that they restore what was written wherever their items do
(`Restores.list`, `Restores.map`).
-/

namespace Verdict

/-! ## Records -/

/-- Whether each name is that of one field, and no other name of another. -/
def FieldName.Apart (names : List FieldName) : Prop :=
  (names.map FieldName.name).Nodup ∧ ∀ f ∈ names, Datum.fieldOf? names f.name = some f.name

instance (names : List FieldName) : Decidable (FieldName.Apart names) :=
  inferInstanceAs (Decidable (_ ∧ _))

namespace Datum

/-- Members under names of fields are collected as they are. -/
theorem collect_of_own {names : List FieldName} {ms : List (String × Datum)} {found : Fields}
    (own : ∀ m ∈ ms, fieldOf? names m.1 = some m.1) (distinct : (ms.map Prod.fst).Nodup)
    (fresh : ∀ m ∈ ms, found.lookup m.1 = none) :
    collect names ms found = some (ms.reverse ++ found) := by
  induction ms generalizing found with
  | nil => rfl
  | cons m rest ih =>
    obtain ⟨key, d⟩ := m
    obtain ⟨absent, later⟩ := List.nodup_cons.mp distinct
    have here := own _ List.mem_cons_self
    have new := fresh _ List.mem_cons_self
    have others : ∀ m ∈ rest, List.lookup m.1 ((key, d) :: found) = none := by
      intro m member
      have other : m.1 ≠ key := fun same => absent (same ▸ List.mem_map.mpr ⟨m, member, rfl⟩)
      rw [List.lookup_cons, beq_eq_false_iff_ne.mpr other]
      exact fresh m (List.mem_cons_of_mem _ member)
    simp only [collect, here, new]
    rw [if_neg (by simp), ih (fun m member => own m (List.mem_cons_of_mem _ member)) later others]
    simp

/-- A compared value is read where all parts of the datum have a value. -/
theorem value?_eq_some {j : Json} {v : Value} :
    value? (.json j) = some v ↔ j.isSound = true ∧ .ofJson j.normal = v := by
  simp [value?, json?]

theorem lookup_reverse_json (name : String) (ms : List (String × Json)) :
    List.lookup name (ms.map fun m => (m.1, Datum.json m.2)).reverse =
      (Json.lookup name ms).map .json := by
  induction ms with
  | nil => rfl
  | cons m rest ih =>
    obtain ⟨key, j⟩ := m
    rw [List.map_cons, List.reverse_cons, List.lookup_append, ih, Json.lookup]
    cases Json.lookup name rest with
    | some value => rfl
    | none =>
      by_cases same : key = name
      · simp [same]
      · simp [List.lookup_cons, same, beq_eq_false_iff_ne.mpr (Ne.symm same)]

/-- A record written under the names of its fields has each field. -/
theorem fields?_obj (names : List FieldName) {j : Json} {ms : List (String × Json)}
    (written : j = .obj ms) (apart : FieldName.Apart names)
    (keys : ms.map Prod.fst = names.map FieldName.name) :
    ∃ fields, fields? names (.json j) = some fields ∧
      ∀ name, fields.lookup name = (j.member? name).map .json := by
  have heads : (ms.map fun m => (m.1, Datum.json m.2)).map Prod.fst = names.map FieldName.name := by
    rw [List.map_map, ← keys]
    rfl
  have own : ∀ m ∈ ms.map fun m => (m.1, Datum.json m.2), fieldOf? names m.1 = some m.1 := by
    intro m member
    obtain ⟨f, known, name⟩ := List.mem_map.mp (heads ▸ List.mem_map_of_mem member)
    rw [← name]
    exact apart.2 f known
  subst written
  refine ⟨_, collect_of_own own (heads ▸ apart.1) fun _ _ => rfl, fun name => ?_⟩
  rw [List.append_nil, lookup_reverse_json, Json.member?]

end Datum

/-! ## Values of several kinds -/

/-- Whether what is read from the JSON form of a value equals the value and has the same form. -/
def Restores {α : Type} [BEq α] (read : Datum → Option α) (toJson : α → Json) (a : α) : Prop :=
  ∃ b, read (.json (toJson a)) = some b ∧ (b == a) = true ∧ toJson b = toJson a

/-- A reading that succeeds on each item relates the items to what is read. -/
theorem mapM_of_each {α β : Type} {f : α → Option β} {R : β → α → Prop} {l : List α}
    (each : ∀ a ∈ l, ∃ b, f a = some b ∧ R b a) :
    ∃ l', l.mapM f = some l' ∧ List.Forall₂ R l' l := by
  induction l with
  | nil => exact ⟨[], rfl, .nil⟩
  | cons a rest ih =>
    obtain ⟨b, read, related⟩ := each a List.mem_cons_self
    obtain ⟨l', reads, all⟩ := ih fun a member => each a (List.mem_cons_of_mem _ member)
    refine ⟨b :: l', ?_, .cons related all⟩
    rw [List.mapM_cons, read, reads]
    rfl

/-- Lists related item by item have the same images if related items do. -/
theorem map_eq_of_forall₂ {α β γ : Type} {f : α → γ} {g : β → γ} {l : List α} {l' : List β}
    (all : List.Forall₂ (fun a b => f a = g b) l l') : l.map f = l'.map g := by
  induction all with
  | nil => rfl
  | cons head _ ih => rw [List.map_cons, List.map_cons, head, ih]

section

variable {α : Type} [BEq α] {read : Datum → Option α} {toJson : α → Json}

/-- A list is restored where its items are. -/
theorem Restores.list {l : List α} (each : ∀ a ∈ l, Restores read toJson a) :
    Restores (Datum.list? read) (fun l => .arr (l.map toJson)) l := by
  obtain ⟨l', reads, all⟩ := mapM_of_each (f := fun a => read (.json (toJson a))) each
  refine ⟨l', ?_, list_beq_iff.mpr (all.imp fun _ _ => And.left), ?_⟩
  · show ((l.map toJson).map Datum.json).mapM read = some l'
    rw [List.map_map, List.mapM_map]
    exact reads
  · exact congrArg Json.arr (map_eq_of_forall₂ (all.imp fun _ _ => And.right))

/-- A map is restored where its values are. -/
theorem Restores.map {m : KeyMap α} (each : ∀ e ∈ m.entries, Restores read toJson e.2) :
    Restores (Datum.map? read) (fun m => .obj (m.map toJson).entries) m := by
  obtain ⟨entries, reads, all⟩ := mapM_of_each (l := m.entries)
    (f := fun e => (read (.json (toJson e.2))).map fun a => (e.1, a))
    (R := fun e' e => e'.1 = e.1 ∧ (e'.2 == e.2) = true ∧ toJson e'.2 = toJson e.2) (by
      intro e member
      obtain ⟨b, read, equal, written⟩ := each e member
      exact ⟨(e.1, b), by rw [read]; rfl, rfl, equal, written⟩)
  have keys : entries.map Prod.fst = m.entries.map Prod.fst :=
    map_eq_of_forall₂ (all.imp fun _ _ => And.left)
  have ordered : entries.Pairwise fun a b => a.1 < b.1 := by
    have names := List.pairwise_map.mpr m.ordered
    rw [← keys] at names
    exact List.pairwise_map.mp names
  refine ⟨⟨entries, ordered⟩, ?_, ?_, ?_⟩
  · show (((m.entries.map fun e => (e.1, toJson e.2)).map fun e => (e.1, Datum.json e.2)).mapM
      fun e => (read e.2).map fun a => (e.1, a)).bind (fun entries => some (KeyMap.ofList entries)) = _
    rw [List.map_map, List.mapM_map]
    exact (congrArg (Option.bind · _) reads).trans (congrArg some (KeyMap.ofList_of_ordered ordered))
  · exact keyMap_beq_iff.mpr (all.imp fun _ _ related => ⟨related.1, related.2.1⟩)
  · exact congrArg Json.obj
      (map_eq_of_forall₂ (all.imp fun _ _ related => Prod.ext related.1 related.2.2))

end

end Verdict
