import Verdict.Proofs.Bundle.Numbers
import Verdict.Proofs.Bundle.Shape

/-!
# Values read as nested maps

Objects that are read as nested maps keep the last member of each name (`Json.normal`).  For every
shape, whatever is read from a value is read from it as nested maps (`Shape.below_normal`), and the
other way round where no name is repeated and all parts have a value (`Shape.normal_below`).
-/

namespace Verdict

namespace Shape

/-! ## Members and items -/

/-- The members of an object as data. -/
def datums (ms : List (String × Json)) : List (String × Datum) :=
  ms.map fun m => (m.1, .json m.2)

theorem names_datums (ms : List (String × Json)) :
    (datums ms).map Prod.fst = ms.map Prod.fst := by
  rw [datums, List.map_map]
  rfl

section

variable {R : String → Datum → Datum → Prop} {ms : List (String × Json)}

/-- Members that are read as nested maps stand for those of the text. -/
theorem covers_normal (each : ∀ m ∈ ms, R m.1 (.json m.2) (.json m.2.normal)) :
    Covers R (datums ms) (datums (Json.sortMembers (Json.normalMembers ms))) := by
  refine ⟨?_, fun m' member => ?_, fun m member => ?_⟩
  · rw [names_datums]
    exact Json.nodup_sortMembers _
  · obtain ⟨⟨name, value⟩, listed, rfl⟩ := List.mem_map.mp member
    obtain ⟨j, last, rfl⟩ := Json.mem_normal_obj.mp listed
    refine ⟨.json j, ?_, each _ (mem_of_lookup_reverse last)⟩
    rw [datums, Datum.lookup_reverse_json, Json.lookup_eq_lookup_reverse, last]
    rfl
  · obtain ⟨⟨name, value⟩, listed, rfl⟩ := List.mem_map.mp member
    obtain ⟨j, last⟩ := lookup_reverse_isSome listed
    rw [names_datums]
    exact List.mem_map_of_mem (Json.mem_normal_obj.mpr ⟨j, last, rfl⟩)

/-- Members of distinct names stand for the same members read as nested maps. -/
theorem normal_covers (distinct : (ms.map Prod.fst).Nodup)
    (each : ∀ m ∈ ms, R m.1 (.json m.2.normal) (.json m.2)) :
    Covers R (datums (Json.sortMembers (Json.normalMembers ms))) (datums ms) := by
  refine ⟨?_, fun m' member => ?_, fun m member => ?_⟩
  · rw [names_datums]
    exact distinct
  · obtain ⟨⟨name, value⟩, listed, rfl⟩ := List.mem_map.mp member
    refine ⟨.json value.normal, lookup_reverse_of_mem ?_ ?_, each _ listed⟩
    · rw [names_datums]
      exact Json.nodup_sortMembers _
    · exact List.mem_map_of_mem
        (Json.mem_normal_obj.mpr ⟨value, lookup_reverse_of_mem distinct listed, rfl⟩)
  · obtain ⟨⟨name, value⟩, listed, rfl⟩ := List.mem_map.mp member
    obtain ⟨j, last, -⟩ := Json.mem_normal_obj.mp listed
    rw [names_datums]
    exact List.mem_map_of_mem (mem_of_lookup_reverse last)

end

/-- Fields that are given by their order are related where the items are. -/
theorem lookup_zip {S : Datum → Datum → Prop} {ds ds' : List Datum}
    (related : List.Forall₂ S ds ds') (keys : List String) (name : String) :
    Option.Rel S (List.lookup name (keys.zip ds)) (List.lookup name (keys.zip ds')) := by
  induction related generalizing keys with
  | nil => rw [List.zip_nil_right]; exact .none
  | cons head _ ih =>
    cases keys with
    | nil => exact .none
    | cons key rest =>
      rw [List.zip_cons_cons, List.zip_cons_cons, List.lookup_cons, List.lookup_cons]
      cases name == key with
      | true => exact .some head
      | false => exact ih rest

/-- The items of a list are related to the same items read as nested maps where each one is. -/
theorem forall₂_items {S : Datum → Datum → Prop} {js : List Json}
    (each : ∀ j ∈ js, S (.json j) (.json j.normal)) :
    List.Forall₂ S (js.map .json) ((Json.normalItems js).map .json) := by
  rw [Json.normalItems_eq, List.forall₂_map_left_iff, List.forall₂_map_right_iff,
    List.forall₂_map_right_iff, List.forall₂_same]
  exact each

theorem fields?_arr {names : List FieldName} {js : List Json} {fs : Fields} :
    Datum.fields? names (.json (.arr js)) = some fs ↔
      ¬ names.length < js.length ∧ (names.map FieldName.name).zip (js.map .json) = fs := by
  rw [Datum.fields?]
  split <;> simp_all

theorem variant?_obj {ms : List (String × Json)} {name : String} :
    Datum.variant? (.json (.obj ms)) = some name ↔ ms = [(name, .null)] := by
  constructor
  · intro named
    match ms, named with
    | [(_, .null)], rfl => rfl
  · rintro rfl
    rfl

/-- A value that names one of finitely many does so as nested maps, and the other way round if it
    repeats no name. -/
theorem variant?_normal_obj {ms : List (String × Json)} {name : String}
    (distinct : (ms.map Prod.fst).Nodup)
    (named : Datum.variant? (.json (Json.obj ms).normal) = some name) : ms = [(name, .null)] := by
  have sorted := variant?_obj.mp named
  have only : ∀ m ∈ ms, m = (name, .null) := by
    intro m member
    have there : (m.1, m.2.normal) ∈ [(name, Json.null)] :=
      sorted ▸ Json.mem_normal_obj.mpr ⟨m.2, lookup_reverse_of_mem distinct member, rfl⟩
    obtain ⟨key, value⟩ := m
    cases value <;> simp_all [Json.normal]
  match ms, distinct, only with
  | [], _, _ => cases named
  | [m], _, only => rw [only m List.mem_cons_self]
  | m :: m' :: _, distinct, only =>
    have same : m.1 = m'.1 := by
      rw [only m List.mem_cons_self, only m' (List.mem_cons_of_mem _ List.mem_cons_self)]
    exact absurd (same ▸ List.mem_cons_self) (List.nodup_cons.mp distinct).1

/-! ## Shapes -/

/-- Whatever is read from a value is read from it as nested maps. -/
theorem below_normal (s : Shape) (j : Json) : s.Below (.json j) (.json j.normal) := by
  induction s generalizing j with
  | text | bool | float | nat | int => cases j <;> exact .refl _
  | value =>
    intro v read
    obtain ⟨sound, value⟩ := Datum.value?_eq_some.mp read
    exact Datum.value?_eq_some.mpr ⟨Json.isSound_normal sound, by rw [Json.normal_normal, value]⟩
  | name =>
    cases j with
    | obj ms =>
      intro name named
      obtain rfl := variant?_obj.mp named
      rfl
    | _ => exact .refl _
  | optional s ih => exact ⟨by cases j <;> rfl, fun _ => ih j⟩
  | list s ih =>
    intro ds items
    cases j with
    | arr js =>
      cases items
      exact ⟨_, rfl, forall₂_items fun j _ => ih j⟩
    | _ => cases items
  | map s ih =>
    intro ms members
    cases j with
    | obj ms =>
      cases members
      exact ⟨_, rfl, covers_normal fun m _ => ih m.2⟩
    | _ => cases members
  | record names part ih =>
    intro fs fields
    cases j with
    | obj ms =>
      exact collect_of_covers (covers_normal fun m _ name _ => ih name m.2) fields
    | arr js =>
      obtain ⟨fits, rfl⟩ := fields?_arr.mp fields
      refine ⟨_, fields?_arr.mpr ⟨?_, rfl⟩, fun name => ?_⟩
      · rwa [Json.normalItems_eq, List.length_map]
      · exact lookup_zip (forall₂_items fun j _ => ih name j) _ name
    | _ => cases fields

/-- Whatever is read from a value as nested maps is read from the value if that repeats no name and
    all its parts have a value. -/
theorem normal_below (s : Shape) {j : Json} (sound : j.isSound = true)
    (unrepeated : j.Unrepeated) : s.Below (.json j.normal) (.json j) := by
  induction s generalizing j with
  | text | bool | float | nat | int => cases j <;> exact .refl _
  | value =>
    intro v read
    obtain ⟨-, value⟩ := Datum.value?_eq_some.mp read
    exact Datum.value?_eq_some.mpr ⟨sound, by rw [← value, Json.normal_normal]⟩
  | name =>
    cases j with
    | obj ms =>
      intro name named
      obtain rfl := variant?_normal_obj (Json.unrepeated_obj.mp unrepeated).1 named
      rfl
    | _ => exact .refl _
  | optional s ih => exact ⟨by cases j <;> rfl, fun _ => ih sound unrepeated⟩
  | list s ih =>
    intro ds items
    cases j with
    | arr js =>
      cases items
      have each := Json.unrepeated_arr.mp unrepeated
      have sound := Json.isSound_arr.mp sound
      exact ⟨_, rfl, (forall₂_items (S := flip s.Below)
        fun j member => ih (sound j member) (each j member)).flip⟩
    | _ => cases items
  | map s ih =>
    intro ms members
    cases j with
    | obj ms =>
      cases members
      obtain ⟨distinct, each⟩ := Json.unrepeated_obj.mp unrepeated
      have sound := Json.isSound_obj.mp sound
      exact ⟨_, rfl, normal_covers distinct fun m member => ih (sound m member) (each m member)⟩
    | _ => cases members
  | record names part ih =>
    intro fs fields
    cases j with
    | obj ms =>
      obtain ⟨distinct, each⟩ := Json.unrepeated_obj.mp unrepeated
      have sound := Json.isSound_obj.mp sound
      refine collect_of_covers (normal_covers distinct ?_) fields
      exact fun m member name _ => ih name (sound m member) (each m member)
    | arr js =>
      obtain ⟨fits, rfl⟩ := fields?_arr.mp fields
      refine ⟨_, fields?_arr.mpr ⟨?_, rfl⟩, fun name => ?_⟩
      · rwa [Json.normalItems_eq, List.length_map] at fits
      · exact lookup_zip (forall₂_items (S := flip (part name).Below) fun j member =>
          ih name (Json.isSound_arr.mp sound j member)
            (Json.unrepeated_arr.mp unrepeated j member)).flip _ name
    | _ => cases fields

end Shape

end Verdict
