import Mathlib.Data.List.Perm.Basic
import Verdict.Proofs.Json.Normal

/-!
# Names in values

A list of pairs gives a map whose value under each name is the last one of the list, and a map is
determined by its values (`KeyMap.eq_of_get?`).  The members of a value read as nested maps are therefore those that stand last under their names
(`Json.mem_sortMembers`), which are all of them in a value that repeats no name (`Unrepeated`).
-/

namespace Verdict

/-! ## The last pair of a name -/

section

variable {α : Type} {name : String} {a : α} {pairs : List (String × α)}

theorem mem_of_lookup_reverse (found : pairs.reverse.lookup name = some a) : (name, a) ∈ pairs := by
  obtain ⟨front, back, split, -⟩ := List.lookup_eq_some_iff.mp found
  have member : (name, a) ∈ pairs.reverse := by
    rw [split]
    simp
  exact List.mem_reverse.mp member

/-- The only pair of a name is the last one. -/
theorem lookup_reverse_of_mem (distinct : (pairs.map Prod.fst).Nodup) (member : (name, a) ∈ pairs) :
    pairs.reverse.lookup name = some a := by
  obtain ⟨front, back, rfl⟩ := List.append_of_mem member
  rw [List.map_append, List.map_cons, List.nodup_append] at distinct
  obtain ⟨fresh, -⟩ := List.nodup_cons.mp distinct.2.1
  rw [List.lookup_eq_some_iff]
  refine ⟨back.reverse, front.reverse, by simp, fun p later => ?_⟩
  have there : p.1 ∈ back.map Prod.fst := List.mem_map_of_mem (List.mem_reverse.mp later)
  exact bne_iff_ne.mpr fun same => fresh (same ▸ there)

theorem lookup_reverse_isSome (member : (name, a) ∈ pairs) :
    ∃ b, pairs.reverse.lookup name = some b := by
  rw [← Option.isSome_iff_exists, List.lookup_isSome_iff]
  exact ⟨(name, a), List.mem_reverse.mpr member, beq_self_eq_true name⟩

end

/-! ## Maps -/

namespace KeyMap

variable {α : Type}

theorem nodup_of_ordered {entries : List (String × α)}
    (ordered : entries.Pairwise fun a b => a.1 < b.1) : (entries.map Prod.fst).Nodup := by
  refine List.pairwise_map.mpr (ordered.imp fun {a b} lower same => ?_)
  rw [same] at lower
  exact String.lt_irrefl _ lower

theorem lookup_eq_some_iff {name : String} {value : α} {entries : List (String × α)}
    (ordered : entries.Pairwise fun a b => a.1 < b.1) :
    entries.lookup name = some value ↔ (name, value) ∈ entries := by
  have same := congrArg (fun m : KeyMap α => m.get? name) (ofList_of_ordered ordered)
  rw [show entries.lookup name = (ofList entries).get? name from same.symm, get?_ofList]
  exact ⟨mem_of_lookup_reverse, lookup_reverse_of_mem (nodup_of_ordered ordered)⟩

theorem get?_eq_some_iff {m : KeyMap α} {name : String} {value : α} :
    m.get? name = some value ↔ (name, value) ∈ m.entries :=
  lookup_eq_some_iff m.ordered

theorem entry_unique {m : KeyMap α} {name : String} {a b : α} (entry : (name, a) ∈ m.entries)
    (entry' : (name, b) ∈ m.entries) : a = b :=
  Option.some.inj ((get?_eq_some_iff.mpr entry).symm.trans (get?_eq_some_iff.mpr entry'))

/-- Maps with the same value under each name are equal. -/
theorem eq_of_get? {m n : KeyMap α} (same : ∀ name, m.get? name = n.get? name) : m = n := by
  have unique (m : KeyMap α) : m.entries.Nodup := by
    refine m.ordered.imp fun {a b} lower => ?_
    rintro rfl
    exact String.lt_irrefl _ lower
  have perm : m.entries.Perm n.entries := by
    refine (List.perm_ext_iff_of_nodup (unique m) (unique n)).mpr fun (name, value) => ?_
    rw [← lookup_eq_some_iff m.ordered, ← lookup_eq_some_iff n.ordered]
    exact iff_of_eq (congrArg (· = some value) (same name))
  refine ext (perm.eq_of_pairwise (fun a b _ _ lower higher => ?_) m.ordered n.ordered)
  exact absurd (String.lt_trans lower higher) (String.lt_irrefl _)

end KeyMap

namespace Json

/-! ## Members under their names -/

/-- The sorted members are the last ones of their names. -/
theorem mem_sortMembers {name : String} {value : Json} {ms : List (String × Json)} :
    (name, value) ∈ sortMembers ms ↔ ms.reverse.lookup name = some value := by
  rw [← KeyMap.lookup_eq_some_iff (ordered_sortMembers ms), lookup_sortMembers,
    lookup_eq_lookup_reverse]

theorem nodup_sortMembers (ms : List (String × Json)) :
    ((sortMembers ms).map Prod.fst).Nodup :=
  KeyMap.nodup_of_ordered (ordered_sortMembers ms)

/-- The members of an object that is read as a nested map are the last ones of their names, read
    likewise. -/
theorem mem_normal_obj {name : String} {value : Json} {ms : List (String × Json)} :
    (name, value) ∈ sortMembers (normalMembers ms) ↔
      ∃ j, ms.reverse.lookup name = some j ∧ j.normal = value := by
  rw [mem_sortMembers, ← lookup_eq_lookup_reverse, lookup_normalMembers, lookup_eq_lookup_reverse,
    Option.map_eq_some_iff]

mutual

/-- Reading as nested maps what was read so changes nothing. -/
theorem normal_normal : ∀ j : Json, j.normal.normal = j.normal
  | .null | .bool _ | .num _ | .str _ => rfl
  | .arr items => congrArg arr (normalItems_normalItems items)
  | .obj members => by
    have each : ∀ m ∈ sortMembers (normalMembers members), (m.1, m.2.normal) = m := by
      intro m member
      have listed := mem_of_lookup_reverse (mem_sortMembers.mp member)
      exact Prod.ext rfl (normal_of_mem_normalMembers members m listed)
    have same : normalMembers (sortMembers (normalMembers members)) =
        sortMembers (normalMembers members) := by
      rw [normalMembers_eq]
      exact (List.map_congr_left each).trans (List.map_id _)
    rw [normal, normal, same, sortMembers_of_ordered (ordered_sortMembers _)]

theorem normalItems_normalItems : ∀ js : List Json,
    normalItems (normalItems js) = normalItems js
  | [] => rfl
  | j :: js => by
    rw [normalItems, normalItems, normal_normal j, normalItems_normalItems js]

theorem normal_of_mem_normalMembers : ∀ (ms : List (String × Json)),
    ∀ m ∈ normalMembers ms, m.2.normal = m.2
  | [], _, member => absurd member List.not_mem_nil
  | (name, j) :: ms, m, member => by
    rcases List.mem_cons.mp member with rfl | later
    · exact normal_normal j
    · exact normal_of_mem_normalMembers ms m later

end

/-! ## Repeated names -/

mutual

/-- The names of each object in a value, the value itself included. -/
def nameLists : Json → List (List String)
  | .arr items => itemNameLists items
  | .obj members => members.map Prod.fst :: memberNameLists members
  | .null | .bool _ | .num _ | .str _ => []

/-- `nameLists` of each item. -/
def itemNameLists : List Json → List (List String)
  | [] => []
  | j :: js => nameLists j ++ itemNameLists js

/-- `nameLists` of the value of each member. -/
def memberNameLists : List (String × Json) → List (List String)
  | [] => []
  | (_, j) :: ms => nameLists j ++ memberNameLists ms

end

/-- Whether no object in a value has two members of one name. -/
def Unrepeated (j : Json) : Prop :=
  ∀ names ∈ j.nameLists, names.Nodup

instance (j : Json) : Decidable j.Unrepeated :=
  inferInstanceAs (Decidable (∀ names ∈ j.nameLists, names.Nodup))

theorem mem_itemNameLists {names : List String} {js : List Json} :
    names ∈ itemNameLists js ↔ ∃ j ∈ js, names ∈ j.nameLists := by
  induction js with
  | nil => simp [itemNameLists]
  | cons j rest ih => simp [itemNameLists, ih]

theorem mem_memberNameLists {names : List String} {ms : List (String × Json)} :
    names ∈ memberNameLists ms ↔ ∃ m ∈ ms, names ∈ m.2.nameLists := by
  induction ms with
  | nil => simp [memberNameLists]
  | cons m rest ih => simp [memberNameLists, ih]

theorem unrepeated_arr {js : List Json} : (arr js).Unrepeated ↔ ∀ j ∈ js, j.Unrepeated := by
  simp only [Unrepeated, nameLists, mem_itemNameLists]
  exact ⟨fun all j member names inside => all names ⟨j, member, inside⟩,
    fun all names ⟨j, member, inside⟩ => all j member names inside⟩

theorem unrepeated_obj {ms : List (String × Json)} :
    (obj ms).Unrepeated ↔ (ms.map Prod.fst).Nodup ∧ ∀ m ∈ ms, m.2.Unrepeated := by
  simp only [Unrepeated, nameLists, List.forall_mem_cons, mem_memberNameLists]
  exact and_congr_right fun _ =>
    ⟨fun all m member names inside => all names ⟨m, member, inside⟩,
      fun all names ⟨m, member, inside⟩ => all m member names inside⟩

end Json

end Verdict
