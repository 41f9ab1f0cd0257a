/-!
# Maps from names

A `KeyMap` is a list of pairs with strictly ascending names, so that two maps with the same
entries are equal.  `get?_insert` says what an insertion does to every look-up.
-/

namespace Verdict

/-- A finite map from names, its entries in ascending order of their names. -/
structure KeyMap (α : Type) where
  entries : List (String × α)
  ordered : entries.Pairwise fun a b => a.1 < b.1

namespace KeyMap

variable {α β : Type}

/-- Puts an entry into an ascending list, replacing one of the same name. -/
def insertEntry (name : String) (value : α) : List (String × α) → List (String × α)
  | [] => [(name, value)]
  | (key, old) :: rest =>
      if name < key then (name, value) :: (key, old) :: rest
      else if name = key then (name, value) :: rest
      else (key, old) :: insertEntry name value rest

theorem mem_insertEntry {name : String} {value : α} {entries : List (String × α)}
    {e : String × α} (h : e ∈ insertEntry name value entries) :
    e = (name, value) ∨ e ∈ entries := by
  fun_induction insertEntry name value entries with
  | case1 => simpa using h
  | case2 key old rest _ =>
      rcases List.mem_cons.1 h with h | h
      · exact Or.inl h
      · exact Or.inr h
  | case3 old rest _ =>
      rcases List.mem_cons.1 h with h | h
      · exact Or.inl h
      · exact Or.inr (List.mem_cons_of_mem _ h)
  | case4 key old rest _ _ ih =>
      rcases List.mem_cons.1 h with h | h
      · exact Or.inr (h ▸ List.mem_cons_self)
      · exact (ih h).imp_right (List.mem_cons_of_mem _)

theorem lt_of_not_lt_of_ne {a b : String} (h : ¬ a < b) (hne : a ≠ b) : b < a := by
  rcases String.le_total a b with hab | hba
  · exact absurd (String.le_antisymm hab (String.not_lt.1 h)) hne
  · exact String.not_le.1 fun hab => hne (String.le_antisymm hab hba)

theorem ordered_insertEntry (name : String) (value : α) {entries : List (String × α)}
    (h : entries.Pairwise fun a b => a.1 < b.1) :
    (insertEntry name value entries).Pairwise fun a b => a.1 < b.1 := by
  fun_induction insertEntry name value entries with
  | case1 => simp
  | case2 key old rest hlt =>
      refine List.pairwise_cons.2 ⟨fun e he => ?_, h⟩
      rcases List.mem_cons.1 he with rfl | he
      · exact hlt
      · exact String.lt_trans hlt ((List.pairwise_cons.1 h).1 e he)
  | case3 old rest hlt =>
      exact List.pairwise_cons.2 (List.pairwise_cons.1 h)
  | case4 key old rest hlt hne ih =>
      obtain ⟨hhead, htail⟩ := List.pairwise_cons.1 h
      refine List.pairwise_cons.2 ⟨fun e he => ?_, ih htail⟩
      rcases mem_insertEntry he with rfl | he
      · exact lt_of_not_lt_of_ne hlt hne
      · exact hhead e he

/-- The map without entries. -/
def empty : KeyMap α := ⟨[], List.Pairwise.nil⟩

instance : Inhabited (KeyMap α) := ⟨empty⟩

/-- Puts an entry into the map, replacing one of the same name. -/
def insert (m : KeyMap α) (name : String) (value : α) : KeyMap α :=
  ⟨insertEntry name value m.entries, ordered_insertEntry name value m.ordered⟩

/-- The map of some pairs, the last of several equal names winning. -/
def ofList (pairs : List (String × α)) : KeyMap α :=
  pairs.foldl (fun m (name, value) => m.insert name value) empty

/-- The value of a name. -/
def get? (m : KeyMap α) (name : String) : Option α :=
  m.entries.lookup name

/-- The map with every value changed. -/
def map (f : α → β) (m : KeyMap α) : KeyMap β :=
  ⟨m.entries.map fun (name, value) => (name, f value),
    List.pairwise_map.2 m.ordered⟩

@[ext] theorem ext {m n : KeyMap α} (h : m.entries = n.entries) : m = n := by
  cases m; cases n; simp_all

instance [BEq α] : BEq (KeyMap α) := ⟨fun m n => m.entries == n.entries⟩

instance [Repr α] : Repr (KeyMap α) := ⟨fun m => reprPrec m.entries⟩

theorem lookup_cons_eq_ite (name key : String) (value : α) (rest : List (String × α)) :
    ((key, value) :: rest).lookup name = if name = key then some value else rest.lookup name := by
  rw [List.lookup_cons]
  by_cases here : name = key
  · rw [here, beq_self_eq_true, if_pos rfl]
  · rw [beq_eq_false_iff_ne.mpr here, if_neg here]

theorem lookup_insertEntry (name : String) (value : α) (key : String)
    (entries : List (String × α)) :
    (insertEntry name value entries).lookup key =
      if key = name then some value else entries.lookup key := by
  fun_induction insertEntry name value entries with
  | case1 => rw [lookup_cons_eq_ite]
  | case2 other old rest hlt => rw [lookup_cons_eq_ite]
  | case3 old rest hlt => by_cases hk : key = name <;> simp [lookup_cons_eq_ite, hk]
  | case4 other old rest hlt hne ih =>
      rw [lookup_cons_eq_ite, lookup_cons_eq_ite, ih]
      by_cases hk : key = other
      · subst hk
        simp [Ne.symm hne]
      · simp [hk]

/-- An insertion changes the look-up of its own name only. -/
theorem get?_insert (m : KeyMap α) (name : String) (value : α) (key : String) :
    (m.insert name value).get? key = if key = name then some value else m.get? key :=
  lookup_insertEntry name value key m.entries

end KeyMap

end Verdict
