import Verdict.KeyMap
import Verdict.Proofs.Json.Decoding

/-!
# Values read as nested maps

Two records read as nested maps are the same only if they have the same value under every name
(`lookup_of_normal_eq`).  Sorting members is putting them into a map one after the other, and
changes nothing where they are in order already (`sortMembers_of_ordered`).
-/

namespace Verdict

namespace KeyMap

variable {α : Type}

/-- Putting in an entry of a name above all others puts it last. -/
theorem insertEntry_of_above {name : String} {value : α} {entries : List (String × α)}
    (above : ∀ e ∈ entries, e.1 < name) :
    insertEntry name value entries = entries ++ [(name, value)] := by
  induction entries with
  | nil => rfl
  | cons e rest ih =>
    obtain ⟨key, old⟩ := e
    have lower : key < name := above (key, old) List.mem_cons_self
    have notLower : ¬ name < key := fun higher => String.lt_irrefl key (String.lt_trans lower higher)
    have other : name ≠ key := fun same => String.lt_irrefl key (same ▸ lower)
    rw [insertEntry, if_neg notLower, if_neg other,
      ih fun e member => above e (List.mem_cons_of_mem _ member)]
    rfl

/-- Putting in entries that are in order, after lower ones, appends them. -/
theorem foldl_insertEntry_of_ordered {entries found : List (String × α)}
    (ordered : (found ++ entries).Pairwise fun a b => a.1 < b.1) :
    entries.foldl (fun found e => insertEntry e.1 e.2 found) found = found ++ entries := by
  induction entries generalizing found with
  | nil => simp
  | cons e rest ih =>
    have above : ∀ f ∈ found, f.1 < e.1 := fun f member =>
      (List.pairwise_append.mp ordered).2.2 f member e List.mem_cons_self
    rw [List.foldl_cons, insertEntry_of_above above, ih (by simpa using ordered)]
    simp

theorem entries_foldl_insert (pairs : List (String × α)) (m : KeyMap α) :
    (pairs.foldl (fun m e => m.insert e.1 e.2) m).entries =
      pairs.foldl (fun found e => insertEntry e.1 e.2 found) m.entries := by
  induction pairs generalizing m with
  | nil => rfl
  | cons e rest ih => exact ih (m.insert e.1 e.2)

/-- Entries in ascending order are the entries of their map. -/
theorem ofList_of_ordered {entries : List (String × α)}
    (ordered : entries.Pairwise fun a b => a.1 < b.1) : ofList entries = ⟨entries, ordered⟩ :=
  ext ((entries_foldl_insert entries empty).trans (foldl_insertEntry_of_ordered ordered))

/-- A map of some pairs holds none but these. -/
theorem mem_of_mem_ofList {pairs : List (String × α)} {e : String × α}
    (member : e ∈ (ofList pairs).entries) : e ∈ pairs := by
  have fold : ∀ (pairs : List (String × α)) (m : KeyMap α),
      e ∈ (pairs.foldl (fun m e => m.insert e.1 e.2) m).entries → e ∈ pairs ∨ e ∈ m.entries := by
    intro pairs
    induction pairs with
    | nil => exact fun _ => .inr
    | cons first rest ih =>
      intro m member
      rcases ih _ member with later | before
      · exact .inl (List.mem_cons_of_mem _ later)
      · rcases mem_insertEntry before with rfl | there
        · exact .inl List.mem_cons_self
        · exact .inr there
  exact (fold pairs empty member).resolve_right List.not_mem_nil

/-- Entries that are put in one after the other hide what was there under their names. -/
theorem get?_foldl_insert (pairs : List (String × α)) (m : KeyMap α) (name : String) :
    (pairs.foldl (fun m e => m.insert e.1 e.2) m).get? name =
      (pairs.reverse.lookup name).or (m.get? name) := by
  induction pairs generalizing m with
  | nil => rfl
  | cons e rest ih =>
    obtain ⟨key, value⟩ := e
    rw [List.foldl_cons, ih, get?_insert, List.reverse_cons, List.lookup_append, Option.or_assoc,
      List.lookup_cons, List.lookup_nil]
    congr 1
    by_cases here : name = key
    · simp [here]
    · simp [here, beq_eq_false_iff_ne.mpr here]

/-- The value of a name in the map of some pairs is that of the last one. -/
theorem get?_ofList (pairs : List (String × α)) (name : String) :
    (ofList pairs).get? name = pairs.reverse.lookup name :=
  (get?_foldl_insert pairs empty name).trans (Option.or_none ..)

end KeyMap

namespace Json

/-! ## Sorted members -/

/-- Members in the order of their names are sorted already. -/
theorem sortMembers_of_ordered {ms : List (String × Json)}
    (ordered : ms.Pairwise fun m m' => m.1 < m'.1) : sortMembers ms = ms := by
  rw [sortMembers, KeyMap.ofList_of_ordered ordered]

theorem ordered_sortMembers (ms : List (String × Json)) :
    (sortMembers ms).Pairwise fun m m' => m.1 < m'.1 :=
  (KeyMap.ofList ms).ordered

theorem lookup_eq_lookup_reverse (name : String) (ms : List (String × Json)) :
    lookup name ms = ms.reverse.lookup name := by
  induction ms with
  | nil => rfl
  | cons m rest ih =>
    obtain ⟨key, value⟩ := m
    rw [lookup, List.reverse_cons, List.lookup_append, ih, List.lookup_cons, List.lookup_nil]
    congr 1
    by_cases here : key = name
    · simp [here]
    · simp [here, beq_eq_false_iff_ne.mpr (Ne.symm here)]

/-- Sorting keeps the value under each name. -/
theorem lookup_sortMembers (name : String) (ms : List (String × Json)) :
    (sortMembers ms).lookup name = lookup name ms := by
  rw [lookup_eq_lookup_reverse]
  exact KeyMap.get?_ofList ms name

/-! ## Normal values -/

theorem normalItems_eq (js : List Json) : normalItems js = js.map normal := by
  induction js with
  | nil => rfl
  | cons j rest ih => rw [normalItems, ih, List.map_cons]

theorem normalMembers_eq (ms : List (String × Json)) :
    normalMembers ms = ms.map fun m => (m.1, normal m.2) := by
  induction ms with
  | nil => rfl
  | cons m rest ih => rw [normalMembers, ih, List.map_cons]

theorem lookup_normalMembers (name : String) (ms : List (String × Json)) :
    lookup name (normalMembers ms) = (lookup name ms).map normal := by
  induction ms with
  | nil => rfl
  | cons m rest ih =>
    rw [normalMembers, lookup, lookup, ih]
    cases lookup name rest with
    | some value => rfl
    | none => by_cases here : m.1 = name <;> simp [here]

/-- Records that are the same as nested maps have the same values as such under each name. -/
theorem lookup_of_normal_eq {ms ms' : List (String × Json)}
    (same : normal (.obj ms) = normal (.obj ms')) (name : String) :
    (lookup name ms).map normal = (lookup name ms').map normal := by
  simp only [normal, Json.obj.injEq] at same
  rw [← lookup_normalMembers, ← lookup_normalMembers, ← lookup_sortMembers, same, lookup_sortMembers]

/-- Lists that are the same as nested maps have the same items as such. -/
theorem items_of_normal_eq {js js' : List Json} (same : normal (.arr js) = normal (.arr js')) :
    js.map normal = js'.map normal := by
  simpa only [normal, Json.arr.injEq, normalItems_eq] using same

/-- Records with their names in order that are the same as nested maps have the same members as
    such. -/
theorem members_of_normal_eq {ms ms' : List (String × Json)}
    (ordered : ms.Pairwise fun m m' => m.1 < m'.1) (ordered' : ms'.Pairwise fun m m' => m.1 < m'.1)
    (same : normal (.obj ms) = normal (.obj ms')) :
    (ms.map fun m => (m.1, normal m.2)) = ms'.map fun m => (m.1, normal m.2) := by
  have sorted : ∀ {ms : List (String × Json)}, (ms.Pairwise fun m m' => m.1 < m'.1) →
      sortMembers (normalMembers ms) = ms.map fun m => (m.1, normal m.2) := by
    intro ms ordered
    rw [normalMembers_eq]
    exact sortMembers_of_ordered (List.pairwise_map.mpr ordered)
  simp only [normal, Json.obj.injEq] at same
  rw [← sorted ordered, same, sorted ordered']

/-! ## The numbers of a normal value -/

theorem mem_memberNumbers {ms : List (String × Json)} {n : Number} :
    n ∈ memberNumbers ms ↔ ∃ m ∈ ms, n ∈ m.2.numbers := by
  induction ms with
  | nil => simp [memberNumbers]
  | cons m rest ih => simp [memberNumbers, ih]

theorem memberNumbers_sortMembers (ms : List (String × Json)) :
    ∀ n ∈ memberNumbers (sortMembers ms), n ∈ memberNumbers ms := by
  intro n member
  obtain ⟨m, sorted, here⟩ := mem_memberNumbers.mp member
  exact mem_memberNumbers.mpr ⟨m, KeyMap.mem_of_mem_ofList sorted, here⟩

mutual

/-- Reading a value as nested maps brings in no numbers. -/
theorem numbers_normal : ∀ (j : Json), ∀ n ∈ j.normal.numbers, n ∈ j.numbers
  | .null, _, member | .bool _, _, member | .num _, _, member | .str _, _, member => member
  | .arr items, n, member => itemNumbers_normal items n member
  | .obj members, n, member =>
    memberNumbers_normal members n (memberNumbers_sortMembers _ n member)

theorem itemNumbers_normal : ∀ (js : List Json), ∀ n ∈ itemNumbers (normalItems js), n ∈ itemNumbers js
  | [], _, member => member
  | j :: js, n, member => by
    simp only [normalItems, itemNumbers, List.mem_append] at member ⊢
    exact member.imp (numbers_normal j n) (itemNumbers_normal js n)

theorem memberNumbers_normal :
    ∀ (ms : List (String × Json)), ∀ n ∈ memberNumbers (normalMembers ms), n ∈ memberNumbers ms
  | [], _, member => member
  | (_, j) :: ms, n, member => by
    simp only [normalMembers, memberNumbers, List.mem_append] at member ⊢
    exact member.imp (numbers_normal j n) (memberNumbers_normal ms n)

end

theorem isSound_normal {j : Json} (sound : j.isSound = true) : j.normal.isSound = true :=
  isSound_iff.mpr fun n member => isSound_iff.mp sound n (numbers_normal j n member)

/-- Values of finite numbers with the same canonical text are the same as nested maps. -/
theorem normal_eq_of_canonical_eq {j j' : Json} (finite : ∀ n ∈ j.numbers, n.Finite)
    (finite' : ∀ n ∈ j'.numbers, n.Finite) (same : j.canonical = j'.canonical) :
    j.normal = j'.normal :=
  write_injective (fun n member => finite n (numbers_normal j n member))
    (fun n member => finite' n (numbers_normal j' n member)) (String.ofList_injective same)

end Json

end Verdict
