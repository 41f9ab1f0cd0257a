import Verdict.Proofs.Json.Names

/-!
# Canonical texts tell values apart

Two values are the same if their objects are the same as maps from names to values, at every depth
(`Json.Same`).  Values of finite numbers are the same exactly if their canonical texts are
(`canonical_eq_iff_same`): the order of members does not show, and nothing inside a string is taken
for the end of it.
-/

namespace Verdict.Json

/-- Whether two values are the same: their objects have the same names with the same values under
    them, their arrays the same items in the same places. -/
inductive Same : Json → Json → Prop where
  | null : Same .null .null
  | bool (b : Bool) : Same (.bool b) (.bool b)
  | num (n : Number) : Same (.num n) (.num n)
  | str (s : String) : Same (.str s) (.str s)
  | arr {items items' : List Json} (length : items.length = items'.length)
      (each : ∀ (i : Nat) (j j' : Json), items[i]? = some j → items'[i]? = some j' → Same j j') :
      Same (.arr items) (.arr items')
  | obj {members members' : List (String × Json)}
      (names : ∀ name, (lookup name members).isSome = (lookup name members').isSome)
      (values : ∀ (name : String) (j j' : Json), lookup name members = some j →
        lookup name members' = some j' → Same j j') :
      Same (.obj members) (.obj members')

theorem isSome_lookup_of_same {ms ms' : List (String × Json)} (same : (obj ms).Same (obj ms'))
    (name : String) : (lookup name ms).isSome = (lookup name ms').isSome := by
  cases same with
  | obj names _ => exact names name

/-! ## Same values are the same as nested maps -/

/-- Members with the same value under each name are the same once they are sorted. -/
theorem sortMembers_congr {ms ms' : List (String × Json)}
    (same : ∀ name, lookup name ms = lookup name ms') : sortMembers ms = sortMembers ms' := by
  have found (ms : List (String × Json)) (name : String) :
      (KeyMap.ofList ms).get? name = lookup name ms := lookup_sortMembers name ms
  have equal : KeyMap.ofList ms = KeyMap.ofList ms' :=
    KeyMap.eq_of_get? fun name => by rw [found, found, same]
  exact congrArg KeyMap.entries equal

theorem Same.normal_eq {a b : Json} (same : a.Same b) : a.normal = b.normal := by
  induction same with
  | null | bool | num | str => rfl
  | @arr items items' length each ih =>
    rw [normal, normal, normalItems_eq, normalItems_eq]
    refine congrArg Json.arr (List.ext_getElem (by simpa using length) fun i within within' => ?_)
    rw [List.length_map] at within within'
    rw [List.getElem_map, List.getElem_map]
    exact ih i _ _ (List.getElem?_eq_getElem within) (List.getElem?_eq_getElem within')
  | @obj members members' names values ih =>
    rw [normal, normal]
    refine congrArg Json.obj (sortMembers_congr fun name => ?_)
    rw [lookup_normalMembers, lookup_normalMembers]
    have known := names name
    cases here : lookup name members with
    | none =>
      cases here' : lookup name members' with
      | none => rfl
      | some j' => simp [here, here'] at known
    | some j =>
      cases here' : lookup name members' with
      | none => simp [here, here'] at known
      | some j' => exact congrArg some (ih name j j' here here')

theorem mem_of_lookup {name : String} {j : Json} {ms : List (String × Json)}
    (found : lookup name ms = some j) : (name, j) ∈ ms := by
  rw [lookup_eq_lookup_reverse] at found
  exact mem_of_lookup_reverse found

mutual

/-- Values that are the same as nested maps are the same. -/
theorem same_of_normal_eq : ∀ a b : Json, a.normal = b.normal → a.Same b
  | .null, b, equal => by
    cases b <;> cases equal
    exact .null
  | .bool t, b, equal => by
    cases b <;> cases equal
    exact .bool t
  | .num n, b, equal => by
    cases b <;> cases equal
    exact .num n
  | .str s, b, equal => by
    cases b <;> cases equal
    exact .str s
  | .arr items, b, equal => by
    cases b with
    | arr items' =>
      have alike := items_of_normal_eq equal
      have length := congrArg List.length alike
      rw [List.length_map, List.length_map] at length
      refine .arr length fun i j j' here here' => ?_
      have place := congrArg (fun js => js[i]?) alike
      simp only [List.getElem?_map, here, here', Option.map_some, Option.some.injEq] at place
      exact same_of_mem_items items j (List.mem_of_getElem? here) j' place
    | _ => cases equal
  | .obj members, b, equal => by
    cases b with
    | obj members' =>
      have alike := lookup_of_normal_eq equal
      refine .obj (fun name => ?_) fun name j j' here here' => ?_
      · have known := congrArg Option.isSome (alike name)
        rwa [Option.isSome_map, Option.isSome_map] at known
      · have value := alike name
        rw [here, here', Option.map_some, Option.map_some, Option.some.injEq] at value
        exact same_of_mem_members members (name, j) (mem_of_lookup here) j' value
    | _ => cases equal

theorem same_of_mem_items :
    ∀ js : List Json, ∀ j ∈ js, ∀ j' : Json, j.normal = j'.normal → j.Same j'
  | [], _, member, _, _ => absurd member List.not_mem_nil
  | first :: js, j, member, j', equal => by
    rcases List.mem_cons.mp member with here | later
    · rw [here] at equal ⊢
      exact same_of_normal_eq first j' equal
    · exact same_of_mem_items js j later j' equal

theorem same_of_mem_members :
    ∀ ms : List (String × Json), ∀ m ∈ ms, ∀ j' : Json, m.2.normal = j'.normal → m.2.Same j'
  | [], _, member, _, _ => absurd member List.not_mem_nil
  | (name, j) :: ms, m, member, j', equal => by
    rcases List.mem_cons.mp member with here | later
    · rw [here] at equal ⊢
      exact same_of_normal_eq j j' equal
    · exact same_of_mem_members ms m later j' equal

end

theorem same_iff_normal_eq {a b : Json} : a.Same b ↔ a.normal = b.normal :=
  ⟨Same.normal_eq, same_of_normal_eq a b⟩

/-- Whatever the order of members of different names, the object is the same. -/
theorem same_of_perm {ms ms' : List (String × Json)} (distinct : (ms.map Prod.fst).Nodup)
    (perm : ms.Perm ms') : (obj ms).Same (obj ms') := by
  have distinct' : (ms'.map Prod.fst).Nodup := (perm.map Prod.fst).nodup_iff.mp distinct
  have found : ∀ name, lookup name ms = lookup name ms' := by
    intro name
    ext j
    rw [lookup_eq_lookup_reverse, lookup_eq_lookup_reverse]
    constructor
    · intro here
      exact lookup_reverse_of_mem distinct' (perm.mem_iff.mp (mem_of_lookup_reverse here))
    · intro here
      exact lookup_reverse_of_mem distinct (perm.mem_iff.mpr (mem_of_lookup_reverse here))
  refine .obj (fun name => congrArg Option.isSome (found name)) fun name j j' here here' => ?_
  rw [found name, here'] at here
  cases here
  exact same_iff_normal_eq.mpr rfl

/-- Two values of finite numbers have one canonical text exactly if they are the same, and members
    of different names may stand in any order. -/
theorem canonical_eq_iff_same {a b : Json} (finite : ∀ n ∈ a.numbers, n.Finite)
    (finite' : ∀ n ∈ b.numbers, n.Finite) :
    (a.canonical = b.canonical ↔ a.Same b) ∧
      ∀ ms ms' : List (String × Json), (ms.map Prod.fst).Nodup → ms.Perm ms' →
        (obj ms).canonical = (obj ms').canonical := by
  have text_of_same {a b : Json} (same : a.Same b) : a.canonical = b.canonical := by
    rw [canonical, canonical, same.normal_eq]
  refine ⟨⟨fun text => ?_, text_of_same⟩, fun ms ms' distinct perm => ?_⟩
  · exact same_of_normal_eq a b (normal_eq_of_canonical_eq finite finite' text)
  · exact text_of_same (same_of_perm distinct perm)

/-- Members in another order, also those of an inner object, leave the text as it is; what looks
    like the end of a member inside a string is not taken for it. -/
theorem canonical_eq_iff_same_quoted :
    let bounds : List (String × Json) := [("min", .num (.int 2)), ("max", .num (.float 2.5))]
    let whole := obj [("z", .obj bounds), ("a", .arr [.null, .str "\n"])]
    let turned := obj [("a", .arr [.null, .str "\n"]), ("z", .obj bounds.reverse)]
    let one := obj [("a", .str "\",\"b\":\"")]
    let two := obj [("a", .str ""), ("b", .str "")]
    whole.canonical = turned.canonical ∧ one.canonical ≠ two.canonical := by
  intro bounds whole turned one two
  refine ⟨?_, fun text => ?_⟩
  · have finite : ∀ n ∈ whole.numbers, n.Finite := by
      simp [whole, bounds, numbers, memberNumbers, itemNumbers, Number.Finite]
      decide +kernel
    have finite' : ∀ n ∈ turned.numbers, n.Finite := by
      simp [turned, bounds, numbers, memberNumbers, itemNumbers, Number.Finite]
      decide +kernel
    exact (canonical_eq_iff_same finite finite').1.mpr (same_iff_normal_eq.mpr rfl)
  · have same := (canonical_eq_iff_same (a := one) (b := two) nofun nofun).1.mp text
    exact absurd (isSome_lookup_of_same same "b") (by decide)

end Verdict.Json
