import Verdict.Proofs.Context.Parts
import Verdict.Proofs.Number.Reading
import Verdict.Proofs.Text.Pieces

/-!
# Fields inside the body

A path leads from the body of a request through the members of objects and the items of arrays: it
reaches a value (`Json.Reaches`), or it leaves the body at some segment (`Json.Leaves`).  A field
that joins the segments of a path by dots behind `body.` has the value that the path reaches, and
none if the path leaves the body (`Context.resolve_body`).
-/

namespace Verdict

namespace Json

/-! ## Paths -/

/-- Whether a text spells a position: its decimal digits, perhaps behind zeros and a plus sign. -/
def SpellsPosition (segment : String) (i : Nat) : Prop :=
  ∃ zeros, segment.toList = List.replicate zeros '0' ++ (toString i).toList ∨
    segment.toList = '+' :: (List.replicate zeros '0' ++ (toString i).toList)

/-- A segment of a path leads to the last member of its name, or to the item at the position that it
    spells. -/
inductive Child : Json → String → Json → Prop where
  | member {name : String} {before after : List (String × Json)} {j : Json}
      (last : ∀ m ∈ after, m.1 ≠ name) : Child (.obj (before ++ (name, j) :: after)) name j
  | item {items : List Json} {segment : String} {i : Nat} {j : Json}
      (spelled : SpellsPosition segment i) (place : items[i]? = some j) :
      Child (.arr items) segment j

/-- A segment leads nowhere: it is no name in an object, it spells a position behind the last item
    of an array or none at all, or it stands below a scalar. -/
inductive Lacks : Json → String → Prop where
  | missing {members : List (String × Json)} {name : String}
      (absent : ∀ m ∈ members, m.1 ≠ name) : Lacks (.obj members) name
  | beyond {items : List Json} {segment : String} {i : Nat} (spelled : SpellsPosition segment i)
      (outside : items.length ≤ i) : Lacks (.arr items) segment
  | word {items : List Json} {segment : String} (other : ∀ i, ¬ SpellsPosition segment i) :
      Lacks (.arr items) segment
  | scalar {j : Json} {segment : String} (notObject : ∀ members, j ≠ .obj members)
      (notArray : ∀ items, j ≠ .arr items) : Lacks j segment

/-- The value that a path reaches. -/
inductive Reaches : Json → List String → Json → Prop where
  | here {j : Json} : Reaches j [] j
  | step {j k node : Json} {segment : String} {rest : List String} (child : Child j segment k)
      (reaches : Reaches k rest node) : Reaches j (segment :: rest) node

/-- A path leaves a value at the first of its segments that leads nowhere. -/
inductive Leaves : Json → List String → Prop where
  | here {j : Json} {segment : String} {rest : List String} (lacks : Lacks j segment) :
      Leaves j (segment :: rest)
  | later {j k : Json} {segment : String} {rest : List String} (child : Child j segment k)
      (leaves : Leaves k rest) : Leaves j (segment :: rest)

/-! ## Segments -/

section

open Verdict.Number (areDigits digitsValue readNat?)

variable {segment : String} {cs : List Char} {i : Nat}

theorem areDigits_iff : areDigits cs = true ∧ digitsValue cs = i ↔
    ∃ zeros, cs = List.replicate zeros '0' ++ Nat.toDigits 10 i := by
  constructor
  · rintro ⟨digits, rfl⟩
    simp only [areDigits, Bool.and_eq_true, Bool.not_eq_true', List.isEmpty_eq_false_iff,
      List.all_eq_true] at digits
    exact Verdict.Number.exists_zeros digits.1 digits.2
  · rintro ⟨zeros, rfl⟩
    constructor
    · refine Verdict.Number.areDigits_of_digits (by simp [Nat.toDigits_ne_nil]) ?_
      exact Verdict.Number.isDigit_append Verdict.Number.isDigit_replicate_zero
        (Verdict.Number.isDigit_toDigits i)
    · simp [Verdict.Number.digitsValue_append]

/-- A text is read as the position that it spells. -/
theorem readNat?_eq_some_iff : readNat? segment = some i ↔ SpellsPosition segment i := by
  have digits (ds : List Char) : (if areDigits ds then some (digitsValue ds) else none) = some i ↔
      ∃ zeros, ds = List.replicate zeros '0' ++ (toString i).toList := by
    rw [Option.ite_none_right_eq_some, Option.some_inj, areDigits_iff, Nat.toString_eq_repr,
      Nat.toList_repr]
  have unsigned (zeros : Nat) : ∀ c ∈ List.replicate zeros '0' ++ (toString i).toList, c ≠ '+' := by
    rw [Nat.toString_eq_repr, Nat.toList_repr]
    intro c member
    have digit := Verdict.Number.isDigit_append Verdict.Number.isDigit_replicate_zero
      (Verdict.Number.isDigit_toDigits i) c member
    rintro rfl
    exact absurd digit (by decide)
  unfold readNat? SpellsPosition
  split
  next rest signed =>
    rw [digits, signed]
    constructor
    · rintro ⟨zeros, rfl⟩
      exact ⟨zeros, .inr rfl⟩
    · rintro ⟨zeros, plain | same⟩
      · exact absurd rfl (unsigned zeros '+' (plain ▸ List.mem_cons_self))
      · exact ⟨zeros, (List.cons.inj same).2⟩
  next plain =>
    rw [digits]
    constructor
    · rintro ⟨zeros, same⟩
      exact ⟨zeros, .inl same⟩
    · rintro ⟨zeros, same | signed⟩
      · exact ⟨zeros, same⟩
      · exact absurd signed (plain _)

theorem spellsPosition_toString (i : Nat) : SpellsPosition (toString i) i :=
  ⟨0, .inl rfl⟩

theorem readNat?_eq_none_iff : readNat? segment = none ↔ ∀ i, ¬ SpellsPosition segment i := by
  rw [Option.eq_none_iff_forall_ne_some]
  exact forall_congr' fun i => not_congr readNat?_eq_some_iff

end

section

variable {segment name : String} {path : List String} {members : List (String × Json)} {j k : Json}

theorem lookup_eq_some_iff : lookup name members = some k ↔
    ∃ before after, members = before ++ (name, k) :: after ∧ ∀ m ∈ after, m.1 ≠ name := by
  rw [lookup_eq_lookup_reverse, List.lookup_eq_some_iff]
  constructor
  · rintro ⟨after, before, split, last⟩
    refine ⟨before.reverse, after.reverse, ?_, fun m later => ?_⟩
    · rw [← List.reverse_reverse members, split]
      simp
    · exact (bne_iff_ne.mp (last m (List.mem_reverse.mp later))).symm
  · rintro ⟨before, after, rfl, last⟩
    refine ⟨after.reverse, before.reverse, by simp, fun m later => bne_iff_ne.mpr ?_⟩
    exact (last m (List.mem_reverse.mp later)).symm

theorem lookup_eq_none_iff : lookup name members = none ↔ ∀ m ∈ members, m.1 ≠ name := by
  simp only [lookup_eq_lookup_reverse, List.lookup_eq_none_iff, List.mem_reverse, bne_iff_ne,
    ne_comm]

theorem child?_eq_some_iff : j.child? segment = some k ↔ Child j segment k := by
  constructor
  · intro found
    cases j with
    | null | bool | num | str => cases found
    | obj members =>
      obtain ⟨before, after, rfl, last⟩ := lookup_eq_some_iff.mp found
      exact .member last
    | arr items =>
      obtain ⟨i, read, place⟩ := Option.bind_eq_some_iff.mp found
      exact .item (readNat?_eq_some_iff.mp read) place
  · intro child
    cases child with
    | member last => exact lookup_eq_some_iff.mpr ⟨_, _, rfl, last⟩
    | item spelled place =>
      exact Option.bind_eq_some_iff.mpr ⟨_, readNat?_eq_some_iff.mpr spelled, place⟩

theorem child?_eq_none_iff : j.child? segment = none ↔ Lacks j segment := by
  constructor
  · intro none
    cases j with
    | null | bool | num | str => exact .scalar nofun nofun
    | obj members => exact .missing (lookup_eq_none_iff.mp none)
    | arr items =>
      cases read : Verdict.Number.readNat? segment with
      | none => exact .word (readNat?_eq_none_iff.mp read)
      | some i =>
        rw [child?, read, Option.bind_some, List.getElem?_eq_none_iff] at none
        exact .beyond (readNat?_eq_some_iff.mp read) none
  · intro lacks
    cases lacks with
    | missing absent => exact lookup_eq_none_iff.mpr absent
    | beyond spelled outside =>
      rw [child?, readNat?_eq_some_iff.mpr spelled, Option.bind_some,
        List.getElem?_eq_none_iff.mpr outside]
    | word other => rw [child?, readNat?_eq_none_iff.mpr other, Option.bind_none]
    | scalar notObject notArray =>
      cases j with
      | null | bool | num | str => rfl
      | obj members => exact absurd rfl (notObject members)
      | arr items => exact absurd rfl (notArray items)

/-! ## Walks -/

/-- A path reaches what the walk along it finds. -/
theorem walk?_eq_some_iff : j.walk? path = some k ↔ Reaches j path k := by
  induction path generalizing j with
  | nil =>
    rw [walk?, Option.some_inj]
    constructor
    · rintro rfl
      exact .here
    · rintro ⟨⟩
      rfl
  | cons segment rest ih =>
    rw [walk?, Option.bind_eq_some_iff]
    constructor
    · rintro ⟨child, found, walked⟩
      exact .step (child?_eq_some_iff.mp found) (ih.mp walked)
    · rintro (_ | ⟨child, reaches⟩)
      exact ⟨_, child?_eq_some_iff.mpr child, ih.mpr reaches⟩

/-- A path leaves a value exactly if the walk along it finds nothing. -/
theorem walk?_eq_none_iff : j.walk? path = none ↔ Leaves j path := by
  induction path generalizing j with
  | nil => exact ⟨nofun, nofun⟩
  | cons segment rest ih =>
    rw [walk?]
    constructor
    · intro none
      cases found : j.child? segment with
      | none => exact .here (child?_eq_none_iff.mp found)
      | some child =>
        rw [found] at none
        exact .later (child?_eq_some_iff.mp found) (ih.mp none)
    · rintro (lacks | ⟨child, leaves⟩)
      · rw [child?_eq_none_iff.mpr lacks, Option.bind_none]
      · rw [child?_eq_some_iff.mpr child, Option.bind_some, ih.mpr leaves]

end

end Json

/-! ## Fields -/

namespace Context

/-- Nothing is cut off a text that does not end in a blank. -/
theorem dropBlankEnd_of_getLast? {cs : List Char}
    (visible : ∀ c ∈ cs.getLast?, Text.isBlank c = false) : Text.dropBlankEnd cs = cs := by
  rw [← List.head?_reverse] at visible
  rw [Text.dropBlankEnd]
  cases backwards : cs.reverse with
  | nil => rw [List.reverse_eq_nil_iff.mp backwards]; rfl
  | cons c rest =>
    rw [backwards] at visible
    rw [List.dropWhile_cons_of_neg (by simp [visible c rfl]), ← backwards, List.reverse_reverse]

/-- A field behind `body.` asks the body for the path that it joins, if that does not end in a
    blank. -/
theorem resolve_body_intercalate (ctx : Context) {front : List String} {last : String}
    (free : ∀ segment ∈ front ++ [last], '.' ∉ segment.toList)
    (visible : ∀ c ∈ last.toList.getLast?, Text.isBlank c = false) :
    ctx.resolve ("body." ++ ".".intercalate (front ++ [last])) =
      (ctx.body.bind (Json.walk? (front ++ [last]))).map Value.ofJson := by
  have chars : (".".intercalate (front ++ [last])).toList =
      ['.'].intercalate (front.map String.toList ++ [last.toList]) := by
    rw [String.toList_intercalate, List.map_append]
    rfl
  have uncut : Text.dropBlankEnd (".".intercalate (front ++ [last])).toList =
      (".".intercalate (front ++ [last])).toList := by
    apply dropBlankEnd_of_getLast?
    rw [chars]
    have shape := Text.intercalate_concat '.' (front.map String.toList) last.toList
    rcases shape with alone | ⟨lead, behind⟩
    · rwa [alone]
    · rw [behind, List.getLast?_append, List.getLast?_cons]
      cases ending : last.toList.getLast? with
      | none => exact fun c dot => Option.mem_some.mp dot ▸ by decide
      | some c => rwa [ending] at visible
  have known : Part.ofName? "body" = some .body := rfl
  have asked := resolve_append ctx known (".".intercalate (front ++ [last]))
  have pieces : Text.split (".".intercalate (front ++ [last])) '.' = front ++ [last] :=
    Text.split_intercalate (by simp) free
  rw [uncut, String.ofList_toList, inPart?, pieces] at asked
  exact asked

/-- A field that joins the segments of a path behind `body.` has the value of what the path reaches
    in the body, and it has none exactly if the path leaves the body. -/
theorem resolve_body {ctx : Context} {body : Json} (given : ctx.body = some body)
    {front : List String} {last : String}
    (free : ∀ segment ∈ front ++ [last], '.' ∉ segment.toList)
    (visible : ∀ c ∈ last.toList.getLast?, Text.isBlank c = false) :
    (∀ v, ctx.resolve ("body." ++ ".".intercalate (front ++ [last])) = some v ↔
      ∃ node, body.Reaches (front ++ [last]) node ∧ .ofJson node = v) ∧
    (ctx.resolve ("body." ++ ".".intercalate (front ++ [last])) = none ↔
      body.Leaves (front ++ [last])) := by
  rw [resolve_body_intercalate ctx free visible, given, Option.bind_some]
  constructor
  · intro v
    simp only [Option.map_eq_some_iff, Json.walk?_eq_some_iff]
  · rw [Option.map_eq_none_iff, Json.walk?_eq_none_iff]

/-- A name below a position of an array, and a position behind the last item. -/
theorem resolve_body_users :
    let user : Json := .obj [(" name", .null), (" name", .num (.int 7))]
    let ctx : Context :=
      { timestamp := default, body := some (.obj [("users", .arr [.str "x", user])]) }
    ctx.resolve "body.users.1. name" = some (.ofJson (.num (.int 7))) ∧
      ctx.resolve "body.users.2" = none := by
  intro user ctx
  have users : Json.Child (.obj [("users", .arr [.str "x", user])]) "users" _ :=
    @Json.Child.member "users" [] [] _ nofun
  have position : Json.Child (.arr [.str "x", user]) "1" user :=
    .item (Json.spellsPosition_toString 1) rfl
  have name : user.Child " name" (.num (.int 7)) :=
    @Json.Child.member " name" [(" name", .null)] [] _ nofun
  have visible : ∀ c ∈ " name".toList.getLast?, Text.isBlank c = false := by
    rintro c ⟨⟩
    decide
  have visible' : ∀ c ∈ "2".toList.getLast?, Text.isBlank c = false := by
    rintro c ⟨⟩
    decide
  constructor
  · have reached := @resolve_body ctx _ rfl ["users", "1"] " name" (by decide) visible
    exact (reached.1 _).mpr ⟨_, .step users (.step position (.step name .here)), rfl⟩
  · have left := @resolve_body ctx _ rfl ["users"] "2" (by decide) visible'
    exact left.2.mpr (.later users (.here (.beyond (Json.spellsPosition_toString 2) (by decide))))

end Context

end Verdict
