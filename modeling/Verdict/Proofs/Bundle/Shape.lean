import Verdict.Proofs.Datum
import Verdict.Proofs.Json.Names
import Verdict.RuleFile

/-!
# What the parts of a bundle look like

A `Shape` says what is wanted of a datum: a text, a number, a list, a record with certain fields.
One datum lies `Below` another for a shape if whatever it gives where the shape is wanted the other
one gives too.  The readings of all parts of a bundle follow such shapes (`Shape.Follows`): what is
read from a datum is read from each one that it lies below.
-/

namespace Verdict

/-! ## Results -/

/-- Whether a result is another one wherever it is there at all. -/
def Within {α : Type} (o o' : Option α) : Prop :=
  ∀ a, o = some a → o' = some a

namespace Within

variable {α β : Type}

theorem refl (o : Option α) : Within o o :=
  fun _ => id

theorem of_eq {o o' : Option α} (same : o = o') : Within o o' :=
  same ▸ refl o

theorem antisymm {o o' : Option α} (forth : Within o o') (back : Within o' o) : o = o' :=
  Option.ext fun a => ⟨forth a, back a⟩

theorem bind {o o' : Option α} {f g : α → Option β} (first : Within o o')
    (rest : ∀ a, Within (f a) (g a)) : Within (o >>= f) (o' >>= g) := by
  intro b there
  obtain ⟨a, here, later⟩ := Option.bind_eq_some_iff.mp there
  exact Option.bind_eq_some_iff.mpr ⟨a, first a here, rest a b later⟩

theorem map {o o' : Option α} (within : Within o o') (f : α → β) :
    Within (o.map f) (o'.map f) := by
  intro b there
  obtain ⟨a, here, rfl⟩ := Option.map_eq_some_iff.mp there
  rw [within a here]
  rfl

end Within

/-! ## Members -/

/-- Whether members of distinct names stand for the last members of the same names. -/
structure Covers (R : String → Datum → Datum → Prop) (ms ms' : List (String × Datum)) : Prop where
  distinct : (ms'.map Prod.fst).Nodup
  each : ∀ m' ∈ ms', ∃ d, ms.reverse.lookup m'.1 = some d ∧ R m'.1 d m'.2
  all : ∀ m ∈ ms, m.1 ∈ ms'.map Prod.fst

/-- Members that are related one by one stand for one another. -/
theorem covers_of_forall₂ {R : String → Datum → Datum → Prop} {ms ms' : List (String × Datum)}
    (related : List.Forall₂ (fun m m' => m.1 = m'.1 ∧ R m'.1 m.2 m'.2) ms ms')
    (distinct : (ms'.map Prod.fst).Nodup) : Covers R ms ms' := by
  have names : ms.map Prod.fst = ms'.map Prod.fst := by
    clear distinct
    induction related with
    | nil => rfl
    | cons head _ ih => rw [List.map_cons, List.map_cons, head.1, ih]
  have partner : ∀ m' ∈ ms', ∃ m ∈ ms, m.1 = m'.1 ∧ R m'.1 m.2 m'.2 := by
    clear distinct names
    induction related with
    | nil => simp
    | cons head _ ih =>
      refine List.forall_mem_cons.mpr ⟨⟨_, List.mem_cons_self, head⟩, fun m' member => ?_⟩
      obtain ⟨m, there, same⟩ := ih m' member
      exact ⟨m, List.mem_cons_of_mem _ there, same⟩
  refine ⟨distinct, fun m' member => ?_, fun m member => names ▸ List.mem_map_of_mem member⟩
  obtain ⟨m, there, same, relation⟩ := partner m' member
  refine ⟨m.2, ?_, relation⟩
  rw [← same]
  exact lookup_reverse_of_mem (names ▸ distinct) there

/-! ## Shapes -/

/-- What is wanted of a datum. -/
inductive Shape where
  | text
  /-- The name of one of finitely many values. -/
  | name
  | bool
  | float
  /-- A natural number up to a bound. -/
  | nat (bound : Nat) (small : bound < Nat.pow 2 64)
  /-- An integer between two bounds. -/
  | int (low high : Int) (small : -(Nat.pow 2 63 : Int) ≤ low ∧ high < Nat.pow 2 64)
  /-- Whatever has a plain value. -/
  | value
  | optional (s : Shape)
  | list (s : Shape)
  | map (s : Shape)
  /-- A record with some fields, each of its own shape. -/
  | record (names : List FieldName) (part : String → Shape)

namespace Shape

/-- Whether a datum gives, where a shape is wanted, nothing but what another one gives. -/
def Below : Shape → Datum → Datum → Prop
  | .text, d, d' => Within d.text? d'.text?
  | .name, d, d' => Within d.variant? d'.variant?
  | .bool, d, d' => Within d.bool? d'.bool?
  | .float, d, d' => Within d.float? d'.float?
  | .nat bound _, d, d' => Within (d.nat? bound) (d'.nat? bound)
  | .int low high _, d, d' => Within (d.int? low high) (d'.int? low high)
  | .value, d, d' => Within d.value? d'.value?
  | .optional s, d, d' => d.isAbsent? = d'.isAbsent? ∧ (d.isAbsent? = some false → s.Below d d')
  | .list s, d, d' =>
      ∀ ds, d.items? = some ds → ∃ ds', d'.items? = some ds' ∧ List.Forall₂ s.Below ds ds'
  | .map s, d, d' =>
      ∀ ms, d.members? = some ms → ∃ ms', d'.members? = some ms' ∧ Covers (fun _ => s.Below) ms ms'
  | .record names part, d, d' =>
      ∀ fs, d.fields? names = some fs → ∃ fs', d'.fields? names = some fs' ∧
        ∀ name, Option.Rel (part name).Below (fs.lookup name) (fs'.lookup name)

/-- Whether a reading reads from a datum what it reads from each that lies below it for a shape. -/
def Follows {α : Type} (s : Shape) (read : Datum → Option α) : Prop :=
  ∀ ⦃d d' : Datum⦄, s.Below d d' → Within (read d) (read d')

/-! ## Readings of values -/

section

variable {α : Type} {read : Datum → Option α} {s : Shape}

theorem follows_text : text.Follows Datum.text? :=
  fun _ _ => id

theorem follows_instant : text.Follows Datum.instant? :=
  fun _ _ below => below.bind fun _ => .refl _

theorem follows_named [Named α] : name.Follows (Named.ofDatum? (α := α)) :=
  fun _ _ below => below.bind fun _ => .refl _

theorem follows_bool : bool.Follows Datum.bool? :=
  fun _ _ => id

theorem follows_float : float.Follows Datum.float? :=
  fun _ _ => id

theorem follows_value : value.Follows Datum.value? :=
  fun _ _ => id

theorem follows_nat {bound : Nat} {small : bound < Nat.pow 2 64} :
    (nat bound small).Follows (Datum.nat? bound) :=
  fun _ _ => id

/-- The shape of a version. -/
def version : Shape :=
  .nat (UInt64.size - 1) (by decide)

/-- The shape of a priority. -/
def priority : Shape :=
  .int (-2147483648) 2147483647 (by decide)

theorem follows_version : version.Follows Datum.version? :=
  fun _ _ below => below.map _

theorem follows_priority : priority.Follows Datum.priority? :=
  fun _ _ => id

theorem Follows.optional (follows : s.Follows read) :
    (optional s).Follows (Datum.optional? read) := by
  intro d d' ⟨same, below⟩
  rw [Datum.optional?, Datum.optional?, ← same]
  cases absent : d.isAbsent? with
  | none => exact .refl _
  | some b =>
    cases b with
    | true => exact .refl _
    | false => exact (follows (below absent)).map some

theorem mapM_eq_some_iff {β γ : Type} {f : β → Option γ} {l : List β} {l' : List γ} :
    l.mapM f = some l' ↔ List.Forall₂ (fun b c => f b = some c) l l' := by
  induction l generalizing l' with
  | nil =>
    rw [List.forall₂_nil_left_iff, List.mapM_nil]
    exact ⟨fun same => (Option.some.inj same).symm, fun same => congrArg some same.symm⟩
  | cons b rest ih =>
    rw [List.mapM_cons, List.forall₂_cons_left_iff]
    constructor
    · intro there
      obtain ⟨c, here, later⟩ := Option.bind_eq_some_iff.mp there
      obtain ⟨cs, all, last⟩ := Option.bind_eq_some_iff.mp later
      exact ⟨c, cs, here, ih.mp all, (Option.some.inj last).symm⟩
    · rintro ⟨c, cs, here, all, rfl⟩
      rw [here, ih.mpr all]
      rfl

/-- What is read from each item is read from each of the items that these lie below. -/
theorem mapM_within {β γ : Type} {f : β → Option α} {g : γ → Option α} {l : List β} {l' : List γ}
    (related : List.Forall₂ (fun b c => Within (f b) (g c)) l l') :
    Within (l.mapM f) (l'.mapM g) := by
  induction related with
  | nil => exact .refl _
  | cons head _ ih =>
    rw [List.mapM_cons, List.mapM_cons]
    exact head.bind fun _ => ih.bind fun _ => .refl _

theorem Follows.list (follows : s.Follows read) : (list s).Follows (Datum.list? read) := by
  intro d d' below as there
  obtain ⟨ds, items, all⟩ := Option.bind_eq_some_iff.mp there
  obtain ⟨ds', items', related⟩ := below ds items
  refine Option.bind_eq_some_iff.mpr ⟨ds', items', ?_⟩
  exact mapM_within (related.imp fun _ _ below => follows below) as all

theorem follows_texts : (list text).Follows Datum.texts? :=
  follows_text.list

end

/-! ## Readings of maps -/

section

variable {α : Type} {read : Datum → Option α} {s : Shape}

/-- One member read under its name. -/
def readMember (read : Datum → Option α) (m : String × Datum) : Option (String × α) :=
  (read m.2).map fun a => (m.1, a)

/-- What is read from members has under each name what is read from the last of them. -/
theorem lookup_reverse_of_read {ms : List (String × Datum)} {es : List (String × α)}
    (all : ms.mapM (readMember read) = some es) (name : String) :
    es.reverse.lookup name = (ms.reverse.lookup name).bind read := by
  have related := List.forall₂_reverse_iff.mpr (mapM_eq_some_iff.mp all)
  clear all
  generalize ms.reverse = ms, es.reverse = es at related
  induction related with
  | nil => rfl
  | @cons m e _ _ head _ ih =>
    obtain ⟨a, here, rfl⟩ := Option.map_eq_some_iff.mp head
    rw [List.lookup_cons, List.lookup_cons]
    cases name == m.1 with
    | true => exact here.symm
    | false => exact ih

/-- Each member is read where all are. -/
theorem read_of_mem {ms : List (String × Datum)} {es : List (String × α)}
    (all : ms.mapM (readMember read) = some es) {m : String × Datum} (member : m ∈ ms) :
    ∃ a, read m.2 = some a := by
  have related := mapM_eq_some_iff.mp all
  induction related with
  | nil => cases member
  | cons head _ ih =>
    rcases List.mem_cons.mp member with rfl | later
    · obtain ⟨a, here, -⟩ := Option.map_eq_some_iff.mp head
      exact ⟨a, here⟩
    · exact ih (mapM_eq_some_iff.mpr ‹_›) later

theorem Follows.map (follows : s.Follows read) : (map s).Follows (Datum.map? read) := by
  intro d d' below m there
  obtain ⟨ms, members, read_all⟩ := Option.bind_eq_some_iff.mp there
  obtain ⟨es, all, made⟩ := Option.bind_eq_some_iff.mp read_all
  obtain ⟨ms', members', covers⟩ := below ms members
  have each : ∀ m' ∈ ms', ∃ d a, ms.reverse.lookup m'.1 = some d ∧ read d = some a ∧
      read m'.2 = some a := by
    intro m' member
    obtain ⟨d, last, lower⟩ := covers.each m' member
    obtain ⟨a, here⟩ := read_of_mem all (mem_of_lookup_reverse last)
    exact ⟨d, a, last, here, follows lower a here⟩
  obtain ⟨es', all', -⟩ := mapM_of_each (f := readMember read) (R := fun _ _ => True) (l := ms')
    fun m' member => by
      obtain ⟨_, a, -, -, here⟩ := each m' member
      exact ⟨(m'.1, a), by rw [readMember, here]; rfl, trivial⟩
  have same : KeyMap.ofList es' = KeyMap.ofList es := by
    refine KeyMap.eq_of_get? fun name => ?_
    rw [KeyMap.get?_ofList, KeyMap.get?_ofList, lookup_reverse_of_read all,
      lookup_reverse_of_read all']
    cases found : ms'.reverse.lookup name with
    | some d' =>
      obtain ⟨d, a, last, here, here'⟩ := each _ (mem_of_lookup_reverse found)
      rw [last, Option.bind_some, Option.bind_some, here, here']
    | none =>
      cases last : ms.reverse.lookup name with
      | none => rfl
      | some d =>
        obtain ⟨m', member, same⟩ := List.mem_map.mp (covers.all _ (mem_of_lookup_reverse last))
        obtain ⟨d', found'⟩ := lookup_reverse_isSome member
        rw [same, found] at found'
        cases found'
  rw [← made, ← same]
  exact Option.bind_eq_some_iff.mpr ⟨ms', members', Option.bind_eq_some_iff.mpr ⟨es', all', rfl⟩⟩

end

/-! ## Readings of records -/

section

variable {names : List FieldName} {ms ms' : List (String × Datum)} {fs fs' : Fields}

/-- The known members, under the names of their fields. -/
def knownOf (names : List FieldName) (ms : List (String × Datum)) : Fields :=
  ms.filterMap fun m => (Datum.fieldOf? names m.1).map fun name => (name, m.2)

theorem mem_knownOf {name : String} {d : Datum} :
    (name, d) ∈ knownOf names ms ↔ ∃ key, (key, d) ∈ ms ∧ Datum.fieldOf? names key = some name := by
  rw [knownOf, List.mem_filterMap]
  constructor
  · rintro ⟨m, member, known⟩
    obtain ⟨name', found, same⟩ := Option.map_eq_some_iff.mp known
    cases same
    exact ⟨m.1, member, found⟩
  · rintro ⟨key, member, found⟩
    exact ⟨(key, d), member, by rw [found]; rfl⟩

/-- Known members are collected if no two of them, and none of them and one that was found before,
    are of one field. -/
theorem collect_eq_some_iff {found : Fields} :
    Datum.collect names ms found = some fs ↔
      fs = (knownOf names ms).reverse ++ found ∧ ((knownOf names ms).map Prod.fst).Nodup ∧
        ∀ m ∈ knownOf names ms, found.lookup m.1 = none := by
  induction ms generalizing found with
  | nil =>
    constructor
    · intro same
      exact ⟨(Option.some.inj same).symm, .nil, fun m member => absurd member List.not_mem_nil⟩
    · intro only
      exact congrArg some only.1.symm
  | cons m rest ih =>
    obtain ⟨key, d⟩ := m
    rw [Datum.collect]
    cases known : Datum.fieldOf? names key with
    | none =>
      have skipped : knownOf names ((key, d) :: rest) = knownOf names rest := by
        simp [knownOf, known]
      rw [skipped]
      exact ih
    | some name =>
      have kept : knownOf names ((key, d) :: rest) = (name, d) :: knownOf names rest := by
        simp [knownOf, known]
      have fresh : (∀ m ∈ knownOf names rest, List.lookup m.1 ((name, d) :: found) = none) ↔
          name ∉ (knownOf names rest).map Prod.fst ∧
            ∀ m ∈ knownOf names rest, found.lookup m.1 = none := by
        have one (m : String × Datum) : List.lookup m.1 ((name, d) :: found) = none ↔
            m.1 ≠ name ∧ found.lookup m.1 = none := by
          simp [List.lookup_eq_none_iff]
        simp only [one, List.mem_map, not_exists, not_and]
        constructor
        · intro all
          exact ⟨fun m member => (all m member).1, fun m member => (all m member).2⟩
        · intro both m member
          exact ⟨both.1 m member, both.2 m member⟩
      rw [kept, List.map_cons, List.nodup_cons, List.forall_mem_cons, List.reverse_cons,
        List.append_assoc, List.singleton_append]
      dsimp only
      cases there : found.lookup name with
      | some _ => simp
      | none =>
        rw [Option.isSome_none, if_neg Bool.false_ne_true, ih, fresh]
        tauto

/-- Each field that is collected is a known member. -/
theorem lookup_of_collect (collected : Datum.collect names ms [] = some fs) {name : String}
    {d : Datum} : fs.lookup name = some d ↔
      ∃ key, (key, d) ∈ ms ∧ Datum.fieldOf? names key = some name := by
  obtain ⟨rfl, distinct, -⟩ := collect_eq_some_iff.mp collected
  rw [List.append_nil, ← mem_knownOf]
  exact ⟨mem_of_lookup_reverse, lookup_reverse_of_mem distinct⟩

theorem nodup_knownOf : ((knownOf names ms).map Prod.fst).Nodup ↔
    ms.Pairwise fun m m' => ∀ name, Datum.fieldOf? names m.1 = some name →
      Datum.fieldOf? names m'.1 ≠ some name := by
  rw [List.Nodup, List.pairwise_map, knownOf, List.pairwise_filterMap]
  refine List.Pairwise.iff fun m m' => ⟨fun apart name known known' => ?_, ?_⟩
  · exact apart (name, m.2) (by rw [known]; rfl) (name, m'.2) (by rw [known']; rfl) rfl
  · rintro apart f here f' here' same
    obtain ⟨name, known, rfl⟩ := Option.map_eq_some_iff.mp here
    obtain ⟨name', known', rfl⟩ := Option.map_eq_some_iff.mp here'
    cases same
    exact apart name known known'

/-- Members that are collected for one field have the same name. -/
theorem name_of_collect (collected : Datum.collect names ms [] = some fs) {m m' : String × Datum}
    (member : m ∈ ms) (member' : m' ∈ ms) {name : String}
    (known : Datum.fieldOf? names m.1 = some name)
    (known' : Datum.fieldOf? names m'.1 = some name) : m.1 = m'.1 := by
  have distinct := nodup_knownOf.mp (collect_eq_some_iff.mp collected).2.1
  let Same (m m' : String × Datum) : Prop := ∀ name, Datum.fieldOf? names m.1 = some name →
    Datum.fieldOf? names m'.1 = some name → m.1 = m'.1
  have symmetric : Std.Symm Same :=
    ⟨fun _ _ same name known known' => (same name known' known).symm⟩
  have all : ms.Pairwise Same :=
    distinct.imp fun apart name known known' => absurd known' (apart name known)
  exact all.forall_of_forall (fun _ _ _ _ _ => rfl) member member' name known known'

/-- Members that stand for others are collected where these are. -/
theorem collect_of_covers {R : String → Datum → Datum → Prop}
    (covers : Covers (fun key d d' => ∀ name, Datum.fieldOf? names key = some name → R name d d')
      ms ms') (collected : Datum.collect names ms [] = some fs) :
    ∃ fs', Datum.collect names ms' [] = some fs' ∧
      ∀ name, Option.Rel (R name) (fs.lookup name) (fs'.lookup name) := by
  have partner : ∀ {key : String} {d' : Datum} {name : String}, (key, d') ∈ ms' →
      Datum.fieldOf? names key = some name → ∃ d, (key, d) ∈ ms ∧ fs.lookup name = some d ∧
        R name d d' := by
    intro key d' name member known
    obtain ⟨d, last, relation⟩ := covers.each _ member
    have there := mem_of_lookup_reverse last
    exact ⟨d, there, (lookup_of_collect collected).mpr ⟨key, there, known⟩, relation name known⟩
  have distinct : ((knownOf names ms').map Prod.fst).Nodup := by
    refine nodup_knownOf.mpr ((List.pairwise_map.mp covers.distinct).imp_of_mem ?_)
    intro m m' member member' other name known known'
    obtain ⟨_, there, -⟩ := partner member known
    obtain ⟨_, there', -⟩ := partner member' known'
    exact other (name_of_collect collected there there' known known' :)
  have collected' : Datum.collect names ms' [] = some (knownOf names ms').reverse :=
    collect_eq_some_iff.mpr ⟨(List.append_nil _).symm, distinct, fun _ _ => rfl⟩
  refine ⟨_, collected', fun name => ?_⟩
  cases found' : (knownOf names ms').reverse.lookup name with
  | some d' =>
    obtain ⟨key, member, known⟩ := (lookup_of_collect collected').mp found'
    obtain ⟨d, -, found, relation⟩ := partner member known
    rw [found]
    exact .some relation
  | none =>
    cases found : fs.lookup name with
    | none => exact .none
    | some d =>
      obtain ⟨key, member, known⟩ := (lookup_of_collect collected).mp found
      obtain ⟨⟨_, d'⟩, member', rfl⟩ := List.mem_map.mp (covers.all _ member)
      have found'' := (lookup_of_collect collected').mpr ⟨_, member', known⟩
      rw [found'] at found''
      cases found''

end

/-- Whether the fields of one record lie below those of another. -/
def FieldsBelow (part : String → Shape) (fs fs' : Fields) : Prop :=
  ∀ name, Option.Rel (part name).Below (fs.lookup name) (fs'.lookup name)

section

variable {α β : Type} {part : String → Shape} {fs fs' : Fields} {read : Datum → Option α}

theorem FieldsBelow.required (below : FieldsBelow part fs fs') (name : String)
    (follows : (part name).Follows read) :
    Within (fs.required name read) (fs'.required name read) := by
  have related := below name
  rw [Fields.required, Fields.required]
  generalize fs.lookup name = o, fs'.lookup name = o' at related
  cases related with
  | some lower => exact follows lower
  | none => exact .refl _

theorem FieldsBelow.orElse (below : FieldsBelow part fs fs') (name : String) {default : α}
    (follows : (part name).Follows read) :
    Within (fs.orElse name default read) (fs'.orElse name default read) := by
  have related := below name
  rw [Fields.orElse, Fields.orElse]
  generalize fs.lookup name = o, fs'.lookup name = o' at related
  cases related with
  | some lower => exact follows lower
  | none => exact .refl _

theorem FieldsBelow.optional (below : FieldsBelow part fs fs') (name : String)
    (follows : (part name).Follows (Datum.optional? read)) :
    Within (fs.optional name read) (fs'.optional name read) :=
  below.orElse name follows

/-- A record is read field by field. -/
theorem Within.record {names : List FieldName} {d d' : Datum} {f : Fields → Option β}
    (below : (record names part).Below d d')
    (rest : ∀ {fs fs'}, FieldsBelow part fs fs' → Within (f fs) (f fs')) :
    Within (d.fields? names >>= f) (d'.fields? names >>= f) := by
  intro b there
  obtain ⟨fs, fields, later⟩ := Option.bind_eq_some_iff.mp there
  obtain ⟨fs', fields', related⟩ := below fs fields
  exact Option.bind_eq_some_iff.mpr ⟨fs', fields', rest related b later⟩

end

end Shape

open Shape (Within.record)

/-! ## Conditions and actions -/

/-- The shape of a condition. -/
def Condition.shape : Shape :=
  .record fieldNames fun
    | "operator" | "value_type" | "logic_op" => .name
    | "value" => .value
    | "case_sensitive" | "negate" => .bool
    | "weight" => .float
    | _ => .text

theorem Condition.follows_shape : shape.Follows ofDatum? := by
  intro d d' below
  refine Within.record below fun below => ?_
  refine .bind (below.required "field" Shape.follows_text) fun _ => ?_
  refine .bind (below.required "operator" Shape.follows_named) fun _ => ?_
  refine .bind (below.orElse "value" Shape.follows_value) fun _ => ?_
  refine .bind (below.orElse "value_type" Shape.follows_named) fun _ => ?_
  refine .bind (below.orElse "case_sensitive" Shape.follows_bool) fun _ => ?_
  refine .bind (below.orElse "negate" Shape.follows_bool) fun _ => ?_
  refine .bind (below.orElse "weight" Shape.follows_float) fun _ => ?_
  exact .bind (below.orElse "logic_op" Shape.follows_named) fun _ => .refl _

/-- The shape of an action. -/
def Action.shape : Shape :=
  .record fieldNames fun
    | "parameters" => .map .value
    | "enabled" => .bool
    | _ => .name

theorem Action.follows_shape : shape.Follows ofDatum? := by
  intro d d' below
  refine Within.record below fun below => ?_
  refine .bind (below.required "type" Shape.follows_named) fun _ => ?_
  refine .bind (below.orElse "parameters" Shape.follows_value.map) fun _ => ?_
  exact .bind (below.orElse "enabled" Shape.follows_bool) fun _ => .refl _

/-! ## Rules -/

/-- The shape of a window. -/
def TimeWindow.shape : Shape :=
  let number : Shape := .nat maxNumber (by decide)
  .record [⟨"start_hour", []⟩, ⟨"end_hour", []⟩, ⟨"days", []⟩] fun
    | "days" => .list number
    | _ => number

theorem TimeWindow.follows_shape : shape.Follows ofDatum? := by
  intro d d' below
  refine Within.record below fun below => ?_
  refine .bind (below.required "start_hour" Shape.follows_nat) fun _ => ?_
  refine .bind (below.required "end_hour" Shape.follows_nat) fun _ => ?_
  exact .bind (below.orElse "days" Shape.follows_nat.list) fun _ => .refl _

/-- The shape of a scope. -/
def Scope.shape : Shape :=
  .record [⟨"apis", []⟩, ⟨"endpoints", []⟩, ⟨"users", []⟩, ⟨"roles", []⟩, ⟨"ip_ranges", []⟩,
      ⟨"time_windows", []⟩] fun
    | "time_windows" => .list TimeWindow.shape
    | _ => .list .text

theorem Scope.follows_shape : shape.Follows ofDatum? := by
  intro d d' below
  refine Within.record below fun below => ?_
  refine .bind (below.orElse "apis" Shape.follows_texts) fun _ => ?_
  refine .bind (below.orElse "endpoints" Shape.follows_texts) fun _ => ?_
  refine .bind (below.orElse "users" Shape.follows_texts) fun _ => ?_
  refine .bind (below.orElse "roles" Shape.follows_texts) fun _ => ?_
  refine .bind (below.orElse "ip_ranges" Shape.follows_texts) fun _ => ?_
  exact .bind (below.orElse "time_windows" TimeWindow.follows_shape.list) fun _ => .refl _

/-- The shape of a rule. -/
def Rule.shape : Shape :=
  .record fieldNames fun
    | "description" => .optional .text
    | "priority" => .priority
    | "enabled" | "fail_fast" => .bool
    | "status" => .name
    | "conditions" => .list Condition.shape
    | "actions" => .list Action.shape
    | "scope" => Scope.shape
    | "version" => .version
    | _ => .text

theorem Rule.follows_shape (now : Instant) : shape.Follows (ofDatum? now) := by
  intro d d' below
  refine Within.record below fun below => ?_
  refine .bind (below.required "id" Shape.follows_text) fun _ => ?_
  refine .bind (below.required "name" Shape.follows_text) fun _ => ?_
  refine .bind (below.optional "description" Shape.follows_text.optional) fun _ => ?_
  refine .bind (below.orElse "priority" Shape.follows_priority) fun _ => ?_
  refine .bind (below.orElse "enabled" Shape.follows_bool) fun _ => ?_
  refine .bind (below.orElse "status" Shape.follows_named) fun _ => ?_
  refine .bind (below.orElse "conditions" Condition.follows_shape.list) fun _ => ?_
  refine .bind (below.orElse "actions" Action.follows_shape.list) fun _ => ?_
  refine .bind (below.orElse "fail_fast" Shape.follows_bool) fun _ => ?_
  refine .bind (below.orElse "scope" Scope.follows_shape) fun _ => ?_
  refine .bind (below.orElse "version" Shape.follows_version) fun _ => ?_
  refine .bind (below.orElse "created_at" Shape.follows_instant) fun _ => ?_
  exact .bind (below.orElse "updated_at" Shape.follows_instant) fun _ => .refl _

/-! ## Scoring rules and profiles -/

/-- The shape of an adjustment. -/
def Adjustment.shape : Shape :=
  .record [⟨"type", []⟩, ⟨"value", []⟩, ⟨"reason", []⟩] fun
    | "type" => .name
    | "value" => .float
    | _ => .text

theorem Adjustment.follows_shape : shape.Follows ofDatum? := by
  intro d d' below
  refine Within.record below fun below => ?_
  refine .bind (below.required "type" Shape.follows_named) fun _ => ?_
  refine .bind (below.required "value" Shape.follows_float) fun _ => ?_
  exact .bind (below.orElse "reason" Shape.follows_text) fun _ => .refl _

/-- The shape of a scoring rule. -/
def ScoringRule.shape : Shape :=
  .record fieldNames fun
    | "priority" => .priority
    | "enabled" => .bool
    | "conditions" => .list Condition.shape
    | "adjustment" => Adjustment.shape
    | "version" => .version
    | _ => .text

theorem ScoringRule.follows_shape (now : Instant) : shape.Follows (ofDatum? now) := by
  intro d d' below
  refine Within.record below fun below => ?_
  refine .bind (below.required "id" Shape.follows_text) fun _ => ?_
  refine .bind (below.required "name" Shape.follows_text) fun _ => ?_
  refine .bind (below.orElse "priority" Shape.follows_priority) fun _ => ?_
  refine .bind (below.orElse "enabled" Shape.follows_bool) fun _ => ?_
  refine .bind (below.orElse "conditions" Condition.follows_shape.list) fun _ => ?_
  refine .bind (below.required "adjustment" Adjustment.follows_shape) fun _ => ?_
  refine .bind (below.orElse "version" Shape.follows_version) fun _ => ?_
  exact .bind (below.orElse "updated_at" Shape.follows_instant) fun _ => .refl _

/-- The shape of thresholds. -/
def Thresholds.shape : Shape :=
  .record [⟨"low", []⟩, ⟨"medium", []⟩, ⟨"high", []⟩, ⟨"critical", []⟩] fun _ => .float

theorem Thresholds.follows_shape : shape.Follows ofDatum? := by
  intro d d' below
  refine Within.record below fun below => ?_
  refine .bind (below.required "low" Shape.follows_float) fun _ => ?_
  refine .bind (below.required "medium" Shape.follows_float) fun _ => ?_
  refine .bind (below.required "high" Shape.follows_float) fun _ => ?_
  exact .bind (below.required "critical" Shape.follows_float) fun _ => .refl _

/-- The shape of a profile. -/
def Profile.shape : Shape :=
  .record fieldNames fun
    | "description" => .optional .text
    | "category" => .name
    | "base_score" => .float
    | "multipliers" => .map .float
    | "thresholds" => Thresholds.shape
    | "is_default" => .bool
    | "version" => .version
    | _ => .text

theorem Profile.follows_shape (now : Instant) : shape.Follows (ofDatum? now) := by
  intro d d' below
  refine Within.record below fun below => ?_
  refine .bind (below.required "id" Shape.follows_text) fun _ => ?_
  refine .bind (below.required "name" Shape.follows_text) fun _ => ?_
  refine .bind (below.optional "description" Shape.follows_text.optional) fun _ => ?_
  refine .bind (below.required "category" Shape.follows_named) fun _ => ?_
  refine .bind (below.required "base_score" Shape.follows_float) fun _ => ?_
  refine .bind (below.orElse "multipliers" Shape.follows_float.map) fun _ => ?_
  refine .bind (below.orElse "thresholds" Thresholds.follows_shape) fun _ => ?_
  refine .bind (below.orElse "is_default" Shape.follows_bool) fun _ => ?_
  refine .bind (below.orElse "version" Shape.follows_version) fun _ => ?_
  exact .bind (below.orElse "updated_at" Shape.follows_instant) fun _ => .refl _

/-! ## Bundles -/

/-- The shape of a bundle. -/
def Bundle.shape : Shape :=
  .record fieldNames fun
    | "rules" => .list Rule.shape
    | "scoring_rules" => .list ScoringRule.shape
    | "profiles" => .list Profile.shape
    | _ => .text

theorem Bundle.follows_shape (now : Instant) : shape.Follows (ofDatum? now) := by
  intro d d' below
  refine Within.record below fun below => ?_
  refine .bind (below.required "format_version" Shape.follows_text) fun _ => ?_
  refine .bind (below.required "exported_at" Shape.follows_instant) fun _ => ?_
  refine .bind (below.required "checksum" Shape.follows_text) fun _ => ?_
  refine .bind (.bind (below.orElse "rules" (Rule.follows_shape now).list) fun _ => ?_)
    fun _ => .refl _
  refine .bind (below.orElse "scoring_rules" (ScoringRule.follows_shape now).list) fun _ => ?_
  exact .bind (below.orElse "profiles" (Profile.follows_shape now).list) fun _ => .refl _

end Verdict
