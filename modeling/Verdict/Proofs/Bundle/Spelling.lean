import Verdict.Proofs.Bundle.Nested
import Verdict.Proofs.Yaml.Plain

/-!
# How YAML is spelled

A YAML node is read by the text of its scalars, its plain value by what these mean.  Both give the
same where each node is spelled as the shape that is wanted of it asks for (`Shape.suits`).
-/

namespace Verdict

namespace Yaml

/-! ## Nodes and their plain values -/

/-- What the plain value of a node is made of. -/
inductive Node.Means : Node → Json → Prop where
  | void : Means .void .null
  | scalar {style : Style} {tag : Option String} {text : String} {j : Json}
      (means : scalarJson? style tag text = some j) : Means (.scalar style tag text) j
  | list {tag : Option String} {ns : List Node} {js : List Json}
      (items : List.Forall₂ (fun n j => n.json? = some j) ns js) : Means (.list tag ns) (.arr js)
  | map {tag : Option String} {es : List (Option String × Node)} {ms : List (String × Json)}
      (entries : List.Forall₂ (fun e m => e.1 = some m.1 ∧ e.2.json? = some m.2) es ms) :
      Means (.map tag es) (.obj ms)

theorem Node.itemsJson?_eq_some {ns : List Node} {js : List Json}
    (items : itemsJson? ns = some js) : List.Forall₂ (fun n j => n.json? = some j) ns js := by
  induction ns generalizing js with
  | nil =>
    cases items
    exact .nil
  | cons n rest ih =>
    rw [itemsJson?] at items
    split at items
    · rename_i here later
      cases items
      exact .cons here (ih later)
    · cases items

theorem Node.entriesJson?_eq_some {es : List (Option String × Node)} {ms : List (String × Json)}
    (entries : entriesJson? es = some ms) :
    List.Forall₂ (fun e m => e.1 = some m.1 ∧ e.2.json? = some m.2) es ms := by
  induction es generalizing ms with
  | nil =>
    cases entries
    exact .nil
  | cons e rest ih =>
    rw [entriesJson?.eq_def] at entries
    dsimp only at entries
    split at entries
    · rename_i key here later
      cases entries
      exact .cons ⟨key, here⟩ (ih later)
    · cases entries

theorem Node.means_of_json? {n : Node} {j : Json} (value : n.json? = some j) : n.Means j := by
  cases n with
  | void =>
    cases value
    exact .void
  | endless => cases value
  | scalar style tag text => exact .scalar value
  | list tag ns =>
    rw [json?] at value
    split at value
    · cases value
    · obtain ⟨js, items, rfl⟩ := Option.map_eq_some_iff.mp value
      exact .list (itemsJson?_eq_some items)
  | map tag es =>
    rw [json?] at value
    split at value
    · cases value
    · obtain ⟨ms, entries, rfl⟩ := Option.map_eq_some_iff.mp value
      exact .map (entriesJson?_eq_some entries)

/-- Whether a value is neither a list nor an object. -/
def isLeaf : Json → Bool
  | .arr _ | .obj _ => false
  | .null | .bool _ | .num _ | .str _ => true

/-- Whether a value is a scalar, and if it is a text the given one. -/
structure IsScalar (text : String) (j : Json) : Prop where
  leaf : isLeaf j = true
  sound : j.isSound = true
  text : ∀ s, j = .str s → s = text

theorem isScalar_ofFloat (text : String) (x : Float) : IsScalar text (.ofFloat x) := by
  rw [Json.ofFloat]
  split
  next finite => exact ⟨rfl, Json.isSound_iff.mpr (Json.allNumbers_num.mpr finite), nofun⟩
  next => exact ⟨rfl, rfl, nofun⟩

theorem isScalar_str (text : String) : IsScalar text (.str text) :=
  ⟨rfl, rfl, fun _ same => (Json.str.inj same).symm⟩

/-- A scalar means a scalar, and no text but its own. -/
theorem isScalar_of_scalarJson? {style : Style} {tag : Option String} {text : String} {j : Json}
    (means : scalarJson? style tag text = some j) : IsScalar text j := by
  rw [scalarJson?.eq_def] at means
  split at means
  · split at means
    · cases meaning_of_plainJson? means with
      | null | bool | int => exact ⟨rfl, rfl, nofun⟩
      | float => exact isScalar_ofFloat _ _
      | text => exact isScalar_str _
    · cases means
      exact isScalar_str _
  · -- A tag fixes the kind.
    split at means
    · cases means
    · split at means
      · obtain ⟨b, -, rfl⟩ := Option.map_eq_some_iff.mp means
        exact ⟨rfl, rfl, nofun⟩
      · split at means
        · obtain ⟨n, -, rfl⟩ := Option.map_eq_some_iff.mp means
          exact ⟨rfl, rfl, nofun⟩
        · split at means
          · obtain ⟨x, -, rfl⟩ := Option.map_eq_some_iff.mp means
            exact isScalar_ofFloat _ _
          · split at means
            · split at means
              · cases means
                exact ⟨rfl, rfl, nofun⟩
              · cases means
            · cases means
              exact isScalar_str _

mutual

/-- All parts of what a node stands for have a value. -/
theorem Node.isSound_of_json? : ∀ {n : Node} {j : Json}, n.json? = some j → j.isSound = true
  | .void, _, rfl => rfl
  | .scalar _ _ _, _, value => (isScalar_of_scalarJson? value).sound
  | .list tag ns, j, value => by
    rw [json?] at value
    split at value
    · cases value
    · obtain ⟨js, items, rfl⟩ := Option.map_eq_some_iff.mp value
      exact Json.isSound_arr.mpr (isSound_of_itemsJson? items)
  | .map tag es, j, value => by
    rw [json?] at value
    split at value
    · cases value
    · obtain ⟨ms, entries, rfl⟩ := Option.map_eq_some_iff.mp value
      exact Json.isSound_obj.mpr (isSound_of_entriesJson? entries)

theorem Node.isSound_of_itemsJson? : ∀ {ns : List Node} {js : List Json},
    itemsJson? ns = some js → ∀ j ∈ js, j.isSound = true
  | [], _, rfl => List.forall_mem_nil _
  | n :: ns, js, items => by
    rw [itemsJson?] at items
    split at items
    · rename_i here later
      cases items
      exact List.forall_mem_cons.mpr ⟨isSound_of_json? here, isSound_of_itemsJson? later⟩
    · cases items

theorem Node.isSound_of_entriesJson? : ∀ {es : List (Option String × Node)}
    {ms : List (String × Json)}, entriesJson? es = some ms → ∀ m ∈ ms, m.2.isSound = true
  | [], _, rfl => List.forall_mem_nil _
  | (key, n) :: es, ms, entries => by
    rw [entriesJson?.eq_def] at entries
    dsimp only at entries
    split at entries
    · rename_i _ here later
      cases entries
      exact List.forall_mem_cons.mpr ⟨isSound_of_json? here, isSound_of_entriesJson? later⟩
    · cases entries

end

/-! ## Spellings of scalars -/

namespace Node

open Yaml.Scalar (readInt? readFloat? isDigitText)

/-- Whether a node, if it is a scalar, means a text. -/
def meansText : Node → Bool
  | .scalar style tag text =>
      match scalarJson? style tag text with
      | some (.str _) => true
      | _ => false
  | _ => true

def isMap : Node → Bool
  | .map _ _ => true
  | _ => false

/-- Whether a node, if it is a scalar, has no tag and passes a test if it is a plain one. -/
def isBare (test : String → Bool) : Node → Bool
  | .scalar .plain none text => test text
  | .scalar _ tag _ => tag.isNone
  | _ => true

/-- Whether a text is no zero with a minus sign. -/
def isNoMinusZero (text : String) : Bool :=
  text.toList.head? != some '-' || readInt? text != some 0

/-- Whether a text, if it is a number, is a finite one without zeros in front and, if it is an
    integer, in decimal and no zero with a minus sign. -/
def isOrdinary (text : String) : Bool :=
  !isDigitText text && (readFloat? text).all Number.isFinite &&
    ((readInt? text).isNone || isDecimal text)

end Node

theorem scalarJson?_null (style : Style) (text : String) :
    scalarJson? style (some (coreTag "null")) text =
      if Scalar.isNullWord text then some .null else none := by
  rw [scalarJson?.eq_def]
  dsimp only
  rw [if_neg (by decide), if_neg (by decide), if_neg (by decide), if_neg (by decide),
    if_pos (by decide)]

theorem variantTag?_of_scalarJson? {style : Style} {tag : Option String} {text : String} {j : Json}
    (means : scalarJson? style tag text = some j) : variantTag? tag = none := by
  cases tag with
  | none => rfl
  | some t =>
    rw [scalarJson?.eq_def] at means
    dsimp only at means
    split at means
    · cases means
    · rename_i own
      exact Option.not_isSome_iff_eq_none.mp own

end Yaml

namespace Shape

open Yaml (Node)
open Yaml.Scalar (readBool? readInt? readNat? readFloat?)

/-- Whether a YAML node is spelled so that, where the shape is wanted, it is read like its plain
    value. -/
def suits : Shape → Node → Bool
  | .text, n => n.meansText
  | .name, n => n.meansText && !n.isMap
  | .bool, n | .int _ _ _, n => n.isBare fun _ => true
  | .nat _ _, n => n.isBare Node.isNoMinusZero
  | .float, n => n.isBare Node.isOrdinary
  | .value, _ => true
  | .optional s, n =>
      (Datum.yaml n).isAbsent? == some true || !n.json?.all Json.isNull && s.suits n
  | .list s, n =>
      match n with
      | .list _ items => items.all s.suits
      | n => !Datum.isBlankNode n
  | .map s, n =>
      match n with
      | .map _ entries => entries.all fun e => s.suits e.2
      | n => !Datum.isBlankNode n
  | .record names part, n =>
      match n with
      | .map _ entries => entries.all fun e =>
          (e.1.bind (Datum.fieldOf? names)).all fun name => (part name).suits e.2
      | .list _ _ => false
      | n => !Datum.isBlankNode n

/-! ## Bare words -/

/-- Whether a datum is neither a truth value nor a number. -/
structure Wordless (d : Datum) : Prop where
  bool : d.bool? = none
  float : d.float? = none
  int : ∀ low high, d.int? low high = none
  nat : ∀ bound, d.nat? bound = none

theorem wordless_yaml {n : Node} (word : ∀ kind, Datum.wordOf? kind n = none) :
    Wordless (.yaml n) where
  bool := by
    rw [Datum.bool?, word]
    rfl
  float := by
    rw [Datum.float?, word]
    rfl
  int low high := by
    rw [Datum.int?, word]
    rfl
  nat bound := by
    rw [Datum.nat?, word]
    rfl

/-- What a bare node is: a word of its own, or nothing that stands for a truth value or a number. -/
inductive Bare (test : String → Bool) : Node → Json → Prop where
  | word {text : String} {j : Json} (fits : test text = true) (means : Yaml.Meaning text j) :
      Bare test (.scalar .plain none text) j
  | other {n : Node} {j : Json} (lost : Wordless (.yaml n)) (lost' : Wordless (.json j)) :
      Bare test n j

theorem bare_of_isBare {test : String → Bool} {n : Node} {j : Json} (bare : n.isBare test = true)
    (value : n.json? = some j) : Bare test n j := by
  cases Node.means_of_json? value with
  | void | list _ | map _ =>
    exact .other (wordless_yaml fun _ => rfl) ⟨rfl, rfl, fun _ _ => rfl, fun _ => rfl⟩
  | @scalar style tag text _ means =>
    cases tag with
    | some tag => cases style <;> cases bare
    | none =>
      by_cases plain : style = .plain
      · subst plain
        exact .word bare (Yaml.meaning_of_plainJson? means)
      · have text_itself : some (.str text) = some j := by
          rw [← means, Yaml.scalarJson?, if_neg (by simpa using plain)]
        obtain rfl := Option.some.inj text_itself
        refine .other (wordless_yaml fun kind => ?_) ⟨rfl, rfl, fun _ _ => rfl, fun _ => rfl⟩
        cases style with
        | plain => exact absurd rfl plain
        | literal | _ => rfl

/-- An integer that does not fit two machine words lies beyond all bounds that fit one. -/
theorem filter_large {o : Option Int} (large : o.filter Yaml.isDoubleWord = none) (low high : Int)
    (small : -(Nat.pow 2 63 : Int) ≤ low ∧ high < Nat.pow 2 64) :
    o.filter (fun n => low ≤ n && n ≤ high) = none := by
  rw [Option.filter_eq_none_iff] at large ⊢
  intro n there inside
  refine large n there ?_
  simp only [Yaml.isDoubleWord, Bool.and_eq_true, decide_eq_true_eq] at inside ⊢
  have low63 : (Nat.pow 2 63 : Int) ≤ Nat.pow 2 127 := by decide
  have high64 : (Nat.pow 2 64 : Int) ≤ Nat.pow 2 128 := by decide
  omega

section

variable {n : Node} {j : Json}

theorem bool?_of_bare (bare : Bare (fun _ => true) n j) :
    (Datum.yaml n).bool? = (Datum.json j).bool? := by
  cases bare with
  | other lost lost' => exact lost.bool.trans lost'.bool.symm
  | word fits means =>
    show readBool? _ = _
    cases means with
    | null bool | bool bool | int bool | text bool => rw [bool]; rfl
    | @float x bool =>
      rw [bool, Json.ofFloat]
      split <;> rfl

theorem int?_of_bare (bare : Bare (fun _ => true) n j) {low high : Int}
    (small : -(Nat.pow 2 63 : Int) ≤ low ∧ high < Nat.pow 2 64) :
    (Datum.yaml n).int? low high = (Datum.json j).int? low high := by
  cases bare with
  | other lost lost' => exact (lost.int low high).trans (lost'.int low high).symm
  | word fits means =>
    show (readInt? _).filter _ = _
    cases means with
    | null _ int | bool _ int | int _ int => rw [int]; rfl
    | text _ large => exact filter_large large low high small
    | @float x _ large =>
      rw [filter_large large low high small, Json.ofFloat]
      split <;> rfl

theorem filter_natCast (k bound : Nat) :
    ((some (k : Int)).filter fun n : Int => 0 ≤ n && n ≤ bound).map Int.toNat =
      (some k).filter (· ≤ bound) := by
  by_cases inside : k ≤ bound
  · simp [Option.filter_some, inside]
  · simp [Option.filter_some, inside]

/-- A natural number up to a bound is an integer between zero and the bound. -/
theorem filter_readNat? {text : String} (fits : Node.isNoMinusZero text = true) (bound : Nat) :
    (readNat? text).filter (· ≤ bound) =
      ((readInt? text).filter fun n : Int => 0 ≤ n && n ≤ bound).map Int.toNat := by
  rw [Yaml.readNat?_eq]
  rw [Node.isNoMinusZero] at fits
  cases int : readInt? text with
  | none => rw [Option.map_none, ite_self]; rfl
  | some m =>
    have natural := Yaml.sign_of_readInt? int
    split
    · rename_i head
      rw [if_pos head] at natural
      have notZero : m ≠ 0 := by simpa [head, int] using fits
      have negative : ¬ 0 ≤ m := by omega
      simp [negative]
    · rename_i head
      rw [if_neg head] at natural
      obtain ⟨k, rfl⟩ := Int.eq_ofNat_of_zero_le natural
      exact (filter_natCast k bound).symm

theorem nat?_of_bare (bare : Bare Node.isNoMinusZero n j) {bound : Nat}
    (small : bound < Nat.pow 2 64) : (Datum.yaml n).nat? bound = (Datum.json j).nat? bound := by
  have small' : -(Nat.pow 2 63 : Int) ≤ 0 ∧ (bound : Int) < Nat.pow 2 64 :=
    ⟨by decide, by exact_mod_cast small⟩
  cases bare with
  | other lost lost' => exact (lost.nat bound).trans (lost'.nat bound).symm
  | word fits means =>
    show (readNat? _).filter _ = _
    rw [filter_readNat? fits]
    cases means with
    | null _ int | bool _ int => rw [int]; rfl
    | text _ large => rw [filter_large large 0 bound small']; rfl
    | @float x _ large =>
      rw [filter_large large 0 bound small', Json.ofFloat]
      split <;> rfl
    | @int m _ int =>
      rw [int]
      cases m with
      | negSucc k => rfl
      | ofNat k => exact filter_natCast k bound

theorem float?_of_bare (bare : Bare Node.isOrdinary n j) :
    (Datum.yaml n).float? = (Datum.json j).float? := by
  cases bare with
  | other lost lost' => exact lost.float.trans lost'.float.symm
  | @word text _ fits means =>
    show readFloat? _ = _
    simp only [Node.isOrdinary, Bool.and_eq_true, Bool.or_eq_true, Bool.not_eq_true'] at fits
    obtain ⟨⟨noDigits, finite⟩, decimal⟩ := fits
    cases means with
    | null _ _ float | bool _ _ float => rw [float]; rfl
    | int _ int fits =>
      refine Yaml.readFloat?_of_isDecimal (decimal.resolve_left ?_) int fits
      rw [int]
      exact Bool.false_ne_true
    | float _ _ float =>
      rw [float] at finite
      have finite : Number.isFinite _ = true := Option.all_some.symm.trans finite
      rw [float, Json.ofFloat, if_pos finite]
      exact (if_pos finite).symm
    | text _ _ float =>
      rw [float.resolve_left (by simp [noDigits])]
      rfl

end

/-! ## Texts and names -/

section

variable {n : Node} {j : Json}

theorem text?_of_meansText (suits : n.meansText = true) (value : n.json? = some j) :
    (Datum.yaml n).text? = (Datum.json j).text? := by
  cases Node.means_of_json? value with
  | void | list _ | map _ => rfl
  | scalar means =>
    simp only [Node.meansText, means] at suits
    cases j with
    | str s => rw [(Yaml.isScalar_of_scalarJson? means).text s rfl]; rfl
    | _ => cases suits

theorem variant?_of_meansText (suits : (n.meansText && !n.isMap) = true)
    (value : n.json? = some j) : (Datum.yaml n).variant? = (Datum.json j).variant? := by
  obtain ⟨text, notMap⟩ := Bool.and_eq_true_iff.mp suits
  cases Node.means_of_json? value with
  | void | list _ => rfl
  | map _ => cases notMap
  | scalar means =>
    simp only [Node.meansText, means] at text
    cases j with
    | str s =>
      rw [(Yaml.isScalar_of_scalarJson? means).text s rfl]
      simp only [Datum.variant?, Yaml.variantTag?_of_scalarJson? means]
    | _ => cases text

/-- A node with a plain value is either absent or not, and null if it is. -/
theorem isAbsent?_of_json? (value : n.json? = some j) :
    ((Datum.yaml n).isAbsent? = some true ∧ j = .null) ∨ (Datum.yaml n).isAbsent? = some false := by
  cases n with
  | void =>
    cases value
    exact .inl ⟨rfl, rfl⟩
  | endless => cases value
  | list tag ns => exact .inr rfl
  | map tag es => exact .inr rfl
  | scalar style tag text =>
    cases style with
    | quoted | literal | folded => exact .inr rfl
    | plain =>
      cases tag with
      | none =>
        by_cases null : (text.isEmpty || Yaml.Scalar.isNullWord text) = true
        · have means : Yaml.plainJson? text = some j := value
          rw [Yaml.plainJson?, if_pos null] at means
          exact .inl ⟨congrArg some null, (Option.some.inj means).symm⟩
        · exact .inr (congrArg some (Bool.eq_false_iff.mpr null))
      | some tag =>
        by_cases core : tag = Yaml.coreTag "null"
        · subst core
          have means : Yaml.scalarJson? .plain (some (Yaml.coreTag "null")) text = some j := value
          rw [Yaml.scalarJson?_null] at means
          split at means
          · rename_i null
            refine .inl ⟨?_, (Option.some.inj means).symm⟩
            rw [Datum.isAbsent?, if_pos (beq_self_eq_true _), if_pos null]
          · cases means
        · refine .inr ?_
          rw [Datum.isAbsent?, if_neg (by simpa using core)]

end

/-! ## Entries of maps -/

/-- The entries of a map stand for the members of its plain value, and these for them. -/
theorem covers_entries {R : String → Datum → Datum → Prop} (tag : Option String)
    {es : List (Option String × Node)} {ms : List (String × Json)}
    (entries : List.Forall₂ (fun e m => e.1 = some m.1 ∧ e.2.json? = some m.2) es ms)
    (distinct : (ms.map Prod.fst).Nodup)
    (each : ∀ e ∈ es, ∀ m ∈ ms, e.1 = some m.1 → e.2.json? = some m.2 →
      R m.1 (.yaml e.2) (.json m.2) ∧ R m.1 (.json m.2) (.yaml e.2)) :
    ∃ ys, (Datum.yaml (.map tag es)).members? = some ys ∧ Covers R ys (datums ms) ∧
      Covers R (datums ms) ys := by
  have related : ∃ ys, (Datum.yaml (.map tag es)).members? = some ys ∧
      List.Forall₂ (fun y m => y.1 = m.1 ∧ R m.1 y.2 m.2 ∧ R m.1 m.2 y.2) ys (datums ms) := by
    clear distinct
    induction entries with
    | nil => exact ⟨[], rfl, .nil⟩
    | @cons e m es ms head _ ih =>
      obtain ⟨ys, members, related⟩ := ih fun e there m there' =>
        each e (List.mem_cons_of_mem _ there) m (List.mem_cons_of_mem _ there')
      have relation := each e List.mem_cons_self m List.mem_cons_self head.1 head.2
      refine ⟨(m.1, .yaml e.2) :: ys, ?_, .cons ⟨rfl, relation⟩ related⟩
      rw [Datum.members?] at members ⊢
      rw [List.mapM_cons, members]
      dsimp only
      rw [head.1]
      rfl
  obtain ⟨ys, members, related⟩ := related
  have names : ys.map Prod.fst = (datums ms).map Prod.fst :=
    map_eq_of_forall₂ (related.imp fun _ _ => And.left)
  refine ⟨ys, members, ?_, ?_⟩
  · exact covers_of_forall₂ (related.imp fun _ _ r => ⟨r.1, r.2.1⟩) (names_datums ms ▸ distinct)
  · refine covers_of_forall₂ (related.flip.imp fun _ _ r => ⟨r.1.symm, r.1 ▸ r.2.2⟩) ?_
    rw [names, names_datums]
    exact distinct

/-- The items of a list are related to those of its plain value where each one is. -/
theorem forall₂_nodes {R : Datum → Datum → Prop} {ns : List Node} {js : List Json}
    (items : List.Forall₂ (fun n j => n.json? = some j) ns js)
    (each : ∀ n ∈ ns, ∀ j ∈ js, n.json? = some j → R (.yaml n) (.json j)) :
    List.Forall₂ R (ns.map .yaml) (js.map .json) := by
  induction items with
  | nil => exact .nil
  | cons head _ ih =>
    refine .cons (each _ List.mem_cons_self _ List.mem_cons_self head) (ih ?_)
    intro n there j there'
    exact each n (List.mem_cons_of_mem _ there) j (List.mem_cons_of_mem _ there')

/-! ## Nodes and their plain values -/

/-- Whether the same is read from two data. -/
def Alike (s : Shape) (d d' : Datum) : Prop :=
  s.Below d d' ∧ s.Below d' d

section

variable {s : Shape} {names : List FieldName} {part : String → Shape} {d d' : Datum}

theorem Alike.read_eq {α : Type} {read : Datum → Option α} (alike : s.Alike d d')
    (follows : s.Follows read) : read d = read d' :=
  Within.antisymm (follows alike.1) (follows alike.2)

theorem Alike.of_no_items (lost : d.items? = none) (lost' : d'.items? = none) :
    (list s).Alike d d' := by
  refine ⟨fun _ items => ?_, fun _ items => ?_⟩
  · cases lost.symm.trans items
  · cases lost'.symm.trans items

theorem Alike.of_no_members (lost : d.members? = none) (lost' : d'.members? = none) :
    (map s).Alike d d' := by
  refine ⟨fun _ members => ?_, fun _ members => ?_⟩
  · cases lost.symm.trans members
  · cases lost'.symm.trans members

theorem Alike.of_no_fields (lost : d.fields? names = none) (lost' : d'.fields? names = none) :
    (record names part).Alike d d' := by
  refine ⟨fun _ fields => ?_, fun _ fields => ?_⟩
  · cases lost.symm.trans fields
  · cases lost'.symm.trans fields

end

theorem fields?_yaml (names : List FieldName) (n : Node) :
    (Datum.yaml n).fields? names =
      (Datum.yaml n).members?.bind fun ms => Datum.collect names ms [] :=
  rfl

/-- A scalar that is not blank, and what it means, have neither items nor members nor fields. -/
theorem nothing_of_scalar {style : Yaml.Style} {tag : Option String} {text : String} {j : Json}
    (means : Yaml.scalarJson? style tag text = some j)
    (full : (!Datum.isBlankNode (.scalar style tag text)) = true) :
    ∀ d ∈ [Datum.yaml (.scalar style tag text), .json j], d.items? = none ∧ d.members? = none ∧
      ∀ names, d.fields? names = none := by
  have notBlank : ¬ Datum.isBlankNode (.scalar style tag text) = true := by simpa using full
  have leaf := (Yaml.isScalar_of_scalarJson? means).leaf
  have members : (Datum.yaml (.scalar style tag text)).members? = none := if_neg notBlank
  refine List.forall_mem_cons.mpr ⟨⟨if_neg notBlank, members, fun names => ?_⟩,
    List.forall_mem_singleton.mpr ?_⟩
  · rw [fields?_yaml, members]
    rfl
  · cases j with
    | arr _ | obj _ => cases leaf
    | _ => exact ⟨rfl, rfl, fun _ => rfl⟩

/-- Whether nodes that are spelled as the shape asks for are read like their plain values. -/
def Fits (s : Shape) : Prop :=
  ∀ {n : Node} {j : Json}, s.suits n = true → n.json? = some j → j.Unrepeated →
    s.Alike (.yaml n) (.json j)

theorem fits_optional {s : Shape} (fits : s.Fits) : (optional s).Fits := by
  intro n j suits value unrepeated
  rcases isAbsent?_of_json? value with ⟨absent, rfl⟩ | present
  · have absent' : (Datum.json .null).isAbsent? = some true := rfl
    refine ⟨⟨absent.trans absent'.symm, fun present => ?_⟩,
      ⟨absent'.trans absent.symm, fun present => ?_⟩⟩
    · cases absent.symm.trans present
    · cases absent'.symm.trans present
  · simp only [Shape.suits, present, value, Option.all_some, Bool.or_eq_true, Bool.and_eq_true,
      Bool.not_eq_true', beq_iff_eq, Option.some.injEq, Bool.false_eq_true, false_or] at suits
    have present' : (Datum.json j).isAbsent? = some false := by
      cases j with
      | null => cases suits.1
      | _ => rfl
    obtain ⟨forth, back⟩ := fits suits.2 value unrepeated
    exact ⟨⟨present.trans present'.symm, fun _ => forth⟩,
      ⟨present'.trans present.symm, fun _ => back⟩⟩

theorem fits_list {s : Shape} (fits : s.Fits) : (list s).Fits := by
  intro n j suits value unrepeated
  cases Node.means_of_json? value with
  | void => cases suits
  | map _ => exact .of_no_items rfl rfl
  | scalar means =>
    obtain ⟨lost, lost'⟩ := List.forall_mem_cons.mp (nothing_of_scalar means suits)
    exact .of_no_items lost.1 (List.forall_mem_singleton.mp lost').1
  | @list _ ns js items =>
    have each : ∀ n ∈ ns, ∀ j ∈ js, n.json? = some j → s.Alike (.yaml n) (.json j) :=
      fun n there j there' value => fits (List.all_eq_true.mp suits n there) value
        (Json.unrepeated_arr.mp unrepeated j there')
    have related := forall₂_nodes items each
    refine ⟨fun ds same => ?_, fun ds same => ?_⟩
    · cases same
      exact ⟨_, rfl, related.imp fun _ _ => And.left⟩
    · cases same
      exact ⟨_, rfl, related.flip.imp fun _ _ => And.right⟩

theorem fits_map {s : Shape} (fits : s.Fits) : (map s).Fits := by
  intro n j suits value unrepeated
  cases Node.means_of_json? value with
  | void => cases suits
  | list _ => exact .of_no_members rfl rfl
  | scalar means =>
    obtain ⟨lost, lost'⟩ := List.forall_mem_cons.mp (nothing_of_scalar means suits)
    exact .of_no_members lost.2.1 (List.forall_mem_singleton.mp lost').2.1
  | @map tag es ms entries =>
    obtain ⟨distinct, unrepeated⟩ := Json.unrepeated_obj.mp unrepeated
    obtain ⟨ys, members, forth, back⟩ := covers_entries (R := fun _ => s.Below) tag entries
      distinct fun e there m there' _ value =>
        fits (List.all_eq_true.mp suits e there) value (unrepeated m there')
    refine ⟨fun ms same => ?_, fun ms same => ?_⟩
    · cases members.symm.trans same
      exact ⟨_, rfl, forth⟩
    · cases same
      exact ⟨_, members, back⟩

theorem fits_record {names : List FieldName} {part : String → Shape}
    (fits : ∀ name, (part name).Fits) : (record names part).Fits := by
  intro n j suits value unrepeated
  cases Node.means_of_json? value with
  | void => cases suits
  | list _ => cases suits
  | scalar means =>
    obtain ⟨lost, lost'⟩ := List.forall_mem_cons.mp (nothing_of_scalar means suits)
    exact .of_no_fields (lost.2.2 names) ((List.forall_mem_singleton.mp lost').2.2 names)
  | @map tag es ms entries =>
    obtain ⟨distinct, unrepeated⟩ := Json.unrepeated_obj.mp unrepeated
    obtain ⟨ys, members, forth, back⟩ := covers_entries
      (R := fun key d d' => ∀ name, Datum.fieldOf? names key = some name → (part name).Below d d')
      tag entries distinct fun e there m there' key value => by
        have alike : ∀ name, Datum.fieldOf? names m.1 = some name →
            (part name).Alike (.yaml e.2) (.json m.2) := by
          intro name known
          have suited := List.all_eq_true.mp suits e there
          rw [key, Option.bind_some, known, Option.all_some] at suited
          exact fits name suited value (unrepeated m there')
        exact ⟨fun name known => (alike name known).1, fun name known => (alike name known).2⟩
    have collected : (Datum.yaml (.map tag es)).fields? names = Datum.collect names ys [] := by
      rw [fields?_yaml, members]
      rfl
    refine ⟨fun fs fields => ?_, fun fs fields => ?_⟩
    · exact collect_of_covers forth (collected.symm.trans fields)
    · obtain ⟨fs', fields', related⟩ := collect_of_covers back fields
      exact ⟨fs', collected.trans fields', related⟩

/-- A node that is spelled as a shape asks for is read like its plain value. -/
theorem fits (s : Shape) : s.Fits := by
  have leaf {α : Type} {o o' : Option α} (same : o = o') : Within o o' ∧ Within o' o :=
    ⟨.of_eq same, .of_eq same.symm⟩
  induction s with
  | text => exact fun suits value _ => leaf (text?_of_meansText suits value)
  | name => exact fun suits value _ => leaf (variant?_of_meansText suits value)
  | bool => exact fun suits value _ => leaf (bool?_of_bare (bare_of_isBare suits value))
  | float => exact fun suits value _ => leaf (float?_of_bare (bare_of_isBare suits value))
  | nat _ small => exact fun suits value _ => leaf (nat?_of_bare (bare_of_isBare suits value) small)
  | int _ _ small =>
    exact fun suits value _ => leaf (int?_of_bare (bare_of_isBare suits value) small)
  | value =>
    intro n j _ value _
    refine leaf ?_
    rw [Datum.value?_eq_some.mpr ⟨Yaml.Node.isSound_of_json? value, rfl⟩, Datum.value?, Datum.json?,
      value]
    rfl
  | optional s ih => exact fits_optional ih
  | list s ih => exact fits_list ih
  | map s ih => exact fits_map ih
  | record names part ih => exact fits_record ih

end Shape

end Verdict
