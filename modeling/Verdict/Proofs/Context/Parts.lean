import Mathlib.Data.List.Pairwise
import Verdict.Context
import Verdict.Proofs.Json.Names

/-!
# The parts of a request

The parts of a request hold values under names (`Context.Holds`), one under each where no two
headers differ in case only.  A field either addresses one part (`Part.Addressed`,
`resolve_of_addressed`), or it is a bare name (`resolve_of_bare`).  Bare names have an order of parts
(`Part.Precedes`), and some are names of fields that a request has of its own (`fixedNames`).
-/

namespace Verdict.Context

/-! ## Parts -/

namespace Part

/-- The place of a part in the search for a bare name; the body is not searched. -/
def place? : Part → Option Nat
  | .headers => some 0
  | .parameters => some 1
  | .metadata => some 2
  | .data => some 3
  | .security => some 4
  | .context => some 5
  | .body => none

/-- Whether a part is searched for bare names. -/
def Searched (part : Part) : Prop :=
  part.place?.isSome

/-- Whether a part is searched before another one. -/
def Precedes (part other : Part) : Prop :=
  ∃ i ∈ part.place?, ∃ j ∈ other.place?, i < j

instance : DecidablePred Searched := fun part =>
  inferInstanceAs (Decidable (part.place?.isSome = true))

instance : DecidableRel Precedes := fun part other =>
  inferInstanceAs (Decidable (∃ i ∈ part.place?, ∃ j ∈ other.place?, i < j))

theorem Precedes.searched {part other : Part} (precedes : part.Precedes other) :
    part.Searched := by
  obtain ⟨i, place, -⟩ := precedes
  rw [Searched, Option.mem_def.mp place]
  rfl

theorem Precedes.irrefl (part : Part) : ¬ part.Precedes part := by
  cases part <;> decide

theorem Precedes.trans {part other next : Part} (precedes : part.Precedes other)
    (precedes' : other.Precedes next) : part.Precedes next := by
  obtain ⟨i, place, j, place', lower⟩ := precedes
  obtain ⟨k, place'', l, place''', lower'⟩ := precedes'
  have same := Option.mem_unique place' place''
  exact ⟨i, place, l, place''', by omega⟩

/-- Whether a field is a word for a part, a dot, and a name inside that part. -/
def Addressed (part : Part) (name field : String) : Prop :=
  ∃ lead, field = lead ++ "." ++ name ∧ '.' ∉ lead.toList ∧ ofName? lead = some part

theorem mem_bareParts {part : Part} : part ∈ bareParts ↔ part.Searched := by
  cases part <;> decide

/-- What stands before a part in the search is what precedes it. -/
theorem mem_before_iff {before after : List Part} {part other : Part}
    (split : bareParts = before ++ part :: after) : other ∈ before ↔ other.Precedes part := by
  have ordered : bareParts.Pairwise Precedes := by decide
  rw [split, List.pairwise_append] at ordered
  obtain ⟨-, later, earlier⟩ := ordered
  constructor
  · intro member
    exact earlier other member part List.mem_cons_self
  · intro precedes
    have member : other ∈ before ++ part :: after := by
      rw [← split, mem_bareParts]
      exact precedes.searched
    rcases List.mem_append.mp member with front | back
    · exact front
    · rcases List.mem_cons.mp back with rfl | back
      · exact absurd precedes (Precedes.irrefl other)
      · have follows := (List.pairwise_cons.mp later).1 other back
        exact absurd (precedes.trans follows) (Precedes.irrefl other)

end Part

/-- The part and the name that a field addresses. -/
theorem namespaced?_eq_some_iff {field name : String} {part : Part} :
    namespaced? field = some (part, name) ↔ part.Addressed name field := by
  have text (lead : String) : field = lead ++ "." ++ name ↔
      field.toList = lead.toList ++ '.' :: name.toList := by
    rw [← String.toList_inj, String.toList_append, String.toList_append, List.append_assoc]
    rfl
  unfold namespaced? Part.Addressed
  constructor
  · intro found
    split at found
    next => cases found
    next left right cut =>
      obtain ⟨joined, noDot⟩ := Text.cutOnce_eq_some_iff.mp cut
      simp only [Option.map_eq_some_iff, Prod.mk.injEq] at found
      obtain ⟨_, known, rfl, rfl⟩ := found
      refine ⟨String.ofList left, ?_, ?_, known⟩
      · rw [text, String.toList_ofList, String.toList_ofList, joined]
      · rwa [String.toList_ofList]
  · rintro ⟨lead, joined, noDot, known⟩
    have cut := Text.cutOnce_eq_some_iff.mpr ⟨(text lead).mp joined, noDot⟩
    simp [cut, known]

theorem namespaced?_eq_none_iff {field : String} :
    namespaced? field = none ↔ ∀ part name, ¬ Part.Addressed part name field := by
  constructor
  · intro none part name addressed
    rw [namespaced?_eq_some_iff.mpr addressed] at none
    cases none
  · intro bare
    rw [Option.eq_none_iff_forall_ne_some]
    rintro ⟨part, name⟩ found
    exact bare part name (namespaced?_eq_some_iff.mp found)

/-! ## What the parts hold -/

/-- The values that the parts of a request hold under a name.  The names of headers are compared
    without regard to case, a name inside the body is a path. -/
inductive Holds (ctx : Context) : Part → String → Value → Prop where
  | header {key name value : String} (entry : (key, value) ∈ ctx.headers.entries)
      (named : Text.eqIgnoringAsciiCase key name = true) : Holds ctx .headers name (.text value)
  | parameter {name value : String} (entry : (name, value) ∈ ctx.parameters.entries) :
      Holds ctx .parameters name (.text value)
  | body {path : String} {whole j : Json} (given : ctx.body = some whole)
      (leads : whole.walk? (Text.split path '.') = some j) : Holds ctx .body path (.ofJson j)
  | metadata {name : String} {j : Json} (entry : (name, j) ∈ ctx.metadata.entries) :
      Holds ctx .metadata name (.ofJson j)
  | data {name : String} {j : Json} (entry : (name, j) ∈ ctx.dataFactors.entries) :
      Holds ctx .data name (.ofJson j)
  | security {name : String} {j : Json} (entry : (name, j) ∈ ctx.securityFactors.entries) :
      Holds ctx .security name (.ofJson j)
  | context {name : String} {j : Json} (entry : (name, j) ∈ ctx.contextFactors.entries) :
      Holds ctx .context name (.ofJson j)

/-- Whether no two headers have names that differ in case only. -/
def HeadersDistinct (ctx : Context) : Prop :=
  ctx.headers.entries.Pairwise fun e e' => Text.eqIgnoringAsciiCase e.1 e'.1 = false

/-- Whether two requests are the same in one part. -/
def SameIn (ctx other : Context) : Part → Prop
  | .headers => ctx.headers = other.headers
  | .parameters => ctx.parameters = other.parameters
  | .body => ctx.body = other.body
  | .metadata => ctx.metadata = other.metadata
  | .data => ctx.dataFactors = other.dataFactors
  | .security => ctx.securityFactors = other.securityFactors
  | .context => ctx.contextFactors = other.contextFactors

section

variable {ctx other : Context} {part : Part} {name : String} {v w : Value}

/-- A header that is found has the name that is looked for. -/
theorem holds_of_header? {value : String} (found : ctx.header? name = some value) :
    ctx.Holds .headers name (.text value) := by
  rw [header?, Option.or_eq_some_iff] at found
  rcases found with exact | ⟨-, similar⟩
  · exact .header (KeyMap.get?_eq_some_iff.mp exact) (Text.eqIgnoringAsciiCase_self name)
  · obtain ⟨⟨key, _⟩, first, rfl⟩ := Option.map_eq_some_iff.mp similar
    have named : Text.eqIgnoringAsciiCase key name = true := by simpa using List.find?_some first
    exact .header (List.mem_of_find?_eq_some first) named

/-- What is found in a part is held by it. -/
theorem holds_of_inPart? (found : ctx.inPart? part name = some v) : ctx.Holds part name v := by
  cases part <;> simp only [inPart?, Option.map_eq_some_iff] at found
  case headers =>
    obtain ⟨value, found, rfl⟩ := found
    exact holds_of_header? found
  case body =>
    obtain ⟨j, found, rfl⟩ := found
    obtain ⟨whole, given, leads⟩ := Option.bind_eq_some_iff.mp found
    exact .body given leads
  all_goals
    obtain ⟨_, found, rfl⟩ := found
    rw [KeyMap.get?_eq_some_iff] at found
  case parameters => exact .parameter found
  case metadata => exact .metadata found
  case data => exact .data found
  case security => exact .security found
  case context => exact .context found

/-- Where a part holds a value, some value is found. -/
theorem Holds.exists_inPart? (holds : ctx.Holds part name v) :
    ∃ w, ctx.inPart? part name = some w := by
  cases holds with
  | @header key _ value entry named =>
    have found : ∃ value, ctx.header? name = some value := by
      rw [header?]
      cases ctx.headers.get? name with
      | some value => exact ⟨value, rfl⟩
      | none =>
        rw [Option.none_or, ← Option.isSome_iff_exists, Option.isSome_map, List.find?_isSome]
        exact ⟨(key, value), entry, named⟩
    obtain ⟨value, found⟩ := found
    exact ⟨_, congrArg (Option.map Value.text) found⟩
  | @body _ whole j given leads =>
    refine ⟨.ofJson j, ?_⟩
    simp only [inPart?, given, Option.bind_some, leads, Option.map_some]
  | parameter entry =>
    exact ⟨_, congrArg (Option.map Value.text) (KeyMap.get?_eq_some_iff.mpr entry)⟩
  | metadata entry | data entry | security entry | context entry =>
    exact ⟨_, congrArg (Option.map Value.ofJson) (KeyMap.get?_eq_some_iff.mpr entry)⟩

theorem HeadersDistinct.unique {key key' value value' : String} (distinct : ctx.HeadersDistinct)
    (entry : (key, value) ∈ ctx.headers.entries) (entry' : (key', value') ∈ ctx.headers.entries)
    (alike : Text.eqIgnoringAsciiCase key key' = true) : value = value' := by
  have : Std.Symm fun e e' : String × String => Text.eqIgnoringAsciiCase e.1 e'.1 = false :=
    ⟨fun e e' different => by rwa [Text.eqIgnoringAsciiCase_comm]⟩
  by_cases same : (key, value) = (key', value')
  · exact (Prod.mk.inj same).2
  · have different := distinct.forall entry entry' same
    rw [alike] at different
    cases different

/-- A part holds one value under a name where the names of headers are distinct. -/
theorem Holds.unique (distinct : ctx.HeadersDistinct) (holds : ctx.Holds part name v)
    (holds' : ctx.Holds part name w) : v = w := by
  cases holds with
  | @header key _ value entry named =>
    cases holds' with
    | @header key' _ value' entry' named' =>
      rw [Text.eqIgnoringAsciiCase_comm] at named'
      rw [distinct.unique entry entry' (Text.eqIgnoringAsciiCase_trans named named')]
  | body given leads =>
    cases holds' with
    | body given' leads' =>
      rw [given] at given'
      cases given'
      rw [leads] at leads'
      cases leads'
      rfl
  | parameter entry =>
    cases holds' with
    | parameter entry' => rw [KeyMap.entry_unique entry entry']
  | metadata entry =>
    cases holds' with
    | metadata entry' => rw [KeyMap.entry_unique entry entry']
  | data entry =>
    cases holds' with
    | data entry' => rw [KeyMap.entry_unique entry entry']
  | security entry =>
    cases holds' with
    | security entry' => rw [KeyMap.entry_unique entry entry']
  | context entry =>
    cases holds' with
    | context entry' => rw [KeyMap.entry_unique entry entry']

theorem inPart?_eq_some_iff (distinct : ctx.HeadersDistinct) :
    ctx.inPart? part name = some v ↔ ctx.Holds part name v := by
  constructor
  · exact holds_of_inPart?
  · intro holds
    obtain ⟨w, found⟩ := holds.exists_inPart?
    rw [found, holds.unique distinct (holds_of_inPart? found)]

/-- Nothing is found in a part exactly if it holds nothing under the name. -/
theorem inPart?_eq_none_iff : ctx.inPart? part name = none ↔ ∀ v, ¬ ctx.Holds part name v := by
  constructor
  · intro none v holds
    obtain ⟨w, found⟩ := holds.exists_inPart?
    rw [none] at found
    cases found
  · intro empty
    rw [Option.eq_none_iff_forall_ne_some]
    exact fun v found => empty v (holds_of_inPart? found)

theorem SameIn.symm (same : ctx.SameIn other part) : other.SameIn ctx part := by
  cases part <;> exact Eq.symm same

theorem Holds.of_sameIn (same : ctx.SameIn other part) (holds : ctx.Holds part name v) :
    other.Holds part name v := by
  cases holds <;> rw [SameIn] at same
  case header entry named => exact .header (same ▸ entry) named
  case parameter entry => exact .parameter (same ▸ entry)
  case body given leads => exact .body (same ▸ given) leads
  case metadata entry => exact .metadata (same ▸ entry)
  case data entry => exact .data (same ▸ entry)
  case security entry => exact .security (same ▸ entry)
  case context entry => exact .context (same ▸ entry)

/-- What a part holds is not changed by changes elsewhere. -/
theorem holds_of_sameIn (same : ctx.SameIn other part) :
    other.Holds part name v ↔ ctx.Holds part name v :=
  ⟨Holds.of_sameIn same.symm, Holds.of_sameIn same⟩

theorem inPart?_of_sameIn (same : ctx.SameIn other part) (name : String) :
    other.inPart? part name = ctx.inPart? part name := by
  cases part <;> simp only [SameIn] at same <;> simp only [inPart?, header?, same]

end

/-! ## Names -/

/-- The names of the fields that a request has of its own. -/
def fixedNames : List String :=
  ["request_id", "method", "path", "client_ip", "user_agent", "user_id", "api_id", "endpoint",
    "roles", "timestamp", "body"]

theorem fixed?_eq_none (ctx : Context) {name : String} (free : name ∉ fixedNames) :
    ctx.fixed? name = none := by
  unfold fixed?
  split
  case h_12 => rfl
  all_goals exact absurd (by decide) free

/-- The other names of fixed fields. -/
def aliases : List (String × String) :=
  [("ip", "client_ip"), ("clientIP", "client_ip"), ("client_ip_address", "client_ip"),
    ("source_ip", "client_ip"), ("url", "path"), ("uri", "path"), ("ua", "user_agent"),
    ("userAgent", "user_agent"), ("userID", "user_id"), ("user", "user_id"),
    ("requestId", "request_id")]

theorem canonicalField_of_alias {field name : String} (listed : (field, name) ∈ aliases) :
    canonicalField field = name := by
  have each : ∀ e ∈ aliases, canonicalField e.1 = e.2 := by decide
  exact each _ listed

theorem canonicalField_of_not_alias {field : String} (absent : field ∉ aliases.map Prod.fst) :
    canonicalField field = field := by
  simp only [aliases, List.map_cons, List.map_nil, List.mem_cons, List.not_mem_nil, or_false,
    not_or] at absent
  simp [canonicalField, absent]

theorem canonicalField_of_dot {field : String} (dotted : '.' ∈ field.toList) :
    canonicalField field = field := by
  have plain : ∀ other ∈ aliases.map Prod.fst, '.' ∉ other.toList := by decide
  exact canonicalField_of_not_alias fun listed => plain field listed dotted

/-- The words for a part are without blanks and dots. -/
theorem Part.visible_of_ofName? {lead : String} {part : Part} (known : ofName? lead = some part) :
    lead.toList ≠ [] ∧ '.' ∉ lead.toList ∧ ∀ c ∈ lead.toList, Text.isBlank c = false := by
  unfold ofName? at known
  split at known
  case h_16 => cases known
  all_goals
    rw [← Text.any_isBlank_eq_false]
    decide

section

variable {ctx other : Context} {part : Part} {field name inner lead : String} {v : Value}

theorem resolve_of_addressed (ctx : Context)
    (addressed : part.Addressed inner (canonicalField (Text.trim field))) :
    ctx.resolve field = ctx.inPart? part inner := by
  unfold resolve
  simp only [namespaced?_eq_some_iff.mpr addressed]

theorem resolve_of_bare (ctx : Context)
    (bare : ∀ part inner, ¬ Part.Addressed part inner (canonicalField (Text.trim field))) :
    ctx.resolve field = ctx.bare? (canonicalField (Text.trim field)) := by
  unfold resolve
  simp only [namespaced?_eq_none_iff.mpr bare]

/-- A field that begins with a word for a part and a dot asks that part for the rest, without blanks
    at its end. -/
theorem resolve_append (ctx : Context) (known : Part.ofName? lead = some part) (inner : String) :
    ctx.resolve (lead ++ "." ++ inner) =
      ctx.inPart? part (String.ofList (Text.dropBlankEnd inner.toList)) := by
  obtain ⟨some_lead, noDot, visible⟩ := Part.visible_of_ofName? known
  have trimmed : Text.trim (lead ++ "." ++ inner) =
      lead ++ "." ++ String.ofList (Text.dropBlankEnd inner.toList) := by
    have front : ∀ c ∈ (lead ++ ".").toList, Text.isBlank c = false := by
      intro c member
      rw [String.toList_append, List.mem_append] at member
      rcases member with member | member
      · exact visible c member
      · rw [List.mem_singleton.mp member]
        decide
    have some_front : (lead ++ ".").toList ≠ [] := by simp [String.toList_append]
    rw [Text.trim, String.toList_append, Text.trimChars_append _ some_front front,
      String.ofList_append, String.ofList_toList]
  have dotted : '.' ∈ (Text.trim (lead ++ "." ++ inner)).toList := by
    rw [trimmed]
    simp [String.toList_append]
  apply resolve_of_addressed
  rw [canonicalField_of_dot dotted, trimmed]
  exact ⟨lead, rfl, noDot, known⟩

end

end Verdict.Context
