import Verdict.Proofs.Context.Search

/-!
# Fields that a request has of its own

The value of a fixed field comes from the request itself, and the maps of the request have no say in
it (`fixed?_of_sameFixed`), as long as the request has the field.  A fixed field that it lacks is
looked for in the maps like any other bare name, so that whoever can set a header of its name
decides what is found: `resolve_independent_iff` says exactly when the maps do not matter.
-/

namespace Verdict.Context

/-- Whether a field is the name of a fixed field or another name of it, blanks around it ignored. -/
def Denotes (field name : String) : Prop :=
  Text.trim field = name ∨ (Text.trim field, name) ∈ aliases

/-- Whether two requests are the same but for their headers, parameters, metadata and factors. -/
structure SameFixed (ctx other : Context) : Prop where
  requestId : ctx.requestId = other.requestId
  method : ctx.method = other.method
  path : ctx.path = other.path
  clientIp : ctx.clientIp = other.clientIp
  userAgent : ctx.userAgent = other.userAgent
  userId : ctx.userId = other.userId
  roles : ctx.roles = other.roles
  apiId : ctx.apiId = other.apiId
  endpoint : ctx.endpoint = other.endpoint
  timestamp : ctx.timestamp = other.timestamp
  body : ctx.body = other.body

/-- A request without its maps, some headers apart. -/
def withOnly (ctx : Context) (headers : KeyMap String) : Context :=
  { ctx with
    headers := headers
    parameters := .empty
    metadata := .empty
    dataFactors := .empty
    securityFactors := .empty
    contextFactors := .empty }

section

variable {ctx other : Context} {field name : String}

theorem sameFixed_withOnly (ctx : Context) (headers : KeyMap String) :
    ctx.SameFixed (ctx.withOnly headers) := by
  constructor <;> rfl

/-- The maps of a request have no say in what it has of its own. -/
theorem fixed?_of_sameFixed (same : ctx.SameFixed other) (name : String) :
    other.fixed? name = ctx.fixed? name := by
  simp only [fixed?, same.requestId, same.method, same.path, same.clientIp, same.userAgent,
    same.userId, same.roles, same.apiId, same.endpoint, same.timestamp, same.body]

theorem canonicalField_of_denotes (listed : name ∈ fixedNames) (denotes : Denotes field name) :
    canonicalField (Text.trim field) = name := by
  rcases denotes with same | other
  · have canonical : ∀ name ∈ fixedNames, canonicalField name = name := by decide
    rw [same, canonical name listed]
  · exact canonicalField_of_alias other

/-- A fixed field is what the request has of its own, or else what the search finds. -/
theorem resolve_fixed (ctx : Context) (listed : name ∈ fixedNames) (denotes : Denotes field name) :
    ctx.resolve field = (ctx.fixed? name).or (ctx.searched? name) := by
  have canonical := canonicalField_of_denotes listed denotes
  have undotted : ∀ name ∈ fixedNames, namespaced? name = none := by decide
  have bare := namespaced?_eq_none_iff.mp (undotted name listed)
  rw [← canonical] at bare
  rw [resolve_of_bare ctx bare, canonical, bare?_eq]

theorem searched?_withOnly_empty : (ctx.withOnly .empty).searched? name = none := by
  rw [searched?_eq_none_iff]
  intro part searched v holds
  cases holds with
  | body => cases searched
  | header entry | parameter entry | metadata entry | data entry | security entry | context entry =>
    cases entry

theorem searched?_withOnly_header (ctx : Context) (name value : String) :
    (ctx.withOnly (.ofList [(name, value)])).searched? name ≠ none := by
  rw [ne_eq, searched?_eq_none_iff]
  intro nowhere
  have held : (ctx.withOnly (.ofList [(name, value)])).Holds .headers name (.text value) :=
    .header (List.mem_singleton.mpr rfl) (Text.eqIgnoringAsciiCase_self name)
  exact nowhere .headers rfl _ held

end

/-- What a fixed field finds in a request is the same in all requests that differ in their maps only
    exactly if the request has the field.  Then it finds what the request has of its own.  If the
    request lacks the field, nothing is found exactly if no part that is searched for bare names has
    an entry of its name. -/
theorem resolve_independent_iff {field name : String} (listed : name ∈ fixedNames)
    (denotes : Denotes field name) (ctx : Context) :
    ((∀ other, ctx.SameFixed other → other.resolve field = ctx.resolve field) ↔
      (ctx.fixed? name).isSome) ∧
    ((ctx.fixed? name).isSome → ctx.resolve field = ctx.fixed? name) ∧
    (ctx.fixed? name = none →
      (ctx.resolve field = none ↔
        ∀ part : Part, part.Searched → ∀ v, ¬ ctx.Holds part name v)) := by
  have found (ctx : Context) := resolve_fixed ctx listed denotes
  refine ⟨⟨?_, ?_⟩, ?_, ?_⟩
  · intro independent
    rw [← Option.ne_none_iff_isSome]
    intro lacking
    -- a request without maps and one with a header of the name would have to agree
    have alike (headers : KeyMap String) :
        (ctx.withOnly headers).searched? name = ctx.resolve field := by
      have same := sameFixed_withOnly ctx headers
      rw [← independent _ same, found, fixed?_of_sameFixed same, lacking, Option.none_or]
    apply searched?_withOnly_header ctx name ""
    rw [alike, ← alike .empty, searched?_withOnly_empty]
  · intro present other same
    rw [found, found, fixed?_of_sameFixed same, Option.or_of_isSome present,
      Option.or_of_isSome present]
  · intro present
    rw [found, Option.or_of_isSome present]
  · intro lacking
    rw [found, lacking, Option.none_or, searched?_eq_none_iff]

/-- The address of a client is found under another name of it, whatever a header of that name
    says. -/
theorem resolve_independent_of_forged_header :
    let ctx : Context := { clientIp := some "198.51.100.7", timestamp := default }
    let forged := { ctx with headers := .ofList [("client_ip", "10.0.0.1")] }
    "client_ip" ∈ fixedNames ∧ Denotes " source_ip" "client_ip" ∧
      forged.resolve " source_ip" = some (.text "198.51.100.7") := by
  intro ctx forged
  have listed : "client_ip" ∈ fixedNames := by decide
  have denotes : Denotes " source_ip" "client_ip" := by
    unfold Denotes
    decide +kernel
  obtain ⟨independent, own, -⟩ := resolve_independent_iff listed denotes ctx
  have present : (ctx.fixed? "client_ip").isSome := rfl
  refine ⟨listed, denotes, ?_⟩
  rw [independent.mpr present forged (by constructor <;> rfl), own present]
  rfl

/-- The address of a client that is not known is what a header says. -/
theorem header_stands_for_absent_address :
    let ctx : Context := { timestamp := default }
    let forged := { ctx with headers := .ofList [("Client_IP", "10.0.0.1")] }
    ctx.SameFixed forged ∧ Denotes "ip" "client_ip" ∧ ctx.resolve "ip" = none ∧
      forged.resolve "ip" = some (.text "10.0.0.1") := by
  intro ctx forged
  refine ⟨by constructor <;> rfl, .inr (by decide +kernel), rfl, rfl⟩

end Verdict.Context
