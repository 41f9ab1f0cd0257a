import Verdict.Datum
import Verdict.Instant
import Verdict.Json.Writer

/-!
# Request contexts

A `Context` is what is known of a request.  `Context.resolve` finds the value of a field: fixed
names such as `client_ip` come from the request itself, a name such as `header.host` looks into
one map, and any other name is looked for in all maps in turn.
-/

namespace Verdict

/-- Reads an instant. -/
def Datum.instant? (d : Datum) : Option Instant :=
  d.text?.bind Instant.read?

/-- An instant as a JSON text. -/
def Instant.toJson (t : Instant) : Json :=
  .str t.text

/-- What is known of a request. -/
structure Context where
  requestId : String := ""
  method : String := ""
  path : String := ""
  headers : KeyMap String := .empty
  parameters : KeyMap String := .empty
  body : Option Json := none
  clientIp : Option String := none
  userAgent : Option String := none
  userId : Option String := none
  roles : List String := []
  apiId : Option String := none
  endpoint : Option String := none
  timestamp : Instant
  metadata : KeyMap Json := .empty
  dataFactors : KeyMap Json := .empty
  securityFactors : KeyMap Json := .empty
  contextFactors : KeyMap Json := .empty
  deriving Repr, BEq, Inhabited

/-- One step of a walk into a value: a member of an object, or an item of an array by its
    position. -/
def Json.child? (segment : String) : Json → Option Json
  | .obj members => lookup segment members
  | .arr items => (Verdict.Number.readNat? segment).bind fun i => items[i]?
  | _ => none

/-- The value at the end of a path. -/
def Json.walk? : List String → Json → Option Json
  | [], j => some j
  | segment :: rest, j => (j.child? segment).bind (walk? rest)

namespace Context

/-- The name under which a field is looked up. -/
def canonicalField (s : String) : String :=
  if s == "ip" || s == "clientIP" || s == "client_ip_address" || s == "source_ip" then "client_ip"
  else if s == "url" || s == "uri" then "path"
  else if s == "ua" || s == "userAgent" then "user_agent"
  else if s == "userID" || s == "user" then "user_id"
  else if s == "requestId" then "request_id"
  else s

/-- The value of a header, its name compared without regard to the case of ASCII letters. -/
def header? (ctx : Context) (name : String) : Option String :=
  (ctx.headers.get? name).or
    ((ctx.headers.entries.find? fun (k, _) => Text.eqIgnoringAsciiCase k name).map Prod.snd)

/-- A factor: the first one of that name among data, security and context factors. -/
def factor? (ctx : Context) (name : String) : Option Json :=
  ((ctx.dataFactors.get? name).or (ctx.securityFactors.get? name)).or
    (ctx.contextFactors.get? name)

/-- All factors, of all three maps. -/
def factors (ctx : Context) : List (String × Json) :=
  ctx.dataFactors.entries ++ ctx.securityFactors.entries ++ ctx.contextFactors.entries

/-- Whether a factor is present and active. -/
def isActive (ctx : Context) (name : String) : Bool :=
  (ctx.factor? name).any fun j => (Value.ofJson j).isActive

/-- The number of a factor, if it has one. -/
def factorNumber? (ctx : Context) (name : String) : Option Float :=
  (ctx.factor? name).bind fun j => (Value.ofJson j).number?

/-- A text as a value; the empty text counts as absent. -/
def ofText? (s : String) : Option Value :=
  if s.isEmpty then none else some (.text s)

/-- The text of a body: a JSON text is itself, any other value its compact form. -/
def bodyText : Json → String
  | .str s => s
  | j => j.compact

/-- The value of a fixed field. -/
def fixed? (ctx : Context) (field : String) : Option Value :=
  match field with
  | "request_id" => ofText? ctx.requestId
  | "method" => ofText? ctx.method
  | "path" => ofText? ctx.path
  | "client_ip" => ctx.clientIp.bind ofText?
  | "user_agent" => ctx.userAgent.bind ofText?
  | "user_id" => ctx.userId.bind ofText?
  | "api_id" => ctx.apiId.bind ofText?
  | "endpoint" => ctx.endpoint.bind ofText?
  | "roles" => if ctx.roles.isEmpty then none else some (.list ctx.roles)
  | "timestamp" => some (.text ctx.timestamp.offsetText)
  | "body" => ctx.body.map fun b => .text (bodyText b)
  | _ => none

/-- A part of a request that holds fields by name. -/
inductive Part where
  | headers
  | parameters
  | body
  | metadata
  | data
  | security
  | context
  deriving Repr, DecidableEq

/-- The part that a namespace stands for. -/
def Part.ofName? (s : String) : Option Part :=
  match s with
  | "header" | "headers" => some .headers
  | "param" | "params" | "parameters" | "query" => some .parameters
  | "body" => some .body
  | "metadata" | "meta" => some .metadata
  | "data" | "data_factors" => some .data
  | "security" | "security_factors" => some .security
  | "context" | "context_factors" => some .context
  | _ => none

/-- The value of a name in one part of the request. -/
def inPart? (ctx : Context) (part : Part) (name : String) : Option Value :=
  match part with
  | .headers => (ctx.header? name).map .text
  | .parameters => (ctx.parameters.get? name).map .text
  | .body => ((ctx.body.bind (Json.walk? (Text.split name '.')))).map Value.ofJson
  | .metadata => (ctx.metadata.get? name).map Value.ofJson
  | .data => (ctx.dataFactors.get? name).map Value.ofJson
  | .security => (ctx.securityFactors.get? name).map Value.ofJson
  | .context => (ctx.contextFactors.get? name).map Value.ofJson

/-- The parts in which a bare name is looked for, in this order. -/
def bareParts : List Part :=
  [.headers, .parameters, .metadata, .data, .security, .context]

/-- The value of a bare name: a fixed field, or the first part that has it. -/
def bare? (ctx : Context) (name : String) : Option Value :=
  (ctx.fixed? name).or (bareParts.findSome? fun part => ctx.inPart? part name)

/-- The part and the name inside it that a field names before and after its first dot. -/
def namespaced? (field : String) : Option (Part × String) :=
  match Text.cutOnce '.' field.toList with
  | none => none
  | some (part, name) =>
      (Part.ofName? (String.ofList part)).map fun part => (part, String.ofList name)

/-- The value of a field, if it is present. -/
def resolve (ctx : Context) (field : String) : Option Value :=
  let field := canonicalField (Text.trim field)
  match namespaced? field with
  | some (part, name) => ctx.inPart? part name
  | none => ctx.bare? field

/-- The names of a context's fields. -/
def fieldNames : List FieldName :=
  ["request_id", "method", "path", "headers", "parameters", "body", "client_ip", "user_agent",
    "user_id", "roles", "api_id", "endpoint", "timestamp", "metadata", "data_factors",
    "security_factors", "context_factors"].map fun name => ⟨name, []⟩

/-- Reads a context; one without a timestamp gets the present one. -/
def ofDatum? (now : Instant) (d : Datum) : Option Context := do
  let fields ← d.fields? fieldNames
  return {
    requestId := ← fields.orElse "request_id" "" Datum.text?
    method := ← fields.orElse "method" "" Datum.text?
    path := ← fields.orElse "path" "" Datum.text?
    headers := ← fields.orElse "headers" .empty (Datum.map? Datum.text?)
    parameters := ← fields.orElse "parameters" .empty (Datum.map? Datum.text?)
    body := ← fields.optional "body" Datum.json?
    clientIp := ← fields.optional "client_ip" Datum.text?
    userAgent := ← fields.optional "user_agent" Datum.text?
    userId := ← fields.optional "user_id" Datum.text?
    roles := ← fields.orElse "roles" [] Datum.texts?
    apiId := ← fields.optional "api_id" Datum.text?
    endpoint := ← fields.optional "endpoint" Datum.text?
    timestamp := ← fields.orElse "timestamp" now Datum.instant?
    metadata := ← fields.orElse "metadata" .empty (Datum.map? Datum.json?)
    dataFactors := ← fields.orElse "data_factors" .empty (Datum.map? Datum.json?)
    securityFactors := ← fields.orElse "security_factors" .empty (Datum.map? Datum.json?)
    contextFactors := ← fields.orElse "context_factors" .empty (Datum.map? Datum.json?) }

/-- The JSON form of a context. -/
def toJson (ctx : Context) : Json :=
  let texts (m : KeyMap String) : Json := .obj ((m.map Json.str).entries)
  .obj [("request_id", .str ctx.requestId), ("method", .str ctx.method), ("path", .str ctx.path),
    ("headers", texts ctx.headers), ("parameters", texts ctx.parameters),
    ("body", ctx.body.getD .null), ("client_ip", .ofOptional ctx.clientIp),
    ("user_agent", .ofOptional ctx.userAgent), ("user_id", .ofOptional ctx.userId),
    ("roles", .ofStrings ctx.roles), ("api_id", .ofOptional ctx.apiId),
    ("endpoint", .ofOptional ctx.endpoint), ("timestamp", ctx.timestamp.toJson),
    ("metadata", .obj ctx.metadata.entries), ("data_factors", .obj ctx.dataFactors.entries),
    ("security_factors", .obj ctx.securityFactors.entries),
    ("context_factors", .obj ctx.contextFactors.entries)]

/-- Sets a security factor. -/
def withSecurityFactor (ctx : Context) (name : String) (value : Json) : Context :=
  { ctx with securityFactors := ctx.securityFactors.insert name value }

end Context

end Verdict
