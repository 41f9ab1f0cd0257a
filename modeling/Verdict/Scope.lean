import Verdict.Address
import Verdict.Context
import Verdict.Issue

/-!
# Scopes

A `Scope` narrows the requests that a rule is considered for.  Each list that is not empty must
match; an empty list matches every request.
-/

namespace Verdict

/-- Hours of the day, the last one excluded, on some days of the week, 0 being Monday.  A window
    that ends before it starts goes past midnight; one without days is open every day. -/
structure TimeWindow where
  startHour : Nat
  endHour : Nat
  days : List Nat := []
  deriving Repr, BEq, DecidableEq

namespace TimeWindow

/-- Whether an instant lies in a window. -/
def contains (w : TimeWindow) (t : Instant) : Bool :=
  (w.days.isEmpty || w.days.contains t.weekday) &&
    if w.startHour ≤ w.endHour then w.startHour ≤ t.hour && t.hour < w.endHour
    else w.startHour ≤ t.hour || t.hour < w.endHour

/-- Everything that is wrong with a window. -/
def issues (w : TimeWindow) : List Issue :=
  (if 23 < w.startHour || 24 < w.endHour then [.badWindow w.startHour w.endHour] else []) ++
    if w.days.any (6 < ·) then [.badDay] else []

/-- The largest number of an hour or a day that is read. -/
def maxNumber : Nat := UInt32.size - 1

/-- Reads a window. -/
def ofDatum? (d : Datum) : Option TimeWindow := do
  let fields ← d.fields? [⟨"start_hour", []⟩, ⟨"end_hour", []⟩, ⟨"days", []⟩]
  return {
    startHour := ← fields.required "start_hour" (Datum.nat? maxNumber)
    endHour := ← fields.required "end_hour" (Datum.nat? maxNumber)
    days := ← fields.orElse "days" [] (Datum.list? (Datum.nat? maxNumber)) }

/-- The JSON form of a window. -/
def toJson (w : TimeWindow) : Json :=
  .obj [("start_hour", .ofNat w.startHour), ("end_hour", .ofNat w.endHour),
    ("days", .arr (w.days.map Json.ofNat))]

end TimeWindow

/-- The requests that a rule is considered for. -/
structure Scope where
  apis : List String := []
  endpoints : List String := []
  users : List String := []
  roles : List String := []
  ipRanges : List String := []
  timeWindows : List TimeWindow := []
  deriving Repr, BEq, DecidableEq, Inhabited

namespace Scope

/-- Whether the scope narrows nothing. -/
def isEmpty (s : Scope) : Bool :=
  s.apis.isEmpty && s.endpoints.isEmpty && s.users.isEmpty && s.roles.isEmpty &&
    s.ipRanges.isEmpty && s.timeWindows.isEmpty

/-- Whether an endpoint is the given one, or starts with what stands before a final star. -/
def endpointMatches (pattern endpoint : String) : Bool :=
  match pattern.toList.reverse with
  | '*' :: lead => lead.reverse.isPrefixOf endpoint.toList
  | _ => pattern == endpoint

/-- Whether a list is empty or a value that is present passes a test. -/
def allows {α β : Type} (wanted : List α) (actual : Option β) (test : β → Bool) : Bool :=
  wanted.isEmpty || actual.any test

/-- Whether a request lies in the scope. -/
def holds (s : Scope) (ctx : Context) : Bool :=
  allows s.apis ctx.apiId s.apis.contains &&
    allows s.endpoints (some (ctx.endpoint.getD ctx.path))
      (fun e => s.endpoints.any fun pattern => endpointMatches pattern e) &&
    allows s.users ctx.userId s.users.contains &&
    allows s.roles (some ctx.roles) (fun roles => roles.any s.roles.contains) &&
    allows s.ipRanges ctx.clientIp (fun ip => AddressRange.inAny ip s.ipRanges) &&
    allows s.timeWindows (some ctx.timestamp) (fun t => s.timeWindows.any fun w => w.contains t)

/-- Everything that is wrong with a scope. -/
def issues (s : Scope) : List Issue :=
  ((s.ipRanges.filter fun r => (AddressRange.read? r).isNone).map Issue.badScopeRange) ++
    s.timeWindows.flatMap TimeWindow.issues

/-- Reads a scope. -/
def ofDatum? (d : Datum) : Option Scope := do
  let fields ← d.fields? [⟨"apis", []⟩, ⟨"endpoints", []⟩, ⟨"users", []⟩, ⟨"roles", []⟩,
    ⟨"ip_ranges", []⟩, ⟨"time_windows", []⟩]
  return {
    apis := ← fields.orElse "apis" [] Datum.texts?
    endpoints := ← fields.orElse "endpoints" [] Datum.texts?
    users := ← fields.orElse "users" [] Datum.texts?
    roles := ← fields.orElse "roles" [] Datum.texts?
    ipRanges := ← fields.orElse "ip_ranges" [] Datum.texts?
    timeWindows := ← fields.orElse "time_windows" [] (Datum.list? TimeWindow.ofDatum?) }

/-- The JSON form of a scope. -/
def toJson (s : Scope) : Json :=
  .obj [("apis", .ofStrings s.apis), ("endpoints", .ofStrings s.endpoints),
    ("users", .ofStrings s.users), ("roles", .ofStrings s.roles),
    ("ip_ranges", .ofStrings s.ipRanges),
    ("time_windows", .arr (s.timeWindows.map TimeWindow.toJson))]

end Scope

end Verdict
