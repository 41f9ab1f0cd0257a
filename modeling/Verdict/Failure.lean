import Verdict.Issue
import Verdict.Json.Writer

/-!
# Failures

What can go wrong while rules are managed, files are read and other services are called.
Evaluation itself never fails.  `Failure.message` is the wording.
-/

namespace Verdict

/-- The text of a span of time, given in nanoseconds, in its largest unit. -/
def spanText (nanos : Nat) : String :=
  let trimmed (width n : Nat) : String :=
    let digits := Nat.toDigits 10 n
    let padded := List.replicate (width - digits.length) '0' ++ digits
    let kept := (padded.reverse.dropWhile (· == '0')).reverse
    if kept.isEmpty then "" else "." ++ String.ofList kept
  if 1000000000 ≤ nanos then s!"{nanos / 1000000000}{trimmed 9 (nanos % 1000000000)}s"
  else if 1000000 ≤ nanos then s!"{nanos / 1000000}{trimmed 6 (nanos % 1000000)}ms"
  else if 1000 ≤ nanos then s!"{nanos / 1000}{trimmed 3 (nanos % 1000)}µs"
  else s!"{nanos}ns"

/-- What is wrong with a configuration. -/
inductive ConfigFault where
  | zeroRefresh
  | zeroTimeout
  | notNatural (setting : String)
  | unknownVocabulary (setting word : String)
  | badLogFilter
  | other (text : String)
  deriving Repr, BEq

/-- The wording of a configuration fault. -/
def ConfigFault.text : ConfigFault → String
  | .zeroRefresh => "refresh_interval_secs must be positive"
  | .zeroTimeout => "timeouts must be positive"
  | .notNatural setting => s!"{setting} must be a non-negative integer"
  | .unknownVocabulary setting word =>
      s!"{setting} must be access, compliance or classification, got '{word}'"
  | .badLogFilter => "invalid log level/filter"
  | .other text => text

/-- Why a file cannot be read. -/
inductive ReadFault where
  /-- The text is not well formed, or lacks something that its type needs. -/
  | malformed
  /-- The file holds a plain value. -/
  | notRules (found : Json)
  | other (text : String)
  deriving Repr, BEq

/-- The wording of a reading fault. -/
def ReadFault.text : ReadFault → String
  | .malformed => "malformed document"
  | .notRules found => s!"expected a rule, a rule list or a bundle, found {found.compact}"
  | .other text => text

/-- A failure of an operation. -/
inductive Failure where
  | invalid (issues : List Issue)
  | notFound (kind id : String)
  | alreadyExists (kind id : String)
  | unreadable (fault : ReadFault)
  | unserializable (detail : String)
  | store (detail : String)
  | publish (topic detail : String)
  | provider (name detail : String)
  | timeout (operation : String) (nanos : Nat)
  | integrity (expected computed : String)
  | config (fault : ConfigFault)
  | io (detail : String)
  /-- A count that has come to its end.  It is no answer to the call: whatever the call was part of
      is broken off with it. -/
  | overflow
  deriving Repr, BEq

namespace Failure

/-- The wording of a failure. -/
def message : Failure → String
  | .invalid issues => "Validation failed: " ++ "; ".intercalate (issues.map Issue.text)
  | .notFound kind id => s!"{kind} not found: {id}"
  | .alreadyExists kind id => s!"{kind} already exists: {id}"
  | .unreadable fault => s!"Failed to parse: {fault.text}"
  | .unserializable detail => s!"Serialization error: {detail}"
  | .store detail => s!"Store error: {detail}"
  | .publish topic detail => s!"Publish to '{topic}' failed: {detail}"
  | .provider name detail => s!"Provider '{name}' failed: {detail}"
  | .timeout operation nanos => s!"'{operation}' timed out after {spanText nanos}"
  | .integrity expected computed =>
      s!"Integrity check failed: expected {expected}, computed {computed}"
  | .config fault => s!"Configuration error: {fault.text}"
  | .io detail => s!"I/O error: {detail}"
  | .overflow => "attempt to add with overflow"

/-- Whether the failure is about the contents of an entity. -/
def isInvalid : Failure → Bool
  | .invalid _ => true
  | _ => false

/-- Whether the failure is about an unknown id. -/
def isNotFound : Failure → Bool
  | .notFound _ _ => true
  | _ => false

end Failure

/-- Accepts a value if nothing is wrong with it. -/
def accept {α : Type} (issues : List Issue) (a : α) : Except Failure α :=
  if issues.isEmpty then .ok a else .error (.invalid issues)

end Verdict
