import Verdict.Condition.Basic
import Verdict.Unicode.Case

/-!
# Evaluation of conditions

`Condition.holds` judges a condition on the value of its field: an absent value, a value of the
wrong type or a pattern that does not compile is no match, never an error.  `PatternCache.judge`
gives the same answers while it keeps compiled patterns, never more than its capacity.
-/

namespace Verdict

/-- Applies a test to the text of a value, or to each item of a list. -/
def Value.anyText (v : Value) (test : String → Bool) : Bool :=
  match v with
  | .list items => items.any test
  | v => v.text?.any test

namespace Condition

/-- The form in which texts are compared. -/
def fold (caseSensitive : Bool) (s : String) : String :=
  if caseSensitive then s else Unicode.lower s

/-- Whether a text is the expected value: as numbers where a number is declared, else as texts. -/
def textEquals (caseSensitive numeric : Bool) (expected : Value) (s : String) : Bool :=
  if numeric then
    match Number.readFloat? (Text.trim s), expected.number? with
    | some a, some e => Number.same a e
    | _, _ => false
  else
    match expected.text? with
    | some e => fold caseSensitive s == fold caseSensitive e
    | none => false

/-- Whether some text of the actual value stands in a relation to the expected text. -/
def textRelates (caseSensitive : Bool) (relation : String → String → Bool)
    (actual expected : Value) : Bool :=
  match expected.text? with
  | none => false
  | some e =>
      actual.anyText fun a => relation (fold caseSensitive a) (fold caseSensitive e)

/-- Whether the numbers of two values stand in a relation. -/
def numberRelates (relation : Float → Float → Bool) (actual expected : Value) : Bool :=
  match actual.number?, expected.number? with
  | some a, some e => relation a e
  | _, _ => false

/-- Whether some text of the actual value is in the expected list. -/
def isMember (caseSensitive : Bool) (actual expected : Value) : Bool :=
  match expected.list? with
  | none => false
  | some items =>
      actual.anyText fun a => items.any fun i => fold caseSensitive i == fold caseSensitive a

/-- Compares a value that is present with the expected value.  `pattern` is the compiled pattern
    of the operator that needs one. -/
def compare (c : Condition) (pattern : Option Pattern.Expr) (actual expected : Value) : Bool :=
  let numeric := c.valueType == .number
  match c.operator with
  | .equals => actual.anyText (textEquals c.caseSensitive numeric expected)
  | .notEquals => !actual.anyText (textEquals c.caseSensitive numeric expected)
  | .contains => textRelates c.caseSensitive Text.contains actual expected
  | .notContains => !textRelates c.caseSensitive Text.contains actual expected
  | .startsWith => textRelates c.caseSensitive Text.startsWith actual expected
  | .endsWith => textRelates c.caseSensitive Text.endsWith actual expected
  | .greaterThan => numberRelates (fun a e => Number.less e a) actual expected
  | .lessThan => numberRelates Number.less actual expected
  | .greaterEqual => numberRelates (fun a e => Number.atMost e a) actual expected
  | .lessEqual => numberRelates Number.atMost actual expected
  | .isIn => isMember c.caseSensitive actual expected
  | .notIn => expected.list?.isSome && !isMember c.caseSensitive actual expected
  | .regex =>
      match pattern with
      | some e => actual.anyText e.isFoundIn
      | none => false
  | .ipInRange =>
      let ranges := (expected.list?.getD []).filterMap AddressRange.read?
      actual.anyText fun a => ranges.any fun r => r.containsText a
  | .present | .absent => true

/-- The pattern that must be compiled to judge a condition on a value. -/
def neededPattern? (c : Condition) (actual : Option Value) : Option String :=
  match c.operator, actual with
  | .regex, some v =>
      if v.isNull then none else (c.value.coerce c.valueType).bind Value.text?
  | _, _ => none

/-- Judges a condition on the value of its field, if it has one.  Only the operators for
    presence look at an absent value; to all others it is no match, negated or not. -/
def judge (c : Condition) (pattern : Option Pattern.Expr) (actual : Option Value) : Bool :=
  let found := actual.any fun v => !v.isNull
  match c.operator with
  | .present => found != c.negate
  | .absent => !found != c.negate
  | _ =>
      match actual with
      | none => false
      | some v =>
          if v.isNull then false
          else
            match c.value.coerce c.valueType with
            | none => false != c.negate
            | some expected => c.compare pattern v expected != c.negate

/-- Compiles a pattern. -/
def compile (caseSensitive : Bool) (pattern : String) : Option Pattern.Expr :=
  Pattern.Expr.read? (!caseSensitive) pattern

/-- Whether a condition matches the value of its field. -/
def holds (c : Condition) (actual : Option Value) : Bool :=
  c.judge ((c.neededPattern? actual).bind (compile c.caseSensitive)) actual

end Condition

/-- Compiled patterns by the text of the pattern, with a flag for those that ignore case.  A
    pattern that does not compile is kept as such. -/
structure PatternCache where
  capacity : Nat
  entries : List (String × Option Pattern.Expr) := []
  deriving Inhabited

namespace PatternCache

/-- The capacity of a cache when none is given. -/
def defaultCapacity : Nat := 1024

/-- An empty cache; it has room for at least one pattern. -/
def ofCapacity (n : Nat) : PatternCache :=
  { capacity := Nat.max n 1 }

/-- The cache when no capacity is given. -/
def empty : PatternCache := ofCapacity defaultCapacity

/-- The number of patterns kept. -/
def size (cache : PatternCache) : Nat :=
  cache.entries.length

/-- Drops all patterns. -/
def clear (cache : PatternCache) : PatternCache :=
  { cache with entries := [] }

/-- The text under which a pattern is kept. -/
def keyOf (caseSensitive : Bool) (pattern : String) : String :=
  if caseSensitive then pattern else "(?i)" ++ pattern

/-- Keeps one more pattern; a full cache is emptied first. -/
def insert (cache : PatternCache) (key : String) (compiled : Option Pattern.Expr) :
    PatternCache :=
  if cache.capacity ≤ cache.size then { cache with entries := [(key, compiled)] }
  else { cache with entries := (key, compiled) :: cache.entries }

/-- The compiled pattern, taken from the cache or compiled and kept. -/
def compile (cache : PatternCache) (caseSensitive : Bool) (pattern : String) :
    Option Pattern.Expr × PatternCache :=
  let key := keyOf caseSensitive pattern
  match cache.entries.lookup key with
  | some compiled => (compiled, cache)
  | none =>
      let compiled := Condition.compile caseSensitive pattern
      (compiled, cache.insert key compiled)

/-- Whether a condition matches the value of its field, by the patterns of the cache. -/
def judge (cache : PatternCache) (c : Condition) (actual : Option Value) : Bool × PatternCache :=
  match c.neededPattern? actual with
  | none => (c.judge none actual, cache)
  | some pattern =>
      let (compiled, cache) := cache.compile c.caseSensitive pattern
      (c.judge compiled actual, cache)

end PatternCache

end Verdict
