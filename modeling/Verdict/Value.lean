import Verdict.Text.Blank
import Verdict.Text.Pieces
import Verdict.Json.Writer

/-!
# Values compared by conditions

Field values and expected values are both reduced to `Value`.  `Value.ofJson` flattens what a
request carries, `Value.toJson` is the way back, and the readings `text?`, `number?`, `list?` and
`isActive` are what the operators look at.
-/

namespace Verdict

/-- A resolved or expected value. -/
inductive Value where
  | null
  | bool (b : Bool)
  | number (x : Float)
  | text (s : String)
  | list (items : List String)
  deriving Repr, BEq, Inhabited

/-- The declared type of an expected value. -/
inductive ValueType where
  | auto
  | string
  | number
  | boolean
  | list
  deriving Repr, DecidableEq, Inhabited

namespace Value

/-- The bound below which integral numbers are written as integers: `10 ^ 15`. -/
def integerBound : Nat := Nat.pow 10 15

/-- The integer that `x` is, when it lies strictly between `-10 ^ 15` and `10 ^ 15`. -/
def smallInt? (x : Float) : Option Int :=
  match Number.toInt? x with
  | some n => if n.natAbs < integerBound then some n else none
  | none => none

/-- The text of a number: small integers in decimal, all else in full decimal notation. -/
def numberText (x : Float) : String :=
  match smallInt? x with
  | some n => toString n
  | none => Number.plain x

/-- The text of a truth value. -/
def boolText (b : Bool) : String :=
  if b then "true" else "false"

/-- The text that the textual operators see; null has none. -/
def text? : Value → Option String
  | .null => none
  | .bool b => some (boolText b)
  | .number x => some (numberText x)
  | .text s => some s
  | .list items => some (",".intercalate items)

/-- The text shown for a value; null shows as the word. -/
def display (v : Value) : String :=
  v.text?.getD "null"

/-- A finite decimal number, blanks around it ignored. -/
def readNumber? (s : String) : Option Float :=
  (Number.readFloat? (Text.trim s)).filter Number.isFinite

/-- The numeric reading: a finite number, or a text that spells one. -/
def number? : Value → Option Float
  | .number x => if Number.isFinite x then some x else none
  | .text s => readNumber? s
  | _ => none

/-- The members of a comma-separated text, trimmed, without empty ones. -/
def members (s : String) : List String :=
  ((Text.split s ',').map Text.trim).filter fun part => !part.isEmpty

/-- The list reading: a text is cut at commas, any other scalar is its only member. -/
def list? : Value → Option (List String)
  | .list items => some items
  | .text s => some (members s)
  | .null => none
  | v => v.text?.map fun t => [t]

/-- The words for yes. -/
def isYes (s : String) : Bool :=
  s == "true" || s == "yes" || s == "1"

/-- The words for no. -/
def isNo (s : String) : Bool :=
  s == "false" || s == "no" || s == "0"

/-- Whether a factor counts as present: true, a word for yes, or a positive number. -/
def isActive : Value → Bool
  | .bool b => b
  | .number x => Number.less 0 x
  | .text s => isYes (Text.toAsciiLower (Text.trim s))
  | .null | .list _ => false

/-- The truth value that a text spells. -/
def readBool? (s : String) : Option Bool :=
  let word := Text.toAsciiLower (Text.trim s)
  if isYes word then some true else if isNo word then some false else none

/-- The value read as its declared type, if it can be. -/
def coerce (v : Value) : ValueType → Option Value
  | .auto => some v
  | .string => v.text?.map .text
  | .number => v.number?.map .number
  | .boolean =>
      match v with
      | .bool b => some (.bool b)
      | .text s => (readBool? s).map .bool
      | .number x => some (.bool !(Number.same x 0))
      | _ => none
  | .list => v.list?.map .list

/-- Whether the value is null. -/
def isNull : Value → Bool
  | .null => true
  | _ => false

mutual

/-- The reduction of a JSON value: arrays become lists of texts, objects their compact text. -/
def ofJson : Json → Value
  | .null => .null
  | .bool b => .bool b
  | .num n => .number n.toFloat
  | .str s => .text s
  | .arr items => .list (itemTexts items)
  | .obj members => .text (Json.compact (Json.normal (.obj members)))

/-- The texts of array items. -/
def itemTexts : List Json → List String
  | [] => []
  | j :: js => display (ofJson j) :: itemTexts js

end

/-- The JSON form: small integral numbers are integers, others floats. -/
def toJson : Value → Json
  | .null => .null
  | .bool b => .bool b
  | .number x =>
      match smallInt? x with
      | some n => .ofInt n
      | none => .ofFloat x
  | .text s => .str s
  | .list items => .ofStrings items

end Value

end Verdict
