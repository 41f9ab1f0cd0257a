import Verdict.Number.Decimal
import Verdict.Number.Order
import Verdict.Text.Hex

/-!
# What plain scalars of YAML mean

The words for null and the truth values, and the spellings of integers and floats.  Digits after
a leading zero are a text, not a number.
-/

namespace Verdict.Yaml.Scalar

/-- The words for null. -/
def isNullWord (s : String) : Bool :=
  s == "null" || s == "Null" || s == "NULL" || s == "~"

/-- The words for the truth values. -/
def readBool? (s : String) : Option Bool :=
  if s == "true" || s == "True" || s == "TRUE" then some true
  else if s == "false" || s == "False" || s == "FALSE" then some false
  else none

/-- The value of digits in a base, at least one. -/
def readDigits? (base : Nat) (cs : List Char) : Option Nat :=
  if cs.isEmpty then none
  else
    cs.foldlM (fun n c =>
      (Text.hexValue? c).bind fun d => if d < base then some (base * n + d) else none) 0

/-- Several digits of which the first is a zero. -/
def hasLeadingZero : List Char → Bool
  | '0' :: c :: cs => (c :: cs).all Char.isDigit
  | _ => false

/-- The value of digits, or of a base mark `0x`, `0o` or `0b` and digits of that base. -/
def readMagnitude? : List Char → Option Nat
  | '0' :: 'x' :: cs => readDigits? 16 cs
  | '0' :: 'o' :: cs => readDigits? 8 cs
  | '0' :: 'b' :: cs => readDigits? 2 cs
  | cs => if hasLeadingZero cs then none else readDigits? 10 cs

/-- Reads an integer with an optional sign. -/
def readInt? (s : String) : Option Int :=
  match s.toList with
  | '+' :: cs => (readMagnitude? cs).map Int.ofNat
  | '-' :: cs => (readMagnitude? cs).map fun n => -(n : Int)
  | cs => (readMagnitude? cs).map Int.ofNat

/-- Reads a natural number, which has no minus sign. -/
def readNat? (s : String) : Option Nat :=
  match s.toList with
  | '+' :: cs => readMagnitude? cs
  | cs => readMagnitude? cs

/-- Reads a float: a decimal number, or a word for infinity or not-a-number that starts with a
    point. -/
def readFloat? (s : String) : Option Float :=
  let infinity : Float := 1.0 / 0.0
  if s == ".inf" || s == ".Inf" || s == ".INF" || s == "+.inf" || s == "+.Inf" || s == "+.INF" then
    some infinity
  else if s == "-.inf" || s == "-.Inf" || s == "-.INF" then some (-infinity)
  else if s == ".nan" || s == ".NaN" || s == ".NAN" then some (0.0 / 0.0)
  else (Number.readFloat? s).filter Number.isFinite

/-- Whether the text is digits after a leading zero, with an optional sign. -/
def isDigitText (s : String) : Bool :=
  match s.toList with
  | '+' :: cs | '-' :: cs => hasLeadingZero cs
  | cs => hasLeadingZero cs

end Verdict.Yaml.Scalar
