import Verdict.KeyMap
import Verdict.Number.Decimal
import Verdict.Number.Order

/-!
# JSON values

A value keeps its numbers as integers or floats, as its text spelled them, and the members of an
object in the order of the text, repeated names included.  `Json.normal` is the value read as
nested maps: members sorted by name, the last of several equal names winning.
-/

namespace Verdict

/-- A JSON number: an integer, or a float when the text has a fraction or an exponent. -/
inductive Json.Number where
  | int (n : Int)
  | float (x : Float)
  deriving Repr, BEq, Inhabited

/-- A JSON value. -/
inductive Json where
  | null
  | bool (b : Bool)
  | num (n : Json.Number)
  | str (s : String)
  | arr (items : List Json)
  | obj (members : List (String × Json))
  deriving Repr, BEq, Inhabited

namespace Json

/-- The number as a float. -/
def Number.toFloat : Number → Float
  | .int n => Number.ofInt n
  | .float x => x

/-- A float as a value; one that is not finite has no number and becomes null. -/
def ofFloat (x : Float) : Json :=
  if Number.isFinite x then .num (.float x) else .null

/-- An integer as a value. -/
def ofInt (n : Int) : Json :=
  .num (.int n)

/-- A natural number as a value. -/
def ofNat (n : Nat) : Json :=
  .num (.int n)

/-- A list of texts as a value. -/
def ofStrings (ss : List String) : Json :=
  .arr (ss.map .str)

/-- An optional text as a value. -/
def ofOptional (s : Option String) : Json :=
  match s with
  | none => .null
  | some s => .str s

/-- Members sorted by name, the last of several equal names winning. -/
def sortMembers (members : List (String × Json)) : List (String × Json) :=
  (KeyMap.ofList members).entries

mutual

/-- The value read as nested maps from names to values. -/
def normal : Json → Json
  | .arr items => .arr (normalItems items)
  | .obj members => .obj (sortMembers (normalMembers members))
  | j => j

/-- `normal` on each item. -/
def normalItems : List Json → List Json
  | [] => []
  | j :: js => normal j :: normalItems js

/-- `normal` on the value of each member. -/
def normalMembers : List (String × Json) → List (String × Json)
  | [] => []
  | (name, j) :: ms => (name, normal j) :: normalMembers ms

end

/-- The value of the last member with the given name. -/
def lookup (name : String) : List (String × Json) → Option Json
  | [] => none
  | (key, value) :: rest => (lookup name rest).or (if key == name then some value else none)

/-- The value of a member of an object. -/
def member? (name : String) : Json → Option Json
  | .obj members => lookup name members
  | _ => none

/-- Whether the value is null. -/
def isNull : Json → Bool
  | .null => true
  | _ => false

/-! ## Parts of a text without a value

A text may have parts that its grammar allows and that stand for no value.  They are kept as numbers
that are not finite, which no value has. -/

/-- What stands for a part without a value. -/
def spoilt : Json :=
  .num (.float (1 / 0))

/-- Whether a number has a value. -/
def Number.isSound : Number → Bool
  | .int _ => true
  | .float x => Verdict.Number.isFinite x

mutual

/-- The numbers inside a value. -/
def numbers : Json → List Number
  | .num n => [n]
  | .arr items => itemNumbers items
  | .obj members => memberNumbers members
  | .null | .bool _ | .str _ => []

/-- The numbers inside items. -/
def itemNumbers : List Json → List Number
  | [] => []
  | j :: js => numbers j ++ itemNumbers js

/-- The numbers inside the values of members. -/
def memberNumbers : List (String × Json) → List Number
  | [] => []
  | (_, j) :: ms => numbers j ++ memberNumbers ms

end

/-- Whether all parts have a value. -/
def isSound (j : Json) : Bool :=
  j.numbers.all Number.isSound

end Json

end Verdict
