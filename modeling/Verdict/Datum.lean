import Verdict.Json.Basic
import Verdict.KeyMap
import Verdict.Value
import Verdict.Yaml.Meaning

/-!
# Data before it has a type

A `Datum` is what a file or a message holds: a JSON value or a YAML node.  The readings here say
what it counts as where a text, a number, a list or a record is wanted.  JSON is strict about
kinds, while YAML takes a scalar by its text; a YAML document that is empty counts as an empty
list or record.  Parts of a JSON text that have no value are refused where something is wanted of
them, and only there.
-/

namespace Verdict

/-- A JSON value or a YAML node. -/
inductive Datum where
  | json (j : Json)
  | yaml (n : Yaml.Node)
  deriving Repr, Inhabited

/-- The name of a record's field and the other names under which it is read. -/
structure FieldName where
  name : String
  others : List String := []

/-- The fields of a record that are known and present, under their own names. -/
abbrev Fields := List (String × Datum)

namespace Datum

/-- The text of a scalar that stands for a value of the given kind: a plain one, or a literal
    one with the tag of that kind. -/
def wordOf? (kind : String) : Yaml.Node → Option String
  | .scalar .plain _ text => some text
  | .scalar .literal tag text => if tag == some (Yaml.coreTag kind) then some text else none
  | _ => none

/-- Whether a node counts as an empty list or record. -/
def isBlankNode : Yaml.Node → Bool
  | .void => true
  | .scalar .plain _ text => text.isEmpty
  | _ => false

/-- The text, where a text is wanted. -/
def text? : Datum → Option String
  | .json (.str s) => some s
  | .json _ => none
  | .yaml n => n.scalarText?

/-- The truth value, where one is wanted. -/
def bool? : Datum → Option Bool
  | .json (.bool b) => some b
  | .json _ => none
  | .yaml n => (wordOf? "bool" n).bind Yaml.Scalar.readBool?

/-- The natural number up to a bound, where one is wanted. -/
def nat? (bound : Nat) (d : Datum) : Option Nat :=
  let n? : Option Nat :=
    match d with
    | .json (.num (.int (.ofNat n))) => some n
    | .json _ => none
    | .yaml n => (wordOf? "int" n).bind Yaml.Scalar.readNat?
  n?.filter (· ≤ bound)

/-- The integer between two bounds, where one is wanted. -/
def int? (low high : Int) (d : Datum) : Option Int :=
  let n? : Option Int :=
    match d with
    | .json (.num (.int n)) => some n
    | .json _ => none
    | .yaml n => (wordOf? "int" n).bind Yaml.Scalar.readInt?
  n?.filter fun n => low ≤ n && n ≤ high

/-- The float, where one is wanted; an integer counts as one. -/
def float? : Datum → Option Float
  | .json (.num n) => if n.isSound then some n.toFloat else none
  | .json _ => none
  | .yaml n => (wordOf? "float" n).bind Yaml.Scalar.readFloat?

/-- Whether the datum says that an optional value is absent; nothing where it says neither. -/
def isAbsent? : Datum → Option Bool
  | .json .null => some true
  | .json _ => some false
  | .yaml .void => some true
  | .yaml (.scalar .plain none text) => some (text.isEmpty || Yaml.Scalar.isNullWord text)
  | .yaml (.scalar .plain (some tag) text) =>
      if tag == Yaml.coreTag "null" then if Yaml.Scalar.isNullWord text then some true else none
      else some false
  | .yaml _ => some false

/-- An optional value. -/
def optional? {α : Type} (read : Datum → Option α) (d : Datum) : Option (Option α) :=
  match isAbsent? d with
  | none => none
  | some true => some none
  | some false => (read d).map some

/-- The items, where a list is wanted. -/
def items? : Datum → Option (List Datum)
  | .json (.arr items) => some (items.map .json)
  | .json _ => none
  | .yaml (.list _ items) => some (items.map .yaml)
  | .yaml n => if isBlankNode n then some [] else none

/-- A list of values. -/
def list? {α : Type} (read : Datum → Option α) (d : Datum) : Option (List α) :=
  d.items?.bind (List.mapM read)

/-- A list of texts. -/
def texts? (d : Datum) : Option (List String) :=
  list? text? d

/-- The members, where a map is wanted.  Every key must have a text. -/
def members? : Datum → Option (List (String × Datum))
  | .json (.obj members) => some (members.map fun (k, j) => (k, .json j))
  | .json _ => none
  | .yaml (.map _ entries) =>
      entries.mapM fun (k, n) => k.map fun k => (k, .yaml n)
  | .yaml n => if isBlankNode n then some [] else none

/-- A map of values. -/
def map? {α : Type} (read : Datum → Option α) (d : Datum) : Option (KeyMap α) := do
  let members ← d.members?
  let entries ← members.mapM fun (k, d) => (read d).map fun a => (k, a)
  return .ofList entries

/-- Whether a plain scalar means null, so that nothing but its tag is read. -/
def isUnit : Yaml.Node → Bool
  | .void => true
  | .scalar .plain tag text =>
      if tag == some (Yaml.coreTag "null") then Yaml.Scalar.isNullWord text
      else text.isEmpty || Yaml.Scalar.isNullWord text
  | _ => false

/-- The name of a variant that carries nothing.  In JSON it is a text, or an object with the
    name as its only member and null under it; in YAML a scalar, or a tag on an empty one. -/
def variant? : Datum → Option String
  | .json (.str s) => some s
  | .json (.obj [(s, .null)]) => some s
  | .json _ => none
  | .yaml (.scalar style tag text) =>
      match Yaml.variantTag? tag with
      | some name => if isUnit (.scalar style none text) then some name else none
      | none => some text
  | .yaml _ => none

/-- The canonical name under which a member is read. -/
def fieldOf? (names : List FieldName) (key : String) : Option String :=
  (names.find? fun f => f.name == key || f.others.contains key).map FieldName.name

/-- Collects the known members; a field that is given twice is refused. -/
def collect (names : List FieldName) : List (String × Datum) → Fields → Option Fields
  | [], found => some found
  | (key, d) :: rest, found =>
      match fieldOf? names key with
      | none => collect names rest found
      | some name =>
          if (found.lookup name).isSome then none else collect names rest ((name, d) :: found)

/-- The fields of a record.  A JSON array gives them in the order of the names, and may leave
    out the last ones. -/
def fields? (names : List FieldName) (d : Datum) : Option Fields :=
  match d with
  | .json (.arr items) =>
      if names.length < items.length then none
      else some ((names.map FieldName.name).zip (items.map .json))
  | d => d.members?.bind fun members => collect names members []

end Datum

namespace Fields

/-- A field that must be present. -/
def required {α : Type} (fields : Fields) (name : String) (read : Datum → Option α) : Option α :=
  (fields.lookup name).bind read

/-- A field that may be left out. -/
def orElse {α : Type} (fields : Fields) (name : String) (default : α) (read : Datum → Option α) :
    Option α :=
  match fields.lookup name with
  | none => some default
  | some d => read d

/-- A field that may be left out or be absent. -/
def optional {α : Type} (fields : Fields) (name : String) (read : Datum → Option α) :
    Option (Option α) :=
  fields.orElse name none (Datum.optional? read)

end Fields

namespace Datum

/-- The plain value of a datum, the members of its objects in the order of their names. -/
def json? : Datum → Option Json
  | .json j => if j.isSound then some j.normal else none
  | .yaml n => n.json?.map Json.normal

/-- The compared value of a datum. -/
def value? (d : Datum) : Option Value :=
  d.json?.map Value.ofJson

end Datum

end Verdict
