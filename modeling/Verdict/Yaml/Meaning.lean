import Verdict.Json.Basic
import Verdict.Yaml.Node
import Verdict.Yaml.Scalar

/-!
# What YAML nodes mean

`Node.json?` is the plain value that a node stands for.  A plain scalar shows its kind by its
spelling, a quoted one is a text, and a core tag fixes the kind.
-/

namespace Verdict.Yaml

/-- The tag of one of the kinds of scalars that every document knows. -/
def coreTag (kind : String) : String :=
  "tag:yaml.org,2002:" ++ kind

/-- A tag of the document's own, which names a variant, without its exclamation mark. -/
def variantTag? (tag : Option String) : Option String :=
  match tag with
  | none => none
  | some t =>
      match t.toList with
      | ['!'] => some "!"
      | '!' :: rest => some (String.ofList rest)
      | _ => none

/-- Integers that fit 64 bits, with or without a sign. -/
def isWord (n : Int) : Bool :=
  -(Nat.pow 2 63 : Int) ≤ n && n < Nat.pow 2 64

/-- Integers that fit 128 bits; those that do not fit 64 are refused. -/
def isDoubleWord (n : Int) : Bool :=
  -(Nat.pow 2 127 : Int) ≤ n && n < Nat.pow 2 128

/-- The meaning of a plain scalar without a tag. -/
def plainJson? (text : String) : Option Json :=
  if text.isEmpty || Scalar.isNullWord text then some .null
  else
    match Scalar.readBool? text with
    | some b => some (.bool b)
    | none =>
        match (Scalar.readInt? text).filter isDoubleWord with
        | some n => if isWord n then some (.ofInt n) else none
        | none =>
            match if Scalar.isDigitText text then none else Scalar.readFloat? text with
            | some x => some (.ofFloat x)
            | none => some (.str text)

/-- The meaning of a scalar: a core tag fixes the kind, a plain one shows it, and all others are
    texts.  A tag of the document's own is refused. -/
def scalarJson? (style : Style) (tag : Option String) (text : String) : Option Json :=
  match tag with
  | none => if style == .plain then plainJson? text else some (.str text)
  | some t =>
      if (variantTag? tag).isSome then none
      else if t == coreTag "bool" then (Scalar.readBool? text).map .bool
      else if t == coreTag "int" then
        ((Scalar.readInt? text).filter isWord).map .ofInt
      else if t == coreTag "float" then (Scalar.readFloat? text).map .ofFloat
      else if t == coreTag "null" then
        if Scalar.isNullWord text then some .null else none
      else some (.str text)

namespace Node

mutual

/-- The JSON value that a YAML node stands for. -/
def json? : Node → Option Json
  | .void => some .null
  | .endless => none
  | .scalar style tag text => scalarJson? style tag text
  | .list tag items =>
      if (variantTag? tag).isSome then none else (itemsJson? items).map .arr
  | .map tag entries =>
      if (variantTag? tag).isSome then none else (entriesJson? entries).map .obj

/-- `json?` on each of some nodes. -/
def itemsJson? : List Node → Option (List Json)
  | [] => some []
  | n :: ns =>
      match json? n, itemsJson? ns with
      | some j, some js => some (j :: js)
      | _, _ => none

/-- `json?` on each entry of a map; every key must have a text. -/
def entriesJson? : List (Option String × Node) → Option (List (String × Json))
  | [] => some []
  | (key, n) :: es =>
      match key, json? n, entriesJson? es with
      | some key, some j, some js => some ((key, j) :: js)
      | _, _, _ => none

end

end Node

end Verdict.Yaml
