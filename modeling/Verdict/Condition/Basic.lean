import Verdict.Address
import Verdict.Issue
import Verdict.Named
import Verdict.Pattern.Grammar

/-!
# Conditions

A condition tests the value of one field with an operator.  `Condition.issues` finds what an
author did wrong, and `isFieldName` is the grammar of field names.
-/

namespace Verdict

/-- How a field's value is tested. -/
inductive Operator where
  | equals
  | notEquals
  | contains
  | notContains
  | startsWith
  | endsWith
  | greaterThan
  | lessThan
  | greaterEqual
  | lessEqual
  | isIn
  | notIn
  | regex
  | present
  | absent
  | ipInRange
  deriving Repr, DecidableEq, Inhabited

instance : Named Operator where
  all := [.equals, .notEquals, .contains, .notContains, .startsWith, .endsWith, .greaterThan,
    .lessThan, .greaterEqual, .lessEqual, .isIn, .notIn, .regex, .present, .absent, .ipInRange]
  name
    | .equals => "equals"
    | .notEquals => "not_equals"
    | .contains => "contains"
    | .notContains => "not_contains"
    | .startsWith => "starts_with"
    | .endsWith => "ends_with"
    | .greaterThan => "greater_than"
    | .lessThan => "less_than"
    | .greaterEqual => "greater_equal"
    | .lessEqual => "less_equal"
    | .isIn => "in"
    | .notIn => "not_in"
    | .regex => "regex"
    | .present => "exists"
    | .absent => "not_exists"
    | .ipInRange => "ip_in_range"
  otherNames := [("greater_than_or_equal", .greaterEqual), ("less_than_or_equal", .lessEqual),
    ("matches", .regex)]

namespace Operator

/-- The operators that look at presence only. -/
def isExistence : Operator → Bool
  | .present | .absent => true
  | _ => false

/-- The operators that compare numbers by size. -/
def isOrdering : Operator → Bool
  | .greaterThan | .lessThan | .greaterEqual | .lessEqual => true
  | _ => false

end Operator

/-- How a condition joins the outcome of the conditions before it. -/
inductive Connective where
  | and
  | or
  deriving Repr, DecidableEq, Inhabited

instance : Named Connective where
  all := [.and, .or]
  name
    | .and => "and"
    | .or => "or"

instance : Named ValueType where
  all := [.auto, .string, .number, .boolean, .list]
  name
    | .auto => "auto"
    | .string => "string"
    | .number => "number"
    | .boolean => "boolean"
    | .list => "list"

/-- A test of one field.  The weight counts only for confidence. -/
structure Condition where
  field : String
  operator : Operator
  value : Value := .null
  valueType : ValueType := .auto
  caseSensitive : Bool := true
  negate : Bool := false
  weight : Float := 1
  connective : Connective := .and
  deriving Repr, BEq, Inhabited

/-- The characters of field names. -/
def isFieldChar (c : Char) : Bool :=
  c.isAlphanum || c == '_' || c == '-'

/-- Whether the characters may start a field name: a letter or an underscore, then any
    characters of field names. -/
def isFieldHead : List Char → Bool
  | [] => false
  | c :: cs => (c.isAlpha || c == '_') && (c :: cs).all isFieldChar

/-- Whether the characters may follow a dot in a field name. -/
def isFieldTail (cs : List Char) : Bool :=
  !cs.isEmpty && cs.all isFieldChar

/-- Whether a text is a name of a field: pieces joined by dots, of which the first is an
    identifier. -/
def isFieldName (s : String) : Bool :=
  match Text.splitAt '.' s.toList with
  | [] => false
  | head :: tail => isFieldHead head && tail.all isFieldTail

namespace Condition

/-- Whether a weight counts: finite and not negative. -/
def isWeight (x : Float) : Bool :=
  Number.isFinite x && !Number.less x 0

/-- What is wrong with the value of a condition. -/
def valueIssues (c : Condition) : List Issue :=
  if c.operator.isExistence then []
  else if c.operator == .regex then
    match c.value.text? with
    | none => [.noPattern c.field]
    | some pattern =>
        if (Pattern.Expr.read? false pattern).isSome then [] else [.badPattern c.field]
  else if c.operator == .ipInRange then
    let ranges := c.value.list?.getD []
    if ranges.isEmpty then [.noRanges c.field]
    else
      (ranges.filter fun r => (AddressRange.read? r).isNone).map fun r => .badRange c.field r
  else if c.operator.isOrdering then
    if c.value.number?.isSome then [] else [.needsNumber c.field (Named.name c.operator)]
  else if c.value.isNull then [.needsValue c.field (Named.name c.operator)]
  else []

/-- Everything that is wrong with a condition. -/
def issues (c : Condition) : List Issue :=
  (if isFieldName c.field then [] else [.badFieldName c.field]) ++
    (if isWeight c.weight then [] else [.badWeight c.field c.weight]) ++ c.valueIssues

/-- The names of a condition's fields. -/
def fieldNames : List FieldName :=
  [⟨"field", []⟩, ⟨"operator", []⟩, ⟨"value", []⟩, ⟨"value_type", ["valueType"]⟩,
    ⟨"case_sensitive", ["caseSensitive"]⟩, ⟨"negate", []⟩, ⟨"weight", []⟩,
    ⟨"logic_op", ["logicOp"]⟩]

/-- Reads a condition. -/
def ofDatum? (d : Datum) : Option Condition := do
  let fields ← d.fields? fieldNames
  return {
    field := ← fields.required "field" Datum.text?
    operator := ← fields.required "operator" Named.ofDatum?
    value := ← fields.orElse "value" .null Datum.value?
    valueType := ← fields.orElse "value_type" .auto Named.ofDatum?
    caseSensitive := ← fields.orElse "case_sensitive" true Datum.bool?
    negate := ← fields.orElse "negate" false Datum.bool?
    weight := ← fields.orElse "weight" 1 Datum.float?
    connective := ← fields.orElse "logic_op" .and Named.ofDatum? }

/-- The JSON form of a condition. -/
def toJson (c : Condition) : Json :=
  .obj [("field", .str c.field), ("operator", Named.toJson c.operator),
    ("value", c.value.toJson), ("value_type", Named.toJson c.valueType),
    ("case_sensitive", .bool c.caseSensitive), ("negate", .bool c.negate),
    ("weight", .ofFloat c.weight), ("logic_op", Named.toJson c.connective)]

/-- A condition that a field is present. -/
def ofPresence (field : String) : Condition :=
  { field := field, operator := .present }

end Condition

end Verdict
