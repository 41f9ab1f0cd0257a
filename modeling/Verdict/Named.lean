import Verdict.Datum

/-!
# Types whose values have names

A finite type of `Named` values is read and written by the names of its values; some values are
read under further names.
-/

namespace Verdict

/-- A finite type with a name for each value. -/
class Named (α : Type) where
  /-- All values. -/
  all : List α
  /-- The name under which a value is written. -/
  name : α → String
  /-- Further names under which values are read. -/
  otherNames : List (String × α) := []

namespace Named

variable {α : Type} [Named α]

/-- The value of a name. -/
def ofName? (s : String) : Option α :=
  ((all : List α).find? fun a => name a == s).or (List.lookup s otherNames)

/-- The value that a datum names. -/
def ofDatum? (d : Datum) : Option α :=
  d.variant?.bind ofName?

/-- The name as a JSON text. -/
def toJson (a : α) : Json :=
  .str (name a)

end Named

end Verdict
