import Verdict.Unicode.Ranges
import Verdict.Unicode.CategoryTable
import Verdict.Unicode.ScriptTable
import Verdict.Unicode.PropertyTable

/-!
# Sets of characters by name

`charSet?` finds the set that a name stands for: a binary property, a general category or a
script; `charSetOf?` finds it for a kind of property and a value.  Names are compared without
case, blanks, hyphens and underscores.
-/

namespace Verdict.Unicode

/-- A set of characters: in `include`, or in the ranges `besides`, and not in `except`. -/
structure CharSet where
  members : Ranges
  except : Ranges
  deriving Repr, BEq, DecidableEq, Inhabited

/-- Membership. -/
def CharSet.has (set : CharSet) (c : Char) : Bool :=
  set.members.has c && !set.except.has c

/-- A name without case, blanks, hyphens, underscores and a leading `is`. -/
def plainName (cs : List Char) : String :=
  let kept := (cs.filter fun c => !(c == ' ' || c == '_' || c == '-')).map Char.toLower
  match kept with
  | 'i' :: 's' :: rest => if rest == ['c'] then "isc" else String.ofList rest
  | _ => String.ofList kept

/-- The ranges listed for a name. -/
def lookupRanges (name : String) (table : List (List String × List String)) : Option Ranges :=
  (table.find? fun entry => entry.1.contains name).map fun entry => Ranges.read entry.2

/-- The categories that a group of categories consists of. -/
def groupOf? (name : String) : Option (List String) :=
  match name with
  | "c" | "other" => some ["cc", "cf", "cn", "co"]
  | "l" | "letter" => some ["ll", "lm", "lo", "lt", "lu"]
  | "lc" | "casedletter" => some ["ll", "lt", "lu"]
  | "m" | "mark" | "combiningmark" => some ["mc", "me", "mn"]
  | "n" | "number" => some ["nd", "nl", "no"]
  | "p" | "punctuation" | "punct" => some ["pc", "pd", "pe", "pf", "pi", "po", "ps"]
  | "s" | "symbol" => some ["sc", "sk", "sm", "so"]
  | "z" | "separator" => some ["zl", "zp", "zs"]
  | "cs" | "surrogate" => some []
  | _ => none

/-- The characters of several categories. -/
def categoriesRanges (names : List String) : Ranges :=
  names.flatMap fun name => (lookupRanges name categoryTable).getD []

/-- Every character. -/
def allRanges : Ranges := [(0, 0x10ffff)]

/-- The set that a general category name stands for. -/
def category? (name : String) : Option CharSet :=
  match name with
  | "any" => some ⟨allRanges, []⟩
  | "assigned" => some ⟨allRanges, categoriesRanges ["cn"]⟩
  | "ascii" => some ⟨[(0, 0x7f)], []⟩
  | _ =>
      match groupOf? name with
      | some names => some ⟨categoriesRanges names, []⟩
      | none => (lookupRanges name categoryTable).map fun ranges => ⟨ranges, []⟩

/-- The set of a binary property. -/
def Property.charSet (p : Property) : CharSet :=
  ⟨Ranges.read p.besides ++ categoriesRanges p.categories, Ranges.read p.except⟩

/-- The set that the name of a binary property stands for. -/
def property? (name : String) : Option CharSet :=
  (propertyTable.find? fun p => p.names.contains name).map Property.charSet

/-- The set that the name of a script stands for. -/
def script? (name : String) : Option CharSet :=
  (lookupRanges name scriptTable).map fun ranges => ⟨ranges, []⟩

/-- The set of a script with the characters it shares with others. -/
def scriptExtension? (name : String) : Option CharSet :=
  match lookupRanges name scriptExtensionTable with
  | some ranges => some ⟨ranges, []⟩
  | none => script? name

/-- The set that a single name stands for. -/
def charSet? (name : List Char) : Option CharSet :=
  let plain := plainName name
  if plain == "cf" || plain == "sc" || plain == "lc" then category? plain
  else ((property? plain).or (category? plain)).or (script? plain)

/-- The set of a kind of property with a value. -/
def charSetOf? (kind value : List Char) : Option CharSet :=
  let plain := plainName value
  match plainName kind with
  | "gc" | "generalcategory" => category? plain
  | "sc" | "script" => script? plain
  | "scx" | "scriptextensions" => scriptExtension? plain
  | _ => none

/-- The characters that words are made of. -/
def wordSet : CharSet :=
  (property? "word").getD default

/-- The decimal digits. -/
def digitSet : CharSet :=
  (category? "nd").getD default

/-- The blank characters. -/
def spaceSet : CharSet :=
  (property? "whitespace").getD default

/-- Whether a character is a letter or a number of some script. -/
def isAlphanumeric (c : Char) : Bool :=
  let isIn (set : Option CharSet) : Bool := set.any fun s => s.has c
  if c.toNat < 128 then c.isAlphanum
  else isIn (property? "alphabetic") || isIn (category? "number")

end Verdict.Unicode
