import Verdict.Text.Hex
import Verdict.Json.Basic

/-!
# JSON texts

Three layouts of one grammar.  `Json.compact` has no blanks, `Json.pretty` has a line for each
item and two blanks for each level, and `Json.canonical` is the compact text of the value read as
nested maps, with every control character written by its code.
-/

namespace Verdict.Json

/-- A character written by its code: a backslash, `u` and four hexadecimal digits. -/
def codeEscape (c : Char) : List Char :=
  let n := c.toNat
  ['\\', 'u', Text.hexDigit (n / 4096 % 16), Text.hexDigit (n / 256 % 16), Text.hexDigit (n / 16 % 16),
    Text.hexDigit (n % 16)]

/-- A character inside a string: quotes, backslashes and the characters below the blank are
    escaped. -/
def escape (c : Char) : List Char :=
  match c with
  | '"' => ['\\', '"']
  | '\\' => ['\\', '\\']
  | '\n' => ['\\', 'n']
  | '\r' => ['\\', 'r']
  | '\t' => ['\\', 't']
  | '\x08' => ['\\', 'b']
  | '\x0c' => ['\\', 'f']
  | c => if c.toNat < 32 then codeEscape c else [c]

/-- A character inside a canonical string: every control character that has no short form is
    written by its code. -/
def canonicalEscape (c : Char) : List Char :=
  match c with
  | '"' => ['\\', '"']
  | '\\' => ['\\', '\\']
  | '\n' => ['\\', 'n']
  | '\r' => ['\\', 'r']
  | '\t' => ['\\', 't']
  | c => if c.toNat < 32 || (127 ≤ c.toNat && c.toNat < 160) then codeEscape c else [c]

/-- A string between quotes. -/
def quote (esc : Char → List Char) (s : String) : List Char :=
  '"' :: (s.toList.flatMap esc ++ ['"'])

/-- The text of a number: integers in decimal, floats by their shortest digits. -/
def Number.text : Number → String
  | .int n => toString n
  | .float x => Number.scientific "+" x

mutual

/-- The text without blanks, with the given escapes inside strings. -/
def write (esc : Char → List Char) : Json → List Char
  | .null => "null".toList
  | .bool b => (if b then "true" else "false").toList
  | .num n => n.text.toList
  | .str s => quote esc s
  | .arr items => '[' :: (writeItems esc true items ++ [']'])
  | .obj members => '{' :: (writeMembers esc true members ++ ['}'])

/-- Items, with a comma before each but the first. -/
def writeItems (esc : Char → List Char) (first : Bool) : List Json → List Char
  | [] => []
  | j :: js => (if first then [] else [',']) ++ write esc j ++ writeItems esc false js

/-- Members, with a comma before each but the first. -/
def writeMembers (esc : Char → List Char) (first : Bool) : List (String × Json) → List Char
  | [] => []
  | (name, j) :: ms =>
      (if first then [] else [',']) ++ quote esc name ++ ':' :: write esc j ++
        writeMembers esc false ms

end

/-- The text without blanks. -/
def compact (j : Json) : String :=
  String.ofList (write escape j)

/-- The canonical text: names sorted, no blanks, control characters written by their codes. -/
def canonical (j : Json) : String :=
  String.ofList (write canonicalEscape j.normal)

/-- A new line and two blanks for each level. -/
def newLine (level : Nat) : List Char :=
  '\n' :: List.replicate (2 * level) ' '

mutual

/-- The text with a line for each item, at the given level. -/
def layOut (level : Nat) : Json → List Char
  | .arr [] => ['[', ']']
  | .arr (j :: js) => '[' :: (layOutItems (level + 1) true (j :: js) ++ newLine level ++ [']'])
  | .obj [] => ['{', '}']
  | .obj (m :: ms) => '{' :: (layOutMembers (level + 1) true (m :: ms) ++ newLine level ++ ['}'])
  | .null => "null".toList
  | .bool b => (if b then "true" else "false").toList
  | .num n => n.text.toList
  | .str s => quote escape s

/-- Items, each on its line. -/
def layOutItems (level : Nat) (first : Bool) : List Json → List Char
  | [] => []
  | j :: js =>
      (if first then [] else [',']) ++ newLine level ++ layOut level j ++ layOutItems level false js

/-- Members, each on its line. -/
def layOutMembers (level : Nat) (first : Bool) : List (String × Json) → List Char
  | [] => []
  | (name, j) :: ms =>
      (if first then [] else [',']) ++ newLine level ++ quote escape name ++
        ':' :: ' ' :: layOut level j ++ layOutMembers level false ms

end

/-- The text with a line for each item and two blanks for each level. -/
def pretty (j : Json) : String :=
  String.ofList (layOut 0 j)

end Verdict.Json
