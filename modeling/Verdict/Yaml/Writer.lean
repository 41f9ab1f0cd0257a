import Verdict.Yaml.Meaning

/-!
# Writing YAML

`Json.yaml` lays a value out in blocks.  A text is written plain where it reads back as the same
text, as a literal block when it has several lines, and quoted otherwise.
-/

namespace Verdict.Yaml

/-- Whether a text would be read as something else if it stood plain. -/
def isAmbiguous (s : String) : Bool :=
  plainJson? s != some (.str s) || Scalar.isDigitText s

/-- The characters that stand as they are in every style. -/
def isPrintable (c : Char) : Bool :=
  let n := c.toNat
  n == 10 || (0x20 ≤ n && n ≤ 0x7e) || (0xa0 ≤ n && n ≤ 0xd7ff) || (0xe000 ≤ n && n ≤ 0xfffd &&
    n != 0xfeff)

/-- Whether a text goes on with a blank, a line break or nothing. -/
def beforeBlank : List Char → Bool
  | [] => true
  | c :: _ => isBlankOrBreak c || c == '\x00'

/-- Whether the characters after a text's start hold a sign that ends a plain text: a colon
    before a blank, or a number sign after one. -/
def hasInnerSign (before : Char) : List Char → Bool
  | [] => false
  | c :: cs =>
      (c == ':' && beforeBlank cs) || (c == '#' && (isBlankOrBreak before || before == '\x00')) ||
        hasInnerSign c cs

/-- Whether a text starts with a sign that means something else. -/
def hasLeadingSign : List Char → Bool
  | [] => false
  | c :: cs =>
      "#,[]\x7b\x7d&*!|>'\"%@\x60".toList.contains c ||
        ((c == '?' || c == ':' || c == '-') && beforeBlank cs)

/-- Whether two given kinds of characters follow each other. -/
def follows (p q : Char → Bool) : List Char → Bool
  | a :: b :: cs => (p a && q b) || follows p q (b :: cs)
  | _ => false

/-- What the styles of scalars depend on. -/
structure Shape where
  /-- Whether there are line breaks. -/
  broken : Bool
  plain : Bool
  singleQuoted : Bool
  block : Bool

/-- The shape of a text. -/
def Shape.ofChars (cs : List Char) : Shape :=
  let isSpace (c : Char) : Bool := c == ' '
  let broken := cs.any isBreak
  let special := cs.any (fun c => !isPrintable c) || follows isSpace isBreak cs
  let edge (c : Option Char) : Bool := c.any fun c => isSpace c || isBreak c
  let signs := hasLeadingSign cs || "---".toList.isPrefixOf cs || "...".toList.isPrefixOf cs ||
    (match cs with
      | [] => false
      | c :: rest => hasInnerSign c rest)
  { broken := broken
    plain := !(special || broken || edge cs.head? || edge cs.getLast? || signs)
    singleQuoted := !(special || follows isBreak isSpace cs)
    block := !(special || cs.isEmpty || cs.getLast? == some ' ') }

/-- A number of blanks. -/
def blanks (n : Nat) : List Char :=
  List.replicate n ' '

/-- The capital hexadecimal digits of a number, at least `width`. -/
def capitalHex (width n : Nat) : List Char :=
  let digits := (Nat.toDigits 16 n).map Char.toUpper
  List.replicate (width - digits.length) '0' ++ digits

/-- A character inside double quotes. -/
def escapeChar (c : Char) : List Char :=
  let n := c.toNat
  if n == 0 then ['\\', '0']
  else if n == 7 then ['\\', 'a']
  else if n == 8 then ['\\', 'b']
  else if n == 9 then ['\\', 't']
  else if n == 10 then ['\\', 'n']
  else if n == 11 then ['\\', 'v']
  else if n == 12 then ['\\', 'f']
  else if n == 13 then ['\\', 'r']
  else if n == 27 then ['\\', 'e']
  else if c == '"' then ['\\', '"']
  else if c == '\\' then ['\\', '\\']
  else if n == 0x85 then ['\\', 'N']
  else if n == 0x2028 then ['\\', 'L']
  else if n == 0x2029 then ['\\', 'P']
  else if isPrintable c then [c]
  else if n ≤ 0xff then '\\' :: 'x' :: capitalHex 2 n
  else if n ≤ 0xffff then '\\' :: 'u' :: capitalHex 4 n
  else '\\' :: 'U' :: capitalHex 8 n

/-- The characters of lines, each line after a break moved in. -/
def moveIn (indent : Nat) (esc : Char → List Char) : Bool → List Char → List Char
  | _, [] => []
  | broken, c :: cs =>
      if isBreak c then c :: moveIn indent esc true cs
      else (if broken then blanks indent else []) ++ esc c ++ moveIn indent esc false cs

/-- A text between single quotes. -/
def singleQuoted (indent : Nat) (cs : List Char) : List Char :=
  let inner := moveIn indent (fun c => if c == '\'' then ['\'', '\''] else [c]) false cs
  '\'' :: inner ++ (if cs.getLast?.any isBreak then blanks indent else []) ++ ['\'']

/-- A text between double quotes. -/
def doubleQuoted (cs : List Char) : List Char :=
  '"' :: cs.flatMap escapeChar ++ ['"']

/-- The sign after a literal's bar that says what becomes of the line breaks at its end. -/
def chompingSign (cs : List Char) : List Char :=
  match cs.reverse with
  | [] => ['-']
  | last :: before =>
      if !isBreak last then ['-']
      else
        match before with
        | [] => ['+']
        | c :: _ => if isBreak c then ['+'] else []

/-- A text as a literal block, without the line break after its last line. -/
def literal (indent : Nat) (cs : List Char) : List Char :=
  let hint := if cs.head?.any fun c => c == ' ' || isBreak c then ['2'] else []
  let body := moveIn indent (fun c => [c]) true cs
  '|' :: hint ++ chompingSign cs ++ '\n' :: body

/-- A text in the style that suits it, and whether it ends with a line break. -/
def scalar (indent : Nat) (s : String) : List Char × Bool :=
  let cs := s.toList
  let shape := Shape.ofChars cs
  let quoted := if shape.singleQuoted then singleQuoted indent cs else doubleQuoted cs
  if cs.contains '\n' then
    if shape.block then (literal indent cs, cs.getLast?.any isBreak)
    else (doubleQuoted cs, false)
  else if !isAmbiguous s && shape.plain then (cs, false)
  else (quoted, false)

/-- The longest key that stands before a colon on its line, in bytes. -/
def maxKeyLength : Nat := 128

/-- Text being written: the characters so far, and whether a line has just begun. -/
structure Page where
  chars : List Char
  atLineStart : Bool

namespace Page

/-- Adds characters to the line. -/
def add (p : Page) (cs : List Char) : Page := ⟨p.chars ++ cs, false⟩

/-- Starts a line with some blanks, unless one has just begun. -/
def line (p : Page) (indent : Nat) : Page :=
  ⟨p.chars ++ (if p.atLineStart then [] else ['\n']) ++ blanks indent, false⟩

/-- Adds a text. -/
def addText (p : Page) (indent : Nat) (s : String) : Page :=
  let (cs, ended) := scalar indent s
  ⟨p.chars ++ cs, ended⟩

end Page

/-- The text of a number. -/
def numberText : Json.Number → List Char
  | .int n => (toString n).toList
  | .float x => (Number.scientific "" x).toList

/-- Writes a key with its colon.  A key that is long or has several lines stands after a question
    mark. -/
def writeKey (indent : Nat) (p : Page) (key : String) : Page :=
  if key.toList.any isBreak || maxKeyLength < key.utf8ByteSize then
    (((p.add ['?', ' ']).addText (indent + 2) key).line indent).add [':']
  else (p.addText (indent + 2) key).add [':']

mutual

/-- Writes a value after a colon or a hyphen.  Inside a map a list is not moved in, inside a list
    the first line of a block goes on where the hyphen stands. -/
def write (indent : Nat) (inMap : Bool) (p : Page) : Json → Page
  | .null => p.add " null".toList
  | .bool b => p.add (if b then " true" else " false").toList
  | .num n => p.add (' ' :: numberText n)
  | .str s => (p.add [' ']).addText (indent + 2) s
  | .arr [] => p.add " []".toList
  | .obj [] => p.add " \x7b\x7d".toList
  | .arr (j :: js) =>
      if inMap then writeItems indent p (j :: js)
      else writeItems (indent + 2) (write (indent + 2) false (p.add [' ', '-']) j) js
  | .obj ((key, j) :: ms) =>
      if inMap then writeMembers (indent + 2) p ((key, j) :: ms)
      else
        writeMembers (indent + 2)
          (write (indent + 2) true (writeKey (indent + 2) (p.add [' ']) key) j) ms

/-- Writes the items of a list, each on its line. -/
def writeItems (indent : Nat) (p : Page) : List Json → Page
  | [] => p
  | j :: js => writeItems indent (write indent false ((p.line indent).add ['-']) j) js

/-- Writes the members of a map, each on its line. -/
def writeMembers (indent : Nat) (p : Page) : List (String × Json) → Page
  | [] => p
  | (key, j) :: ms =>
      writeMembers indent (write indent true (writeKey indent (p.line indent) key) j) ms

end

/-- The text of a value. -/
def text (j : Json) : String :=
  let page : Page :=
    match j with
    | .obj (m :: ms) => writeMembers 0 ⟨[], true⟩ (m :: ms)
    | .arr (j :: js) => writeItems 0 ⟨[], true⟩ (j :: js)
    | j =>
        let p := write 0 true ⟨[], true⟩ j
        { p with chars := p.chars.drop 1 }
  String.ofList (page.chars ++ if page.atLineStart then [] else ['\n'])

end Verdict.Yaml
