import Verdict.Text.Blank

/-!
# Places in a YAML text

A `Cursor` is the rest of a text with its distance from the start, its line and its column.  The
character classes of the format are here too: what ends a line, what separates words, and which
characters a text may hold at all.
-/

namespace Verdict.Yaml

/-- Spaces and tabs. -/
def isBlank (c : Char) : Bool :=
  c == ' ' || c == '\t'

/-- The characters that end a line. -/
def isBreak (c : Char) : Bool :=
  c == '\n' || c == '\r' || c == '\x85' || c == '\u2028' || c == '\u2029'

/-- Blanks and line breaks. -/
def isBlankOrBreak (c : Char) : Bool :=
  isBlank c || isBreak c

/-- The characters of anchors and directive names. -/
def isWordChar (c : Char) : Bool :=
  c.isAlphanum || c == '_' || c == '-'

/-- The characters that a text may hold. -/
def isAllowed (c : Char) : Bool :=
  let n := c.toNat
  n == 9 || n == 10 || n == 13 || (0x20 ≤ n && n ≤ 0x7e) || n == 0x85 ||
    (0xa0 ≤ n && n ≤ 0xd7ff) || (0xe000 ≤ n && n ≤ 0xfffd) || 0x10000 ≤ n

/-- Whether a text is at its end or goes on with a blank or a line break. -/
def atBlankOrEnd : List Char → Bool
  | [] => true
  | c :: _ => isBlankOrBreak c

/-- Whether a line starts with the sign of a document's start or end. -/
def atDocumentSign : List Char → Bool
  | '-' :: '-' :: '-' :: rest => atBlankOrEnd rest
  | '.' :: '.' :: '.' :: rest => atBlankOrEnd rest
  | _ => false

/-- A place in a text. -/
structure Cursor where
  rest : List Char
  index : Nat
  line : Nat
  column : Nat
  deriving Repr

namespace Cursor

/-- The start of a text. -/
def start (cs : List Char) : Cursor := ⟨cs, 0, 0, 0⟩

/-- Moves over `n` characters of a line. -/
def skip (c : Cursor) (n : Nat) : Cursor :=
  { c with rest := c.rest.drop n, index := c.index + n, column := c.column + n }

/-- Moves over the characters of a line for which `p` holds. -/
def skipWhile (p : Char → Bool) (c : Cursor) : Cursor :=
  c.skip (c.rest.takeWhile p).length

/-- Moves over a line break, and gives it in the form that texts keep. -/
def takeBreak (c : Cursor) : List Char × Cursor :=
  match c.rest with
  | '\r' :: '\n' :: rest => (['\n'], ⟨rest, c.index + 2, c.line + 1, 0⟩)
  | b :: rest =>
      (if b == '\u2028' || b == '\u2029' then [b] else ['\n'], ⟨rest, c.index + 1, c.line + 1, 0⟩)
  | [] => ([], c)

/-- Whether the next character is a line break. -/
def atBreak (c : Cursor) : Bool :=
  match c.rest with
  | [] => false
  | b :: _ => isBreak b

/-- Whether the next character is a blank. -/
def atBlank (c : Cursor) : Bool :=
  match c.rest with
  | [] => false
  | b :: _ => isBlank b

end Cursor

/-- The blanks and line breaks between two words. -/
structure Gap where
  blanks : List Char := []
  firstBreak : List Char := []
  moreBreaks : List Char := []
  broken : Bool := false
  deriving Repr

namespace Gap

/-- What a gap contributes to a text: blanks stay, one line break becomes a space, and of
    several line breaks the first is dropped. -/
def fold (g : Gap) : List Char :=
  if !g.broken then g.blanks
  else if g.firstBreak == ['\n'] then
    if g.moreBreaks.isEmpty then [' '] else g.moreBreaks
  else g.firstBreak ++ g.moreBreaks

/-- Moves over blanks and line breaks.  Where `indent` is given, a tab in the indentation of a
    line is refused. -/
def take (indent : Option Nat) : Nat → Gap → Cursor → Option (Gap × Cursor)
  | 0, _, _ => none
  | fuel + 1, g, c =>
      match c.rest with
      | [] => some (g, c)
      | b :: _ =>
          if isBlank b then
            if g.broken then
              if b == '\t' && indent.any (c.column < ·) then none
              else take indent fuel g (c.skip 1)
            else take indent fuel { g with blanks := g.blanks ++ [b] } (c.skip 1)
          else if isBreak b then
            let (kept, c) := c.takeBreak
            if g.broken then take indent fuel { g with moreBreaks := g.moreBreaks ++ kept } c
            else take indent fuel { g with blanks := [], firstBreak := kept, broken := true } c
          else some (g, c)

end Gap

end Verdict.Yaml
