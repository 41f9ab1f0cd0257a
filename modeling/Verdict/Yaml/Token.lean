import Verdict.Unicode.Ranges
import Verdict.Yaml.Cursor

/-!
# Tokens of YAML

`Token.scan` turns a text into tokens.  Besides the signs that stand in the text it produces the
tokens that indentation implies: the start of a block list or block map, and the end of a block.
A key is found only at the colon after it, so the place where a key may have started is kept, and
its token is put there afterwards.
-/

namespace Verdict.Yaml

/-- How a scalar is written. -/
inductive Style where
  | plain
  | quoted
  | literal
  | folded
  deriving Repr, DecidableEq

/-- A token. -/
inductive Token where
  | version (major minor : Nat)
  | tagHandle (handle lead : String)
  | documentStart
  | documentEnd
  | blockList
  | blockMap
  | blockEnd
  | flowList
  | flowListEnd
  | flowMap
  | flowMapEnd
  | entry
  | comma
  | key
  | value
  | alias (name : String)
  | anchor (name : String)
  | tag (handle suffix : String)
  | scalar (style : Style) (text : String)
  deriving Repr, DecidableEq

/-- A place where a key may have started: the number of its first token, where it stands, and
    whether nothing but a key may stand there. -/
structure KeyPlace where
  required : Bool
  token : Nat
  index : Nat
  line : Nat
  column : Nat
  deriving Repr

/-- The scanner: the tokens so far, the open indentations, and for each level of flow
    collections, innermost first, where a key may have started. -/
structure Scanner where
  cursor : Cursor
  tokens : Array Token
  indent : Int
  indents : List Int
  keyAllowed : Bool
  keys : List (Option KeyPlace)
  deriving Repr

namespace Scanner

/-- Whether a flow collection is open. -/
def inFlow (s : Scanner) : Bool :=
  1 < s.keys.length

/-- Appends a token. -/
def emit (s : Scanner) (t : Token) : Scanner :=
  { s with tokens := s.tokens.push t }

/-- Moves over characters. -/
def skip (s : Scanner) (n : Nat) : Scanner :=
  { s with cursor := s.cursor.skip n }

/-- A place where a key must start may not be given up. -/
def droppable : Option KeyPlace → Bool
  | some k => !k.required
  | none => true

/-- Gives up the place where a key may have started at the current level. -/
def dropKey (s : Scanner) : Option Scanner :=
  match s.keys with
  | k :: rest => if droppable k then some { s with keys := none :: rest } else none
  | [] => none

/-- Notes the current place as one where a key may start, if one is allowed. -/
def saveKey (s : Scanner) : Option Scanner :=
  if s.keyAllowed then do
    let s ← s.dropKey
    let c := s.cursor
    let place : KeyPlace :=
      ⟨!s.inFlow && s.indent == (c.column : Int), s.tokens.size, c.index, c.line, c.column⟩
    return { s with keys := some place :: s.keys.drop 1 }
  else some s

/-- Whether a key place is too far back: on an earlier line or more than 1024 characters. -/
def isStale (s : Scanner) (k : KeyPlace) : Bool :=
  k.line < s.cursor.line || k.index + 1024 < s.cursor.index

/-- Gives up the key places that are too far back. -/
def dropStaleKeys (s : Scanner) : Option Scanner :=
  let stale := fun (k : Option KeyPlace) => k.any s.isStale
  if s.keys.any fun k => stale k && !droppable k then none
  else some { s with keys := s.keys.map fun k => if stale k then none else k }

/-- Opens a block at a column, its token appended or put at the place of its first key. -/
def openBlock (s : Scanner) (column : Nat) (place : Option Nat) (t : Token) : Scanner :=
  if s.inFlow || (column : Int) ≤ s.indent then s
  else
    let tokens :=
      match place with
      | some i => s.tokens.insertIdxIfInBounds i t
      | none => s.tokens.push t
    { s with indents := s.indent :: s.indents, indent := column, tokens := tokens }

/-- Closes the blocks that are indented more than `column`. -/
def closeBlocksTo (column : Int) : List Int → Int → Array Token → List Int × Int × Array Token
  | outer :: rest, indent, tokens =>
      if column < indent then closeBlocksTo column rest outer (tokens.push .blockEnd)
      else (outer :: rest, indent, tokens)
  | [], indent, tokens => ([], indent, tokens)

/-- Closes the blocks that are indented more than `column`, outside flow collections. -/
def closeBlocks (s : Scanner) (column : Int) : Scanner :=
  if s.inFlow then s
  else
    let (indents, indent, tokens) := closeBlocksTo column s.indents s.indent s.tokens
    { s with indents := indents, indent := indent, tokens := tokens }

/-- Moves over blanks, comments and line breaks to the next token. -/
def toNextToken : Nat → Scanner → Scanner
  | 0, s => s
  | fuel + 1, s =>
      let c := s.cursor
      let c := if c.index == 0 && c.rest.head? == some '\ufeff' then c.skip 1 else c
      let tabs := s.inFlow || !s.keyAllowed
      let c := c.skipWhile fun b => b == ' ' || (tabs && b == '\t')
      let c := if c.rest.head? == some '#' then c.skipWhile fun b => !isBreak b else c
      if c.atBreak then
        toNextToken fuel
          { s with cursor := c.takeBreak.2, keyAllowed := s.keyAllowed || !s.inFlow }
      else { s with cursor := c }

/-- Reads a number of at most nine digits. -/
def takeVersionNumber (cs : List Char) : Option (Nat × List Char) :=
  let digits := cs.takeWhile Char.isDigit
  if digits.isEmpty || 9 < digits.length then none
  else some (digits.foldl (fun n d => 10 * n + (d.toNat - 48)) 0, cs.drop digits.length)

/-- Takes a tag handle: exclamation marks around word characters, or a single mark. -/
def takeHandle (directive : Bool) (cs : List Char) : Option (List Char × List Char) :=
  match cs with
  | '!' :: rest =>
      let word := rest.takeWhile isWordChar
      match rest.dropWhile isWordChar with
      | '!' :: rest => some ('!' :: word ++ ['!'], rest)
      | rest => if directive && !word.isEmpty then none else some ('!' :: word, rest)
  | _ => none

/-- Takes the bytes of a character written by percent signs, `count` of them still to come. -/
def takeEscapedBytes : Nat → List Char → Option (List Nat × List Char)
  | 0, cs => some ([], cs)
  | count + 1, '%' :: h :: l :: cs =>
      match Text.hexValue? h, Text.hexValue? l with
      | some h, some l =>
          (takeEscapedBytes count cs).map fun (bytes, rest) => ((16 * h + l) :: bytes, rest)
      | _, _ => none
  | _ + 1, _ => none

/-- The number of bytes of a character that starts with the given byte. -/
def widthOf (byte : Nat) : Option Nat :=
  if byte < 0x80 then some 1
  else if 0xc0 ≤ byte && byte < 0xe0 then some 2
  else if 0xe0 ≤ byte && byte < 0xf0 then some 3
  else if 0xf0 ≤ byte && byte < 0xf8 then some 4
  else none

/-- Takes a character written by percent signs. -/
def takeEscapedChar (cs : List Char) : Option (Char × List Char) := do
  let (first, _) ← takeEscapedBytes 1 cs
  let width ← widthOf (first.headD 0)
  let (bytes, rest) ← takeEscapedBytes width cs
  let text ← String.fromUTF8? ⟨(bytes.map UInt8.ofNat).toArray⟩
  let c ← text.toList.head?
  return (c, rest)

/-- Takes the characters of a tag; inside angle brackets more signs are allowed. -/
def takeUri (verbatim : Bool) : Nat → List Char → Option (List Char × List Char)
  | 0, _ => none
  | _ + 1, [] => some ([], [])
  | fuel + 1, c :: cs =>
      if c == '%' then do
        let (d, rest) ← takeEscapedChar (c :: cs)
        let (more, rest) ← takeUri verbatim fuel rest
        return (d :: more, rest)
      else if isWordChar c || ";/?:@&=+$.!~*'()".toList.contains c ||
          (verbatim && ",[]".toList.contains c) then do
        let (more, rest) ← takeUri verbatim fuel cs
        return (c :: more, rest)
      else some ([], c :: cs)

/-- Reads the value of a directive, giving its token. -/
def takeDirective (name : String) (cs : List Char) : Option (Token × List Char) := do
  let cs := cs.dropWhile isBlank
  match name with
  | "YAML" =>
      let (major, cs) ← takeVersionNumber cs
      match cs with
      | '.' :: cs =>
          let (minor, cs) ← takeVersionNumber cs
          return (.version major minor, cs)
      | _ => none
  | "TAG" =>
      let (handle, cs) ← takeHandle true cs
      if !(cs.head?.any isBlank) then none
      let cs := cs.dropWhile isBlank
      let (lead, cs) ← takeUri true (cs.length + 1) cs
      if lead.isEmpty || !atBlankOrEnd cs then none
      else return (.tagHandle (String.ofList handle) (String.ofList lead), cs)
  | _ => none

/-- Moves the cursor to a later rest of its line. -/
def advanceTo (s : Scanner) (rest : List Char) : Scanner :=
  s.skip (s.cursor.rest.length - rest.length)

/-- Scans a directive. -/
def directive (s : Scanner) : Option Scanner := do
  let s ← (s.closeBlocks (-1)).dropKey
  let cs := s.cursor.rest.drop 1
  let name := cs.takeWhile isWordChar
  let cs := cs.drop name.length
  if name.isEmpty || !atBlankOrEnd cs then none
  let (token, cs) ← takeDirective (String.ofList name) cs
  let s := { (s.emit token).advanceTo cs with keyAllowed := false }
  let c := s.cursor.skipWhile isBlank
  let c := if c.rest.head? == some '#' then c.skipWhile fun b => !isBreak b else c
  if c.rest.isEmpty then return { s with cursor := c }
  else if c.atBreak then return { s with cursor := c.takeBreak.2 }
  else none

/-- Scans the sign of a document's start or end. -/
def documentSign (s : Scanner) (t : Token) : Option Scanner := do
  let s ← (s.closeBlocks (-1)).dropKey
  return { (s.skip 3).emit t with keyAllowed := false }

/-- Scans an anchor or an alias. -/
def anchorOrAlias (s : Scanner) (make : String → Token) : Option Scanner := do
  let s ← s.saveKey
  let cs := s.cursor.rest.drop 1
  let name := cs.takeWhile isWordChar
  let ended :=
    match cs.drop name.length with
    | [] => true
    | c :: _ => isBlankOrBreak c || "?:,]\x7d%@\x60".toList.contains c
  if name.isEmpty || !ended then none
  else
    return { (s.skip (name.length + 1)).emit (make (String.ofList name)) with keyAllowed := false }

/-- Reads a tag, giving its handle and suffix. -/
def takeTag (cs : List Char) : Option (String × String × List Char) :=
  match cs with
  | '!' :: '<' :: rest => do
      let (uri, rest) ← takeUri true (rest.length + 1) rest
      match rest with
      | '>' :: rest => if uri.isEmpty then none else return ("", String.ofList uri, rest)
      | _ => none
  | _ => do
      let (handle, rest) ← takeHandle false cs
      let (suffix, rest) ← takeUri false (rest.length + 1) rest
      if 1 < handle.length && handle.getLast? == some '!' then
        if suffix.isEmpty then none
        else return (String.ofList handle, String.ofList suffix, rest)
      else
        let suffix := handle.drop 1 ++ suffix
        if suffix.isEmpty then return ("", "!", rest)
        else return ("!", String.ofList suffix, rest)

/-- Scans a tag. -/
def tag (s : Scanner) : Option Scanner := do
  let s ← s.saveKey
  let (handle, suffix, rest) ← takeTag s.cursor.rest
  let ended := atBlankOrEnd rest || (s.inFlow && rest.head? == some ',')
  if ended then
    return { (s.advanceTo rest).emit (.tag handle suffix) with keyAllowed := false }
  else none

/-- Moves over the line breaks before a line of a block scalar and its indentation.  Gives the
    line breaks, the largest indentation met, and the place. -/
def blockBreaks (indent : Nat) : Nat → Nat → List Char → Cursor →
    Option (Nat × List Char × Cursor)
  | 0, _, _, _ => none
  | fuel + 1, widest, breaks, c =>
      let room := if indent == 0 then c.rest.length else indent - c.column
      let c := c.skip ((c.rest.take room).takeWhile (· == ' ')).length
      let widest := Nat.max widest c.column
      if (indent == 0 || c.column < indent) && c.rest.head? == some '\t' then none
      else if c.atBreak then
        let (kept, c) := c.takeBreak
        blockBreaks indent fuel widest (breaks ++ kept) c
      else some (widest, breaks, c)

/-- Reads the lines of a block scalar.  `held` is the line break after the last line and
    `breaks` are the empty lines after it. -/
def blockLines (folded : Bool) (indent : Nat) :
    Nat → List Char → List Char → List Char → Bool → Cursor →
    Option (List Char × List Char × List Char × Cursor)
  | 0, _, _, _, _, _ => none
  | fuel + 1, text, held, breaks, blankBefore, c =>
      if c.column == indent && !c.rest.isEmpty then
        let blankNow := c.atBlank
        let joined :=
          if folded && held == ['\n'] && !blankBefore && !blankNow then
            if breaks.isEmpty then [' '] else []
          else held
        let line := c.rest.takeWhile fun b => !isBreak b
        let c := c.skip line.length
        let (held, c) := c.takeBreak
        match blockBreaks indent (c.rest.length + 1) 0 [] c with
        | none => none
        | some (_, later, c) =>
            blockLines folded indent fuel (text ++ joined ++ breaks ++ line) held later blankNow c
      else some (text, held, breaks, c)

/-- What happens to the line breaks at the end of a block scalar. -/
inductive Chomping where
  | strip
  | clip
  | keep
  deriving DecidableEq

/-- Reads the signs after the indicator of a block scalar: what to do with the last line breaks,
    and the indentation relative to the block around it. -/
def blockHeader (cs : List Char) : Option (Chomping × Nat × List Char) :=
  let sign? : List Char → Option (Chomping × List Char)
    | '+' :: rest => some (.keep, rest)
    | '-' :: rest => some (.strip, rest)
    | _ => none
  let digit? : List Char → Option (Nat × List Char)
    | c :: rest => if c.isDigit then some (c.toNat - 48, rest) else none
    | [] => none
  match sign? cs with
  | some (chomping, rest) =>
      match digit? rest with
      | some (0, _) => none
      | some (n, rest) => some (chomping, n, rest)
      | none => some (chomping, 0, rest)
  | none =>
      match digit? cs with
      | some (0, _) => none
      | some (n, rest) =>
          match sign? rest with
          | some (chomping, rest) => some (chomping, n, rest)
          | none => some (.clip, n, rest)
      | none => some (.clip, 0, cs)

/-- Scans a block scalar. -/
def blockScalar (s : Scanner) (style : Style) : Option Scanner := do
  let s ← s.dropKey
  let (chomping, increment, rest) ← blockHeader (s.cursor.rest.drop 1)
  let c := (s.advanceTo rest).cursor.skipWhile isBlank
  let c := if c.rest.head? == some '#' then c.skipWhile fun b => !isBreak b else c
  if !c.rest.isEmpty && !c.atBreak then none
  let c := if c.atBreak then c.takeBreak.2 else c
  let given := if increment == 0 then 0 else if 0 ≤ s.indent then s.indent.toNat + increment
    else increment
  let (widest, breaks, c) ← blockBreaks given (c.rest.length + 1) 0 [] c
  let indent :=
    if given == 0 then Nat.max 1 (Nat.max widest (s.indent + 1).toNat) else given
  let (text, held, breaks, c) ←
    blockLines (style == .folded) indent (c.rest.length + 1) [] [] breaks false c
  let text := if chomping == .strip then text else text ++ held
  let text := if chomping == .keep then text ++ breaks else text
  return { s.emit (.scalar style (String.ofList text)) with cursor := c, keyAllowed := true }

/-- The character with the given hexadecimal code, if there is one. -/
def charOfCode? (digits : List Char) : Option Char :=
  let n := Unicode.Ranges.readHex digits
  if digits.all (fun c => (Text.hexValue? c).isSome) && n.isValidChar then some (Char.ofNat n)
  else none

/-- Reads an escape after its backslash. -/
def takeEscape (cs : List Char) : Option (Char × List Char) :=
  let code (count : Nat) (rest : List Char) : Option (Char × List Char) :=
    if rest.length < count then none
    else (charOfCode? (rest.take count)).map fun c => (c, rest.drop count)
  match cs with
  | '0' :: rest => some ('\x00', rest)
  | 'a' :: rest => some ('\x07', rest)
  | 'b' :: rest => some ('\x08', rest)
  | 't' :: rest | '\t' :: rest => some ('\t', rest)
  | 'n' :: rest => some ('\n', rest)
  | 'v' :: rest => some ('\x0b', rest)
  | 'f' :: rest => some ('\x0c', rest)
  | 'r' :: rest => some ('\r', rest)
  | 'e' :: rest => some ('\x1b', rest)
  | ' ' :: rest => some (' ', rest)
  | '"' :: rest => some ('"', rest)
  | '/' :: rest => some ('/', rest)
  | '\\' :: rest => some ('\\', rest)
  | 'N' :: rest => some ('\x85', rest)
  | '_' :: rest => some ('\xa0', rest)
  | 'L' :: rest => some ('\u2028', rest)
  | 'P' :: rest => some ('\u2029', rest)
  | 'x' :: rest => code 2 rest
  | 'u' :: rest => code 4 rest
  | 'U' :: rest => code 8 rest
  | _ => none

/-- Reads characters of a quoted scalar up to a blank, a line break or the closing quote.  The
    flag reports that an escaped line break ended them. -/
def quotedWord (single : Bool) : Nat → List Char → Cursor → Option (List Char × Bool × Cursor)
  | 0, _, _ => none
  | fuel + 1, text, c =>
      match c.rest with
      | [] => some (text, false, c)
      | b :: rest =>
          if isBlankOrBreak b then some (text, false, c)
          else if single then
            if b == '\'' then
              if rest.head? == some '\'' then quotedWord single fuel (text ++ ['\'']) (c.skip 2)
              else some (text, false, c)
            else quotedWord single fuel (text ++ [b]) (c.skip 1)
          else if b == '"' then some (text, false, c)
          else if b == '\\' then
            match rest with
            | [] => none
            | e :: _ =>
                if isBreak e then some (text, true, (c.skip 1).takeBreak.2)
                else
                  match takeEscape rest with
                  | none => none
                  | some (d, after) =>
                      quotedWord single fuel (text ++ [d]) (c.skip (c.rest.length - after.length))
          else quotedWord single fuel (text ++ [b]) (c.skip 1)

/-- Reads a quoted scalar after its opening quote. -/
def quotedText (single : Bool) : Nat → List Char → Cursor → Option (List Char × Cursor)
  | 0, _, _ => none
  | fuel + 1, text, c =>
      if c.column == 0 && atDocumentSign c.rest then none
      else
        match quotedWord single (c.rest.length + 1) text c with
        | none => none
        | some (text, escaped, c) =>
            match c.rest with
            | [] => none
            | b :: _ =>
                if b == (if single then '\'' else '"') then some (text, c.skip 1)
                else
                  match Gap.take none (c.rest.length + 1) { broken := escaped } c with
                  | none => none
                  | some (gap, c) => quotedText single fuel (text ++ gap.fold) c

/-- Scans a quoted scalar. -/
def quoted (s : Scanner) (single : Bool) : Option Scanner := do
  let s ← s.saveKey
  let c := s.cursor.skip 1
  let (text, c) ← quotedText single (c.rest.length + 2) [] c
  return { s.emit (.scalar .quoted (String.ofList text)) with cursor := c, keyAllowed := false }

/-- Takes characters of a plain scalar up to a blank, a line break or a sign that ends it. -/
def plainWord (flow : Bool) : List Char → Option (List Char × List Char)
  | [] => some ([], [])
  | c :: cs =>
      if isBlankOrBreak c then some ([], c :: cs)
      else if flow && c == ':' && cs.head?.any fun d => ",?[]\x7b\x7d".toList.contains d then none
      else if c == ':' && atBlankOrEnd cs then some ([], c :: cs)
      else if flow && ",[]\x7b\x7d".toList.contains c then some ([], c :: cs)
      else (plainWord flow cs).map fun (word, rest) => (c :: word, rest)

/-- Reads a plain scalar.  The flag reports that line breaks follow it. -/
def plainText (flow : Bool) (indent : Nat) :
    Nat → List Char → Gap → Cursor → Option (List Char × Bool × Cursor)
  | 0, _, _, _ => none
  | fuel + 1, text, gap, c =>
      if (c.column == 0 && atDocumentSign c.rest) || c.rest.head? == some '#' then
        some (text, gap.broken, c)
      else
        match plainWord flow c.rest with
        | none => none
        | some (word, _) =>
            let text := if word.isEmpty then text else text ++ gap.fold ++ word
            let gap : Gap := if word.isEmpty then gap else {}
            let c := c.skip word.length
            if !(c.atBlank || c.atBreak) then some (text, gap.broken, c)
            else
              match Gap.take (some indent) (c.rest.length + 1) gap c with
              | none => none
              | some (gap, c) =>
                  if !flow && c.column < indent then some (text, gap.broken, c)
                  else plainText flow indent fuel text gap c

/-- Scans a plain scalar. -/
def plain (s : Scanner) : Option Scanner := do
  let s ← s.saveKey
  let (text, broken, c) ←
    plainText s.inFlow (s.indent + 1).toNat (s.cursor.rest.length + 1) [] {} s.cursor
  return { s.emit (.scalar .plain (String.ofList text)) with cursor := c, keyAllowed := broken }

/-- Scans the start of a flow collection. -/
def openFlow (s : Scanner) (t : Token) : Option Scanner := do
  let s ← s.saveKey
  return { (s.skip 1).emit t with keys := none :: s.keys, keyAllowed := true }

/-- Scans the end of a flow collection. -/
def closeFlow (s : Scanner) (t : Token) : Option Scanner := do
  let s ← s.dropKey
  let keys := if s.inFlow then s.keys.drop 1 else s.keys
  return { (s.skip 1).emit t with keys := keys, keyAllowed := false }

/-- Scans the sign of a list entry. -/
def blockEntry (s : Scanner) : Option Scanner := do
  if !s.inFlow && !s.keyAllowed then none
  let s ← (s.openBlock s.cursor.column none .blockList).dropKey
  return { (s.skip 1).emit .entry with keyAllowed := true }

/-- Scans the sign of a key. -/
def keySign (s : Scanner) : Option Scanner := do
  if !s.inFlow && !s.keyAllowed then none
  let s ← (s.openBlock s.cursor.column none .blockMap).dropKey
  return { (s.skip 1).emit .key with keyAllowed := !s.inFlow }

/-- Scans the sign of a value, putting the token of its key before it where a key may have
    started. -/
def valueSign (s : Scanner) : Option Scanner := do
  match s.keys with
  | some place :: rest =>
      let s := { s with tokens := s.tokens.insertIdxIfInBounds place.token .key }
      let s := s.openBlock place.column (some place.token) .blockMap
      return { (s.skip 1).emit .value with keys := none :: rest, keyAllowed := false }
  | _ =>
      if !s.inFlow && !s.keyAllowed then none
      let s := s.openBlock s.cursor.column none .blockMap
      return { (s.skip 1).emit .value with keyAllowed := !s.inFlow }

/-- Whether a plain scalar may start here. -/
def startsPlain (flow : Bool) (c : Char) (rest : List Char) : Bool :=
  !(isBlankOrBreak c || "-?:,[]\x7b\x7d#&*!|>'\"%@\x60".toList.contains c) ||
    (c == '-' && !(rest.head?.any isBlank)) ||
    (!flow && (c == '?' || c == ':') && !atBlankOrEnd rest)

/-- Scans one token at its first character. -/
def token (s : Scanner) (c : Char) (rest : List Char) : Option Scanner :=
  let flow := s.inFlow
  let lineStart := s.cursor.column == 0
  if lineStart && c == '%' then s.directive
  else if lineStart && atDocumentSign (c :: rest) then
    s.documentSign (if c == '-' then .documentStart else .documentEnd)
  else if c == '[' then s.openFlow .flowList
  else if c == '{' then s.openFlow .flowMap
  else if c == ']' then s.closeFlow .flowListEnd
  else if c == '}' then s.closeFlow .flowMapEnd
  else if c == ',' then do
    let s ← s.dropKey
    return { (s.skip 1).emit .comma with keyAllowed := true }
  else if c == '-' && atBlankOrEnd rest then s.blockEntry
  else if c == '?' && (flow || atBlankOrEnd rest) then s.keySign
  else if c == ':' && (flow || atBlankOrEnd rest) then s.valueSign
  else if c == '*' then s.anchorOrAlias .alias
  else if c == '&' then s.anchorOrAlias .anchor
  else if c == '!' then s.tag
  else if c == '|' && !flow then s.blockScalar .literal
  else if c == '>' && !flow then s.blockScalar .folded
  else if c == '\'' then s.quoted true
  else if c == '"' then s.quoted false
  else if startsPlain flow c rest then s.plain
  else none

/-- Ends the stream: every block is closed and no key may be left waiting. -/
def finish (s : Scanner) : Option (List Token) := do
  let s ← (s.closeBlocks (-1)).dropKey
  return s.tokens.toList

/-- Scans tokens to the end of the text; every token takes at least one character. -/
def run : Nat → Scanner → Option (List Token)
  | 0, _ => none
  | fuel + 1, s => do
      let s ← (toNextToken (s.cursor.rest.length + 1) s).dropStaleKeys
      let s := s.closeBlocks s.cursor.column
      match s.cursor.rest with
      | [] => s.finish
      | c :: rest => run fuel (← s.token c rest)

end Scanner

/-- The tokens of a text. -/
def Token.scan (cs : List Char) : Option (List Token) :=
  if cs.all isAllowed then
    Scanner.run (cs.length + 1) ⟨Cursor.start cs, #[], -1, [], true, [none]⟩
  else none

end Verdict.Yaml
