import Verdict.Number.Decimal
import Verdict.Pattern.Expr

/-!
# The grammar of patterns

`Expr.read?` reads the text of a pattern.  Characters stand for themselves except the usual
signs: classes in brackets, groups, alternation, repetition, escapes, tests of places and flags.
There are no back references and no look-around.  A text that breaks the grammar, names an
unknown property, nests deeper than `maxNesting` or needs more storage than `maxSize` is refused.
-/

namespace Verdict.Pattern

open Verdict.Unicode

/-- What the flags of a group switch on. -/
structure Flags where
  caseless : Bool := false
  multiLine : Bool := false
  dotAll : Bool := false
  unicode : Bool := true
  anyLineEnd : Bool := false
  spaced : Bool := false
  deriving Repr, DecidableEq

/-- Groups, classes, repetitions, sequences and alternations nest at most this deep. -/
def maxNesting : Nat := 250

/-- A matcher takes at most this many bytes. -/
def maxSize : Nat := 10 * Nat.pow 2 20

/-- Skips blanks, and comments up to the end of their lines. -/
def skipBlanks : Bool → List Char → List Char
  | _, [] => []
  | true, c :: cs => if c == '\n' then skipBlanks false cs else skipBlanks true cs
  | false, c :: cs =>
      if Text.isBlank c then skipBlanks false cs
      else if c == '#' then skipBlanks true cs
      else c :: cs

/-- Skips blanks and comments where the flags say that they do not count. -/
def Flags.skip (f : Flags) (cs : List Char) : List Char :=
  if f.spaced then skipBlanks false cs else cs

/-- What an escape or a single character stands for. -/
inductive Primitive where
  /-- A character; `code` says that it was written by a code of two digits. -/
  | literal (c : Char) (code : Bool)
  | cls (c : CharClass)
  | look (l : Look)

/-- The signs that stand for themselves after a backslash in every grammar of patterns. -/
def isSign (c : Char) : Bool :=
  "\\.+*?()|[]\x7b\x7d^$#&-~".toList.contains c

/-- The class closed under case where the flags ask for it. -/
def Flags.fold (f : Flags) (cls : CharClass) : CharClass :=
  if f.caseless && f.unicode then .folded cls else cls

/-- A class of ASCII ranges, closed under case where the flags ask for it. -/
def Flags.asciiClass (f : Flags) (ranges : Ranges) : CharClass :=
  if f.caseless && !f.unicode then .ofRanges (CharClass.asciiFolded ranges)
  else f.fold (.ofRanges ranges)

/-- The complement of a class, which without Unicode would hold parts of characters. -/
def Flags.complement? (f : Flags) (negated : Bool) (cls : CharClass) : Option CharClass :=
  if !negated then some cls
  else if f.unicode then some (.complement cls)
  else none

/-- The class of a single character. -/
def Flags.charClass? (f : Flags) (c : Char) (code : Bool) : Option CharClass :=
  if f.unicode then some (f.fold (.ofChar c))
  else if code && 128 ≤ c.toNat then none
  else some (f.asciiClass [(c.toNat, c.toNat)])

/-- The class that the dot stands for. -/
def Flags.dot? (f : Flags) : Option CharClass :=
  if !f.unicode then none
  else if f.dotAll then some (.ofRanges allRanges)
  else if f.anyLineEnd then some (.complement (.ofRanges [(10, 10), (13, 13)]))
  else some (.complement (.ofChar '\n'))

/-- The classes of digits, blanks and word characters; a capital letter is the complement. -/
def Flags.shortClass? (f : Flags) (letter : Char) : Option CharClass :=
  let negated := letter.isUpper
  match letter.toLower with
  | 'd' => f.complement? negated (if f.unicode then .set digitSet else .ofRanges [(48, 57)])
  | 's' =>
      f.complement? negated (if f.unicode then .set spaceSet else .ofRanges [(9, 13), (32, 32)])
  | _ =>
      f.complement? negated
        (if f.unicode then .set wordSet else .ofRanges [(48, 57), (65, 90), (95, 95), (97, 122)])

/-- The character with a hexadecimal code. -/
def charOfHex? (digits : List Char) : Option Char :=
  let n := Ranges.readHex digits
  if digits.all (fun c => (Text.hexValue? c).isSome) && !digits.isEmpty && n.isValidChar then
    some (Char.ofNat n)
  else none

/-- Takes `count` hexadecimal digits, blanks between them where the flags allow. -/
def takeHex (f : Flags) : Nat → List Char → Option (List Char × List Char)
  | 0, cs => some ([], cs)
  | _ + 1, [] => none
  | count + 1, c :: cs =>
      if (Text.hexValue? c).isSome then
        (takeHex f count (f.skip cs)).map fun (digits, rest) => (c :: digits, rest)
      else none

/-- Takes characters up to a closing brace, blanks between them where the flags allow. -/
def takeBraced (f : Flags) : Nat → List Char → Option (List Char × List Char)
  | 0, _ => none
  | _ + 1, [] => none
  | fuel + 1, c :: cs =>
      if c == '}' then some ([], cs)
      else (takeBraced f fuel (f.skip cs)).map fun (inside, rest) => (c :: inside, rest)

/-- Reads a hexadecimal escape after its letter. -/
def readHexEscape (f : Flags) (letter : Char) (cs : List Char) :
    Option (Primitive × List Char) :=
  match f.skip cs with
  | '{' :: rest => do
      let (digits, rest) ← takeBraced f (rest.length + 1) (f.skip rest)
      let c ← charOfHex? digits
      return (.literal c false, f.skip rest)
  | rest => do
      let (digits, rest) ←
        takeHex f (if letter == 'x' then 2 else if letter == 'u' then 4 else 8) rest
      let c ← charOfHex? digits
      return (.literal c (letter == 'x'), f.skip rest)

/-- The class of a property between braces: a name, or a kind and a value. -/
def namedClass? (inside : List Char) : Option (Bool × CharSet) :=
  let joined := String.ofList inside
  match joined.splitOn "!=" with
  | kind :: value :: more =>
      (charSetOf? kind.toList ("!=".intercalate (value :: more)).toList).map fun s => (true, s)
  | _ =>
      match (Text.cutOnce ':' inside).or (Text.cutOnce '=' inside) with
      | some (kind, value) => (charSetOf? kind value).map fun s => (false, s)
      | none => (charSet? inside).map fun s => (false, s)

/-- Reads a property escape after its letter. -/
def readProperty (f : Flags) (negated : Bool) (cs : List Char) :
    Option (Primitive × List Char) :=
  match f.skip cs with
  | [] => none
  | '{' :: rest => do
      let (inside, rest) ← takeBraced f (rest.length + 1) (f.skip rest)
      if !f.unicode then none
      let (unequal, set) ← namedClass? inside
      let cls := f.fold (.set set)
      return (.cls (if negated != unequal then .complement cls else cls), rest)
  | c :: rest => do
      if c == '\\' || !f.unicode then none
      let set ← charSet? [c]
      let cls := f.fold (.set set)
      return (.cls (if negated then .complement cls else cls), f.skip rest)

/-- Takes the letters and hyphens of the name of a word boundary. -/
def takeName (f : Flags) : Nat → List Char → List Char × List Char
  | 0, cs => ([], cs)
  | _ + 1, [] => ([], [])
  | fuel + 1, c :: cs =>
      if c.isAlpha || c == '-' then
        let (name, rest) := takeName f fuel (f.skip cs)
        (c :: name, rest)
      else ([], c :: cs)

/-- Reads what may follow a word boundary: the name of a special boundary in braces. -/
def readBoundary (f : Flags) (cs : List Char) : Option (Primitive × List Char) :=
  match cs with
  | '{' :: inner =>
      match f.skip inner with
      | [] => none
      | c :: rest =>
          if !(c.isAlpha || c == '-') then some (.look (.boundary f.unicode), cs)
          else
            match takeName f (rest.length + 2) (c :: rest) with
            | (name, '}' :: rest) =>
                match String.ofList name with
                | "start" => some (.look (.wordStart f.unicode), rest)
                | "end" => some (.look (.wordEnd f.unicode), rest)
                | "start-half" => some (.look (.wordStartHalf f.unicode), rest)
                | "end-half" => some (.look (.wordEndHalf f.unicode), rest)
                | _ => none
            | _ => none
  | _ => some (.look (.boundary f.unicode), cs)

/-- Reads an escape after its backslash. -/
def readEscape (f : Flags) : List Char → Option (Primitive × List Char)
  | [] => none
  | c :: cs =>
      if c == 'x' || c == 'u' || c == 'U' then readHexEscape f c cs
      else if c == 'p' || c == 'P' then readProperty f (c == 'P') cs
      else if "dswDSW".toList.contains c then (f.shortClass? c).map fun cls => (.cls cls, cs)
      else if isSign c then some (.literal c false, cs)
      else if c.toNat < 128 && !c.isAlphanum && c != '<' && c != '>' then
        some (.literal c false, cs)
      else
        match c with
        | 'a' => some (.literal '\x07' false, cs)
        | 'f' => some (.literal '\x0c' false, cs)
        | 't' => some (.literal '\t' false, cs)
        | 'n' => some (.literal '\n' false, cs)
        | 'r' => some (.literal '\r' false, cs)
        | 'v' => some (.literal '\x0b' false, cs)
        | 'A' => some (.look .textStart, cs)
        | 'z' => some (.look .textEnd, cs)
        | 'b' => readBoundary f cs
        | 'B' => some (.look (.noBoundary f.unicode), cs)
        | '<' => some (.look (.wordStart f.unicode), cs)
        | '>' => some (.look (.wordEnd f.unicode), cs)
        | _ => none

/-- The operators between the parts of a class. -/
inductive ClassOp where
  | inter
  | diff
  | symDiff

/-- The class that an operator makes of two. -/
def ClassOp.apply (op : ClassOp) (a b : CharClass) : CharClass :=
  match op with
  | .inter => .inter a b
  | .diff => .diff a b
  | .symDiff => .symDiff a b

/-- An unfinished class: an open bracket with the union before it, or an operator with its left
    side. -/
inductive ClassFrame where
  | bracket (before : CharClass) (negated : Bool)
  | op (op : ClassOp) (left : CharClass)

/-- Applies the operator that waits for its right side, if one does. -/
def endOperator (f : Flags) (stack : List ClassFrame) (right : CharClass) :
    List ClassFrame × CharClass :=
  match stack with
  | .op op left :: rest => (rest, op.apply (f.fold left) (f.fold right))
  | _ => (stack, right)

/-- Takes hyphens that stand for themselves at the start of a class. -/
def leadingHyphens (f : Flags) : Nat → List Char → Nat × List Char
  | 0, cs => (0, cs)
  | fuel + 1, '-' :: cs =>
      let (count, rest) := leadingHyphens f fuel (f.skip cs)
      (count + 1, rest)
  | _ + 1, cs => (0, cs)

/-- Opens a bracket: a caret negates, and hyphens or a closing bracket at the start stand for
    themselves.  Gives the negation, the first characters and the rest. -/
def openBracket (f : Flags) (cs : List Char) : Option (Bool × CharClass × List Char) := do
  let (negated, cs) :=
    match f.skip cs with
    | '^' :: rest => (true, f.skip rest)
    | rest => (false, rest)
  let (hyphens, cs) := leadingHyphens f (cs.length + 1) cs
  match hyphens, cs with
  | _, [] => none
  | 0, ']' :: rest =>
      let rest := f.skip rest
      if rest.isEmpty then none else return (negated, f.asciiClass [(93, 93)], rest)
  | 0, rest => return (negated, .none, rest)
  | _, rest => return (negated, .ofChar '-', rest)

/-- Reads a named ASCII class after its bracket, if one stands there. -/
def readAsciiClass (f : Flags) (cs : List Char) : Option (Option CharClass × List Char) :=
  match cs with
  | ':' :: inner =>
      let (negated, inner) :=
        match inner with
        | '^' :: rest => (true, rest)
        | _ => (false, inner)
      let name := inner.takeWhile (· != ':')
      match inner.dropWhile (· != ':') with
      | ':' :: ']' :: rest =>
          (asciiRanges? (String.ofList name)).map fun ranges =>
            (f.complement? negated (f.asciiClass ranges), rest)
      | _ => none
  | _ => none

/-- Reads one member of a class: an escape or a character. -/
def readMember (f : Flags) : List Char → Option (Primitive × List Char)
  | [] => none
  | '\\' :: cs => readEscape f cs
  | c :: cs => some (.literal c false, cs)

/-- The class of a member; tests of places are no members. -/
def Primitive.memberClass? (f : Flags) : Primitive → Option CharClass
  | .literal c code =>
      if !f.unicode && 128 ≤ c.toNat then none else f.charClass? c code
  | .cls set => some set
  | .look _ => none

/-- Reads a member or a range. -/
def readRange (f : Flags) (cs : List Char) : Option (CharClass × List Char) := do
  let (first, rest) ← readMember f cs
  match f.skip rest with
  | [] => none
  | '-' :: after =>
      match f.skip after with
      | [] => none
      | ']' :: _ | '-' :: _ => return (← first.memberClass? f, '-' :: after)
      | after => do
          let (last, rest) ← readMember f after
          match first, last with
          | .literal a _, .literal b _ =>
              if b.toNat < a.toNat || (!f.unicode && 128 ≤ b.toNat) then none
              else if f.unicode then return (f.fold (.ofRanges [(a.toNat, b.toNat)]), rest)
              else return (f.asciiClass [(a.toNat, b.toNat)], rest)
          | _, _ => none
  | rest => return (← first.memberClass? f, rest)

/-- Reads a class after its first bracket; `stack` holds what is open and `union` the members
    read so far. -/
def readClass (f : Flags) :
    Nat → List ClassFrame → CharClass → List Char → Option (CharClass × List Char)
  | 0, _, _, _ => none
  | fuel + 1, stack, union, cs =>
      match f.skip cs with
      | [] => none
      | '[' :: rest =>
          match readAsciiClass f rest with
          | some (cls, rest) => do readClass f fuel stack (.union union (← cls)) rest
          | none => do
              let (negated, first, rest) ← openBracket f rest
              readClass f fuel (.bracket union negated :: stack) first rest
      | ']' :: rest =>
          match endOperator f stack union with
          | (.bracket before negated :: stack, inside) => do
              let cls ← f.complement? negated (f.fold inside)
              match stack with
              | [] => return (cls, rest)
              | stack => readClass f fuel stack (.union before cls) rest
          | _ => none
      | '&' :: '&' :: rest => again fuel stack union .inter rest
      | '-' :: '-' :: rest => again fuel stack union .diff rest
      | '~' :: '~' :: rest => again fuel stack union .symDiff rest
      | rest => do
          let (cls, rest) ← readRange f rest
          readClass f fuel stack (.union union cls) rest
where
  again (fuel : Nat) (stack : List ClassFrame) (union : CharClass) (op : ClassOp)
      (rest : List Char) : Option (CharClass × List Char) :=
    let (stack, left) := endOperator f stack union
    readClass f fuel (.op op left :: stack) .none rest

/-- A finished part of a pattern: its expression, how deep it nests, and whether it can be
    repeated. -/
structure Part where
  expr : Expr
  depth : Nat
  repeatable : Bool

/-- The part that stands for parts in turn, given last first. -/
def Part.sequence : List Part → Part
  | [] => ⟨.empty, 0, false⟩
  | [p] => p
  | p :: ps =>
      ⟨ps.foldl (fun e q => .seq q.expr e) p.expr,
        1 + ps.foldl (fun d q => Nat.max d q.depth) p.depth, true⟩

/-- The part that stands for one of several parts, given last first. -/
def Part.choice : List Part → Part
  | [] => ⟨.empty, 0, false⟩
  | [p] => p
  | p :: ps =>
      ⟨ps.foldl (fun e q => .alt q.expr e) p.expr,
        1 + ps.foldl (fun d q => Nat.max d q.depth) p.depth, true⟩

/-- An open group: the parts before it and the flags to return to. -/
structure GroupFrame where
  before : List Part
  branches : List Part
  flags : Flags

/-- A pattern being read: the flags in force, the open groups, the finished branches and the
    parts of the current branch, last first, and the names of groups. -/
structure Reading where
  flags : Flags
  stack : List GroupFrame
  branches : List Part
  parts : List Part
  names : List String

/-- Adds a part to the current branch. -/
def Reading.push (r : Reading) (p : Part) : Reading :=
  { r with parts := p :: r.parts }

/-- The part that the current alternation stands for. -/
def Reading.close (r : Reading) : Part :=
  Part.choice (Part.sequence r.parts :: r.branches)

/-- Adds a primitive to the current branch. -/
def Reading.pushPrimitive (r : Reading) (p : Primitive) : Option Reading :=
  match p with
  | .literal c code => (r.flags.charClass? c code).map fun cls => r.push ⟨.one cls, 0, true⟩
  | .cls cls => some (r.push ⟨.one cls, 0, true⟩)
  | .look l => some (r.push ⟨.look l, 0, true⟩)

/-- Repeats the last part of the current branch. -/
def Reading.repeatLast (r : Reading) (min : Nat) (max : Option Nat) : Option Reading :=
  match r.parts with
  | p :: ps =>
      if p.repeatable then
        some { r with parts := ⟨.rep p.expr min max, p.depth + 1, true⟩ :: ps }
      else none
  | [] => none

/-- Whether the last part of the current branch can be repeated. -/
def Reading.canRepeat (r : Reading) : Bool :=
  match r.parts with
  | p :: _ => p.repeatable
  | [] => false

/-- Skips the mark that makes a repetition prefer fewer copies, which searching ignores. -/
def skipLazy (cs : List Char) : List Char :=
  match cs with
  | '?' :: rest => rest
  | _ => cs

/-- Takes decimal digits, blanks between them where the flags allow. -/
def takeDigits (f : Flags) : Nat → List Char → List Char × List Char
  | 0, cs => ([], cs)
  | _ + 1, [] => ([], [])
  | fuel + 1, c :: cs =>
      if c.isDigit then
        let (digits, rest) := takeDigits f fuel (f.skip cs)
        (c :: digits, rest)
      else ([], c :: cs)

/-- Reads a count with blanks around it: nothing when there are no digits, and no number when
    it takes more than 32 bits. -/
def readCount (f : Flags) (cs : List Char) : Option (Option Nat) × List Char :=
  let (digits, rest) := takeDigits f (cs.length + 1) (cs.dropWhile Text.isBlank)
  let rest := rest.dropWhile Text.isBlank
  if digits.isEmpty then (none, rest)
  else
    let n := Verdict.Number.digitsValue digits
    (some (if n < UInt32.size then some n else none), rest)

/-- Reads the counts of a repetition after its opening brace. -/
def readCounts (f : Flags) (cs : List Char) : Option (Nat × Option Nat × List Char) :=
  match readCount f (f.skip cs) with
  | (some (some min), '}' :: rest) => some (min, some min, rest)
  | (some (some min), ',' :: rest) =>
      match f.skip rest with
      | '}' :: rest => some (min, none, rest)
      | rest =>
          match readCount f rest with
          | (some (some max), '}' :: rest) =>
              if min ≤ max then some (min, some max, rest) else none
          | _ => none
  | _ => none

/-- Whether a character may stand in the name of a group. -/
def isNameChar (first : Bool) (c : Char) : Bool :=
  let letter := ((property? "alphabetic").getD default).has c
  if first then c == '_' || letter
  else
    c == '_' || c == '.' || c == '[' || c == ']' || letter ||
      ((category? "n").getD default).has c

/-- Reads the name of a group up to its closing angle bracket. -/
def readGroupName (names : List String) (cs : List Char) : Option (String × List Char) :=
  let name := cs.takeWhile (· != '>')
  match name, cs.dropWhile (· != '>') with
  | c :: more, '>' :: rest =>
      let text := String.ofList name
      if isNameChar true c && more.all (isNameChar false) && !names.contains text then
        some (text, rest)
      else none
  | _, _ => none

/-- Switches one flag. -/
def Flags.put (f : Flags) (letter : Char) (on : Bool) : Option Flags :=
  match letter with
  | 'i' => some { f with caseless := on }
  | 'm' => some { f with multiLine := on }
  | 's' => some { f with dotAll := on }
  | 'U' => some f
  | 'u' => some { f with unicode := on }
  | 'R' => some { f with anyLineEnd := on }
  | 'x' => some { f with spaced := on }
  | _ => none

/-- Reads flags up to a colon or a closing parenthesis.  Each flag stands once, and at most one
    minus sign switches off what follows it. -/
def readFlags (f : Flags) (on : Bool) (seen : List Char) :
    List Char → Option (Flags × List Char × List Char)
  | [] => none
  | c :: cs =>
      if c == ':' || c == ')' then
        if seen.head? == some '-' then none else some (f, seen, c :: cs)
      else if seen.contains c then none
      else if c == '-' then readFlags f false ('-' :: seen) cs
      else
        match f.put c on with
        | some f => readFlags f on (c :: seen) cs
        | none => none

/-- Opens a group. -/
def Reading.openGroup (r : Reading) (inner : Flags) : Reading :=
  ⟨inner, ⟨r.parts, r.branches, r.flags⟩ :: r.stack, [], [], r.names⟩

/-- Reads what follows an opening parenthesis: a group begins, or flags change. -/
def Reading.readGroup (r : Reading) (cs : List Char) : Option (Reading × List Char) :=
  match r.flags.skip cs with
  | '?' :: '=' :: _ | '?' :: '!' :: _ | '?' :: '<' :: '=' :: _ | '?' :: '<' :: '!' :: _ => none
  | '?' :: 'P' :: '<' :: rest | '?' :: '<' :: rest => do
      let (name, rest) ← readGroupName r.names rest
      return ({ r.openGroup r.flags with names := name :: r.names }, rest)
  | '?' :: rest => do
      let (inner, seen, rest) ← readFlags r.flags true [] rest
      match rest with
      | ')' :: rest =>
          if seen.isEmpty then none
          else return ({ r with flags := inner, parts := ⟨.empty, 0, false⟩ :: r.parts }, rest)
      | _ :: rest => return (r.openGroup inner, rest)
      | [] => none
  | rest => some (r.openGroup r.flags, rest)

/-- Closes the innermost group. -/
def Reading.closeGroup (r : Reading) : Option Reading :=
  match r.stack with
  | [] => none
  | frame :: stack =>
      let inside := r.close
      some ⟨frame.flags, stack, frame.branches,
        ⟨inside.expr, inside.depth + 1, true⟩ :: frame.before, r.names⟩

/-- Reads one element of a pattern at its first character. -/
def Reading.step (r : Reading) (c : Char) (cs : List Char) : Option (Reading × List Char) :=
  match c with
  | '(' => r.readGroup cs
  | ')' => r.closeGroup.map fun r => (r, cs)
  | '|' => some ({ r with branches := Part.sequence r.parts :: r.branches, parts := [] }, cs)
  | '[' => do
      let (negated, first, rest) ← openBracket r.flags cs
      let (cls, rest) ←
        readClass r.flags (rest.length + 1) [.bracket .none negated] first rest
      return (r.push ⟨.one cls, 1, true⟩, rest)
  | '?' => do return (← r.repeatLast 0 (some 1), skipLazy cs)
  | '*' => do return (← r.repeatLast 0 none, skipLazy cs)
  | '+' => do return (← r.repeatLast 1 none, skipLazy cs)
  | '{' => do
      if !r.canRepeat then none
      let (min, max, rest) ← readCounts r.flags cs
      return (← r.repeatLast min max, skipLazy (r.flags.skip rest))
  | '\\' => do
      let (p, rest) ← readEscape r.flags cs
      return (← r.pushPrimitive p, rest)
  | '.' => do return (r.push ⟨.one (← r.flags.dot?), 0, true⟩, cs)
  | '^' =>
      let l : Look :=
        if !r.flags.multiLine then .textStart
        else if r.flags.anyLineEnd then .anyLineStart
        else .lineStart
      some (r.push ⟨.look l, 0, true⟩, cs)
  | '$' =>
      let l : Look :=
        if !r.flags.multiLine then .textEnd
        else if r.flags.anyLineEnd then .anyLineEnd
        else .lineEnd
      some (r.push ⟨.look l, 0, true⟩, cs)
  | c => (r.pushPrimitive (.literal c false)).map fun r => (r, cs)

/-- Reads a pattern to its end; every element takes at least one character. -/
def Reading.run : Nat → Reading → List Char → Option Part
  | 0, _, _ => none
  | fuel + 1, r, cs =>
      match r.flags.skip cs with
      | [] => if r.stack.isEmpty then some r.close else none
      | c :: cs =>
          match r.step c cs with
          | some (r, rest) => Reading.run fuel r rest
          | none => none

/-- Reads the text of a pattern. -/
def Expr.read? (caseless : Bool) (pattern : String) : Option Expr :=
  let start : Reading := ⟨{ caseless := caseless }, [], [], [], []⟩
  match start.run (pattern.length + 1) pattern.toList with
  | some part =>
      if part.depth ≤ maxNesting && part.expr.size ≤ maxSize then some part.expr else none
  | none => none

end Verdict.Pattern
