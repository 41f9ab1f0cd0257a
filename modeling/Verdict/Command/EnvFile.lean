import Verdict.Text.Blank
import Verdict.Text.Pieces
import Verdict.Unicode.Property

/-!
# Environment files

A file of lines `NAME=value` that sets variables.  Values may be quoted, over several lines if
need be, and may refer to other variables.  `EnvFile.apply` sets the variables that are not set
yet, up to the first line that cannot be read.
-/

namespace Verdict.EnvFile

/-- A reading of variables. -/
abbrev Variables := String → Option String

/-- What a line is inside of. -/
inductive Inside where
  | nothing
  | blank
  | escape
  | single
  | singleEscape
  | double
  | doubleEscape
  deriving DecidableEq

/-- What a line is inside of after a character; a comment ends it. -/
def Inside.after? (at_ : Inside) (c : Char) : Option Inside :=
  let fresh : Inside :=
    if c == '\\' then .escape else if c == '"' then .double else if c == '\'' then .single
    else .nothing
  match at_ with
  | .nothing =>
      if Text.isBlank c && c != '\n' && c != '\r' then some .blank else some fresh
  | .blank => if c == '#' then none else some fresh
  | .escape => some .nothing
  | .single =>
      some (if c == '\\' then .singleEscape else if c == '\'' then .nothing else .single)
  | .singleEscape => some .single
  | .double =>
      some (if c == '\\' then .doubleEscape else if c == '"' then .nothing else .double)
  | .doubleEscape => some .double

/-- What follows the line that a text is in. -/
def afterLine (cs : List Char) : List Char :=
  (cs.dropWhile fun c => c != '\n').drop 1

/-- Reads a line up to its end, which is not inside of quotes; gives the line, read backwards, and
    what follows it. -/
def endOfLine? (at_ : Inside) (done : List Char) : List Char → Option (List Char × List Char)
  | [] => if at_ = .nothing then some (done, []) else none
  | c :: rest =>
      match at_.after? c with
      | none => some (done, afterLine (c :: rest))
      | some next =>
          if c == '\n' && next = .nothing then
            some (match done with | '\r' :: done => done | done => done, rest)
          else endOfLine? next (c :: done) rest

/-- Cuts off the first line.  A comment is an empty line. -/
def firstLine? (cs : List Char) : Option (List Char × List Char) :=
  match (cs.takeWhile fun c => c != '\n').dropWhile Text.isBlank with
  | '#' :: _ => some ([], afterLine cs)
  | _ => (endOfLine? .nothing [] cs).map fun (line, rest) => (line.reverse, rest)

/-- What is read of a value. -/
inductive Mode where
  | plain
  | single
  | double
  /-- After a backslash, in double quotes or not. -/
  | escape (quoted : Bool)
  /-- In the name of a variable, in braces or not. -/
  | name (quoted braced : Bool) (done : List Char)
  /-- After the value; only a comment may follow. -/
  | ended

/-- The mode of a value that is in double quotes or not. -/
def Mode.text (quoted : Bool) : Mode :=
  if quoted then .double else .plain

/-- The value of a variable, given its name backwards; a variable that is not set is empty. -/
def valueOf (env : Variables) (name : List Char) : List Char :=
  ((env (String.ofList name.reverse)).getD "").toList

/-- Reads a value; `done` is what was read, backwards. -/
def readValue? (env : Variables) (mode : Mode) (done : List Char) :
    List Char → Option (List Char)
  | [] =>
      match mode with
      | .name false false name => some (done.reverse ++ valueOf env name)
      | .single | .double | .name _ _ _ | .escape true => none
      | .plain | .ended | .escape false => some done.reverse
  | c :: rest =>
      match mode with
      | .ended =>
          if c == ' ' || c == '\t' then readValue? env .ended done rest
          else if c == '#' then some done.reverse
          else none
      | .escape quoted =>
          if c == 'n' then readValue? env (.text quoted) ('\n' :: done) rest
          else if ['\\', '\'', '"', '$', ' '].contains c then
            readValue? env (.text quoted) (c :: done) rest
          else none
      | .single =>
          if c == '\'' then readValue? env .plain done rest
          else readValue? env .single (c :: done) rest
      | .name quoted true name =>
          if c == '\x7d' then
            readValue? env (.text quoted) ((valueOf env name).reverse ++ done) rest
          else readValue? env (.name quoted true (c :: name)) done rest
      | .name quoted false name =>
          if Unicode.isAlphanumeric c then readValue? env (.name quoted false (c :: name)) done rest
          else if c == '\x7b' && name.isEmpty then
            readValue? env (.name quoted true []) done rest
          else
            let done := (valueOf env name).reverse ++ done
            if c == '$' then readValue? env (.name quoted false []) done rest
            else readValue? env (.text quoted) (c :: done) rest
      | .double =>
          if c == '$' then readValue? env (.name true false []) done rest
          else if c == '"' then readValue? env .plain done rest
          else if c == '\\' then readValue? env (.escape true) done rest
          else readValue? env .double (c :: done) rest
      | .plain =>
          if c == '$' then readValue? env (.name false false []) done rest
          else if c == '\'' then readValue? env .single done rest
          else if c == '"' then readValue? env .double done rest
          else if c == '\\' then readValue? env (.escape false) done rest
          else if c == ' ' || c == '\t' then readValue? env .ended done rest
          else readValue? env .plain (c :: done) rest

/-- Reads a name and drops the blanks after it. -/
def readName? (cs : List Char) : Option (List Char × List Char) :=
  let isPart (c : Char) : Bool := c.isAlphanum || c == '_' || c == '.'
  match cs with
  | c :: _ =>
      if c.isAlpha || c == '_' then
        some (cs.takeWhile isPart, (cs.dropWhile isPart).dropWhile Text.isBlank)
      else none
  | [] => none

/-- Reads the name that a line sets, up to the equals sign.  The word `export` may stand before
    it. -/
def readTarget? (cs : List Char) : Option (List Char × List Char) :=
  match readName? cs with
  | some (name, '=' :: rest) => some (name, rest)
  | some (name, rest) =>
      if name == "export".toList then
        match readName? rest with
        | some (name, '=' :: rest) => some (name, rest)
        | _ => none
      else none
  | none => none

/-- What a line sets: nothing, or a variable to a value. -/
def readLine? (env : Variables) (line : List Char) : Option (Option (String × String)) :=
  match (Text.dropBlankEnd line).dropWhile Text.isBlank with
  | [] | '#' :: _ => some none
  | cs =>
      match readTarget? cs with
      | none => none
      | some (name, rest) =>
          let name := String.ofList name
          match rest.dropWhile Text.isBlank with
          | [] | '#' :: _ => some (some (name, ""))
          | value =>
              (readValue? env .plain [] value).map fun value =>
                some (name, String.ofList value)

/-- Sets a variable that is not set yet. -/
def setNew (env : Variables) (name value : String) : Variables := fun other =>
  match env other with
  | some old => some old
  | none => if other == name then some value else none

/-- Sets the variables of the lines of a text; `count` bounds the number of lines. -/
def applyLines (env : Variables) : Nat → List Char → Variables
  | 0, _ => env
  | count + 1, cs =>
      if cs.isEmpty then env
      else
        match firstLine? cs with
        | none => env
        | some (line, rest) =>
            match readLine? env line with
            | none => env
            | some none => applyLines env count rest
            | some (some (name, value)) => applyLines (setNew env name value) count rest

/-- The names of the variables that a file may refer to. -/
def mentioned (content : String) : List String :=
  ((Text.splitAt '$' content.toList).drop 1).map fun cs =>
    match cs with
    | '\x7b' :: name => String.ofList (name.takeWhile fun c => c != '\x7d')
    | name => String.ofList (name.takeWhile Unicode.isAlphanumeric)

/-- Sets the variables of a file. -/
def apply (env : Variables) (content : String) : Variables :=
  let cs := content.toList
  applyLines env (cs.length + 1) (if cs.head? == some '\ufeff' then cs.drop 1 else cs)

end Verdict.EnvFile
