import Verdict.Text.Hex
import Verdict.Json.Basic

/-!
# Reading JSON texts

The reader is a machine that takes one character at a time: `Reader.step` is its transition and
`Json.scan?` runs it over the whole text.  Its state is the stack of open arrays and objects and
what is expected next.  A number too large for a float, a text with half of a surrogate pair and
what is nested deeper than `Reader.maxDepth` have no value.  They are kept as such, since whoever
looks for some members of an object skips over the others whatever they hold; `Json.read?` refuses a
text with any of them.
-/

namespace Verdict.Json

/-- A number of the grammar: no leading zeros, digits on both sides of the point, and an
    exponent with digits.  One that is too large is infinite. -/
def Number.read? (cs : List Char) : Option Number :=
  let (negative, body) :=
    match cs with
    | '-' :: rest => (true, rest)
    | _ => (false, cs)
  let whole := body.takeWhile Char.isDigit
  let rest := body.dropWhile Char.isDigit
  let wholeOk :=
    match whole with
    | [] => false
    | ['0'] => true
    | '0' :: _ => false
    | _ => true
  let fractionOk :=
    match rest with
    | '.' :: more => (more.takeWhile Char.isDigit).length != 0
    | _ => true
  if !wholeOk || !fractionOk then none
  else
    let n := Number.digitsValue whole
    let asFloat : Option Number := (Number.readUnsigned? negative body).map .float
    if !rest.isEmpty then asFloat
    else if negative then
      if n == 0 then some (.float (-0.0))
      else if n ≤ Nat.pow 2 63 then some (.int (-(n : Int)))
      else asFloat
    else if n < UInt64.size then some (.int n)
    else asFloat

namespace Reader

/-- Arrays and objects that have a value nest at most this deep. -/
def maxDepth : Nat := 127

/-- An open array or object: what it holds so far, last first. -/
inductive Frame where
  | items (done : List Json)
  | members (done : List (String × Json)) (name : String)
  /-- An object with a name that has no value, so that it has none itself. -/
  | skipped

/-- Where an escape inside a string stands. -/
inductive Escape where
  /-- After a backslash. -/
  | start
  /-- Inside the hexadecimal code, with the digits left and the value so far. -/
  | code (left : Nat) (value : Nat)
  /-- After the first half of a surrogate pair, with what has been seen of the second. -/
  | backslash (high : Nat)
  | letter (high : Nat)
  | low (high : Nat) (left : Nat) (value : Nat)

/-- What the machine is in the middle of. -/
inductive Mode where
  /-- A value is due; `close` says that `]` may stand instead. -/
  | value (close : Bool)
  /-- A member name is due; `close` says that a closing brace may stand instead. -/
  | name (close : Bool)
  | colon (name : String)
  /-- After a complete value inside an array or object. -/
  | more
  /-- After the complete outermost value. -/
  | done (j : Json)
  /-- Inside a string that is a member name or a value; the text is kept last first, with nothing
      for half of a surrogate pair. -/
  | text (isName : Bool) (done : List (Option Char))
  | escape (isName : Bool) (done : List (Option Char)) (at_ : Escape)
  | number (done : List Char)
  /-- Inside `null`, `true` or `false`, with the letters left. -/
  | word (left : List Char) (meaning : Json)

/-- The machine: the open arrays and objects, innermost first, and the mode. -/
structure State where
  stack : List Frame
  mode : Mode

/-- The four blanks of the grammar. -/
def isSpace (c : Char) : Bool :=
  c == ' ' || c == '\n' || c == '\r' || c == '\t'

/-- Puts a complete value into the innermost open array or object. -/
def State.complete (stack : List Frame) (j : Json) : State :=
  match stack with
  | [] => ⟨[], .done j⟩
  | .items done :: rest => ⟨.items (j :: done) :: rest, .more⟩
  | .members done name :: rest => ⟨.members ((name, j) :: done) name :: rest, .more⟩
  | .skipped :: rest => ⟨.skipped :: rest, .more⟩

/-- Puts an array or object into the one that it is in, unless it is nested too deep. -/
def State.close (stack : List Frame) (j : Json) : State :=
  State.complete stack (if stack.length < maxDepth then j else spoilt)

/-- Starts a value at its first character. -/
def startValue (stack : List Frame) (c : Char) : Option State :=
  if c == '"' then some ⟨stack, .text false []⟩
  else if c == '[' then some ⟨.items [] :: stack, .value true⟩
  else if c == '{' then some ⟨.members [] "" :: stack, .name true⟩
  else if c == '-' || c.isDigit then some ⟨stack, .number [c]⟩
  else if c == 'n' then some ⟨stack, .word "ull".toList .null⟩
  else if c == 't' then some ⟨stack, .word "rue".toList (.bool true)⟩
  else if c == 'f' then some ⟨stack, .word "alse".toList (.bool false)⟩
  else none

/-- The transition after a complete value inside an array or object. -/
def afterValue (stack : List Frame) (c : Char) : Option State :=
  if isSpace c then some ⟨stack, .more⟩
  else
    match stack with
    | .items done :: rest =>
        if c == ',' then some ⟨stack, .value false⟩
        else if c == ']' then some (State.close rest (.arr done.reverse))
        else none
    | .members done _ :: rest =>
        if c == ',' then some ⟨stack, .name false⟩
        else if c == '}' then some (State.close rest (.obj done.reverse))
        else none
    | .skipped :: rest =>
        if c == ',' then some ⟨stack, .name false⟩
        else if c == '}' then some (State.complete rest spoilt)
        else none
    | [] => none

/-- Ends a string at its closing quote. -/
def endText (stack : List Frame) (isName : Bool) (done : List (Option Char)) : State :=
  match (done.reverse.mapM id).map String.ofList with
  | some s => if isName then ⟨stack, .colon s⟩ else State.complete stack (.str s)
  | none =>
      if isName then ⟨.skipped :: stack.tail, .colon ""⟩ else State.complete stack spoilt

/-- The transition inside a string. -/
def stepText (stack : List Frame) (isName : Bool) (done : List (Option Char)) (c : Char) :
    Option State :=
  if c == '"' then some (endText stack isName done)
  else if c == '\\' then some ⟨stack, .escape isName done .start⟩
  else if c.toNat < 32 then none
  else some ⟨stack, .text isName (some c :: done)⟩

/-- The transition after a backslash. -/
def startEscape (isName : Bool) (done : List (Option Char)) (c : Char) : Option Mode :=
  match c with
  | '"' => some (.text isName (some '"' :: done))
  | '\\' => some (.text isName (some '\\' :: done))
  | '/' => some (.text isName (some '/' :: done))
  | 'b' => some (.text isName (some '\x08' :: done))
  | 'f' => some (.text isName (some '\x0c' :: done))
  | 'n' => some (.text isName (some '\n' :: done))
  | 'r' => some (.text isName (some '\r' :: done))
  | 't' => some (.text isName (some '\t' :: done))
  | 'u' => some (.escape isName done (.code 4 0))
  | _ => none

/-- Ends an escape by code: a first half of a pair waits for its second half. -/
def endCode (isName : Bool) (done : List (Option Char)) (value : Nat) : Mode :=
  if 0xd800 ≤ value && value < 0xdc00 then .escape isName done (.backslash value)
  else if 0xdc00 ≤ value && value < 0xe000 then .text isName (none :: done)
  else .text isName (some (Char.ofNat value) :: done)

/-- The transition inside an escape.  A first half of a pair without its second half is dropped, and
    what stands in the place of the other is taken as it is. -/
def stepEscape (stack : List Frame) (isName : Bool) (done : List (Option Char)) (at_ : Escape)
    (c : Char) : Option State :=
  match at_ with
  | .start => (startEscape isName done c).map (State.mk stack)
  | .code left value =>
      match Text.hexValue? c with
      | none => none
      | some digit =>
          let value := 16 * value + digit
          if left ≤ 1 then some ⟨stack, endCode isName done value⟩
          else some ⟨stack, .escape isName done (.code (left - 1) value)⟩
  | .backslash high =>
      if c == '\\' then some ⟨stack, .escape isName done (.letter high)⟩
      else stepText stack isName (none :: done) c
  | .letter high =>
      if c == 'u' then some ⟨stack, .escape isName done (.low high 4 0)⟩
      else (startEscape isName (none :: done) c).map (State.mk stack)
  | .low high left value =>
      match Text.hexValue? c with
      | none => none
      | some digit =>
          let value := 16 * value + digit
          if left ≤ 1 then
            if 0xdc00 ≤ value && value < 0xe000 then
              let code := 0x10000 + 1024 * (high - 0xd800) + (value - 0xdc00)
              some ⟨stack, .text isName (some (Char.ofNat code) :: done)⟩
            else some ⟨stack, .text isName (none :: done)⟩
          else some ⟨stack, .escape isName done (.low high (left - 1) value)⟩

/-- The transition once the value before has ended, for a number at the character after it. -/
def afterNumber (s : State) (c : Char) : Option State :=
  match s.mode with
  | .done j => if isSpace c then some ⟨[], .done j⟩ else none
  | _ => afterValue s.stack c

/-- The characters that numbers are made of. -/
def isNumberChar (c : Char) : Bool :=
  c.isDigit || c == '-' || c == '+' || c == '.' || c == 'e' || c == 'E'

/-- The transition on one character. -/
def step (s : State) (c : Char) : Option State :=
  match s.mode with
  | .value close =>
      if isSpace c then some s
      else if close && c == ']' then
        match s.stack with
        | .items _ :: rest => some (State.close rest (.arr []))
        | _ => none
      else startValue s.stack c
  | .name close =>
      if isSpace c then some s
      else if c == '"' then some ⟨s.stack, .text true []⟩
      else if close && c == '}' then
        match s.stack with
        | .members _ _ :: rest => some (State.close rest (.obj []))
        | _ => none
      else none
  | .colon name =>
      if isSpace c then some s
      else if c == ':' then
        match s.stack with
        | .members done _ :: rest => some ⟨.members done name :: rest, .value false⟩
        | .skipped :: rest => some ⟨.skipped :: rest, .value false⟩
        | _ => none
      else none
  | .more => afterValue s.stack c
  | .done _ => if isSpace c then some s else none
  | .text isName done => stepText s.stack isName done c
  | .escape isName done at_ => stepEscape s.stack isName done at_ c
  | .number done =>
      if isNumberChar c then some ⟨s.stack, .number (c :: done)⟩
      else
        match Number.read? done.reverse with
        | none => none
        | some n => afterNumber (State.complete s.stack (.num n)) c
  | .word left meaning =>
      match left with
      | [] => none
      | [last] => if c == last then some (State.complete s.stack meaning) else none
      | next :: rest => if c == next then some ⟨s.stack, .word rest meaning⟩ else none

/-- The machine before the first character. -/
def start : State := ⟨[], .value false⟩

/-- The value that a text has spelled when it ends in this state. -/
def finish (s : State) : Option Json :=
  match s.stack, s.mode with
  | [], .done j => some j
  | [], .number done => (Number.read? done.reverse).map .num
  | _, _ => none

end Reader

/-- Reads a text that spells one value, with its object members as they stand.  Parts of it may have
    no value. -/
def scan? (text : String) : Option Json :=
  (text.toList.foldlM Reader.step Reader.start).bind Reader.finish

/-- Reads a text that spells one value of which all parts have a value. -/
def read? (text : String) : Option Json :=
  (scan? text).filter isSound

end Verdict.Json
