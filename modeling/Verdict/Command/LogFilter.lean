import Verdict.Number.Decimal
import Verdict.Pattern.Grammar
import Verdict.Text.Blank
import Verdict.Text.Pieces

/-!
# Log filters

A filter is a list of directives, joined by commas.  A directive names a level, or a target, or a
span with fields in brackets; a target or a span may be followed by its level.
-/

namespace Verdict.LogFilter

/-- The words for levels. -/
def levels : List String :=
  ["off", "error", "warn", "info", "debug", "trace"]

/-- Whether a text names a level, by its word or by its number; nothing stands for all levels. -/
def isLevel (cs : List Char) : Bool :=
  let s := String.ofList cs
  s.isEmpty || levels.contains (Text.toAsciiLower s) || (Number.readNat? s).any (· ≤ 5)

/-- Whether a character may start a target or a level. -/
def startsName (c : Char) : Bool :=
  c == '-' || c == ':' || c == '_' || Unicode.isAlphanumeric c

/-- Whether a text is a number, or a pattern, as the value of a field has to be. -/
def isFieldValue (cs : List Char) : Bool :=
  let s := String.ofList cs
  (Number.readFloat? s).isSome || (Pattern.Expr.read? false s).isSome

/-- Whether a text names a field, with a value or without. -/
def isField (cs : List Char) : Bool :=
  !cs.isEmpty &&
    match Text.splitAt '=' cs with
    | _ :: value :: _ => isFieldValue value
    | _ => true

/-- Whether a text may follow a target or a span.  `exact` says that no blanks stand around the
    directive. -/
def isTail (exact : Bool) (cs : List Char) : Bool :=
  match cs with
  | [] => true
  | '=' :: level => exact && isLevel level
  | _ => false

/-- Whether a text is a span without its opening bracket, and what may follow it. -/
def isSpan (exact : Bool) (cs : List Char) : Bool :=
  match cs.dropWhile fun c => c != ']' && c != '\x7b' with
  | ']' :: tail => isTail exact tail
  | _ :: fields =>
      isField (fields.takeWhile fun c => c != '\x7d') &&
        match fields.dropWhile fun c => c != '\x7d' with
        | _ :: ']' :: tail => isTail exact tail
        | _ => false
  | [] => false

/-- Whether a text is a directive. -/
def isDirective (cs : List Char) : Bool :=
  let inner := Text.trimChars cs
  let exact := inner == cs
  match inner with
  | [] => false
  | '[' :: span => isSpan exact span
  | c :: rest =>
      startsName c &&
        match rest.dropWhile fun c => c != '=' && c != '[' with
        | '[' :: span => isSpan exact span
        | tail => isTail exact tail

/-- Whether a text is a filter; empty directives are passed over. -/
def isValid (s : String) : Bool :=
  ((Text.splitAt ',' s.toList).filter fun cs => !cs.isEmpty).all isDirective

end Verdict.LogFilter
