import Verdict.Text.Blank
import Verdict.Unicode.CaseTable
import Verdict.Unicode.Property

/-!
# Lower case and folding

`lower` is the full lower-case form of a text: a capital I with a dot becomes two characters, and
a capital sigma at the end of a word becomes the final form.  `foldChar` maps a letter to the one
form that stands for all its cases, and `orbit` lists the characters with the same form.
-/

namespace Verdict.Unicode

/-- The image of a code point, if it is one of the run. -/
def Shift.image? (s : Shift) (n : Nat) : Option Nat :=
  if s.first ≤ n && n ≤ s.last && (n - s.first) % s.step == 0 then
    some ((n : Int) + s.offset).toNat
  else none

/-- The image under the first run that holds the character; the character itself otherwise. -/
def shiftChar (shifts : List Shift) (c : Char) : Char :=
  match shifts.findSome? fun s => s.image? c.toNat with
  | some n => Char.ofNat n
  | none => c

/-- The lower-case form of a character, where it is a single character. -/
def lowerChar (c : Char) : Char :=
  if c.toNat < 0x80 then Text.asciiLower c else shiftChar lowerShifts c

/-- The form that stands for all cases of a letter. -/
def foldChar (c : Char) : Char :=
  if c.toNat < 0x80 then Text.asciiLower c else shiftChar foldShifts c

/-- The characters whose form for all cases is that of `c`. -/
def orbit (c : Char) : List Char :=
  let form := foldChar c
  let sources := foldShifts.filterMap fun s =>
    let n := (form.toNat : Int) - s.offset
    if 0 ≤ n && (s.image? n.toNat).isSome then some (Char.ofNat n.toNat) else none
  c :: form :: sources

/-- Letters with case. -/
def casedSet : CharSet :=
  (property? "cased").getD default

/-- Characters that do not interrupt a word when case is decided. -/
def caseIgnorableSet : CharSet :=
  (property? "caseignorable").getD default

/-- Whether the first character that does not count as interrupting is a letter with case. -/
def meetsCased (cs : List Char) : Bool :=
  match cs.dropWhile caseIgnorableSet.has with
  | [] => false
  | c :: _ => casedSet.has c

/-- The lower-case form of the character `c` between the text `before`, last character first,
    and the text `after`. -/
def lowerAt (before : List Char) (c : Char) (after : List Char) : List Char :=
  if c.toNat == 0x3a3 then
    if meetsCased before && !meetsCased after then ['\u03c2'] else ['\u03c3']
  else if c.toNat == 0x130 then ['i', '\u0307']
  else [lowerChar c]

/-- The lower-case form of the rest of a text whose start, last character first, is `before`. -/
def lowerFrom (before : List Char) : List Char → List Char
  | [] => []
  | c :: cs => lowerAt before c cs ++ lowerFrom (c :: before) cs

/-- The lower-case form of a text. -/
def lower (s : String) : String :=
  String.ofList (lowerFrom [] s.toList)

end Verdict.Unicode
