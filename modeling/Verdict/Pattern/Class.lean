import Verdict.Unicode.Case

/-!
# Character classes

A class is built from sets of characters by union, intersection, difference and complement.
`CharClass.folded` is the closure under letter case: it holds every character that shares its
form for all cases with a member.
-/

namespace Verdict.Pattern

open Verdict.Unicode

/-- A class of characters. -/
inductive CharClass where
  | none
  | set (s : CharSet)
  | union (a b : CharClass)
  | inter (a b : CharClass)
  | diff (a b : CharClass)
  | symDiff (a b : CharClass)
  | complement (a : CharClass)
  | folded (a : CharClass)
  deriving Repr, BEq, DecidableEq, Inhabited

namespace CharClass

/-- Membership. -/
def has : CharClass → Char → Bool
  | .none, _ => false
  | .set s, c => s.has c
  | .union a b, c => a.has c || b.has c
  | .inter a b, c => a.has c && b.has c
  | .diff a b, c => a.has c && !b.has c
  | .symDiff a b, c => a.has c != b.has c
  | .complement a, c => !a.has c
  | .folded a, c => (orbit c).any a.has

/-- The characters of some ranges. -/
def ofRanges (ranges : Ranges) : CharClass :=
  .set ⟨ranges, []⟩

/-- One character. -/
def ofChar (c : Char) : CharClass :=
  ofRanges [(c.toNat, c.toNat)]

/-- The closure under letter case of the ASCII letters only. -/
def asciiFolded (ranges : Ranges) : Ranges :=
  ranges.flatMap fun (first, last) =>
    let capital := (Nat.max first 65, Nat.min last 90)
    let small := (Nat.max first 97, Nat.min last 122)
    let moved : Ranges :=
      (if capital.1 ≤ capital.2 then [(capital.1 + 32, capital.2 + 32)] else []) ++
        (if small.1 ≤ small.2 then [(small.1 - 32, small.2 - 32)] else [])
    (first, last) :: moved

/-- The number of blocks of characters that the class is made of. -/
def weight : CharClass → Nat
  | .none => 0
  | .set s => s.members.blocks + s.except.blocks
  | .union a b | .inter a b | .diff a b | .symDiff a b => a.weight + b.weight
  | .complement a | .folded a => a.weight

/-- Whether every member is an ASCII character. -/
def isAscii : CharClass → Bool
  | .none => true
  | .set s => s.members.all fun range => range.2 < 128
  | .union a b | .symDiff a b => a.isAscii && b.isAscii
  | .inter a b => a.isAscii || b.isAscii
  | .diff a _ => a.isAscii
  | .complement _ => false
  | .folded a => a.isAscii

end CharClass

/-- The ASCII classes by name. -/
def asciiRanges? (name : String) : Option Ranges :=
  match name with
  | "alnum" => some [(48, 57), (65, 90), (97, 122)]
  | "alpha" => some [(65, 90), (97, 122)]
  | "ascii" => some [(0, 127)]
  | "blank" => some [(9, 9), (32, 32)]
  | "cntrl" => some [(0, 31), (127, 127)]
  | "digit" => some [(48, 57)]
  | "graph" => some [(33, 126)]
  | "lower" => some [(97, 122)]
  | "print" => some [(32, 126)]
  | "punct" => some [(33, 47), (58, 64), (91, 96), (123, 126)]
  | "space" => some [(9, 13), (32, 32)]
  | "upper" => some [(65, 90)]
  | "word" => some [(48, 57), (65, 90), (95, 95), (97, 122)]
  | "xdigit" => some [(48, 57), (65, 70), (97, 102)]
  | _ => none

end Verdict.Pattern
