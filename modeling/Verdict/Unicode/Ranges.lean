import Verdict.Text.Hex
import Verdict.Text.Pieces

/-!
# Sets of characters as ranges

The tables of this folder write a set of characters as a text of hexadecimal ranges, such as
`30-39 61`.  `Ranges.read` reads such a text and `Ranges.has` is membership.
-/

namespace Verdict.Unicode

/-- Inclusive ranges of code points. -/
abbrev Ranges := List (Nat × Nat)

namespace Ranges

/-- The value of hexadecimal digits; other characters count as zero. -/
def readHex (cs : List Char) : Nat :=
  cs.foldl (fun n c => 16 * n + (Text.hexValue? c).getD 0) 0

/-- One range: two code points with a hyphen between them, or a single one. -/
def readRange (word : List Char) : Nat × Nat :=
  match Text.cutOnce '-' word with
  | some (first, last) => (readHex first, readHex last)
  | none => (readHex word, readHex word)

/-- Reads lines of ranges separated by blanks. -/
def read (lines : List String) : Ranges :=
  lines.flatMap fun line => (Text.splitAt ' ' line.toList).map readRange

/-- Whether a code point lies in one of the ranges. -/
def hasCode : Ranges → Nat → Bool
  | [], _ => false
  | (first, last) :: rest, n => (first ≤ n && n ≤ last) || hasCode rest n

/-- Whether a character lies in one of the ranges. -/
def has (ranges : Ranges) (c : Char) : Bool :=
  hasCode ranges c.toNat

/-- The number of blocks that ranges sorted by their start make up, after a block that ends just
    before `next`. -/
def countBlocks (next : Nat) : Ranges → Nat
  | [] => 0
  | (first, last) :: rest =>
      if first ≤ next then countBlocks (Nat.max next (last + 1)) rest
      else 1 + countBlocks (last + 1) rest

/-- The number of separate blocks that the ranges make up. -/
def blocks (ranges : Ranges) : Nat :=
  match ranges.mergeSort fun a b => a.1 ≤ b.1 with
  | [] => 0
  | (_, last) :: rest => 1 + countBlocks (last + 1) rest

end Ranges

end Verdict.Unicode
