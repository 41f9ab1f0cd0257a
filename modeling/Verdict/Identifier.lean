import Verdict.Digest

/-!
# Random identifiers

Events and assessments are named by random numbers of 128 bits in the usual grouping, six bits of
which say that the rest is random.
-/

namespace Verdict.Identifier

/-- Groups 32 hexadecimal digits. -/
def group (digits : List Char) : List Char :=
  digits.take 8 ++ '-' :: (digits.drop 8).take 4 ++ '-' :: (digits.drop 12).take 4 ++
    '-' :: (digits.drop 16).take 4 ++ '-' :: (digits.drop 20).take 12

/-- Sets the six bits. -/
def mark (digits : List Char) : List Char :=
  let variant := 8 + (((digits[16]?).bind Text.hexValue?).getD 0) % 4
  (digits.set 12 '4').set 16 (Text.hexDigit variant)

/-- The identifier number `n` of a random seed. -/
def ofSeed (seed n : Nat) : String :=
  String.ofList (group (mark ((Digest.ofText s!"{seed} {n}").toList.take 32)))

end Verdict.Identifier
