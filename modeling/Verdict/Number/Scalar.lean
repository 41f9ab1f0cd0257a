import Verdict.Number.Order

/-!
# Numbers that scores are made of

Scores and confidences are computed over any type of numbers with the operations of `Scalar`.
The program uses floats; exact arithmetic over rationals is another instance.
-/

namespace Verdict

/-- Numbers with the four operations and the comparisons of floats.  Comparisons with a value
    that is not a number fail. -/
class Scalar (ν : Type) extends Add ν, Sub ν, Mul ν, Div ν where
  /-- The number that a float stands for. -/
  ofFloat : Float → ν
  /-- The number nearest to a fraction. -/
  ratio : Nat → Nat → ν
  less : ν → ν → Bool
  atMost : ν → ν → Bool
  same : ν → ν → Bool
  isFinite : ν → Bool
  isNaN : ν → Bool

instance : Scalar Float where
  ofFloat := id
  ratio n d := Float.ofNat n / Float.ofNat d
  less := Number.less
  atMost := Number.atMost
  same := Number.same
  isFinite := Number.isFinite
  isNaN := Number.isNaN

namespace Scalar

variable {ν : Type} [Scalar ν]

/-- A natural number as a scalar. -/
def nat (n : Nat) : ν := ratio n 1

/-- The sum of a list, from the left. -/
def sum (xs : List ν) : ν :=
  xs.foldl (· + ·) (nat 0)

/-- Brings a number between two bounds; what is not a number stays. -/
def between (low high x : ν) : ν :=
  let x := if less x low then low else x
  if less high x then high else x

end Scalar

end Verdict
