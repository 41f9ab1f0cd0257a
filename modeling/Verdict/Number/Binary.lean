/-!
# What a 64-bit float stands for

`Binary.ofFloat` takes a float apart into sign, mantissa and exponent, so that everything else
about its text and its integrality is arithmetic on natural numbers.
-/

namespace Verdict.Number

/-- The number that a float stands for: `± mantissa · 2 ^ exponent` when it is finite. -/
inductive Binary where
  | nan
  | infinite (negative : Bool)
  | finite (negative : Bool) (mantissa : Nat) (exponent : Int)
  deriving Repr, DecidableEq

namespace Binary

/-- Reads sign, exponent field and fraction field of the 64-bit format. -/
def ofBits (bits : UInt64) : Binary :=
  let n := bits.toNat
  let negative := n / Nat.pow 2 63 == 1
  let field : Nat := n / Nat.pow 2 52 % Nat.pow 2 11
  let fraction : Nat := n % Nat.pow 2 52
  if field == 2047 then
    if fraction == 0 then .infinite negative else .nan
  else if field == 0 then .finite negative fraction (-1074)
  else .finite negative (Nat.pow 2 52 + fraction) ((field : Int) - 1075)

/-- The number that `x` stands for. -/
def ofFloat (x : Float) : Binary :=
  ofBits x.toBits

/-- The integer that a finite number is, if it is one. -/
def toInt? : Binary → Option Int
  | .finite negative mantissa exponent =>
      let signed (n : Nat) : Int := if negative then -(n : Int) else n
      if 0 ≤ exponent then some (signed (mantissa * Nat.pow 2 exponent.toNat))
      else
        let divisor := Nat.pow 2 (-exponent).toNat
        if mantissa % divisor == 0 then some (signed (mantissa / divisor)) else none
  | _ => none

end Binary

/-- The integer that `x` is, if it is one. -/
def toInt? (x : Float) : Option Int :=
  (Binary.ofFloat x).toInt?

/-- The whole part of a number, held between 0 and `most`; 0 for what is not a number. -/
def Binary.whole (most : Nat) : Binary → Nat
  | .finite false mantissa exponent =>
      Nat.min most
        (if 0 ≤ exponent then mantissa * Nat.pow 2 exponent.toNat
          else mantissa / Nat.pow 2 (-exponent).toNat)
  | .infinite false => most
  | _ => 0

/-- The whole part of a float, held between 0 and `most`. -/
def whole (most : Nat) (x : Float) : Nat :=
  (Binary.ofFloat x).whole most

/-- The float nearest to an integer. -/
def ofInt (n : Int) : Float :=
  match n with
  | .ofNat m => Float.ofScientific m false 0
  | .negSucc m => -Float.ofScientific (m + 1) false 0

end Verdict.Number
