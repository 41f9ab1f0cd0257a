import Mathlib.Algebra.Group.Defs
import Verdict.Proofs.Number.Exact

/-!
# Products of exact numbers

An infinity times a number keeps or changes its sign, and times zero it is no number.  With that,
products of exact numbers do not depend on the order and the grouping of the factors, whether these
are finite or not: they form a commutative monoid.
-/

namespace Verdict.Number.Exact

/-- The sign of a product. -/
theorem decide_mul_neg {a b : ℚ} (left : a ≠ 0) (right : b ≠ 0) :
    decide (a * b < 0) = (decide (a < 0) != decide (b < 0)) := by
  rcases lt_or_gt_of_ne left with below | above <;> rcases lt_or_gt_of_ne right with below' | above'
  · simp [below, below', (mul_pos_of_neg_of_neg below below').not_gt]
  · simp [below, above'.not_gt, mul_neg_of_neg_of_pos below above']
  · simp [above.not_gt, below', mul_neg_of_pos_of_neg above below']
  · simp [above.not_gt, above'.not_gt, (mul_pos above above').not_gt]

theorem scaleInfinite_mul_finite (negative : Bool) (a b : ℚ) :
    (scaleInfinite negative a).mul (.finite b) = scaleInfinite negative (a * b) := by
  by_cases left : a = 0
  · simp [left, mul, scaleInfinite]
  by_cases right : b = 0
  · simp [left, right, mul, scaleInfinite]
  · simp [left, right, mul, scaleInfinite, decide_mul_neg]

theorem scaleInfinite_mul_infinite (negative negative' : Bool) (a : ℚ) :
    (scaleInfinite negative a).mul (.infinite negative') =
      scaleInfinite (negative != negative') a := by
  by_cases zero : a = 0
  · simp [zero, mul, scaleInfinite]
  · simp only [scaleInfinite, if_neg zero, mul]
    cases negative <;> cases negative' <;> cases decide (a < 0) <;> rfl

theorem mul_swap (x y : Exact) : x.mul y = y.mul x := by
  cases x <;> cases y <;> simp [mul, mul_comm, bne_comm]

theorem mul_nan (x : Exact) : x.mul .nan = .nan := by
  cases x <;> rfl

theorem nan_mul (x : Exact) : nan.mul x = .nan := by
  cases x <;> rfl

theorem finite_mul_infinite (a : ℚ) (negative : Bool) :
    (finite a).mul (.infinite negative) = scaleInfinite negative a := rfl

theorem infinite_mul_finite (negative : Bool) (a : ℚ) :
    (infinite negative).mul (.finite a) = scaleInfinite negative a := rfl

theorem infinite_mul_infinite (negative negative' : Bool) :
    (infinite negative).mul (.infinite negative') = .infinite (negative != negative') := rfl

theorem mul_regroup (x y z : Exact) : (x.mul y).mul z = x.mul (y.mul z) := by
  have scaled (negative : Bool) (a b : ℚ) :
      (finite b).mul (scaleInfinite negative a) = scaleInfinite negative (a * b) := by
    rw [mul_swap, scaleInfinite_mul_finite]
  have flipped (negative negative' : Bool) (a : ℚ) :
      (infinite negative').mul (scaleInfinite negative a) =
        scaleInfinite (negative != negative') a := by
    rw [mul_swap, scaleInfinite_mul_infinite]
  cases x with
  | nan => rw [nan_mul, nan_mul, nan_mul]
  | finite a =>
    cases y with
    | nan => rw [mul_nan, nan_mul, mul_nan]
    | finite b =>
      cases z with
      | nan => rw [mul_nan, mul_nan, mul_nan]
      | finite c => exact congrArg finite (mul_assoc a b c)
      | infinite negative =>
        rw [finite_mul_infinite, scaled, mul_comm b a]
        rfl
    | infinite negative =>
      cases z with
      | nan => rw [mul_nan, mul_nan, mul_nan]
      | finite c =>
        rw [finite_mul_infinite, infinite_mul_finite, scaleInfinite_mul_finite, scaled,
          mul_comm a c]
      | infinite negative' =>
        rw [finite_mul_infinite, infinite_mul_infinite, scaleInfinite_mul_infinite]
        rfl
  | infinite negative =>
    cases y with
    | nan => rw [mul_nan, nan_mul, mul_nan]
    | finite b =>
      cases z with
      | nan => rw [mul_nan, mul_nan, mul_nan]
      | finite c =>
        rw [infinite_mul_finite, scaleInfinite_mul_finite]
        rfl
      | infinite negative' =>
        rw [infinite_mul_finite, finite_mul_infinite, scaleInfinite_mul_infinite, flipped, bne_comm]
    | infinite negative' =>
      cases z with
      | nan => rw [mul_nan, mul_nan, mul_nan]
      | finite c =>
        rw [infinite_mul_infinite, infinite_mul_finite, infinite_mul_finite, flipped, bne_comm]
      | infinite negative'' =>
        rw [infinite_mul_infinite, infinite_mul_infinite, infinite_mul_infinite,
          infinite_mul_infinite, Bool.bne_assoc]

/-- Products of exact numbers may be taken in any order. -/
instance : CommMonoid Exact where
  mul := (· * ·)
  one := .finite 1
  mul_assoc := mul_regroup
  mul_comm := mul_swap
  one_mul x := by
    cases x with
    | finite a => exact congrArg finite (one_mul a)
    | infinite negative => cases negative <;> rfl
    | nan => rfl
  mul_one x := by
    cases x with
    | finite a => exact congrArg finite (mul_one a)
    | infinite negative => cases negative <;> rfl
    | nan => rfl

theorem finite_pow (a : ℚ) (n : Nat) : (finite a : Exact) ^ n = finite (a ^ n) := by
  induction n with
  | zero => rw [pow_zero, pow_zero]; rfl
  | succ n ih => rw [pow_succ, pow_succ, ih]; rfl

end Verdict.Number.Exact
