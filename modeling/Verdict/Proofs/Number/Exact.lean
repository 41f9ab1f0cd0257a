import Mathlib.Algebra.BigOperators.Group.List.Basic
import Mathlib.Algebra.Order.Field.Power
import Mathlib.Data.Rat.Cast.Order
import Mathlib.Tactic.NormNum
import Mathlib.Tactic.Positivity
import Verdict.Proofs.Number.Rank

/-!
# Exact arithmetic

`Exact` are the rationals with two infinities and not-a-number.  Operations on them round nothing,
so that nothing finite overflows, and treat what is not finite as floats do; there is one zero.
A float is read as the number that it stands for, and comparing floats is comparing what they are
read as (`less_ofFloat`, `atMost_ofFloat`).
-/

namespace Verdict.Number

/-- A rational, an infinity, or not-a-number. -/
inductive Exact where
  | finite (q : ℚ)
  | infinite (negative : Bool)
  | nan
  deriving DecidableEq

namespace Exact

/-- Infinities of different signs have no sum. -/
def add : Exact → Exact → Exact
  | .finite a, .finite b => .finite (a + b)
  | .finite _, .infinite negative => .infinite negative
  | .infinite negative, .finite _ => .infinite negative
  | .infinite negative, .infinite negative' =>
      if negative = negative' then .infinite negative else .nan
  | _, _ => .nan

def neg : Exact → Exact
  | .finite a => .finite (-a)
  | .infinite negative => .infinite !negative
  | .nan => .nan

/-- An infinity times a number of some sign; with zero it has no product. -/
def scaleInfinite (negative : Bool) (a : ℚ) : Exact :=
  if a = 0 then .nan else .infinite (negative != decide (a < 0))

def mul : Exact → Exact → Exact
  | .finite a, .finite b => .finite (a * b)
  | .finite a, .infinite negative => scaleInfinite negative a
  | .infinite negative, .finite a => scaleInfinite negative a
  | .infinite negative, .infinite negative' => .infinite (negative != negative')
  | _, _ => .nan

/-- Zero divides as a positive number does. -/
def div : Exact → Exact → Exact
  | .finite a, .finite b => if b = 0 then scaleInfinite false a else .finite (a / b)
  | .finite _, .infinite _ => .finite 0
  | .infinite negative, .finite a => .infinite (negative != decide (a < 0))
  | _, _ => .nan

def less : Exact → Exact → Bool
  | .finite a, .finite b => decide (a < b)
  | .finite _, .infinite negative => !negative
  | .infinite negative, .finite _ => negative
  | .infinite negative, .infinite negative' => negative && !negative'
  | _, _ => false

def atMost : Exact → Exact → Bool
  | .finite a, .finite b => decide (a ≤ b)
  | .finite _, .infinite negative => !negative
  | .infinite negative, .finite _ => negative
  | .infinite negative, .infinite negative' => negative || !negative'
  | _, _ => false

def same : Exact → Exact → Bool
  | .finite a, .finite b => decide (a = b)
  | .infinite negative, .infinite negative' => negative == negative'
  | _, _ => false

/-- The number that a float taken apart stands for. -/
def ofBinary : Binary → Exact
  | .nan => .nan
  | .infinite negative => .infinite negative
  | .finite negative mantissa exponent =>
      let size : ℚ := mantissa * 2 ^ exponent
      .finite (if negative then -size else size)

/-- The number that a float stands for. -/
def ofFloat (x : Float) : Exact :=
  ofBinary (Binary.ofFloat x)

/-- The rational that a number is; zero for what is no rational. -/
def toRat : Exact → ℚ
  | .finite q => q
  | _ => 0

instance : Scalar Exact where
  add := add
  sub x y := x.add y.neg
  mul := mul
  div := div
  ofFloat := ofFloat
  ratio n d := .finite (n / d)
  less := less
  atMost := atMost
  same := same
  isFinite
    | .finite _ => true
    | _ => false
  isNaN
    | .nan => true
    | _ => false

/-! ## Rationals among them -/

section

variable (a b : ℚ)

@[simp] theorem finite_add : (finite a + finite b : Exact) = finite (a + b) := rfl

@[simp] theorem finite_sub : (finite a - finite b : Exact) = finite (a - b) :=
  congrArg finite (sub_eq_add_neg a b).symm

@[simp] theorem finite_mul : (finite a * finite b : Exact) = finite (a * b) := rfl

@[simp] theorem less_finite : Scalar.less (finite a) (finite b) = decide (a < b) := rfl

@[simp] theorem atMost_finite : Scalar.atMost (finite a) (finite b) = decide (a ≤ b) := rfl

@[simp] theorem same_finite : Scalar.same (finite a) (finite b) = decide (a = b) := rfl

@[simp] theorem isFinite_finite : Scalar.isFinite (finite a) = true := rfl

@[simp] theorem isNaN_finite : Scalar.isNaN (finite a) = false := rfl

@[simp] theorem ratio_eq (n d : Nat) : (Scalar.ratio n d : Exact) = finite (n / d) := rfl

@[simp] theorem nat_eq (n : Nat) : (Scalar.nat n : Exact) = finite n :=
  congrArg finite (by rw [Nat.cast_one, div_one])

variable {a b} in
theorem finite_div (nonzero : b ≠ 0) : (finite a / finite b : Exact) = finite (a / b) :=
  if_neg nonzero

/-- Sums of rationals are their sums. -/
theorem sum_finite (qs : List ℚ) : Scalar.sum (qs.map finite) = finite qs.sum := by
  have from_ (s : ℚ) : (qs.map finite).foldl (· + ·) (finite s) = finite (s + qs.sum) := by
    induction qs generalizing s with
    | nil => simp
    | cons q qs ih => rw [List.map_cons, List.foldl_cons, finite_add, ih, List.sum_cons, add_assoc]
  rw [Scalar.sum, nat_eq, from_, Nat.cast_zero, zero_add]

/-- Bringing a rational between two bounds. -/
theorem between_finite (low high x : ℚ) :
    Scalar.between (finite low) (finite high) (finite x) = finite (min high (max x low)) := by
  have raised : (if x < low then finite low else finite x) = finite (max x low) := by
    split
    · rw [max_eq_right (by assumption : x < low).le]
    · rw [max_eq_left (not_lt.mp (by assumption))]
  simp only [Scalar.between, less_finite, decide_eq_true_eq, raised]
  split
  · rw [min_eq_left (by assumption : high < max x low).le]
  · rw [min_eq_right (not_lt.mp (by assumption))]

end

/-! ## Floats among them -/

variable {x y : Float}

/-- The rank of a finite float, which stands for so many units of `2 ^ -1074`. -/
theorem rank_of_finite {negative : Bool} {m : Nat} {e : Int}
    (value : Binary.ofFloat x = .finite negative m e) :
    ∃ a : Int, rank? x = some a ∧ ofFloat x = .finite (a / 2 ^ 1074) ∧
      ∀ top, 2098 ≤ top → -Nat.pow 2 top < a ∧ a < Nat.pow 2 top := by
  obtain ⟨small, low, high, -⟩ := Binary.format_of_finite value
  have units : (m : ℚ) * 2 ^ e = (m * Nat.pow 2 (e + 1074).toNat : Nat) / 2 ^ 1074 := by
    obtain ⟨k, rfl⟩ : ∃ k : Nat, e = k - 1074 := ⟨(e + 1074).toNat, by omega⟩
    have back : ((k : Int) - 1074 + 1074).toNat = k := by omega
    rw [back, zpow_sub₀ two_ne_zero, zpow_natCast, ← mul_div_assoc]
    norm_cast
  have below (top : Nat) (far : 2098 ≤ top) :
      m * Nat.pow 2 (e + 1074).toNat < Nat.pow 2 top := by
    calc m * 2 ^ (e + 1074).toNat
        < 2 ^ 53 * 2 ^ (e + 1074).toNat := Nat.mul_lt_mul_of_pos_right small (Nat.two_pow_pos _)
      _ = 2 ^ (53 + (e + 1074).toNat) := (Nat.pow_add _ _ _).symm
      _ ≤ 2 ^ top := Nat.pow_le_pow_right two_pos (by omega)
  have rank : rank? x = some (if negative then -((m * Nat.pow 2 (e + 1074).toNat : Nat) : Int)
      else ((m * Nat.pow 2 (e + 1074).toNat : Nat) : Int)) := by
    rw [rank?, value]
    rfl
  rw [ofFloat, value, ofBinary, units]
  generalize m * Nat.pow 2 (e + 1074).toNat = size at below rank
  refine ⟨_, rank, ?_, fun top far => ?_⟩
  · cases negative <;> simp [neg_div]
  · have bound := below top far
    split <;> omega

/-- What floats are read as, told by their ranks: the infinities lie beyond all finite numbers. -/
theorem ofFloat_cases : ∃ top : Int, 0 < top ∧ ∀ x : Float,
    (rank? x = none ∧ ofFloat x = .nan) ∨
      (∃ negative, rank? x = some (if negative then -top else top) ∧
        ofFloat x = .infinite negative) ∨
      ∃ a : Int, rank? x = some a ∧ ofFloat x = .finite (a / 2 ^ 1074) ∧ -top < a ∧ a < top := by
  refine ⟨Nat.pow 2 2100, by decide +kernel, fun x => ?_⟩
  cases value : Binary.ofFloat x with
  | nan => exact .inl ⟨by rw [rank?, value]; rfl, by rw [ofFloat, value]; rfl⟩
  | infinite negative =>
    exact .inr (.inl ⟨negative, by rw [rank?, value]; rfl, by rw [ofFloat, value]; rfl⟩)
  | finite negative m e =>
    obtain ⟨a, rank, read, bounds⟩ := rank_of_finite value
    exact .inr (.inr ⟨a, rank, read, bounds 2100 (by decide)⟩)

/-- Comparing floats is comparing the numbers that they stand for. -/
theorem compare_ofFloat (x y : Float) :
    Scalar.less (ofFloat x) (ofFloat y) = Number.less x y ∧
      Scalar.atMost (ofFloat x) (ofFloat y) = Number.atMost x y := by
  have unit : (0 : ℚ) < 2 ^ 1074 := by positivity
  obtain ⟨top, positive, cases⟩ := ofFloat_cases
  unfold Number.less Number.atMost compareRanks
  rcases cases x with ⟨rank, value⟩ | ⟨negative, rank, value⟩ | ⟨a, rank, value, bounds⟩ <;>
    rcases cases y with
      ⟨rank', value'⟩ | ⟨negative', rank', value'⟩ | ⟨b, rank', value', bounds'⟩ <;>
    simp only [rank, rank', value, value']
  case inr.inr.inr.inr =>
    simp only [less_finite, atMost_finite, div_lt_div_iff_of_pos_right unit,
      div_le_div_iff_of_pos_right unit, Int.cast_lt, Int.cast_le, and_self]
  case inr.inl.inr.inl =>
    cases negative <;> cases negative' <;> simp [Scalar.less, Scalar.atMost, less, atMost] <;> omega
  case inr.inl.inr.inr =>
    cases negative <;> simp [Scalar.less, Scalar.atMost, less, atMost] <;> omega
  case inr.inr.inr.inl =>
    cases negative' <;> simp [Scalar.less, Scalar.atMost, less, atMost] <;> omega
  all_goals exact ⟨rfl, rfl⟩

theorem less_ofFloat (x y : Float) : Scalar.less (ofFloat x) (ofFloat y) = Number.less x y :=
  (compare_ofFloat x y).1

theorem atMost_ofFloat (x y : Float) : Scalar.atMost (ofFloat x) (ofFloat y) = Number.atMost x y :=
  (compare_ofFloat x y).2

theorem ofFloat_of_isFinite (finite : Number.isFinite x = true) :
    ofFloat x = .finite (ofFloat x).toRat := by
  obtain ⟨negative, m, e, value⟩ := exists_of_isFinite finite
  rw [ofFloat, value]
  rfl

theorem ofFloat_zero : ofFloat 0 = .finite 0 := by decide +kernel

theorem ofFloat_of_not_less (finite : Number.isFinite x = true)
    (notBelow : Number.less x 0 = false) :
    ofFloat x = .finite (ofFloat x).toRat ∧ 0 ≤ (ofFloat x).toRat := by
  have read := ofFloat_of_isFinite finite
  rw [← less_ofFloat, read, ofFloat_zero, less_finite, decide_eq_false_iff_not, not_lt] at notBelow
  exact ⟨read, notBelow⟩

theorem ofFloat_hundred : ofFloat 100 = .finite 100 := by decide +kernel

end Exact

end Verdict.Number
