import Mathlib.Algebra.Order.Floor.Semiring
import Mathlib.Data.Rat.Floor
import Verdict.Proofs.Number.Exact
import Verdict.Proofs.Number.Scientific

/-!
# Sums and products of floats keep the order

The sum or the product of floats is the exact one rounded to the digits of the format.  `IsRounded`
is rounding with exponents of any size, and it keeps the order (`IsRounded.mono`), whether two
numbers are rounded in one binade or in different ones.  So sums and products of floats that are not
negative are not negative, do not become smaller when an operand grows (`add_ordered`,
`mul_ordered`), and may overflow, but are numbers all the same.
-/

namespace Verdict.Number

open Float.Model (UnpackedFloat Format totalExponent)
open Float.Model.UnpackedFloat

/-! ## The nearest whole number -/

/-- Whether a whole number is nearest to a number, and even if another one is as near. -/
structure IsNearest (m : Nat) (x : ℚ) : Prop where
  lower : (m : ℚ) - 1 / 2 ≤ x
  upper : x ≤ m + 1 / 2
  odd : m % 2 = 1 → (m : ℚ) - 1 / 2 < x ∧ x < m + 1 / 2

namespace IsNearest

variable {m m' : Nat} {x y : ℚ}

theorem self (m : Nat) : IsNearest m m := by
  constructor <;> norm_num

/-- Of two neighbours that are equally near to a number one is odd, and that one is not taken. -/
theorem mono (near : IsNearest m x) (near' : IsNearest m' y) (le : x ≤ y) : m ≤ m' := by
  by_contra above
  have lower := near.lower
  have upper := near'.upper
  have next : (m' : ℚ) + 1 ≤ m := by exact_mod_cast not_le.mp above
  have tie : m = m' + 1 := by
    have : (m : ℚ) = (m' + 1 : Nat) := by push_cast; linarith
    exact_mod_cast this
  subst tie
  push_cast at lower next
  rcases Nat.mod_two_eq_zero_or_one m' with even | odd
  · have strict := (near.odd (by omega)).1
    push_cast at strict
    linarith
  · have strict := (near'.odd odd).2
    linarith

theorem exists_of_nonneg (nonneg : 0 ≤ x) : ∃ m, IsNearest m x := by
  have low := Nat.floor_le nonneg
  have high := Nat.lt_floor_add_one x
  generalize ⌊x⌋₊ = m at low high
  by_cases near : x < m + 1 / 2 ∨ (x = m + 1 / 2 ∧ m % 2 = 0)
  · refine ⟨m, by linarith, ?_, fun odd => ⟨by linarith, ?_⟩⟩
    · rcases near with less | ⟨equal, -⟩ <;> linarith
    · exact near.resolve_right fun tie => by omega
  · have beyond : (m : ℚ) + 1 / 2 ≤ x := not_lt.mp fun less => near (.inl less)
    refine ⟨m + 1, ?_, ?_, fun odd => ⟨?_, ?_⟩⟩ <;> push_cast
    · linarith
    · linarith
    · have other : x ≠ m + 1 / 2 := fun equal => near (.inr ⟨equal, by omega⟩)
      have := lt_of_le_of_ne beyond other.symm
      linarith
    · linarith

end IsNearest

/-- The rounded mantissa is nearest to what the mantissa stands for. -/
theorem Represents.isNearest {em : ExtendedMantissa} {x : ℚ} (h : Represents em x) :
    IsNearest em.roundedMantissa x := by
  have nonneg : 0 ≤ x := (Nat.cast_nonneg _).trans h.floor.1
  obtain ⟨m, near⟩ := IsNearest.exists_of_nonneg nonneg
  rw [h.roundedMantissa near.lower near.upper near.odd]
  exact near

/-! ## Rounding to the digits of the format -/

/-- Whether `v` is what `q`, not negative, is rounded to: a multiple of the unit of its binade, or
    of the least unit. -/
def IsRounded (q v : ℚ) : Prop :=
  ∃ (t : Int) (m : Nat), v = m * 2 ^ t ∧ IsNearest m (q / 2 ^ t) ∧ -1074 ≤ t ∧ q < 2 ^ (t + 53) ∧
    (t = -1074 ∨ (2 : ℚ) ^ (t + 52) ≤ q)

theorem IsRounded.nonneg {q v : ℚ} (rounded : IsRounded q v) : 0 ≤ v := by
  obtain ⟨t, m, rfl, -⟩ := rounded
  positivity

theorem binade_start (t : Int) : (2 : ℚ) ^ (t + 52) = 4503599627370496 * 2 ^ t := by
  rw [zpow_add₀ two_ne_zero, mul_comm]
  norm_num

theorem binade_end (t : Int) : (2 : ℚ) ^ (t + 53) = 9007199254740992 * 2 ^ t := by
  rw [zpow_add₀ two_ne_zero, mul_comm]
  norm_num

namespace IsNearest

variable {m : Nat} {q : ℚ} {t : Int}

/-- What lies in a binade or below is rounded to the end of the binade at most. -/
theorem le_of_binade (near : IsNearest m (q / 2 ^ t)) (below : q < 2 ^ (t + 53)) :
    m ≤ 9007199254740992 := by
  refine near.mono (.self _) ?_
  rw [binade_end] at below
  exact (div_le_iff₀ (by positivity)).mpr below.le

/-- What lies in a binade or above is rounded to the start of the binade at least. -/
theorem ge_of_binade (near : IsNearest m (q / 2 ^ t)) (above : 2 ^ (t + 52) ≤ q) :
    4503599627370496 ≤ m := by
  refine (IsNearest.self _).mono near ?_
  rw [binade_start] at above
  exact (le_div_iff₀ (by positivity)).mpr above

end IsNearest

/-- Rounding keeps the order. -/
theorem IsRounded.mono {q q' v v' : ℚ} (rounded : IsRounded q v) (rounded' : IsRounded q' v')
    (le : q ≤ q') : v ≤ v' := by
  obtain ⟨t, m, rfl, near, low, below, above⟩ := rounded
  obtain ⟨t', m', rfl, near', low', below', above'⟩ := rounded'
  rcases lt_trichotomy t t' with less | rfl | more
  · -- The lower binade is rounded to at most its end, the higher one to at least its start.
    have most := near.le_of_binade below
    have least := near'.ge_of_binade (above'.resolve_left (by omega))
    calc (m : ℚ) * 2 ^ t ≤ 9007199254740992 * 2 ^ t := by gcongr; exact_mod_cast most
      _ = 2 ^ (t + 53) := (binade_end t).symm
      _ ≤ 2 ^ (t' + 52) := zpow_le_zpow_right₀ one_le_two (by omega)
      _ = 4503599627370496 * 2 ^ t' := binade_start t'
      _ ≤ m' * 2 ^ t' := by gcongr; exact_mod_cast least
  · have whole := near.mono near' (by gcongr)
    gcongr
  · have start := above.resolve_left (by omega)
    have order : (2 : ℚ) ^ (t' + 53) ≤ 2 ^ (t + 52) :=
      zpow_le_zpow_right₀ one_le_two (by omega)
    linarith

/-! ## What the arithmetic of floats rounds to -/

/-- The mantissas and exponents of rounded numbers, before those that are too large overflow. -/
structure Normalized (mantissa : Nat) (exponent : Int) : Prop where
  positive : 0 < mantissa
  small : mantissa < 9007199254740992
  low : -1074 ≤ exponent
  normal : 4503599627370496 ≤ mantissa ∨ exponent = -1074

/-- Whether an unpacked float is zero or positive and stands for a number. -/
inductive StandsFor : UnpackedFloat → ℚ → Prop
  | zero (sign : Sign) : StandsFor (.zero sign) 0
  | finite {m : Nat} {e : Int} (normalized : Normalized m e) :
      StandsFor (.finite .positive m e normalized.positive) (m * 2 ^ e)

section

variable {m : Nat} {e : Int}

/-- A mantissa that is not too long needs no further shift. -/
theorem shiftToTargetExponent_small (small : m < 9007199254740992) (low : -1074 ≤ e) :
    shiftToTargetExponent Format.binary64 m e .exact =
      (.ofMantissaAndAccuracy m .exact, e) := by
  have bits : m.log2 < 53 := by
    rcases Nat.eq_zero_or_pos m with rfl | positive
    · decide
    · exact (Nat.log2_lt positive.ne').mpr (by omega)
  have none : (max ((m.log2 : Int) + 1 + e - 53) (-1074) - e).toNat = 0 := by omega
  simp only [shiftToTargetExponent, shiftToExponent, targetExponent_eq, totalExponent, none]
  rw [Int.natCast_zero, Int.add_zero]
  rfl

/-- A rounded mantissa of at most one bit more than the format has is brought into the format. -/
theorem standsFor_of_rounded {em : ExtendedMantissa} {m' : Nat} {e' : Int} {accuracy : Accuracy}
    (first : shiftToTargetExponent Format.binary64 m' e' accuracy = (em, e))
    (small : em.roundedMantissa ≤ 9007199254740992) (low : -1074 ≤ e)
    (normal : 4503599627370496 ≤ em.roundedMantissa ∨ e = -1074) :
    StandsFor (roundWithAccuracy Format.binary64 .positive m' e' accuracy)
      (em.roundedMantissa * 2 ^ e) := by
  rcases Nat.eq_zero_or_pos em.roundedMantissa with none | positive
  · have result : roundWithAccuracy Format.binary64 .positive m' e' accuracy = .zero .positive := by
      unfold roundWithAccuracy
      rw [first]
      dsimp only
      rw [none, shiftToTargetExponent_small (by decide) low]
      rfl
    rw [result, none, Nat.cast_zero, zero_mul]
    exact .zero .positive
  · rcases small.lt_or_eq with less | carry
    · have normalized : Normalized em.roundedMantissa e := ⟨positive, less, low, normal⟩
      rw [roundWithAccuracy_eq .positive positive first (shiftToTargetExponent_small less low)]
      exact .finite normalized
    · have normalized : Normalized 4503599627370496 (e + 1) :=
        ⟨by decide, by decide, by omega, .inl (Nat.le_refl _)⟩
      have second := shiftToTargetExponent_carry low
      rw [← carry] at second
      have value : (em.roundedMantissa * 2 ^ e : ℚ) = (4503599627370496 : Nat) * 2 ^ (e + 1) := by
        rw [carry, zpow_add_one₀ two_ne_zero]
        push_cast
        ring
      rw [roundWithAccuracy_eq .positive normalized.positive first second, value]
      exact .finite normalized

/-- A number lies in the binade of its first digit. -/
theorem binade_of_log2 (positive : 0 < m) (e : Int) :
    (2 : ℚ) ^ ((m.log2 : Int) + e) ≤ m * 2 ^ e ∧
      (m * 2 ^ e : ℚ) < 2 ^ ((m.log2 : Int) + 1 + e) := by
  have power (k : Nat) : (2 : ℚ) ^ ((k : Int) + e) = (2 ^ k : Nat) * 2 ^ e := by
    rw [zpow_add₀ two_ne_zero, zpow_natCast]
    push_cast
    rfl
  constructor
  · rw [power]
    gcongr
    exact Nat.log2_self_le positive.ne'
  · rw [← Int.natCast_succ, power]
    gcongr
    exact Nat.lt_log2_self

/-- Rounding a mantissa that has the digits of the format, or more. -/
theorem roundWithAccuracy_isRounded (positive : 0 < m)
    (fine : e ≤ Format.binary64.targetExponent (totalExponent m e)) :
    ∃ v, IsRounded (m * 2 ^ e) v ∧
      StandsFor (roundWithAccuracy Format.binary64 .positive m e .exact) v := by
  have total : Format.binary64.targetExponent (totalExponent m e) =
      max ((m.log2 : Int) + e - 52) (-1074) := by
    rw [targetExponent_eq, totalExponent]
    omega
  generalize level : Format.binary64.targetExponent (totalExponent m e) = t at fine total
  obtain ⟨shift, rfl⟩ : ∃ shift : Nat, t = e + shift := ⟨(t - e).toNat, by omega⟩
  have low : -1074 ≤ e + (shift : Int) := by omega
  have first : shiftToTargetExponent Format.binary64 m e .exact =
      (ExtendedMantissa.ofMantissaAndAccuracy m .exact >>> shift, e + shift) := by
    simp only [shiftToTargetExponent, shiftToExponent, level]
    rw [show (e + (shift : Int) - e).toNat = shift by omega]
  have near := ((Represents.ofExact m).shiftRight shift).isNearest
  have value : (m / 2 ^ shift : ℚ) = m * 2 ^ e / 2 ^ (e + (shift : Int)) := by
    rw [zpow_add₀ two_ne_zero, zpow_natCast]
    field_simp
  rw [value] at near
  generalize ExtendedMantissa.ofMantissaAndAccuracy m .exact >>> shift = em at first near
  -- The first digit is in the binade of the exponent, or in a lower one.
  obtain ⟨start, stop⟩ := binade_of_log2 positive e
  have below : (m * 2 ^ e : ℚ) < 2 ^ (e + (shift : Int) + 53) :=
    stop.trans_le (zpow_le_zpow_right₀ one_le_two (by omega))
  have above : e + (shift : Int) = -1074 ∨ (2 : ℚ) ^ (e + (shift : Int) + 52) ≤ m * 2 ^ e := by
    by_cases least : e + (shift : Int) = -1074
    · exact .inl least
    · exact .inr ((zpow_le_zpow_right₀ one_le_two (by omega)).trans start)
  exact ⟨_, ⟨_, _, rfl, near, low, below, above⟩, standsFor_of_rounded first
    (near.le_of_binade below) low (above.symm.imp_left near.ge_of_binade)⟩

/-- A mantissa that is made longer stands for the same number with a lower exponent. -/
theorem shiftLeft_mul (m shift : Nat) (e : Int) :
    ((m <<< shift : Nat) * 2 ^ (e - (shift : Int)) : ℚ) = m * 2 ^ e := by
  rw [zpow_sub₀ two_ne_zero, zpow_natCast, Nat.shiftLeft_eq]
  push_cast
  field_simp

theorem shiftLeft_pos (positive : 0 < m) (shift : Nat) : 0 < m <<< shift := by
  rw [Nat.shiftLeft_eq]
  positivity

/-- Rounding any mantissa, which is made longer first if it is short. -/
theorem round_isRounded (positive : 0 < m) (e : Int) :
    ∃ v, IsRounded (m * 2 ^ e) v ∧
      StandsFor (UnpackedFloat.round Format.binary64 .positive m e) v := by
  have unfolded : UnpackedFloat.round Format.binary64 .positive m e =
      let shift := (e - Format.binary64.targetExponent (totalExponent m e)).toNat
      roundWithAccuracy Format.binary64 .positive (m <<< shift) (e - shift) .exact := rfl
  rw [unfolded]
  dsimp only
  generalize level : (e - Format.binary64.targetExponent (totalExponent m e)).toNat = shift
  have longer := shiftLeft_pos positive shift
  have bits : (m <<< shift).log2 = m.log2 + shift := by
    rw [Nat.log2_eq_iff longer.ne', Nat.shiftLeft_eq, Nat.pow_add, Nat.pow_succ, Nat.pow_add,
      Nat.mul_right_comm]
    exact ⟨Nat.mul_le_mul_right _ (Nat.log2_self_le positive.ne'),
      Nat.mul_lt_mul_of_pos_right (by rw [← Nat.pow_succ]; exact Nat.lt_log2_self) (by positivity)⟩
  rw [← shiftLeft_mul m shift e]
  refine roundWithAccuracy_isRounded longer ?_
  rw [targetExponent_eq, totalExponent] at level ⊢
  omega

/-! ## Sums and products -/

variable {u w : UnpackedFloat} {a b : ℚ}

theorem isRounded_zero : IsRounded 0 0 :=
  ⟨-1074, 0, by simp, by simpa using IsNearest.self 0, by omega, by positivity, .inl rfl⟩

/-- What floats stand for is rounded already. -/
theorem StandsFor.isRounded (stands : StandsFor u a) : IsRounded a a := by
  cases stands with
  | zero sign => exact isRounded_zero
  | @finite m e normalized =>
    have unit : (0 : ℚ) < 2 ^ e := by positivity
    refine ⟨e, m, rfl, ?_, normalized.low, ?_, normalized.normal.symm.imp_right fun large => ?_⟩
    · rw [mul_div_cancel_right₀ _ unit.ne']
      exact .self m
    · rw [binade_end]
      gcongr
      exact_mod_cast normalized.small
    · rw [binade_start]
      gcongr
      exact_mod_cast large

theorem add_isRounded (stands : StandsFor u a) (stands' : StandsFor w b) :
    ∃ v, IsRounded (a + b) v ∧ StandsFor (add Format.binary64 u w) v := by
  cases stands with
  | zero sign =>
    rw [zero_add]
    refine ⟨b, stands'.isRounded, ?_⟩
    cases stands' with
    | zero sign' =>
      cases sign <;> cases sign'
      all_goals exact .zero _
    | finite normalized => exact .finite normalized
  | @finite m e normalized =>
    cases stands' with
    | zero sign =>
      rw [add_zero]
      exact ⟨_, (StandsFor.finite normalized).isRounded, .finite normalized⟩
    | @finite m' e' normalized' =>
      have positive := normalized.positive
      have positive' := normalized'.positive
      have aligned (k : Nat) (f : Int) (low : min e e' ≤ f) :
          ((k <<< (f - min e e').toNat : Nat) * 2 ^ min e e' : ℚ) = k * 2 ^ f := by
        rw [← shiftLeft_mul k (f - min e e').toNat f,
          show f - ((f - min e e').toNat : Int) = min e e' by omega]
      have sum : add Format.binary64 (.finite .positive m e positive)
            (.finite .positive m' e' positive') =
          normalize Format.binary64 ((m <<< (e - min e e').toNat : Nat) +
            (m' <<< (e' - min e e').toNat : Nat)) (min e e') .positive := rfl
      have value := congrArg₂ (· + ·) (aligned m e (min_le_left e e'))
        (aligned m' e' (min_le_right e e'))
      rw [← add_mul, ← Nat.cast_add] at value
      have longer := shiftLeft_pos positive (e - min e e').toNat
      rw [sum, ← value]
      generalize m <<< (e - min e e').toNat = k at longer ⊢
      generalize m' <<< (e' - min e e').toNat = k'
      have order : compare ((k : Int) + k') 0 = .gt := compare_gt_iff_gt.mpr (by omega)
      unfold UnpackedFloat.normalize
      simp only [order]
      rw [show ((k : Int) + k').toNat = k + k' by omega]
      exact round_isRounded (by omega) (min e e')

theorem infinity_add (stands : StandsFor w b) :
    add Format.binary64 (.infinity .positive) w = .infinity .positive := by
  cases stands <;> rfl

theorem add_infinity (stands : StandsFor u a) :
    add Format.binary64 u (.infinity .positive) = .infinity .positive := by
  cases stands <;> rfl

theorem infinity_mul (stands : StandsFor w b) (positive : 0 < b) :
    mul Format.binary64 (.infinity .positive) w = .infinity .positive := by
  cases stands with
  | zero sign => exact absurd positive (lt_irrefl 0)
  | finite normalized => rfl

theorem mul_isRounded (stands : StandsFor u a) (stands' : StandsFor w b) :
    ∃ v, IsRounded (a * b) v ∧ StandsFor (mul Format.binary64 u w) v := by
  cases stands with
  | zero sign =>
    rw [zero_mul]
    refine ⟨0, isRounded_zero, ?_⟩
    cases stands' with
    | zero sign' => exact .zero _
    | finite normalized => exact .zero _
  | @finite m e normalized =>
    cases stands' with
    | zero sign =>
      rw [mul_zero]
      exact ⟨0, isRounded_zero, .zero _⟩
    | @finite m' e' normalized' =>
      have value : (m * 2 ^ e * (m' * 2 ^ e') : ℚ) = (m * m' : Nat) * 2 ^ (e + e') := by
        rw [zpow_add₀ two_ne_zero]
        push_cast
        ring
      rw [value]
      refine roundWithAccuracy_isRounded (Nat.mul_pos normalized.positive normalized'.positive) ?_
      rw [targetExponent_eq, totalExponent]
      -- Unless one operand has all digits of the format, both exponents are the least.
      by_cases least : e = -1074 ∧ e' = -1074
      · omega
      · have large : 4503599627370496 ≤ m * m' := by
          rcases normalized.normal with large | low
          · exact large.trans (Nat.le_mul_of_pos_right m normalized'.positive)
          · have large := normalized'.normal.resolve_right fun low' => least ⟨low, low'⟩
            exact large.trans (Nat.le_mul_of_pos_left m' normalized.positive)
        have bits : 52 ≤ (m * m').log2 :=
          (Nat.le_log2 (Nat.mul_pos normalized.positive normalized'.positive).ne').mpr large
        omega

end

/-! ## Infinity above all others -/

namespace Exact

theorem atMost_infinite {x : Exact} (nonneg : Scalar.atMost (.finite 0) x = true) :
    Scalar.atMost x (.infinite false) = true := by
  cases x with
  | finite a => rfl
  | infinite negative => cases negative <;> rfl
  | nan => cases nonneg

/-- The greater of two numbers is infinite if not both are finite. -/
theorem cases_of_atMost {x y : Exact} (nonneg : Scalar.atMost (.finite 0) x = true)
    (le : Scalar.atMost x y = true) :
    y = .infinite false ∨ ∃ a b : ℚ, x = .finite a ∧ y = .finite b ∧ a ≤ b := by
  cases y with
  | nan => cases x <;> cases le
  | infinite negative =>
    cases negative with
    | false => exact .inl rfl
    | true =>
      cases x with
      | finite a => cases le
      | infinite negative => cases negative <;> [cases le; cases nonneg]
      | nan => cases le
  | finite b =>
    cases x with
    | finite a => exact .inr ⟨a, b, rfl, rfl, by simpa using le⟩
    | infinite negative => cases negative <;> [cases le; cases nonneg]
    | nan => cases le

theorem infinite_mul_of_pos {b : ℚ} (positive : 0 < b) :
    infinite false * finite b = infinite false := by
  have result : infinite false * finite b = scaleInfinite false b := rfl
  rw [result, scaleInfinite, if_neg positive.ne', decide_eq_false positive.not_gt]
  rfl

end Exact

/-! ## Floats -/

open Exact (ofFloat atMost_ofFloat ofFloat_zero)

/-- A rounded number as floats have it: one that is too large becomes infinite. -/
def overflowing (v : ℚ) : Exact :=
  if v < 2 ^ (1024 : Int) then .finite v else .infinite false

theorem overflowing_mono {v v' : ℚ} (le : v ≤ v') :
    Scalar.atMost (overflowing v) (overflowing v') = true := by
  unfold overflowing
  split
  · split
    · simpa using le
    · rfl
  next above =>
    rw [if_neg fun below => above (le.trans_lt below)]
    rfl

theorem overflowing_nonneg {v : ℚ} (nonneg : 0 ≤ v) :
    Scalar.atMost (.finite 0) (overflowing v) = true := by
  unfold overflowing
  split
  · simpa using nonneg
  · rfl

/-- What a number that is not negative becomes in floats. -/
inductive RoundsTo : Exact → Exact → Prop
  | infinite : RoundsTo (.infinite false) (.infinite false)
  | finite {q v : ℚ} (rounded : IsRounded q v) : RoundsTo (.finite q) (overflowing v)

namespace RoundsTo

variable {q q' r r' : Exact}

theorem nonneg (rounds : RoundsTo q r) : Scalar.atMost (.finite 0) r = true := by
  cases rounds with
  | infinite => rfl
  | finite rounded => exact overflowing_nonneg rounded.nonneg

theorem atMost_infinite (rounds : RoundsTo q r) : Scalar.atMost q (.infinite false) = true := by
  cases rounds <;> rfl

/-- Rounding keeps the order also where numbers overflow. -/
theorem mono (rounds : RoundsTo q r) (rounds' : RoundsTo q' r')
    (le : Scalar.atMost q q' = true) : Scalar.atMost r r' = true := by
  cases rounds with
  | infinite =>
    cases rounds' with
    | infinite => rfl
    | finite => cases le
  | finite rounded =>
    cases rounds' with
    | infinite => exact Exact.atMost_infinite (overflowing_nonneg rounded.nonneg)
    | finite rounded' =>
      rw [Exact.atMost_finite, decide_eq_true_eq] at le
      exact overflowing_mono (rounded.mono rounded' le)

end RoundsTo

section

variable {u : UnpackedFloat} {m : Nat} {e : Int} {v : ℚ} {x y : Float}

/-- What floats stand for is less than their limit if the exponent is one of the format. -/
theorem Normalized.lt_limit_iff (normalized : Normalized m e) :
    (m * 2 ^ e : ℚ) < 2 ^ (1024 : Int) ↔ e ≤ 971 := by
  constructor
  · intro below
    by_contra high
    have large := normalized.normal.resolve_right (by omega)
    refine below.not_ge ?_
    calc (2 : ℚ) ^ (1024 : Int) ≤ 2 ^ (e + 52) := zpow_le_zpow_right₀ one_le_two (by omega)
      _ = 4503599627370496 * 2 ^ e := binade_start e
      _ ≤ m * 2 ^ e := by
        gcongr
        exact_mod_cast large
  · intro high
    calc (m * 2 ^ e : ℚ) < 9007199254740992 * 2 ^ e := by
          gcongr
          exact_mod_cast normalized.small
      _ = 2 ^ (e + 53) := (binade_end e).symm
      _ ≤ 2 ^ (1024 : Int) := zpow_le_zpow_right₀ one_le_two (by omega)

/-- Too large an exponent is packed as infinity. -/
theorem ofFloat_pack_large (positive : 0 < m) (high : 971 < e) :
    ofFloat (.ofModel (.pack (.finite .positive m e positive))) = .infinite false := by
  have biased : (e + (Format.binary64.exponentBias : Nat) + (52 : Nat)).toNat =
      (e + 1075).toNat := by
    rw [show Format.binary64.exponentBias = 1023 from rfl]
    omega
  have packed : pack Format.binary64 (.finite .positive m e positive) =
      packedInfinity Format.binary64 .positive := by
    rw [pack_finite]
    simp only [biased]
    exact if_pos (by omega)
  have infinite : Binary.ofBits (.ofBitVec (packedInfinity Format.binary64 .positive)) =
      .infinite false := by decide +kernel
  have seen : Binary.ofFloat (.ofModel (.pack (.finite .positive m e positive))) =
      .infinite false := by
    rw [← infinite, ← packed]
    rfl
  rw [ofFloat, seen]
  rfl

theorem ofFloat_pack_of_standsFor (stands : StandsFor u v) :
    ofFloat (.ofModel (.pack u)) = overflowing v := by
  cases stands with
  | zero sign =>
    have zero : overflowing 0 = .finite 0 := if_pos (by positivity)
    rw [zero]
    cases sign <;> decide +kernel
  | @finite m e normalized =>
    by_cases high : e ≤ 971
    · have canonical : Canonical m e :=
        ⟨normalized.positive, normalized.small, normalized.low, high, normalized.normal⟩
      rw [overflowing, if_pos (normalized.lt_limit_iff.mpr high), ofFloat, ofFloat_pack canonical]
      rfl
    · rw [overflowing, if_neg (mt normalized.lt_limit_iff.mp high),
        ofFloat_pack_large normalized.positive (not_le.mp high)]

/-- A float that is not negative is infinite, or is seen as what it stands for. -/
theorem unpack_of_nonneg (nonneg : Number.atMost 0 x = true) :
    (ofFloat x = .infinite false ∧ x.toModel.unpack = .infinity .positive) ∨
      ∃ a, ofFloat x = .finite a ∧ StandsFor x.toModel.unpack a := by
  have value : ofFloat x = Exact.ofBinary (Binary.ofUnpacked x.toModel.unpack) := by
    rw [ofFloat, Binary.ofFloat_eq]
  rw [← atMost_ofFloat, ofFloat_zero, value] at nonneg
  rw [value]
  cases seen : x.toModel.unpack with
  | notANumber => rw [seen] at nonneg; cases nonneg
  | infinity sign =>
    cases sign with
    | negative => rw [seen] at nonneg; cases nonneg
    | positive => exact .inl ⟨rfl, rfl⟩
  | zero sign =>
    refine .inr ⟨0, ?_, .zero sign⟩
    change Exact.ofBinary (.finite (Binary.isNegative sign) 0 (-1074)) = .finite 0
    cases sign <;> simp [Binary.isNegative, Exact.ofBinary]
  | finite sign m e positive =>
    rw [seen] at nonneg
    have read : Binary.ofFloat x = .finite (Binary.isNegative sign) m e := by
      rw [Binary.ofFloat_eq, seen]
      rfl
    obtain ⟨small, low, -, normal⟩ := Binary.format_of_finite read
    have size : (0 : ℚ) < m * 2 ^ e := by positivity
    cases sign with
    | negative =>
      have below : Exact.ofBinary (Binary.ofUnpacked (.finite .negative m e positive)) =
          .finite (-(m * 2 ^ e)) := rfl
      rw [below, Exact.atMost_finite, decide_eq_true_eq] at nonneg
      linarith
    | positive => exact .inr ⟨m * 2 ^ e, rfl, .finite ⟨positive, small, low, normal⟩⟩

theorem roundsTo_infinity :
    RoundsTo (.infinite false) (ofFloat (.ofModel (.pack (.infinity .positive)))) := by
  have infinite : ofFloat (.ofModel (.pack (.infinity .positive))) = .infinite false := by
    decide +kernel
  rw [infinite]
  exact .infinite

/-- The sum of floats that are not negative is the exact one rounded. -/
theorem roundsTo_add (nonneg : Number.atMost 0 x = true) (nonneg' : Number.atMost 0 y = true) :
    RoundsTo (ofFloat x + ofFloat y) (ofFloat (x + y)) := by
  have sum : x + y = .ofModel (.pack (add Format.binary64 x.toModel.unpack y.toModel.unpack)) := rfl
  rw [sum]
  rcases unpack_of_nonneg nonneg with ⟨value, seen⟩ | ⟨a, value, stands⟩
  · rcases unpack_of_nonneg nonneg' with ⟨value', seen'⟩ | ⟨b, value', stands'⟩
    · rw [value, value', seen, seen']
      exact roundsTo_infinity
    · rw [value, value', seen, infinity_add stands']
      exact roundsTo_infinity
  · rcases unpack_of_nonneg nonneg' with ⟨value', seen'⟩ | ⟨b, value', stands'⟩
    · rw [value, value', seen', add_infinity stands]
      exact roundsTo_infinity
    · obtain ⟨v, rounded, result⟩ := add_isRounded stands stands'
      rw [value, value', Exact.finite_add, ofFloat_pack_of_standsFor result]
      exact .finite rounded

/-- The product of a float that is not negative and a positive finite one is the exact one
    rounded. -/
theorem roundsTo_mul (nonneg : Number.atMost 0 x = true) {b : ℚ} (value' : ofFloat y = .finite b)
    (positive : 0 < b) : RoundsTo (ofFloat x * .finite b) (ofFloat (x * y)) := by
  have product : x * y = .ofModel (.pack (mul Format.binary64 x.toModel.unpack y.toModel.unpack)) :=
    rfl
  have nonneg' : Number.atMost 0 y = true := by
    rw [← atMost_ofFloat, ofFloat_zero, value', Exact.atMost_finite, decide_eq_true_eq]
    exact positive.le
  obtain ⟨b', equal, stands'⟩ := (unpack_of_nonneg nonneg').resolve_left (by simp [value'])
  obtain rfl : b = b' := Exact.finite.inj (value'.symm.trans equal)
  rw [product]
  rcases unpack_of_nonneg nonneg with ⟨value, seen⟩ | ⟨a, value, stands⟩
  · rw [value, seen, infinity_mul stands' positive, Exact.infinite_mul_of_pos positive]
    exact roundsTo_infinity
  · obtain ⟨v, rounded, result⟩ := mul_isRounded stands stands'
    rw [value, Exact.finite_mul, ofFloat_pack_of_standsFor result]
    exact .finite rounded

end

/-- A sum of floats that are not negative is not negative, and not greater than one of greater
    floats. -/
theorem add_ordered {x x' y y' : Float} (nonneg : Number.atMost 0 x = true)
    (nonneg' : Number.atMost 0 y = true) (le : Number.atMost x x' = true)
    (le' : Number.atMost y y' = true) :
    Number.atMost 0 (x + y) = true ∧ Number.atMost (x + y) (x' + y') = true := by
  have lower := roundsTo_add nonneg nonneg'
  have upper := roundsTo_add (atMost_trans nonneg le) (atMost_trans nonneg' le')
  rw [← atMost_ofFloat, ofFloat_zero] at nonneg nonneg'
  rw [← atMost_ofFloat] at le le'
  rw [← atMost_ofFloat, ← atMost_ofFloat, ofFloat_zero]
  refine ⟨lower.nonneg, lower.mono upper ?_⟩
  obtain top | ⟨a, a', value, value', order⟩ := Exact.cases_of_atMost nonneg le
  · obtain top' | ⟨b, b', -, value', -⟩ := Exact.cases_of_atMost nonneg' le'
    · rw [top, top']
      exact lower.atMost_infinite
    · rw [top, value']
      exact lower.atMost_infinite
  · obtain top' | ⟨b, b', other, other', order'⟩ := Exact.cases_of_atMost nonneg' le'
    · rw [value', top']
      exact lower.atMost_infinite
    · rw [value, value', other, other', Exact.finite_add, Exact.finite_add, Exact.atMost_finite,
        decide_eq_true_eq]
      exact add_le_add order order'

/-- So is a product of a float that is not negative and a positive one that stays. -/
theorem mul_ordered {x x' y : Float} (nonneg : Number.atMost 0 x = true)
    (le : Number.atMost x x' = true) (finite : Number.isFinite y = true)
    (positive : Number.less 0 y = true) :
    Number.atMost 0 (x * y) = true ∧ Number.atMost (x * y) (x' * y) = true := by
  have factor := Exact.ofFloat_of_isFinite finite
  rw [← Exact.less_ofFloat, ofFloat_zero, factor, Exact.less_finite, decide_eq_true_eq] at positive
  have lower := roundsTo_mul nonneg factor positive
  have upper := roundsTo_mul (atMost_trans nonneg le) factor positive
  rw [← atMost_ofFloat, ofFloat_zero] at nonneg
  rw [← atMost_ofFloat] at le
  rw [← atMost_ofFloat, ← atMost_ofFloat, ofFloat_zero]
  refine ⟨lower.nonneg, lower.mono upper ?_⟩
  obtain top | ⟨a, a', value, value', order⟩ := Exact.cases_of_atMost nonneg le
  · rw [top, Exact.infinite_mul_of_pos positive]
    exact lower.atMost_infinite
  · rw [value, value', Exact.finite_mul, Exact.finite_mul, Exact.atMost_finite, decide_eq_true_eq]
    exact mul_le_mul_of_nonneg_right order positive.le

/-! ## Differences -/

/-- Whether an unpacked float is a number. -/
def IsNumber (u : UnpackedFloat) : Prop :=
  u ≠ .notANumber

theorem roundWithAccuracy_isNumber (sign : Sign) (m : Nat) (e : Int) (accuracy : Accuracy) :
    IsNumber (roundWithAccuracy Format.binary64 sign m e accuracy) := by
  unfold roundWithAccuracy
  rw [apply_dite IsNumber, dite_prop_iff_and]
  exact ⟨fun _ equal => UnpackedFloat.noConfusion equal,
    fun _ equal => UnpackedFloat.noConfusion equal⟩

theorem normalize_isNumber (m e : Int) (sign : Sign) :
    IsNumber (normalize Format.binary64 m e sign) := by
  unfold UnpackedFloat.normalize
  split
  · exact roundWithAccuracy_isNumber _ _ _ _
  · exact fun equal => UnpackedFloat.noConfusion equal
  · exact roundWithAccuracy_isNumber _ _ _ _

theorem sub_isNumber {sign : Sign} {m : Nat} {e : Int} {positive : 0 < m} {w : UnpackedFloat}
    (isNumber : IsNumber w) : IsNumber (sub Format.binary64 (.finite sign m e positive) w) := by
  cases w with
  | notANumber => exact absurd rfl isNumber
  | infinity sign' => exact fun equal => UnpackedFloat.noConfusion equal
  | zero sign' => exact fun equal => UnpackedFloat.noConfusion equal
  | finite sign' m' e' positive' => exact normalize_isNumber _ _ _

/-- Packing a number makes a float that is one. -/
theorem isNaN_pack {u : UnpackedFloat} (isNumber : IsNumber u) :
    isNaN (.ofModel (.pack u)) = false := by
  cases u with
  | notANumber => exact absurd rfl isNumber
  | infinity sign => cases sign <;> decide +kernel
  | zero sign => cases sign <;> decide +kernel
  | finite sign m e positive =>
    have ranked (bits : UInt64)
        (number : ∃ negative m e, Binary.ofBits bits = .finite negative m e) :
        (Binary.ofBits bits).rank?.isNone = false := by
      obtain ⟨negative, m, e, value⟩ := number
      rw [value]
      rfl
    show (Binary.ofBits (.ofBitVec (pack Format.binary64 _))).rank?.isNone = false
    rw [pack_finite]
    dsimp only
    split
    · cases sign <;> decide +kernel
    next inRange =>
      split
      · refine ranked _ ?_
        have field : (BitVec.ofNat 11
            (e + (Format.binary64.exponentBias : Nat) + (52 : Nat)).toNat).toNat ≠ 2047 := by
          rw [BitVec.toNat_ofNat]
          omega
        rw [ofBits_packComponents _ _ _ field]
        split <;> exact ⟨_, _, _, rfl⟩
      · refine ranked _ ?_
        rw [ofBits_packComponents _ _ _ (by decide)]
        split <;> exact ⟨_, _, _, rfl⟩

/-- What is taken from a finite float leaves a number. -/
theorem isNaN_sub {x y : Float} {negative : Bool} {m : Nat} {e : Int}
    (value : Binary.ofFloat x = .finite negative m e) (positive : 0 < m)
    (isNumber : isNaN y = false) : isNaN (x - y) = false := by
  obtain ⟨sign, -, ⟨zero, -⟩ | ⟨_, seen⟩⟩ := Binary.unpack_of_finite value
  · omega
  · have difference : x - y =
        .ofModel (.pack (sub Format.binary64 x.toModel.unpack y.toModel.unpack)) := rfl
    rw [difference, seen]
    refine isNaN_pack (sub_isNumber fun none => ?_)
    rw [isNaN, rank?, Binary.ofFloat_eq, none] at isNumber
    cases isNumber

end Verdict.Number
