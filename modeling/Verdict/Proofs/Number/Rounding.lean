import Mathlib.Algebra.Order.Field.Power
import Mathlib.Data.Rat.Cast.Order
import Mathlib.Tactic.FieldSimp
import Mathlib.Tactic.GCongr
import Mathlib.Tactic.Linarith
import Mathlib.Tactic.Positivity
import Mathlib.Tactic.Ring
import Verdict.Proofs.Number.Binary

/-!
# Numbers that are rounded to a float

A rational number is rounded to the float it is nearest to, and to the even one of two that are
equally near.  `Rounds` is the interval of the numbers that are rounded to one float, and
`roundWithAccuracy_of_rounds` says that the arithmetic of floats finds that float; so do products
and quotients.
-/

namespace Verdict.Number

open Float.Model (UnpackedFloat Format totalExponent)
open Float.Model.UnpackedFloat

/-! ## Rounding to a whole number -/

/-- The number of halves that a mantissa and its first residual bit stand for. -/
def halves (em : ExtendedMantissa) : Nat :=
  2 * em.mantissa + em.roundBit.toNat

/-- Whether a mantissa with its two residual bits stands for a number: the number is cut off at a
    half, and the last bit says whether anything was lost. -/
structure Represents (em : ExtendedMantissa) (x : ℚ) : Prop where
  lower : (halves em : ℚ) ≤ 2 * x
  upper : 2 * x < halves em + 1
  sticky : em.stickyBit = true ↔ (halves em : ℚ) < 2 * x

namespace Represents

variable {em : ExtendedMantissa} {x : ℚ}

theorem ofExact (m : Nat) : Represents (.ofMantissaAndAccuracy m .exact) m := by
  constructor <;> norm_num [halves, ExtendedMantissa.ofMantissaAndAccuracy]

/-- A quotient and what its remainder says about its accuracy stand for the fraction. -/
theorem ofFraction (a : Nat) {b : Nat} (positive : 0 < b) :
    Represents (.ofMantissaAndAccuracy (a / b) (accuracyOfFraction (a % b) b)) (a / b : ℚ) := by
  have whole : (b : ℚ) * (a / b : Nat) + (a % b : Nat) = a := by exact_mod_cast Nat.div_add_mod a b
  have rest : ((a % b : Nat) : ℚ) < b := by exact_mod_cast Nat.mod_lt a positive
  have scale : (0 : ℚ) < b := by exact_mod_cast positive
  have value : (a / b : ℚ) = (a / b : Nat) + (a % b : Nat) / b := by
    rw [← whole]
    field_simp
  generalize a / b = m at value
  generalize a % b = r at value rest
  rw [value]
  have below : (r : ℚ) / b < 1 := (div_lt_one scale).mpr rest
  by_cases none : r = 0
  · subst none
    constructor <;> norm_num [halves, accuracyOfFraction, ExtendedMantissa.ofMantissaAndAccuracy]
  · have some_rest : (0 : ℚ) < r / b := by positivity
    rw [accuracyOfFraction, if_neg none]
    rcases Nat.lt_trichotomy (2 * r) b with less | half | more
    · have near : (r : ℚ) / b < 1 / 2 := by
        rw [div_lt_div_iff₀ scale two_pos]
        exact_mod_cast (by omega : r * 2 < 1 * b)
      rw [Nat.compare_eq_lt.mpr less]
      constructor <;> norm_num [halves, ExtendedMantissa.ofMantissaAndAccuracy] <;> linarith
    · have near : (r : ℚ) / b = 1 / 2 := by
        rw [div_eq_div_iff scale.ne' two_ne_zero]
        exact_mod_cast (by omega : r * 2 = 1 * b)
      rw [Nat.compare_eq_eq.mpr half, near]
      constructor <;> norm_num [halves, ExtendedMantissa.ofMantissaAndAccuracy] <;> linarith
    · have far : 1 / 2 < (r : ℚ) / b := by
        rw [div_lt_div_iff₀ two_pos scale]
        exact_mod_cast (by omega : 1 * b < r * 2)
      rw [Nat.compare_eq_gt.mpr more]
      constructor <;> norm_num [halves, ExtendedMantissa.ofMantissaAndAccuracy] <;> linarith

theorem shiftRightOne (h : Represents em x) : Represents em.shiftRightOne (x / 2) := by
  obtain ⟨m, roundBit, stickyBit⟩ := em
  obtain ⟨lower, upper, sticky⟩ := h
  have shifted : halves (ExtendedMantissa.shiftRightOne ⟨m, roundBit, stickyBit⟩) = m := by
    rcases Nat.mod_two_eq_zero_or_one m with even | odd
    · simp [halves, ExtendedMantissa.shiftRightOne, even]
      omega
    · simp [halves, ExtendedMantissa.shiftRightOne, odd]
      omega
  have cancelled : 2 * (x / 2) = x := by ring
  cases roundBit with
  | false =>
    simp only [halves, Bool.toNat_false, Nat.add_zero, Nat.cast_mul, Nat.cast_ofNat] at lower upper sticky
    refine ⟨?_, ?_, ?_⟩ <;> rw [shifted, cancelled]
    · linarith
    · linarith
    · simpa [ExtendedMantissa.shiftRightOne] using sticky
  | true =>
    simp only [halves, Bool.toNat_true, Nat.cast_add, Nat.cast_mul, Nat.cast_ofNat, Nat.cast_one]
      at lower upper
    refine ⟨?_, ?_, ?_⟩ <;> rw [shifted, cancelled]
    · linarith
    · linarith
    · exact ⟨fun _ => by linarith, fun _ => rfl⟩

theorem shiftRight (h : Represents em x) (n : Nat) : Represents (em >>> n) (x / 2 ^ n) := by
  show Represents (n.repeat ExtendedMantissa.shiftRightOne em) _
  induction n with
  | zero => simpa [Nat.repeat] using h
  | succ n ih =>
    rw [Nat.repeat, pow_succ, ← div_div]
    exact ih.shiftRightOne

/-- The mantissa is the whole part. -/
theorem floor (h : Represents em x) : (em.mantissa : ℚ) ≤ x ∧ x < em.mantissa + 1 := by
  have bit : (em.roundBit.toNat : ℚ) ≤ 1 := by cases em.roundBit <;> norm_num
  have lower := h.lower
  have upper := h.upper
  simp only [halves, Nat.cast_add, Nat.cast_mul, Nat.cast_ofNat] at lower upper
  constructor <;> linarith [Nat.cast_nonneg (α := ℚ) em.roundBit.toNat]

/-- The rounded mantissa is the whole number that is nearest, the even one of two. -/
theorem roundedMantissa (h : Represents em x) {m : Nat} (low : (m : ℚ) - 1 / 2 ≤ x)
    (high : x ≤ m + 1 / 2) (even : m % 2 = 1 → (m : ℚ) - 1 / 2 < x ∧ x < m + 1 / 2) :
    em.roundedMantissa = m := by
  have least : 2 * m < halves em + 2 := by
    have : ((2 * m : Nat) : ℚ) < (halves em + 2 : Nat) := by push_cast; linarith [h.upper]
    exact_mod_cast this
  have most : halves em ≤ 2 * m + 1 := by
    have : (halves em : ℚ) ≤ (2 * m + 1 : Nat) := by push_cast; linarith [h.lower]
    exact_mod_cast this
  obtain ⟨m', roundBit, stickyBit⟩ := em
  cases roundBit with
  | false =>
    simp only [halves, Bool.toNat_false] at least most
    have equal : m' = m := by omega
    cases stickyBit <;> exact equal
  | true =>
    simp only [halves, Bool.toNat_true] at least most
    cases stickyBit with
    | false =>
      have exact_half : 2 * x = 2 * m' + 1 := by
        have kept := mt h.sticky.mpr (by simp)
        have lower := h.lower
        simp only [halves, Bool.toNat_true, Nat.cast_add, Nat.cast_mul, Nat.cast_ofNat, Nat.cast_one]
          at kept lower
        linarith
      have isEven : m % 2 = 0 := by
        by_contra odd
        obtain ⟨above, under⟩ := even (by omega)
        rcases (by omega : m' = m ∨ m = m' + 1) with rfl | rfl
        · linarith
        · push_cast at above
          linarith
      show m' + m' % 2 = m
      omega
    | true =>
      show m' + 1 = m
      have lost := h.sticky.mp rfl
      by_contra other
      have equal : m' = m := by omega
      subst equal
      simp only [halves, Bool.toNat_true, Nat.cast_add, Nat.cast_mul, Nat.cast_ofNat, Nat.cast_one]
        at lost
      linarith

end Represents

/-! ## Rounding to a float -/

/-- The mantissas and exponents of the positive finite floats. -/
structure Canonical (mantissa : Nat) (exponent : Int) : Prop where
  positive : 0 < mantissa
  small : mantissa < 9007199254740992
  low : -1074 ≤ exponent
  high : exponent ≤ 971
  normal : 4503599627370496 ≤ mantissa ∨ exponent = -1074

/-- Half the distance to the next lower float, which is closer below a power of two. -/
def halfBelow (mantissa : Nat) (exponent : Int) : ℚ :=
  if mantissa = 4503599627370496 ∧ exponent ≠ -1074 then 1 / 4 else 1 / 2

theorem halfBelow_le (mantissa : Nat) (exponent : Int) : halfBelow mantissa exponent ≤ 1 / 2 := by
  unfold halfBelow
  split <;> norm_num

theorem halfBelow_pos (mantissa : Nat) (exponent : Int) : 0 < halfBelow mantissa exponent := by
  unfold halfBelow
  split <;> norm_num

/-- Whether a number is rounded to `mantissa * 2 ^ exponent`: it lies between the halfway points to
    the neighbours, and on one of them only if the mantissa is even. -/
structure Rounds (mantissa : Nat) (exponent : Int) (q : ℚ) : Prop where
  lower : mantissa - halfBelow mantissa exponent ≤ q / 2 ^ exponent
  upper : q / 2 ^ exponent ≤ mantissa + 1 / 2
  odd : mantissa % 2 = 1 →
    mantissa - halfBelow mantissa exponent < q / 2 ^ exponent ∧ q / 2 ^ exponent < mantissa + 1 / 2

theorem targetExponent_eq (total : Int) :
    Format.binary64.targetExponent total = max (total - 53) (-1074) := rfl

section

variable {mantissa : Nat} {exponent : Int} {q : ℚ}

/-- A number that is rounded to a float lies in its binade or, when it is rounded up to a power of
    two, in the one below. -/
theorem Rounds.binade (rounds : Rounds mantissa exponent q) (canonical : Canonical mantissa exponent)
    {l : Int} (low : (2 : ℚ) ^ l ≤ q) (high : q < 2 ^ (l + 1)) :
    max (l - 52) (-1074) = exponent ∨ (max (l - 52) (-1074) = exponent - 1 ∧
      mantissa = 4503599627370496 ∧ q / 2 ^ exponent < mantissa) := by
  have scale : (0 : ℚ) < 2 ^ exponent := by positivity
  have below : ∀ k : Int, q / 2 ^ exponent < 2 ^ k → l < k + exponent := fun k less => by
    rw [div_lt_iff₀ scale, ← zpow_add₀ two_ne_zero] at less
    exact (zpow_lt_zpow_iff_right₀ one_lt_two).mp (low.trans_lt less)
  have above : ∀ k : Int, 2 ^ k ≤ q / 2 ^ exponent → k + exponent ≤ l := fun k more => by
    rw [le_div_iff₀ scale, ← zpow_add₀ two_ne_zero] at more
    have := (zpow_lt_zpow_iff_right₀ one_lt_two).mp (more.trans_lt high)
    omega
  have small : (mantissa : ℚ) ≤ 9007199254740991 := by
    exact_mod_cast (by have := canonical.small; omega : mantissa ≤ 9007199254740991)
  have top := below 53 (by norm_num; linarith [rounds.upper])
  have low_exponent := canonical.low
  by_cases under : q / 2 ^ exponent < 4503599627370496
  · by_cases power : mantissa = 4503599627370496 ∧ exponent ≠ -1074
    · obtain ⟨rfl, normal⟩ := power
      have next := below 52 (by norm_num; exact under)
      have lower := rounds.lower
      rw [halfBelow, if_pos ⟨rfl, normal⟩] at lower
      have near := above 51 (by norm_num at lower ⊢; linarith)
      exact .inr ⟨by omega, rfl, under⟩
    · have lower := rounds.lower
      rw [halfBelow, if_neg power] at lower
      have least : mantissa < 4503599627370497 := by
        have : (mantissa : ℚ) < 4503599627370497 := by linarith
        exact_mod_cast this
      have normal := canonical.normal
      exact .inl (by omega)
  · have next := above 52 (by norm_num; linarith)
    exact .inl (by omega)

/-- A number of the given whole part is rounded in the binade of the float or in the one below. -/
theorem Rounds.targetExponent (rounds : Rounds mantissa exponent q)
    (canonical : Canonical mantissa exponent) {m : Nat} {e : Int} (low : (m : ℚ) ≤ q / 2 ^ e)
    (high : q / 2 ^ e < m + 1) (fine : e ≤ Format.binary64.targetExponent (totalExponent m e)) :
    Format.binary64.targetExponent (totalExponent m e) = exponent ∨
      (Format.binary64.targetExponent (totalExponent m e) = exponent - 1 ∧
        mantissa = 4503599627370496 ∧ q / 2 ^ exponent < mantissa) := by
  have scale : (0 : ℚ) < 2 ^ e := by positivity
  rw [targetExponent_eq, totalExponent] at fine ⊢
  rw [le_div_iff₀ scale] at low
  rw [div_lt_iff₀ scale] at high
  rcases Nat.eq_zero_or_pos m with rfl | positive
  · rw [Nat.log2_zero] at fine ⊢
    have half : (2 : ℚ) ^ (exponent - 1) < 2 ^ e := by
      have least : (1 : ℚ) ≤ mantissa := by exact_mod_cast canonical.positive
      have lower : (1 : ℚ) / 2 ≤ q / 2 ^ exponent := by
        linarith [rounds.lower, halfBelow_le mantissa exponent]
      rw [le_div_iff₀ (by positivity)] at lower
      rw [zpow_sub_one₀ two_ne_zero]
      push_cast at high
      linarith
    have close := (zpow_lt_zpow_iff_right₀ one_lt_two).mp half
    have least := canonical.low
    exact .inl (by omega)
  · have power : ((2 ^ m.log2 : Nat) : ℚ) ≤ m := by exact_mod_cast Nat.log2_self_le positive.ne'
    have next : (m : ℚ) + 1 ≤ (2 ^ (m.log2 + 1) : Nat) := by exact_mod_cast Nat.lt_log2_self
    have lower : (2 : ℚ) ^ ((m.log2 : Int) + e) ≤ q := by
      rw [zpow_add₀ two_ne_zero, zpow_natCast]
      refine le_trans ?_ low
      exact mul_le_mul_of_nonneg_right (by exact_mod_cast power) scale.le
    have upper : q < 2 ^ ((m.log2 : Int) + e + 1) := by
      rw [show (m.log2 : Int) + e + 1 = ((m.log2 + 1 : Nat) : Int) + e by push_cast; ring,
        zpow_add₀ two_ne_zero, zpow_natCast]
      refine high.trans_le ?_
      exact mul_le_mul_of_nonneg_right (by exact_mod_cast next) scale.le
    have binade := rounds.binade canonical lower upper
    rwa [show (m.log2 : Int) + 1 + e - 53 = m.log2 + e - 52 by ring]

/-- A float of the format needs no further shift. -/
theorem shiftToTargetExponent_canonical (canonical : Canonical mantissa exponent) :
    shiftToTargetExponent Format.binary64 mantissa exponent .exact =
      (.ofMantissaAndAccuracy mantissa .exact, exponent) := by
  have bits : mantissa.log2 < 53 :=
    (Nat.log2_lt canonical.positive.ne').mpr (by have := canonical.small; omega)
  have low := canonical.low
  have none : (max ((mantissa.log2 : Int) + 1 + exponent - 53) (-1074) - exponent).toNat = 0 := by omega
  simp only [shiftToTargetExponent, shiftToExponent, targetExponent_eq, totalExponent, none]
  rw [Int.natCast_zero, Int.add_zero]
  rfl

/-- A mantissa that was rounded up to one bit more is shifted by one. -/
theorem shiftToTargetExponent_carry {e : Int} (low : -1074 ≤ e) :
    shiftToTargetExponent Format.binary64 9007199254740992 e .exact =
      (.ofMantissaAndAccuracy 4503599627370496 .exact, e + 1) := by
  have bits : Nat.log2 9007199254740992 = 53 := by rw [Nat.log2_eq_iff] <;> decide
  have one : (max (((53 : Nat) : Int) + 1 + e - 53) (-1074) - e).toNat = 1 := by omega
  simp only [shiftToTargetExponent, shiftToExponent, targetExponent_eq, totalExponent, bits, one]
  rfl

theorem mantissa_ofMantissaAndAccuracy (m : Nat) (accuracy : Accuracy) :
    (ExtendedMantissa.ofMantissaAndAccuracy m accuracy).mantissa = m := by
  unfold ExtendedMantissa.ofMantissaAndAccuracy
  split <;> rfl

/-- Rounding shifts to the exponent of the format, rounds the mantissa, and shifts once more. -/
theorem roundWithAccuracy_eq (sign : Sign) {m : Nat} {e t : Int} {accuracy : Accuracy}
    {em : ExtendedMantissa} (positive : 0 < mantissa)
    (first : shiftToTargetExponent Format.binary64 m e accuracy = (em, t))
    (second : shiftToTargetExponent Format.binary64 em.roundedMantissa t .exact =
      (.ofMantissaAndAccuracy mantissa .exact, exponent)) :
    roundWithAccuracy Format.binary64 sign m e accuracy = .finite sign mantissa exponent positive := by
  unfold roundWithAccuracy
  rw [first]
  dsimp only
  rw [second]
  exact dif_neg positive.ne'

/-- Rounding finds the float that a number is rounded to. -/
theorem roundWithAccuracy_of_rounds (rounds : Rounds mantissa exponent q)
    (canonical : Canonical mantissa exponent) (sign : Sign) {m : Nat} {e : Int} {accuracy : Accuracy}
    (given : Represents (.ofMantissaAndAccuracy m accuracy) (q / 2 ^ e))
    (fine : e ≤ Format.binary64.targetExponent (totalExponent m e)) :
    roundWithAccuracy Format.binary64 sign m e accuracy =
      .finite sign mantissa exponent canonical.positive := by
  obtain ⟨whole, rest⟩ := given.floor
  rw [mantissa_ofMantissaAndAccuracy] at whole rest
  have target := rounds.targetExponent canonical whole rest fine
  have least : -1074 ≤ Format.binary64.targetExponent (totalExponent m e) := Int.le_max_right ..
  generalize level : Format.binary64.targetExponent (totalExponent m e) = t at target fine least
  obtain ⟨shift, rfl⟩ : ∃ shift : Nat, t = e + shift := ⟨(t - e).toNat, by omega⟩
  have shifted := given.shiftRight shift
  rw [div_div, ← zpow_natCast, ← zpow_add₀ two_ne_zero] at shifted
  have first : shiftToTargetExponent Format.binary64 m e accuracy =
      (ExtendedMantissa.ofMantissaAndAccuracy m accuracy >>> shift, e + shift) := by
    simp only [shiftToTargetExponent, shiftToExponent, level]
    rw [show (e + (shift : Int) - e).toNat = shift by omega]
  have gap := halfBelow_le mantissa exponent
  refine roundWithAccuracy_eq sign canonical.positive first ?_
  rcases target with same | ⟨below, rfl, under⟩
  · rw [same] at shifted ⊢
    have rounded := shifted.roundedMantissa (m := mantissa) (by linarith [rounds.lower]) rounds.upper
      fun odd => ⟨by linarith [(rounds.odd odd).1], (rounds.odd odd).2⟩
    rw [rounded, shiftToTargetExponent_canonical canonical]
  · have doubled : q / 2 ^ (exponent - 1) = 2 * (q / 2 ^ exponent) := by
      rw [zpow_sub_one₀ two_ne_zero]
      field_simp
    have normal : exponent ≠ -1074 := by omega
    have lower := rounds.lower
    rw [halfBelow, if_pos ⟨rfl, normal⟩] at lower
    rw [below, doubled] at shifted
    rw [below]
    push_cast at lower under
    have rounded := shifted.roundedMantissa (m := 9007199254740992) (by push_cast; linarith)
      (by push_cast; linarith) (by norm_num)
    rw [rounded, shiftToTargetExponent_carry (by omega), Int.sub_add_cancel]

end

/-! ## Products and quotients -/

section

variable {mantissa : Nat} {exponent : Int} {m m' : Nat} {e e' : Int}

/-- The product of two floats, if it has the digits of the format. -/
theorem mul_of_rounds (canonical : Canonical mantissa exponent) (sign sign' : Sign)
    (positive : 0 < m) (positive' : 0 < m') (large : 4503599627370496 ≤ m * m')
    (rounds : Rounds mantissa exponent ((m * 2 ^ e) * (m' * 2 ^ e'))) :
    mul Format.binary64 (.finite sign m e positive) (.finite sign' m' e' positive') =
      .finite (sign * sign') mantissa exponent canonical.positive := by
  have value : ((m * 2 ^ e) * (m' * 2 ^ e') : ℚ) / 2 ^ (e + e') = (m * m' : Nat) := by
    rw [zpow_add₀ two_ne_zero]
    push_cast
    field_simp
  refine roundWithAccuracy_of_rounds rounds canonical (sign * sign') ?_ ?_
  · rw [value]
    exact .ofExact _
  · have bits : 52 ≤ (m * m').log2 := (Nat.le_log2 (by omega)).mpr large
    rw [targetExponent_eq, totalExponent]
    omega

/-- The quotient of two floats. -/
theorem div_of_rounds (canonical : Canonical mantissa exponent) (sign sign' : Sign)
    (positive : 0 < m) (positive' : 0 < m')
    (rounds : Rounds mantissa exponent ((m * 2 ^ e) / (m' * 2 ^ e'))) :
    div Format.binary64 (.finite sign m e positive) (.finite sign' m' e' positive') =
      .finite (sign / sign') mantissa exponent canonical.positive := by
  obtain ⟨t, start⟩ : ∃ t, t = min (e - e')
      (Format.binary64.targetExponent (totalExponent m e - totalExponent m' e')) := ⟨_, rfl⟩
  obtain ⟨shift, shifted⟩ : ∃ shift : Nat, e - e' = t + shift := ⟨(e - e' - t).toNat, by omega⟩
  have core : divCore Format.binary64 m e m' e' =
      (m <<< shift / m', t, accuracyOfFraction (m <<< shift % m') m') := by
    unfold divCore
    simp only [← start]
    rw [show (e - e' - t).toNat = shift by omega]
  have value : ((m * 2 ^ e) / (m' * 2 ^ e') : ℚ) / 2 ^ t = (m <<< shift : Nat) / m' := by
    have power : (2 : ℚ) ^ e = 2 ^ e' * (2 ^ t * 2 ^ shift) := by
      rw [← zpow_natCast, ← zpow_add₀ two_ne_zero, ← zpow_add₀ two_ne_zero]
      congr 1
      omega
    have nonzero : (m' : ℚ) ≠ 0 := by exact_mod_cast positive'.ne'
    rw [power, Nat.shiftLeft_eq]
    push_cast
    field_simp
  show (match divCore Format.binary64 m e m' e' with
    | (m, e, accuracy) => roundWithAccuracy Format.binary64 (sign / sign') m e accuracy) = _
  rw [core]
  refine roundWithAccuracy_of_rounds rounds canonical (sign / sign') ?_ ?_
  · rw [value]
    exact .ofFraction _ positive'
  · rw [targetExponent_eq, totalExponent, totalExponent] at start
    rw [targetExponent_eq, totalExponent]
    by_cases least : t ≤ -1074
    · omega
    -- The quotient has all digits of the format, as it is shifted for one more.
    have long : m'.log2 + 1 + 52 ≤ m.log2 + shift := by omega
    have large : 4503599627370496 ≤ m <<< shift / m' := by
      rw [Nat.le_div_iff_mul_le positive', Nat.shiftLeft_eq]
      calc 4503599627370496 * m' ≤ 2 ^ 52 * 2 ^ (m'.log2 + 1) :=
            Nat.mul_le_mul_left _ Nat.lt_log2_self.le
        _ = 2 ^ (m'.log2 + 1 + 52) := by rw [← pow_add, Nat.add_comm]
        _ ≤ 2 ^ (m.log2 + shift) := Nat.pow_le_pow_right two_pos long
        _ = 2 ^ m.log2 * 2 ^ shift := pow_add ..
        _ ≤ m * 2 ^ shift := Nat.mul_le_mul_right _ (Nat.log2_self_le positive.ne')
    have bits : 52 ≤ (m <<< shift / m').log2 := (Nat.le_log2 (by omega)).mpr large
    omega

end

end Verdict.Number
