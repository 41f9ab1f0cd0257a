import Verdict.Proofs.Number.Digits
import Verdict.Proofs.Number.Rounding

/-!
# Shortest decimals lie between the halfway points

The search for the shortest decimal of a float goes from coarse grids of decimals to fine ones.
It ends within twenty of them, as the grid is then finer than half the distance to the next float,
and what it finds is rounded to the float (`shortest_rounds`).
-/

namespace Verdict.Number

/-! ## One grid -/

/-- A scaled fraction is the fraction in units of a power of ten. -/
theorem scaled_value (num : Nat) {den : Nat} (positive : 0 < den) (k : Int) :
    0 < (scaled num den k).2 ∧
      ((scaled num den k).1 : ℚ) / (scaled num den k).2 = num / den / 10 ^ k := by
  have nonzero : (den : ℚ) ≠ 0 := by exact_mod_cast positive.ne'
  unfold scaled
  split
  next up =>
    obtain ⟨j, rfl⟩ := Int.eq_ofNat_of_zero_le up
    refine ⟨Nat.mul_pos positive (Nat.pow_pos (by decide)), ?_⟩
    rw [zpow_natCast, Int.toNat_natCast, Nat.pow_eq]
    push_cast
    rw [div_div]
  next down =>
    obtain ⟨j, rfl⟩ : ∃ j : Nat, k = -j := ⟨(-k).toNat, by omega⟩
    refine ⟨positive, ?_⟩
    rw [zpow_neg, zpow_natCast, Int.neg_neg, Int.toNat_natCast, Nat.pow_eq]
    push_cast
    field_simp

/-- The denominator of a scaled fraction comes from the denominator only. -/
theorem scaled_den (num num' den : Nat) (k : Int) : (scaled num den k).2 = (scaled num' den k).2 := by
  unfold scaled
  split <;> rfl

/-- Whether a number lies between two bounds, which count if they are closed. -/
def Between (closed : Bool) (low high x : ℚ) : Prop :=
  (low ≤ x ∧ x ≤ high) ∧ (closed = false → low < x ∧ x < high)

section

variable {tie : Tie} {low mid high den : Nat} {closed : Bool} {k : Int}

/-- The test of a grid is that the decimal lies between the bounds. -/
theorem inside_iff (closed : Bool) {low' high' den' n : Nat} (positive : 0 < den')
    (lower : (low' : ℚ) / den' = low / den / 10 ^ k)
    (upper : (high' : ℚ) / den' = high / den / 10 ^ k) :
    (if closed = true then decide (low' ≤ n * den') && decide (n * den' ≤ high')
        else decide (low' < n * den') && decide (n * den' < high')) = true ↔
      Between closed (low / den) (high / den) (n * 10 ^ k) := by
  have scale : (0 : ℚ) < den' := by exact_mod_cast positive
  have tens : (0 : ℚ) < 10 ^ k := by positivity
  have atLeast : low' ≤ n * den' ↔ (low / den : ℚ) ≤ n * 10 ^ k := by
    rw [← div_le_iff₀ tens, ← lower, div_le_iff₀ scale]
    exact_mod_cast Iff.rfl
  have above : low' < n * den' ↔ (low / den : ℚ) < n * 10 ^ k := by
    rw [← div_lt_iff₀ tens, ← lower, div_lt_iff₀ scale]
    exact_mod_cast Iff.rfl
  have atMost : n * den' ≤ high' ↔ n * 10 ^ k ≤ (high / den : ℚ) := by
    rw [← le_div_iff₀ tens, ← upper, le_div_iff₀ scale]
    exact_mod_cast Iff.rfl
  have under : n * den' < high' ↔ n * 10 ^ k < (high / den : ℚ) := by
    rw [← lt_div_iff₀ tens, ← upper, lt_div_iff₀ scale]
    exact_mod_cast Iff.rfl
  cases closed with
  | true =>
    rw [if_pos rfl, Bool.and_eq_true, decide_eq_true_iff, decide_eq_true_iff, atLeast, atMost]
    exact ⟨fun both => ⟨both, nofun⟩, And.left⟩
  | false =>
    rw [if_neg Bool.false_ne_true, Bool.and_eq_true, decide_eq_true_iff, decide_eq_true_iff, above,
      under]
    exact ⟨fun both => ⟨⟨both.1.le, both.2.le⟩, fun _ => both⟩, fun between => between.2 rfl⟩

/-- What a grid yields is positive and lies between the bounds. -/
theorem onGrid_between (positive : 0 < den) {n : Nat}
    (found : onGrid tie low mid high den closed k = some n) :
    0 < n ∧ Between closed (low / den) (high / den) (n * 10 ^ k) := by
  obtain ⟨scale, lower⟩ := scaled_value low positive k
  obtain ⟨-, upper⟩ := scaled_value high positive k
  rw [scaled_den low mid] at scale lower
  rw [scaled_den high mid] at upper
  have inside := fun n => inside_iff closed (n := n) scale lower upper
  simp only [onGrid] at found
  split at found
  next down up =>
    rw [Bool.and_eq_true, bne_iff_ne] at down
    split at found
    · rw [← Option.some.inj found]
      exact ⟨Nat.pos_of_ne_zero down.2, (inside _).mp down.1⟩
    · rw [← Option.some.inj found]
      exact ⟨Nat.succ_pos _, (inside _).mp up⟩
  next down _ =>
    rw [Bool.and_eq_true, bne_iff_ne] at down
    rw [← Option.some.inj found]
    exact ⟨Nat.pos_of_ne_zero down.2, (inside _).mp down.1⟩
  next _ up =>
    rw [← Option.some.inj found]
    exact ⟨Nat.succ_pos _, (inside _).mp up⟩
  next => cases found

/-- A grid that is fine enough yields a decimal. -/
theorem onGrid_isSome (tie : Tie) (closed : Bool) (positive : 0 < den) (below : low ≤ mid)
    (fine : (mid / den : ℚ) + 10 ^ k < high / den) :
    (onGrid tie low mid high den closed k).isSome = true := by
  obtain ⟨scale, lower⟩ := scaled_value low positive k
  obtain ⟨-, middle⟩ := scaled_value mid positive k
  obtain ⟨-, upper⟩ := scaled_value high positive k
  rw [scaled_den low mid] at scale lower
  rw [scaled_den high mid] at upper
  have next : Between closed (low / den) (high / den)
      (((scaled mid den k).1 / (scaled mid den k).2 + 1 : Nat) * 10 ^ k) := by
    have tens : (0 : ℚ) < 10 ^ k := by positivity
    have unit : (0 : ℚ) < (scaled mid den k).2 := by exact_mod_cast scale
    have floor : ((scaled mid den k).1 / (scaled mid den k).2 : Nat) * 10 ^ k ≤ (mid / den : ℚ) := by
      rw [← le_div_iff₀ tens, ← middle, le_div_iff₀ unit]
      exact_mod_cast Nat.div_mul_le_self _ _
    have ceiling : (mid / den : ℚ) <
        ((scaled mid den k).1 / (scaled mid den k).2 + 1 : Nat) * 10 ^ k := by
      rw [← div_lt_iff₀ tens, ← middle, div_lt_iff₀ unit]
      exact_mod_cast Nat.lt_mul_of_div_lt (Nat.lt_succ_self _) scale
    have start : (low / den : ℚ) ≤ mid / den := by gcongr
    generalize (scaled mid den k).1 / (scaled mid den k).2 = f at floor ceiling ⊢
    push_cast at ceiling ⊢
    have above : (low / den : ℚ) < (f + 1) * 10 ^ k := start.trans_lt ceiling
    have under : ((f : ℚ) + 1) * 10 ^ k < high / den := by linarith
    exact ⟨⟨above.le, under.le⟩, fun _ => ⟨above, under⟩⟩
  have inside := (inside_iff closed scale lower upper).mpr next
  simp only [onGrid, inside]
  split
  next => split <;> rfl
  next => rfl
  next => rfl
  next _ up => cases up

end

/-! ## All grids -/

/-- The search ends with a decimal between the bounds if it comes to a grid that is fine enough. -/
theorem firstGrid_between {tie : Tie} {low mid high den : Nat} {closed : Bool} {top : Int}
    (positive : 0 < den) (below : low ≤ mid) {used left n : Nat} {k : Int}
    (fine : ∃ j, used ≤ j ∧ j < used + left ∧
      (mid / den : ℚ) + 10 ^ (top - (j : Int)) < high / den)
    (found : firstGrid tie low mid high den closed top used left = (n, k)) :
    0 < n ∧ Between closed (low / den) (high / den) (n * 10 ^ k) := by
  induction left generalizing used with
  | zero =>
    obtain ⟨j, start, stop, -⟩ := fine
    omega
  | succ left ih =>
    simp only [firstGrid] at found
    split at found
    next here =>
      cases found
      exact onGrid_between positive here
    next none =>
      refine ih ?_ found
      obtain ⟨j, start, stop, enough⟩ := fine
      refine ⟨j, Nat.lt_of_le_of_ne start fun here => ?_, by omega, enough⟩
      have some_found := onGrid_isSome tie closed positive below (here ▸ enough)
      rw [none] at some_found
      cases some_found

/-! ## The exponent of the first digit -/

/-- The exponent that the search starts from is not above that of the first digit. -/
theorem decimalExponent_le {num den : Nat} (positive : 0 < num) (positive' : 0 < den) :
    (10 : ℚ) ^ (decimalExponent num den - 1) ≤ num / den := by
  unfold decimalExponent
  simp only
  obtain ⟨scale, value⟩ := scaled_value num positive'
    ((Nat.toDigits 10 num).length - (Nat.toDigits 10 den).length)
  have unit : (0 : ℚ) < den := by exact_mod_cast positive'
  split
  next more =>
    have tens : (0 : ℚ) < 10 ^ ((Nat.toDigits 10 num).length - (Nat.toDigits 10 den).length : Int) := by
      positivity
    rw [Int.add_sub_cancel, ← one_le_div tens, ← value, one_le_div (by exact_mod_cast scale)]
    exact_mod_cast more
  next less =>
    have longer := pow_length_toDigits_le positive
    have shorter := (lt_pow_length_toDigits den).le
    obtain ⟨digits, length⟩ : ∃ digits, (Nat.toDigits 10 num).length = digits + 1 :=
      ⟨_, (Nat.succ_pred_eq_of_pos Nat.length_toDigits_pos).symm⟩
    rw [length] at longer ⊢
    rw [show ((digits + 1 : Nat) : Int) - (Nat.toDigits 10 den).length - 1 =
      digits - (Nat.toDigits 10 den).length by push_cast; ring, zpow_sub₀ (by norm_num), zpow_natCast,
      zpow_natCast]
    have numerator : (10 : ℚ) ^ digits ≤ num := by exact_mod_cast longer
    have denominator : (den : ℚ) ≤ 10 ^ (Nat.toDigits 10 den).length := by exact_mod_cast shorter
    gcongr

/-! ## The shortest decimal -/

/-- A quarter of the unit in the last place, as the search writes it. -/
theorem quarter_value (exponent : Int) :
    ((Nat.pow 2 exponent.toNat : Nat) : ℚ) / (4 * Nat.pow 2 (-exponent).toNat : Nat) =
      2 ^ exponent / 4 := by
  rw [Nat.pow_eq, Nat.pow_eq]
  push_cast
  rcases Int.le_total 0 exponent with up | down
  · obtain ⟨j, rfl⟩ := Int.eq_ofNat_of_zero_le up
    rw [show (-(j : Int)).toNat = 0 by omega, Int.toNat_natCast, zpow_natCast]
    norm_num
  · obtain ⟨j, rfl⟩ : ∃ j : Nat, exponent = -j := ⟨(-exponent).toNat, by omega⟩
    rw [show (-(j : Int)).toNat = 0 by omega, Int.neg_neg, Int.toNat_natCast, zpow_neg, zpow_natCast]
    field_simp

section

variable {mantissa : Nat} {exponent : Int} {up den : Nat}
  (quarter : ((up : Nat) : ℚ) / (den : Nat) = 2 ^ exponent / 4)

include quarter

/-- The float in quarters of its unit in the last place. -/
theorem mid_value : ((4 * mantissa * up : Nat) : ℚ) / den = mantissa * 2 ^ exponent := by
  push_cast
  rw [mul_div_assoc, quarter]
  ring

/-- The halfway point to the next float above, in quarters. -/
theorem high_value :
    ((4 * mantissa * up + 2 * up : Nat) : ℚ) / den = (mantissa + 1 / 2) * 2 ^ exponent := by
  push_cast
  rw [← add_mul, mul_div_assoc, quarter]
  ring

/-- The halfway point to the next float below, which is nearer where the exponent changes. -/
theorem low_value (positive : 0 < mantissa) :
    ((4 * mantissa * up - (if (mantissa == Nat.pow 2 52 && exponent != -1074) = true then 1
      else 2) * up : Nat) : ℚ) / den = (mantissa - halfBelow mantissa exponent) * 2 ^ exponent := by
  have gap : ((if (mantissa == Nat.pow 2 52 && exponent != -1074) = true then 1 else 2 : Nat) : ℚ) =
      4 * halfBelow mantissa exponent := by
    unfold halfBelow
    by_cases boundary : mantissa = 4503599627370496 ∧ exponent ≠ -1074
    · rw [if_pos boundary, if_pos (by simpa using boundary)]
      norm_num
    · rw [if_neg boundary, if_neg (by simpa using boundary)]
      norm_num
  have room : (if (mantissa == Nat.pow 2 52 && exponent != -1074) = true then 1 else 2) * up ≤
      4 * mantissa * up := by
    refine Nat.mul_le_mul_right _ ?_
    split <;> omega
  generalize (if (mantissa == Nat.pow 2 52 && exponent != -1074) = true then 1 else 2) = quarters
    at gap room ⊢
  rw [Nat.cast_sub room, Nat.cast_mul quarters, gap]
  push_cast
  rw [← sub_mul, mul_div_assoc, quarter]
  ring

/-- A grid eighteen digits below the first is finer than half the distance to the next float. -/
theorem eighteenth_fine (canonical : Canonical mantissa exponent) (ups : 0 < up) (dens : 0 < den) :
    ((4 * mantissa * up : Nat) / den : ℚ) +
      10 ^ (decimalExponent (4 * mantissa * up) den - (18 : Nat)) <
        (4 * mantissa * up + 2 * up : Nat) / den := by
  have unit : (0 : ℚ) < 2 ^ exponent := by positivity
  have mids : 0 < 4 * mantissa * up := Nat.mul_pos (by have := canonical.positive; omega) ups
  have start := decimalExponent_le mids dens
  have small : (mantissa : ℚ) ≤ 9007199254740991 := by
    exact_mod_cast (by have := canonical.small; omega : mantissa ≤ 9007199254740991)
  have last : (10 : ℚ) ^ (decimalExponent (4 * mantissa * up) den - (18 : Nat)) =
      10 ^ (decimalExponent (4 * mantissa * up) den - 1) / 10 ^ 17 := by
    rw [show decimalExponent (4 * mantissa * up) den - (18 : Nat) =
      decimalExponent (4 * mantissa * up) den - 1 - 17 by push_cast; ring, zpow_sub₀ (by norm_num)]
    norm_num
  rw [mid_value quarter] at start ⊢
  rw [high_value quarter, last]
  have size : (mantissa : ℚ) * 2 ^ exponent ≤ 9007199254740991 * 2 ^ exponent := by gcongr
  norm_num
  linarith

end

/-- The shortest decimal of a float is rounded to it. -/
theorem exists_shortest {mantissa : Nat} {exponent : Int} (canonical : Canonical mantissa exponent)
    (tie : Tie) : ∃ (n : Nat) (k : Int), 0 < n ∧ Rounds mantissa exponent (n * 10 ^ k) ∧
      shortest tie mantissa exponent =
        ⟨((Nat.toDigits 10 n).reverse.dropWhile (· == '0')).reverse,
          (Nat.toDigits 10 n).length + k⟩ := by
  have quarter := quarter_value exponent
  have unit : (0 : ℚ) < 2 ^ exponent := by positivity
  have ups : 0 < Nat.pow 2 exponent.toNat := Nat.pow_pos (by decide)
  have dens : 0 < 4 * Nat.pow 2 (-exponent).toNat := Nat.mul_pos (by decide) (Nat.pow_pos (by decide))
  simp only [shortest]
  generalize Nat.pow 2 exponent.toNat = up at quarter ups ⊢
  generalize 4 * Nat.pow 2 (-exponent).toNat = den at quarter dens ⊢
  rcases found : firstGrid tie _ _ _ den _ (decimalExponent (4 * mantissa * up) den) 0 20 with ⟨n, k⟩
  have fine := eighteenth_fine quarter canonical ups dens
  obtain ⟨positive, within, strict⟩ :=
    firstGrid_between dens (Nat.sub_le _ _) ⟨18, by omega, by omega, fine⟩ found
  rw [low_value quarter canonical.positive, high_value quarter] at within strict
  refine ⟨n, k, positive, ⟨?_, ?_, fun odd => ?_⟩, rfl⟩
  · rw [le_div_iff₀ unit]
    exact within.1
  · rw [div_le_iff₀ unit]
    exact within.2
  · rw [lt_div_iff₀ unit, div_lt_iff₀ unit]
    exact strict (by rw [odd]; rfl)

end Verdict.Number
