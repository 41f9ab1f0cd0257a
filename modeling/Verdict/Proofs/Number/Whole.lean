import Verdict.Proofs.Number.Reading

/-!
# Whole numbers as floats

Integers of up to 128 bits are rounded to finite floats (`isFinite_ofInt`), and their decimals are
read as those (`ofDecimal_whole`).
-/

namespace Verdict.Number

section

variable {q f : ℚ} {r shift : Nat} (value : q / 2 ^ (shift : Int) = r + f)

include value

/-- Less than half a unit in the last place is dropped, and so is half of one behind an even
    mantissa. -/
theorem rounds_down (some_rest : 0 ≤ f) (half : f ≤ 1 / 2) (even : r % 2 = 1 → f ≠ 1 / 2) :
    Rounds r shift q := by
  have gap := halfBelow_pos r shift
  refine ⟨?_, ?_, fun odd => ?_⟩
  · rw [value]
    linarith
  · rw [value]
    linarith
  · have strict : f < 1 / 2 := lt_of_le_of_ne half (even odd)
    rw [value]
    constructor <;> linarith

/-- More than half a unit is one more, and so is half of one behind an odd mantissa. -/
theorem rounds_up (half : 1 / 2 ≤ f) (rest : f < 1) (odd : r % 2 = 0 → f ≠ 1 / 2)
    (low : 4503599627370496 ≤ r) : Rounds (r + 1 : Nat) shift q := by
  have whole : halfBelow (r + 1) shift = 1 / 2 := if_neg fun power => by omega
  refine ⟨?_, ?_, fun odd' => ?_⟩
  · rw [value, whole]
    push_cast
    linarith
  · rw [value]
    push_cast
    linarith
  · have strict : 1 / 2 < f := lt_of_le_of_ne half (odd (by omega)).symm
    rw [value, whole]
    push_cast
    constructor <;> linarith

/-- One more than the highest mantissa is the next power of two. -/
theorem rounds_carry (half : 1 / 2 ≤ f) (rest : f < 1) (top : r = 9007199254740991) :
    Rounds 4503599627370496 (shift + 1) q := by
  have quarter : halfBelow 4503599627370496 (shift + 1) = 1 / 4 := if_pos ⟨rfl, by omega⟩
  have value' : q / 2 ^ ((shift : Int) + 1) = (9007199254740991 + f) / 2 := by
    rw [zpow_add_one₀ two_ne_zero, ← div_div, value, top]
    norm_num
  refine ⟨?_, ?_, fun odd => ?_⟩
  · rw [value', quarter]
    push_cast
    linarith
  · rw [value']
    push_cast
    linarith
  · omega

/-- A number is rounded to a float by the fraction that is left of it in units of the last place:
    down, up, or up to the next power of two. -/
theorem exists_rounds_of_parts (some_rest : 0 ≤ f) (rest : f < 1) (low : 4503599627370496 ≤ r)
    (high : r < 9007199254740992) (small : shift < 900) :
    ∃ mantissa exponent, Canonical mantissa exponent ∧ Rounds mantissa exponent q := by
  by_cases down : f < 1 / 2 ∨ (f = 1 / 2 ∧ r % 2 = 0)
  · have half : f ≤ 1 / 2 := down.elim le_of_lt fun tie => tie.1.le
    have even (odd : r % 2 = 1) : f ≠ 1 / 2 := fun tie =>
      down.elim (fun less => less.ne tie) fun tie => by omega
    exact ⟨r, shift, ⟨by omega, high, by omega, by omega, .inl low⟩,
      rounds_down value some_rest half even⟩
  · have half : 1 / 2 ≤ f := by
      by_contra less
      exact down (.inl (lt_of_not_ge less))
    by_cases carry : r + 1 < 9007199254740992
    · have odd (even : r % 2 = 0) : f ≠ 1 / 2 := fun tie => down (.inr ⟨tie, even⟩)
      exact ⟨r + 1, shift, ⟨by omega, carry, by omega, by omega, .inl (by omega)⟩,
        rounds_up value half rest odd low⟩
    · exact ⟨4503599627370496, shift + 1, ⟨by omega, by omega, by omega, by omega, .inl le_rfl⟩,
        rounds_carry value half rest (by omega)⟩

end

theorem exists_rounds {n : Nat} (large : 9007199254740992 ≤ n) (small : n < 2 ^ 128) :
    ∃ mantissa exponent, Canonical mantissa exponent ∧ Rounds mantissa exponent n := by
  have bits : 53 ≤ n.log2 := (Nat.le_log2 (by omega)).mpr large
  have most : n.log2 < 128 := (Nat.log2_lt (by omega)).mpr small
  obtain ⟨shift, length⟩ : ∃ shift, n.log2 = 52 + shift := ⟨n.log2 - 52, by omega⟩
  have unit : 0 < 2 ^ shift := Nat.pow_pos (by decide)
  have low : 4503599627370496 ≤ n / 2 ^ shift := by
    rw [Nat.le_div_iff_mul_le unit]
    calc 4503599627370496 * 2 ^ shift = 2 ^ n.log2 := by rw [length, pow_add]; norm_num
      _ ≤ n := Nat.log2_self_le (by omega)
  have high : n / 2 ^ shift < 9007199254740992 := by
    rw [Nat.div_lt_iff_lt_mul unit]
    calc n < 2 ^ (n.log2 + 1) := Nat.lt_log2_self
      _ = 9007199254740992 * 2 ^ shift := by rw [length, Nat.add_right_comm, pow_add]; norm_num
  have scale : (0 : ℚ) < 2 ^ shift := by positivity
  have value : (n : ℚ) / 2 ^ (shift : Int) =
      (n / 2 ^ shift : Nat) + (n % 2 ^ shift : Nat) / 2 ^ shift := by
    rw [zpow_natCast, div_eq_iff scale.ne', add_mul, div_mul_cancel₀ _ scale.ne']
    exact_mod_cast (Nat.div_add_mod' n (2 ^ shift)).symm
  have rest : (n % 2 ^ shift : Nat) / (2 : ℚ) ^ shift < 1 := by
    rw [div_lt_one scale]
    exact_mod_cast Nat.mod_lt n unit
  exact exists_rounds_of_parts value (by positivity) rest low high (by omega)

/-- A positive integer of a machine word or two is a finite float. -/
theorem exists_ofScientific {n : Nat} (positive : 0 < n) (small : n < 2 ^ 128) :
    ∃ mantissa exponent, Canonical mantissa exponent ∧
      Binary.ofFloat (Float.ofScientific n false 0) = .finite false mantissa exponent := by
  have found : ∃ mantissa exponent, Canonical mantissa exponent ∧ Rounds mantissa exponent n := by
    by_cases exact : n < 9007199254740992
    · obtain ⟨mantissa, exponent, canonical, value, -, -⟩ := exists_canonical positive exact
      exact ⟨mantissa, exponent, canonical, value ▸ .self _ _⟩
    · exact exists_rounds (Nat.le_of_not_lt exact) small
  obtain ⟨mantissa, exponent, canonical, rounds⟩ := found
  refine ⟨mantissa, exponent, canonical, ofScientific_of_rounds positive canonical ?_⟩
  rwa [if_neg Bool.false_ne_true, pow_zero, mul_one]

/-- Integers of a machine word or two are finite floats. -/
theorem isFinite_ofInt {n : Int} (small : n.natAbs < 2 ^ 128) : isFinite (ofInt n) = true := by
  cases n with
  | ofNat m =>
    rcases Nat.eq_zero_or_pos m with rfl | positive
    · decide +kernel
    · obtain ⟨_, _, _, value⟩ := exists_ofScientific positive small
      exact isFinite_of_value value
  | negSucc m =>
    obtain ⟨_, _, canonical, value⟩ := exists_ofScientific (Nat.succ_pos m) small
    exact isFinite_of_value (ofFloat_neg canonical value)

/-- The decimal of an integer is the float nearest to it; there is no negative zero. -/
theorem ofDecimal_whole {n : Nat} (small : n < 2 ^ 128) {negative : Bool}
    (signed : negative = true → 0 < n) :
    ofDecimal negative n 0 = ofInt (if negative then -(n : Int) else n) := by
  have digits : (Nat.toDigits 10 n).length ≤ 39 :=
    (Nat.length_toDigits_le_iff (by decide) (by decide)).mpr (small.trans (by norm_num))
  have size : ¬ 400 < ((Nat.toDigits 10 n).length : Int) + 0 := by omega
  have size' : ¬ ((Nat.toDigits 10 n).length : Int) + 0 < -400 := by omega
  unfold ofDecimal
  simp only [if_neg size, decide_eq_false size', Bool.or_false, beq_iff_eq, le_refl, if_true]
  cases negative with
  | false =>
    rw [if_neg Bool.false_ne_true, if_neg Bool.false_ne_true]
    split
    · rename_i zero
      rw [zero]
      rfl
    · rfl
  | true =>
    have positive := signed rfl
    rw [if_pos rfl, if_pos rfl, if_neg positive.ne']
    obtain ⟨m, rfl⟩ := Nat.exists_eq_succ_of_ne_zero positive.ne'
    rfl

/-- The decimal digits of an integer, of either sign, are read as the float nearest to it. -/
theorem readUnsigned?_of_natAbs {cs : List Char} {n : Int} (negative : Bool)
    (digits : areDigits cs = true) (small : n.natAbs < 2 ^ 128)
    (value : n = if negative then -(digitsValue cs : Int) else digitsValue cs)
    (signed : negative = true → 0 < digitsValue cs) :
    readUnsigned? negative cs = some (ofInt n) := by
  have size : digitsValue cs < 2 ^ 128 := by
    rw [value] at small
    cases negative <;> simpa using small
  rw [readUnsigned?_digits negative digits, ofDecimal_whole size signed, value]

end Verdict.Number
