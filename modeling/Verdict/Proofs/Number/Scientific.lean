import Verdict.Proofs.Number.Rounding

/-!
# Decimals that are read as a float

A decimal is read as the float that its number is rounded to (`ofScientific_of_rounds`), whether
it takes one operation on floats or exact arithmetic.
-/

namespace Verdict.Number

open Float.Model (UnpackedFloat Format totalExponent)
open Float.Model.UnpackedFloat

/-! ## The float of a mantissa and an exponent -/

section

variable (sign : Sign) (field : BitVec 11) (fraction : BitVec 52)

theorem toNat_packComponents :
    (packComponents Format.binary64 sign field fraction).toNat =
      (sign.toBitVec.toNat * 2048 + field.toNat) * 4503599627370496 + fraction.toNat := by
  unfold packComponents
  rw [BitVec.toNat_append, ← Nat.shiftLeft_add_eq_or_of_lt fraction.isLt, BitVec.toNat_append,
    ← Nat.shiftLeft_add_eq_or_of_lt field.isLt, Nat.shiftLeft_eq, Nat.shiftLeft_eq]

/-- What packed components stand for, if the field of the exponent is not the highest. -/
theorem ofBits_packComponents (notTop : field.toNat ≠ 2047) :
    Binary.ofBits (UInt64.ofBitVec (packComponents Format.binary64 sign field fraction)) =
      if field.toNat = 0 then .finite (Binary.isNegative sign) fraction.toNat (-1074)
      else .finite (Binary.isNegative sign) (4503599627370496 + fraction.toNat)
        ((field.toNat : Int) - 1075) := by
  have bits : (UInt64.ofBitVec (packComponents Format.binary64 sign field fraction)).toNat =
      (sign.toBitVec.toNat * 2048 + field.toNat) * 4503599627370496 + fraction.toNat :=
    toNat_packComponents sign field fraction
  have fields := field.isLt
  have fractions := fraction.isLt
  have small := sign.toBitVec.isLt
  have negative : (sign.toBitVec.toNat == 1) = Binary.isNegative sign := by cases sign <;> rfl
  generalize sign.toBitVec.toNat = s at bits small negative
  have front : (UInt64.ofBitVec (packComponents Format.binary64 sign field fraction)).toNat /
      Nat.pow 2 52 = s * 2048 + field.toNat := by
    rw [bits, show Nat.pow 2 52 = 4503599627370496 from rfl]
    omega
  have rest : (UInt64.ofBitVec (packComponents Format.binary64 sign field fraction)).toNat %
      Nat.pow 2 52 = fraction.toNat := by
    rw [bits, show Nat.pow 2 52 = 4503599627370496 from rfl]
    omega
  have signs : (UInt64.ofBitVec (packComponents Format.binary64 sign field fraction)).toNat /
      Nat.pow 2 63 = s := by
    rw [bits, show Nat.pow 2 63 = 9223372036854775808 from rfl]
    omega
  have exponents : (s * 2048 + field.toNat) % Nat.pow 2 11 = field.toNat := by
    rw [show Nat.pow 2 11 = 2048 from rfl]
    omega
  unfold Binary.ofBits
  simp only [front, exponents, rest, signs, negative, beq_iff_eq, notTop, if_false]

end

/-- A number out of the range of the format is packed as an infinity, and one in the range by its
    components, of which the first bit of the mantissa is not kept. -/
theorem pack_finite (spec : Format) (sign : Sign) (m : Nat) (e : Int) (positive : 0 < m) :
    pack spec (.finite sign m e positive) =
      let biased := (e + spec.exponentBias + spec.mantissaBitsWithoutImplicit).toNat
      if 2 ^ spec.exponentBits ≤ biased + 1 then packedInfinity spec sign
      else if m.log2 + 1 = spec.mantissaBits then
        packComponents spec sign (.ofNat spec.exponentBits biased)
          (.ofNat spec.mantissaBitsWithoutImplicit m)
      else packComponents spec sign 0 (.ofNat spec.mantissaBitsWithoutImplicit m) :=
  rfl

/-- A mantissa and an exponent of the format are those of the float that they are packed into. -/
theorem ofFloat_pack {mantissa : Nat} {exponent : Int} (canonical : Canonical mantissa exponent)
    (sign : Sign) :
    Binary.ofFloat (.ofModel (.pack (.finite sign mantissa exponent canonical.positive))) =
      .finite (Binary.isNegative sign) mantissa exponent := by
  show Binary.ofBits (UInt64.ofBitVec (pack Format.binary64 _)) = _
  obtain ⟨positive, small, low, high, normal⟩ := canonical
  have biased : (exponent + (Format.binary64.exponentBias : Nat) + (52 : Nat)).toNat =
      (exponent + 1075).toNat := by
    rw [show Format.binary64.exponentBias = 1023 from rfl]
    omega
  have inRange : ¬ 2 ^ 11 ≤ (exponent + 1075).toNat + 1 := by omega
  rw [pack_finite]
  simp only [biased, if_neg inRange]
  by_cases large : 4503599627370496 ≤ mantissa
  · have bits : mantissa.log2 + 1 = Format.binary64.mantissaBits := by
      have : mantissa.log2 = 52 := (Nat.log2_eq_iff positive.ne').mpr (by omega)
      rw [this]
      rfl
    have field : (BitVec.ofNat 11 (exponent + 1075).toNat).toNat = (exponent + 1075).toNat := by
      rw [BitVec.toNat_ofNat]
      omega
    have fraction : (BitVec.ofNat 52 mantissa).toNat = mantissa - 4503599627370496 := by
      rw [BitVec.toNat_ofNat]
      omega
    rw [if_pos bits, ofBits_packComponents _ _ _ (by omega), field, fraction,
      if_neg (by omega), Nat.add_sub_cancel' large,
      show (((exponent + 1075).toNat : Nat) : Int) - 1075 = exponent by omega]
  · have bits : mantissa.log2 + 1 ≠ Format.binary64.mantissaBits := by
      have := (Nat.log2_lt positive.ne').mpr (by omega : mantissa < 2 ^ 52)
      rw [show Format.binary64.mantissaBits = 53 from rfl]
      omega
    have fraction : (BitVec.ofNat 52 mantissa).toNat = mantissa := by
      rw [BitVec.toNat_ofNat]
      omega
    rw [if_neg bits, ofBits_packComponents _ _ _ (by decide), fraction, if_pos (by decide),
      show exponent = -1074 by omega]

/-! ## Whole numbers -/

/-- The rational number that an integral float stands for. -/
theorem value_of_toInt {mantissa : Nat} {exponent n : Int}
    (whole : (Binary.finite false mantissa exponent).toInt? = some n) :
    (mantissa : ℚ) * 2 ^ exponent = n := by
  simp only [Binary.toInt?, Bool.false_eq_true, if_false] at whole
  split at whole
  next up =>
    obtain ⟨k, rfl⟩ := Int.eq_ofNat_of_zero_le up
    rw [← Option.some.inj whole, zpow_natCast]
    exact_mod_cast rfl
  next down =>
    obtain ⟨k, rfl⟩ : ∃ k : Nat, exponent = -k := ⟨(-exponent).toNat, by omega⟩
    split at whole
    next divides =>
      rw [← Option.some.inj whole, zpow_neg, zpow_natCast, ← div_eq_mul_inv,
        div_eq_iff (by positivity)]
      rw [Int.neg_neg, Int.toNat_natCast] at divides ⊢
      exact_mod_cast (Nat.div_mul_cancel (Nat.dvd_of_mod_eq_zero (beq_iff_eq.mp divides))).symm
    next => cases whole

/-- A float is what its own number is rounded to. -/
theorem Rounds.self (mantissa : Nat) (exponent : Int) :
    Rounds mantissa exponent (mantissa * 2 ^ exponent) := by
  have value : (mantissa * 2 ^ exponent : ℚ) / 2 ^ exponent = mantissa := by field_simp
  have gap := halfBelow_pos mantissa exponent
  refine ⟨?_, ?_, fun _ => ⟨?_, ?_⟩⟩ <;> rw [value] <;> linarith

section

variable {n shift : Nat} (positive : 0 < n) (length : n.log2 + shift = 52)

include positive length

/-- A number that is shifted to 53 bits is in the range of mantissas. -/
theorem shifted_range : 4503599627370496 ≤ n * 2 ^ shift ∧ n * 2 ^ shift < 9007199254740992 := by
  constructor
  · calc 4503599627370496 = 2 ^ n.log2 * 2 ^ shift := by rw [← pow_add, length]; norm_num
      _ ≤ n * 2 ^ shift := Nat.mul_le_mul_right _ (Nat.log2_self_le positive.ne')
  · calc n * 2 ^ shift < 2 ^ (n.log2 + 1) * 2 ^ shift :=
          Nat.mul_lt_mul_of_pos_right Nat.lt_log2_self (by positivity)
      _ = 9007199254740992 := by rw [← pow_add, Nat.add_right_comm, length]; norm_num

theorem canonical_shifted : Canonical (n * 2 ^ shift) (-shift) := by
  obtain ⟨low, high⟩ := shifted_range positive length
  exact ⟨by omega, high, by omega, by omega, .inl low⟩

/-- Normalizing a number of at most 53 bits only shifts it. -/
theorem normalize_shifted : normalize Format.binary64 n 0 .positive =
    .finite .positive (n * 2 ^ shift) (-shift) (canonical_shifted positive length).positive := by
  have order : compare (n : Int) 0 = .gt := compare_gt_iff_gt.mpr (by omega)
  have target : Format.binary64.targetExponent (totalExponent n 0) = -shift := by
    rw [targetExponent_eq, totalExponent]
    omega
  have lowered : decreaseExponent n 0 (-shift) = (n * 2 ^ shift, -(shift : Int)) := by
    simp only [decreaseExponent, Nat.shiftLeft_eq, Int.zero_sub, Int.neg_neg, Int.toNat_natCast]
  have shifted : normalize Format.binary64 n 0 .positive =
      roundWithAccuracy Format.binary64 .positive (n * 2 ^ shift) (-shift) .exact := by
    unfold UnpackedFloat.normalize UnpackedFloat.round
    simp only [order, Int.toNat_natCast, target, lowered]
  rw [shifted]
  refine roundWithAccuracy_of_rounds (.self _ _) (canonical_shifted positive length) .positive ?_ ?_
  · rw [mul_div_cancel_right₀ _ (by positivity)]
    exact .ofExact _
  · have low := (shifted_range positive length).1
    have full : 52 ≤ (n * 2 ^ shift).log2 := (Nat.le_log2 (by omega)).mpr low
    rw [targetExponent_eq, totalExponent]
    omega

end

/-- A natural number below `2 ^ 53` is a float. -/
theorem exists_canonical {n : Nat} (positive : 0 < n) (small : n < 9007199254740992) :
    ∃ mantissa exponent, Canonical mantissa exponent ∧ (n : ℚ) = mantissa * 2 ^ exponent ∧
      4503599627370496 ≤ mantissa ∧
      Binary.ofFloat n.toUInt64.toFloat = .finite false mantissa exponent := by
  have bits : n.log2 < 53 := (Nat.log2_lt positive.ne').mpr (by omega)
  obtain ⟨shift, length⟩ : ∃ shift, n.log2 + shift = 52 := ⟨52 - n.log2, by omega⟩
  have canonical := canonical_shifted positive length
  have value : (n : ℚ) = (n * 2 ^ shift : Nat) * 2 ^ (-shift : Int) := by
    rw [zpow_neg, zpow_natCast]
    push_cast
    field_simp
  refine ⟨n * 2 ^ shift, -shift, canonical, value, (shifted_range positive length).1, ?_⟩
  have given : n.toUInt64.toNat = n := by
    show n % 18446744073709551616 = n
    omega
  have unpacked : ofUInt64 Format.binary64 n.toUInt64 =
      .finite .positive (n * 2 ^ shift) (-shift) canonical.positive := by
    show normalize Format.binary64 (n.toUInt64.toNat : Int) 0 .positive = _
    rw [given, normalize_shifted positive length]
  show Binary.ofFloat (.ofModel (.pack (ofUInt64 Format.binary64 n.toUInt64))) = _
  rw [unpacked, ofFloat_pack canonical]
  rfl

/-! ## Decimals -/

/-- The powers of ten that are floats. -/
theorem toInt_powers : ∀ k : Fin 23,
    toInt? (getElem Float.exactlyRepresentablePowersOfTen k.1 (by
      simp [Float.exactlyRepresentablePowersOfTen])) = some (10 ^ k.1) := by
  decide +kernel

/-- What the arithmetic of floats sees in a float that is not zero. -/
theorem unpack_of_positive {x : Float} {mantissa : Nat} {exponent : Int}
    (value : Binary.ofFloat x = .finite false mantissa exponent) (positive : 0 < mantissa) :
    x.toModel.unpack = .finite .positive mantissa exponent positive := by
  obtain ⟨sign, signs, ⟨zero, -⟩ | ⟨_, unpacked⟩⟩ := Binary.unpack_of_finite value
  · omega
  · cases sign with
    | negative => cases signs
    | positive => exact unpacked

/-- The mantissa and the exponent of a float that is a positive integer. -/
theorem exists_of_toInt {x : Float} {n : Nat} (positive : 0 < n) (whole : toInt? x = some (n : Int)) :
    ∃ m e, Binary.ofFloat x = .finite false m e ∧ 0 < m ∧ (m : ℚ) * 2 ^ e = n := by
  obtain ⟨negative, m, e, value, -, integer⟩ := finite_of_toInt whole
  cases negative with
  | true =>
    have nonpositive : ∀ k : Nat, -(k : Int) ≠ n := by omega
    simp only [Binary.toInt?, if_true] at integer
    split at integer
    · exact absurd (Option.some.inj integer) (nonpositive _)
    · split at integer
      · exact absurd (Option.some.inj integer) (nonpositive _)
      · cases integer
  | false =>
    have number := value_of_toInt integer
    refine ⟨m, e, value, Nat.pos_of_ne_zero fun zero => ?_, by exact_mod_cast number⟩
    rw [zero, Nat.cast_zero, zero_mul] at number
    have : (n : Int) = 0 := by exact_mod_cast number.symm
    omega

section

variable {mantissa : Nat} {exponent : Int} {q : ℚ}

/-- The numbers that are rounded to finite floats. -/
theorem Rounds.bounds (rounds : Rounds mantissa exponent q) (canonical : Canonical mantissa exponent) :
    (2 : ℚ) ^ (-1075 : Int) ≤ q ∧ q < 2 ^ (1024 : Int) := by
  have scale : (0 : ℚ) < 2 ^ exponent := by positivity
  have least : (1 : ℚ) ≤ mantissa := by exact_mod_cast canonical.positive
  have most : (mantissa : ℚ) ≤ 9007199254740991 := by
    exact_mod_cast (by have := canonical.small; omega : mantissa ≤ 9007199254740991)
  have low : 1 / 2 ≤ q / 2 ^ exponent := by linarith [rounds.lower, halfBelow_le mantissa exponent]
  have high : q / 2 ^ exponent < 2 ^ (53 : Int) := by norm_num; linarith [rounds.upper]
  rw [le_div_iff₀ scale] at low
  rw [div_lt_iff₀ scale, ← zpow_add₀ two_ne_zero] at high
  constructor
  · calc (2 : ℚ) ^ (-1075 : Int) ≤ 2 ^ (-1 + exponent) :=
          zpow_le_zpow_right₀ one_le_two (by have := canonical.low; omega)
      _ = 1 / 2 * 2 ^ exponent := by rw [zpow_add₀ two_ne_zero]; norm_num
      _ ≤ q := low
  · exact high.trans_le (zpow_le_zpow_right₀ one_le_two (by have := canonical.high; omega))

/-- A decimal of at most 53 bits and a small power of ten is found by a single operation. -/
theorem ofScientific_fast {n k : Nat} {s : Bool} (positive : 0 < n)
    (canonical : Canonical mantissa exponent) (fits : n < 2 ^ 53 ∧ k ≤ 22)
    (rounds : Rounds mantissa exponent (if s then (n : ℚ) / 10 ^ k else n * 10 ^ k)) :
    Binary.ofFloat (Float.ofScientific n s k) = .finite false mantissa exponent := by
  obtain ⟨m, e, normal, number, large, digits⟩ := exists_canonical positive fits.1
  have power := toInt_powers ⟨k, by omega⟩
  simp only at power
  unfold Float.ofScientific
  rw [dif_pos fits]
  simp only
  generalize getElem Float.exactlyRepresentablePowersOfTen k _ = x at power ⊢
  obtain ⟨m', e', value, positive', ten⟩ :=
    exists_of_toInt (Nat.pow_pos (by decide : 0 < 10)) (by exact_mod_cast power)
  push_cast at ten
  have unpacked := unpack_of_positive digits normal.positive
  have unpacked' := unpack_of_positive value positive'
  cases s with
  | false =>
    rw [if_neg Bool.false_ne_true] at rounds ⊢
    rw [number, ← ten] at rounds
    show Binary.ofFloat (.ofModel (.pack (mul Format.binary64 n.toUInt64.toFloat.toModel.unpack
      x.toModel.unpack))) = _
    rw [unpacked, unpacked', mul_of_rounds canonical .positive .positive normal.positive positive'
      (large.trans (Nat.le_mul_of_pos_right m positive')) rounds, ofFloat_pack canonical]
    rfl
  | true =>
    rw [if_pos rfl] at rounds ⊢
    rw [number, ← ten] at rounds
    show Binary.ofFloat (.ofModel (.pack (div Format.binary64 n.toUInt64.toFloat.toModel.unpack
      x.toModel.unpack))) = _
    rw [unpacked, unpacked', div_of_rounds canonical .positive .positive normal.positive positive'
      rounds, ofFloat_pack canonical]
    rfl

/-- The powers of ten of decimals that are rounded to finite floats. -/
theorem Rounds.powers {n : Nat} {k : Int} (positive : 0 < n)
    (canonical : Canonical mantissa exponent) (rounds : Rounds mantissa exponent (n * 10 ^ k)) :
    ¬ 2048 < k ∧ ¬ k < -(2048 + (n.log2 : Int)) := by
  obtain ⟨low, high⟩ := rounds.bounds canonical
  constructor
  · intro large
    obtain ⟨j, rfl⟩ := Int.eq_ofNat_of_zero_le (by omega : 0 ≤ k)
    have one : (1 : ℚ) ≤ n := by exact_mod_cast positive
    have huge : (2 : ℚ) ^ (1024 : Int) ≤ n * 10 ^ (j : Int) := by
      calc (2 : ℚ) ^ (1024 : Int) ≤ 2 ^ (j : Int) := zpow_le_zpow_right₀ one_le_two (by omega)
        _ ≤ 10 ^ (j : Int) := zpow_le_zpow_left₀ (by omega) (by norm_num) (by norm_num)
        _ ≤ n * 10 ^ (j : Int) := le_mul_of_one_le_left (by positivity) one
    linarith
  · intro small
    obtain ⟨j, rfl⟩ : ∃ j : Nat, k = -j := ⟨(-k).toNat, by omega⟩
    have digits : (n : ℚ) ≤ 2 ^ ((n.log2 : Int) + 1) := by
      exact_mod_cast (Nat.lt_log2_self (n := n)).le
    have tens : (10 : ℚ) ^ (-(j : Int)) ≤ 2 ^ (-(j : Int)) := by
      rw [zpow_neg, zpow_neg]
      exact inv_anti₀ (by positivity) (zpow_le_zpow_left₀ (by omega) (by norm_num) (by norm_num))
    have tiny : n * (10 : ℚ) ^ (-(j : Int)) < 2 ^ (-1075 : Int) := by
      calc n * (10 : ℚ) ^ (-(j : Int)) ≤ 2 ^ ((n.log2 : Int) + 1) * 2 ^ (-(j : Int)) := by gcongr
        _ = 2 ^ ((n.log2 : Int) + 1 + -(j : Int)) := by rw [← zpow_add₀ two_ne_zero]
        _ < 2 ^ (-1075 : Int) := zpow_lt_zpow_right₀ one_lt_two (by omega)
    linarith

/-- The arithmetic of floats reads a decimal as the float that its number is rounded to. -/
theorem ofScientific_exact {n : Nat} {k : Int} (positive : 0 < n)
    (canonical : Canonical mantissa exponent) (rounds : Rounds mantissa exponent (n * 10 ^ k)) :
    ofScientific Format.binary64 n k = .finite .positive mantissa exponent canonical.positive := by
  obtain ⟨notLarge, notSmall⟩ := rounds.powers positive canonical
  have bits : (2 : Int) ^ Format.binary64.exponentBits = 2048 := rfl
  unfold ofScientific
  rw [dif_neg positive.ne', bits, if_neg notLarge, if_neg notSmall]
  by_cases up : 0 ≤ k
  · rw [if_pos up]
    obtain ⟨j, rfl⟩ := Int.eq_ofNat_of_zero_le up
    have ten : 0 < 10 ^ j := Nat.pow_pos (by decide)
    refine mul_of_rounds canonical .positive .positive _ _ ?_ ?_
    · show 4503599627370496 ≤ n <<< 53 * 10 ^ j
      rw [Nat.shiftLeft_eq]
      calc 4503599627370496 ≤ 1 * 2 ^ 53 * 1 := by norm_num
        _ ≤ n * 2 ^ 53 * 10 ^ j := Nat.mul_le_mul (Nat.mul_le_mul_right _ positive) ten
    · have value : ((n <<< 53 : Nat) * 2 ^ (-53 : Int) * ((10 ^ j : Nat) * 2 ^ (0 : Int)) : ℚ) =
          n * 10 ^ (j : Int) := by
        have unit : ((2 ^ 53 : Nat) : ℚ) * 2 ^ (-53 : Int) = 1 := by norm_num
        rw [Nat.shiftLeft_eq, Nat.cast_mul, mul_assoc (n : ℚ), unit, zpow_natCast, zpow_zero]
        push_cast
        ring
      show Rounds mantissa exponent
        ((n <<< 53 : Nat) * 2 ^ (-53 : Int) * ((10 ^ j : Nat) * 2 ^ (0 : Int)))
      rwa [value]
  · rw [if_neg up]
    obtain ⟨j, rfl⟩ : ∃ j : Nat, k = -j := ⟨(-k).toNat, by omega⟩
    refine div_of_rounds canonical .positive .positive _ _ ?_
    have value : (n * 2 ^ (0 : Int) / ((10 ^ j : Nat) * 2 ^ (0 : Int)) : ℚ) = n * 10 ^ (-(j : Int)) := by
      rw [zpow_zero, zpow_neg, zpow_natCast, mul_one, mul_one, div_eq_mul_inv]
      push_cast
      rfl
    rw [Int.neg_neg, Int.toNat_natCast, value]
    exact rounds

/-- A decimal is read as the float that its number is rounded to. -/
theorem ofScientific_of_rounds {n k : Nat} {s : Bool} (positive : 0 < n)
    (canonical : Canonical mantissa exponent)
    (rounds : Rounds mantissa exponent (if s then (n : ℚ) / 10 ^ k else n * 10 ^ k)) :
    Binary.ofFloat (Float.ofScientific n s k) = .finite false mantissa exponent := by
  by_cases fits : n < 2 ^ 53 ∧ k ≤ 22
  · exact ofScientific_fast positive canonical fits rounds
  · have number : (if s then (n : ℚ) / 10 ^ k else n * 10 ^ k) =
        n * 10 ^ (if s then Int.negOfNat k else Int.ofNat k) := by
      cases s with
      | false => rfl
      | true =>
        rw [if_pos rfl, if_pos rfl, Int.negOfNat_eq, zpow_neg, div_eq_mul_inv]
        rfl
    rw [number] at rounds
    unfold Float.ofScientific
    rw [dif_neg fits]
    show Binary.ofFloat (.ofModel (.pack (ofScientific Format.binary64 n _))) = _
    rw [ofScientific_exact positive canonical rounds, ofFloat_pack canonical]
    rfl

end

end Verdict.Number
