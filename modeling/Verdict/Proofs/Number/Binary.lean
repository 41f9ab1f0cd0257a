import Mathlib.Algebra.Group.Nat.Defs
import Verdict.Number.Order

/-!
# Floats as numbers

`Binary.ofFloat` takes a float apart as the arithmetic of floats does (`ofFloat_eq`).  A finite
float has the only sign, mantissa and exponent of its format that stand for its number, so floats
of the same rank are equal (`beq_of_rank`, `rank_of_beq`).
-/

namespace Verdict.Number

open Float.Model (UnpackedFloat Format)
open Float.Model.UnpackedFloat (Sign unpackExponent unpackMantissa unpackSign)

namespace Binary

/-- Whether a sign is that of negative numbers. -/
def isNegative : Sign → Bool
  | .negative => true
  | .positive => false

/-- The number that an unpacked float stands for. -/
def ofUnpacked : UnpackedFloat → Binary
  | .notANumber => .nan
  | .infinity sign => .infinite (isNegative sign)
  | .zero sign => .finite (isNegative sign) 0 (-1074)
  | .finite sign mantissa exponent _ => .finite (isNegative sign) mantissa exponent

section

variable (bits : UInt64)

theorem toNat_unpackExponent :
    (@unpackExponent Format.binary64 bits.toBitVec).toNat =
      bits.toNat / Nat.pow 2 52 % Nat.pow 2 11 := by
  simp only [unpackExponent, BitVec.toNat_cast, BitVec.extractLsb_toNat]
  rw [Nat.shiftRight_eq_div_pow]
  rfl

theorem toNat_unpackMantissa :
    (@unpackMantissa Format.binary64 bits.toBitVec).toNat = bits.toNat % Nat.pow 2 52 := by
  simp only [unpackMantissa, BitVec.toNat_cast, BitVec.extractLsb_toNat]
  rw [Nat.shiftRight_eq_div_pow, Nat.pow_zero, Nat.div_one]
  rfl

theorem toNat_unpackSign :
    (@unpackSign Format.binary64 bits.toBitVec).toNat = bits.toNat / Nat.pow 2 63 := by
  have bound := bits.toNat_lt
  show (bits.toBitVec.extractLsb 63 63).toNat = bits.toNat / 2 ^ 63
  rw [BitVec.extractLsb_toNat, Nat.shiftRight_eq_div_pow]
  show bits.toNat / 2 ^ 63 % 2 = bits.toNat / 2 ^ 63
  omega

theorem isNegative_unpackSign :
    isNegative (Sign.ofBitVec (@unpackSign Format.binary64 bits.toBitVec)) =
      (bits.toNat / Nat.pow 2 63 == 1) := by
  rw [← toNat_unpackSign]
  generalize @unpackSign Format.binary64 bits.toBitVec = sign
  revert sign
  decide

theorem toNat_implicit (fraction : BitVec 52) :
    (1#1 ++ fraction).toNat = Nat.pow 2 52 + fraction.toNat := by
  rw [BitVec.toNat_append, ← Nat.shiftLeft_add_eq_or_of_lt fraction.isLt]
  rfl

theorem ofUnpacked_finite (sign : Sign) (m : Nat) (e : Int) (positive : 0 < m) :
    ofUnpacked (.finite sign m e positive) = .finite (isNegative sign) m e :=
  rfl

/-- The bits of a float stand for the number that the arithmetic of floats sees in them. -/
theorem ofBits_eq : ofBits bits =
    ofUnpacked (Float.Model.UnpackedFloat.unpack Format.binary64 bits.toBitVec) := by
  have exponent := toNat_unpackExponent bits
  have mantissa := toNat_unpackMantissa bits
  have negative := isNegative_unpackSign bits
  have fractionZero : @unpackMantissa Format.binary64 bits.toBitVec = 0#52 ↔
      (@unpackMantissa Format.binary64 bits.toBitVec).toNat = 0 :=
    BitVec.toNat_inj.symm
  have fieldZero : @unpackExponent Format.binary64 bits.toBitVec = 0#11 ↔
      (@unpackExponent Format.binary64 bits.toBitVec).toNat = 0 :=
    BitVec.toNat_inj.symm
  have fieldTop : @unpackExponent Format.binary64 bits.toBitVec = -1#11 ↔
      (@unpackExponent Format.binary64 bits.toBitVec).toNat = 2047 :=
    BitVec.toNat_inj.symm
  unfold ofBits
  simp only [← exponent, ← mantissa, ← negative]
  unfold Float.Model.UnpackedFloat.unpack
  by_cases top : @unpackExponent Format.binary64 bits.toBitVec = -1#11
  · by_cases none : @unpackMantissa Format.binary64 bits.toBitVec = 0#52
    · rw [if_pos top, if_pos none, if_pos (by simpa using fieldTop.mp top),
        if_pos (by simpa using fractionZero.mp none)]
      rfl
    · rw [if_pos top, if_neg none, if_pos (by simpa using fieldTop.mp top),
        if_neg (by simpa using mt fractionZero.mpr none)]
      rfl
  · rw [if_neg top, if_neg (by simpa using mt fieldTop.mpr top)]
    by_cases low : @unpackExponent Format.binary64 bits.toBitVec = 0#11
    · rw [if_pos low, if_pos (by simpa using fieldZero.mp low)]
      by_cases none : @unpackMantissa Format.binary64 bits.toBitVec = 0#52
      · rw [dif_pos none, fractionZero.mp none]
        rfl
      · rw [dif_neg none]
        rw [ofUnpacked_finite, fieldZero.mp low]
        rfl
    · rw [if_neg low, if_neg (by simpa using mt fieldZero.mpr low), ofUnpacked_finite, toNat_implicit]
      rfl

end

/-- What a float stands for is what the arithmetic of floats sees in it. -/
theorem ofFloat_eq (x : Float) : ofFloat x = ofUnpacked x.toModel.unpack :=
  ofBits_eq x.toBits

/-- What the arithmetic of floats sees in a finite float: a zero, or its mantissa and exponent. -/
theorem unpack_of_finite {x : Float} {negative : Bool} {m : Nat} {e : Int}
    (value : ofFloat x = .finite negative m e) :
    ∃ sign, isNegative sign = negative ∧
      ((m = 0 ∧ x.toModel.unpack = .zero sign) ∨
        ∃ positive, x.toModel.unpack = .finite sign m e positive) := by
  rw [ofFloat_eq] at value
  cases unpacked : x.toModel.unpack with
  | notANumber => rw [unpacked] at value; cases value
  | infinity sign => rw [unpacked] at value; cases value
  | zero sign =>
    rw [unpacked] at value
    cases value
    exact ⟨sign, rfl, .inl ⟨rfl, rfl⟩⟩
  | finite sign mantissa exponent positive =>
    rw [unpacked] at value
    cases value
    exact ⟨sign, rfl, .inr ⟨positive, rfl⟩⟩

/-- The mantissa and the exponent of a finite float are those of its format. -/
theorem format_of_finite {x : Float} {negative : Bool} {mantissa : Nat} {exponent : Int}
    (value : ofFloat x = .finite negative mantissa exponent) :
    mantissa < 9007199254740992 ∧ -1074 ≤ exponent ∧ exponent ≤ 971 ∧
      (4503599627370496 ≤ mantissa ∨ exponent = -1074) := by
  unfold ofFloat ofBits at value
  simp only at value
  have fraction : x.toBits.toNat % Nat.pow 2 52 < 4503599627370496 := Nat.mod_lt _ (by decide)
  have field : x.toBits.toNat / Nat.pow 2 52 % Nat.pow 2 11 < 2048 := Nat.mod_lt _ (by decide)
  split at value
  · split at value <;> cases value
  next notTop =>
    rw [beq_iff_eq] at notTop
    split at value
    · cases value
      omega
    next notLow =>
      rw [beq_iff_eq] at notLow
      have implicit : Nat.pow 2 52 = 4503599627370496 := rfl
      cases value
      omega

end Binary

namespace Binary

/-- Of two equal numbers, the one with the larger exponent would have too large a mantissa. -/
theorem exponent_le_of_equal {m m' a a' : Nat} (equal : m * Nat.pow 2 a = m' * Nat.pow 2 a')
    (small : m < 9007199254740992) (large : 4503599627370496 ≤ m' ∨ a' = 0) : a' ≤ a := by
  refine Nat.le_of_not_lt fun further => ?_
  obtain ⟨more, rfl⟩ : ∃ more, a' = a + 1 + more := ⟨a' - a - 1, by omega⟩
  have top : 4503599627370496 ≤ m' := by omega
  have power : Nat.pow 2 (a + 1 + more) = Nat.pow 2 a * (2 * Nat.pow 2 more) := by
    show 2 ^ (a + 1 + more) = 2 ^ a * (2 * 2 ^ more)
    rw [Nat.pow_add, Nat.pow_succ, Nat.mul_assoc]
  have positive : 0 < Nat.pow 2 a := Nat.pow_pos (by decide)
  have twice : 1 ≤ Nat.pow 2 more := Nat.pow_pos (by decide)
  have cancelled : m = m' * (2 * Nat.pow 2 more) := by
    refine Nat.eq_of_mul_eq_mul_right positive (equal.trans ?_)
    rw [power, Nat.mul_assoc, Nat.mul_comm (Nat.pow 2 a)]
  have double : m' * 2 ≤ m' * (2 * Nat.pow 2 more) := Nat.mul_le_mul_left _ (by omega)
  omega

/-- A rank has only one sign, mantissa and exponent of the format, unless it is that of zero. -/
theorem eq_of_rank {x y : Float} {negative negative' : Bool} {m m' : Nat} {e e' : Int}
    (valueX : ofFloat x = .finite negative m e) (valueY : ofFloat y = .finite negative' m' e')
    (same : Number.rank? x = Number.rank? y) :
    (m = 0 ∧ m' = 0) ∨ (negative = negative' ∧ m = m' ∧ e = e') := by
  obtain ⟨small, low, -, large⟩ := format_of_finite valueX
  obtain ⟨small', low', -, large'⟩ := format_of_finite valueY
  have power : ∀ a, 0 < Nat.pow 2 a := fun a => Nat.pow_pos (by decide)
  have ranks : (if negative then -((m * Nat.pow 2 (e + 1074).toNat : Nat) : Int)
        else ((m * Nat.pow 2 (e + 1074).toNat : Nat) : Int)) =
      if negative' then -((m' * Nat.pow 2 (e' + 1074).toNat : Nat) : Int)
        else ((m' * Nat.pow 2 (e' + 1074).toNat : Nat) : Int) := by
    unfold Number.rank? at same
    rw [valueX, valueY] at same
    simp only [Binary.rank?, Option.some.injEq] at same
    exact same
  have sizes : m * Nat.pow 2 (e + 1074).toNat = m' * Nat.pow 2 (e' + 1074).toNat := by
    split at ranks <;> split at ranks <;> omega
  have exponents := exponent_le_of_equal sizes small (by omega)
  have exponents' := exponent_le_of_equal sizes.symm small' (by omega)
  have equal : e = e' := by omega
  subst equal
  have mantissas : m = m' := Nat.eq_of_mul_eq_mul_right (power _) sizes
  subst mantissas
  rcases Nat.eq_zero_or_pos m with zero | positive
  · exact .inl ⟨zero, zero⟩
  · have sized : 0 < m * Nat.pow 2 (e + 1074).toNat := Nat.mul_pos positive (power _)
    refine .inr ⟨?_, rfl, rfl⟩
    cases negative <;> cases negative' <;> simp only [Bool.false_eq_true, if_false, if_true] at ranks <;>
      first | rfl | omega

end Binary

/-- A whole number `m * 2 ^ e`, counted in units of `2 ^ -c`. -/
theorem scaled_of_whole (m : Nat) {e : Int} {c : Nat} (low : -(c : Int) ≤ e) :
    (0 ≤ e → m * Nat.pow 2 (e + c).toNat = m * Nat.pow 2 e.toNat * Nat.pow 2 c) ∧
      (¬ 0 ≤ e → m % Nat.pow 2 (-e).toNat = 0 →
        m * Nat.pow 2 (e + c).toNat = m / Nat.pow 2 (-e).toNat * Nat.pow 2 c) := by
  have powers : ∀ a b, Nat.pow 2 (a + b) = Nat.pow 2 a * Nat.pow 2 b := Nat.pow_add 2
  constructor
  · intro up
    have exponents : (e + c).toNat = e.toNat + c := by omega
    rw [exponents, powers, Nat.mul_assoc]
  · intro down divides
    have exponents : c = (-e).toNat + (e + c).toNat := by omega
    have power : Nat.pow 2 c = Nat.pow 2 (-e).toNat * Nat.pow 2 (e + c).toNat :=
      (congrArg (Nat.pow 2) exponents).trans (powers _ _)
    rw [power, ← Nat.mul_assoc, Nat.div_mul_cancel (Nat.dvd_of_mod_eq_zero divides)]

/-- The integer that a finite number is, counted in units of `2 ^ -c`. -/
theorem Binary.scaled_of_toInt {negative : Bool} {m : Nat} {e n : Int} (c : Nat)
    (low : -(c : Int) ≤ e) (whole : (Binary.finite negative m e).toInt? = some n) :
    (if negative then -((m * Nat.pow 2 (e + c).toNat : Nat) : Int)
      else ((m * Nat.pow 2 (e + c).toNat : Nat) : Int)) = n * (Nat.pow 2 c : Nat) := by
  obtain ⟨whenUp, whenDown⟩ := scaled_of_whole m low
  have signed : ∀ k l u : Nat, l = k * u →
      (if negative then -(l : Int) else l) = (if negative then -(k : Int) else k) * u := by
    rintro k l u rfl
    rw [Int.natCast_mul]
    split
    · rw [Int.neg_mul]
    · rfl
  simp only [Binary.toInt?] at whole
  split at whole
  next up =>
    rw [← Option.some.inj whole]
    exact signed _ _ _ (whenUp up)
  next down =>
    split at whole
    next divides =>
      rw [← Option.some.inj whole]
      exact signed _ _ _ (whenDown down (beq_iff_eq.mp divides))
    next => cases whole

/-- Floats that are integers are finite. -/
theorem finite_of_toInt {x : Float} {n : Int} (whole : toInt? x = some n) :
    ∃ negative m e, Binary.ofFloat x = .finite negative m e ∧ -1074 ≤ e ∧
      (Binary.finite negative m e).toInt? = some n := by
  unfold toInt? at whole
  cases value : Binary.ofFloat x with
  | nan => rw [value] at whole; cases whole
  | infinite negative => rw [value] at whole; cases whole
  | finite negative m e =>
    rw [value] at whole
    exact ⟨negative, m, e, rfl, (Binary.format_of_finite value).2.1, whole⟩

theorem isFinite_of_toInt {x : Float} {n : Int} (whole : toInt? x = some n) : isFinite x = true := by
  obtain ⟨negative, m, e, value, -, -⟩ := finite_of_toInt whole
  rw [isFinite, value]

/-- Floats that are the same integer have the same rank. -/
theorem rank_eq_of_toInt {x y : Float} {n : Int} (whole : toInt? x = some n)
    (whole' : toInt? y = some n) : rank? x = rank? y := by
  obtain ⟨negative, m, e, value, low, integer⟩ := finite_of_toInt whole
  obtain ⟨negative', m', e', value', low', integer'⟩ := finite_of_toInt whole'
  have scaled := Binary.scaled_of_toInt 1074 low integer
  have scaled' := Binary.scaled_of_toInt 1074 low' integer'
  unfold rank?
  rw [value, value']
  exact congrArg some (scaled.trans scaled'.symm)

/-- Numbers of the same sign, mantissa and exponent are equal. -/
theorem beq_finite {s s' : Sign} (signs : Binary.isNegative s = Binary.isNegative s') {k : Nat}
    {f : Int} (positive positive' : 0 < k) :
    (UnpackedFloat.finite s k f positive).beq (.finite s' k f positive') = true := by
  have exponents : compare f f = .eq := Std.ReflCmp.compare_self
  have mantissas : compare k k = .eq := Std.ReflCmp.compare_self
  cases s <;> cases s'
  case positive.positive =>
    show (some ((compare f f).then (compare k k)) == some .eq) = true
    rw [exponents, mantissas]
    rfl
  case negative.negative =>
    show (some ((compare f f).then (compare k k)).swap == some .eq) = true
    rw [exponents, mantissas]
    rfl
  all_goals cases signs

/-- Finite floats of the same rank are equal. -/
theorem beq_of_rank {x y : Float} (finite : isFinite x = true) (finite' : isFinite y = true)
    (same : rank? x = rank? y) : (x == y) = true := by
  obtain ⟨negative, m, e, valueX⟩ := exists_of_isFinite finite
  obtain ⟨negative', m', e', valueY⟩ := exists_of_isFinite finite'
  have parts := Binary.eq_of_rank valueX valueY same
  obtain ⟨s, rfl, seenX⟩ := Binary.unpack_of_finite valueX
  obtain ⟨s', rfl, seenY⟩ := Binary.unpack_of_finite valueY
  show x.toModel.unpack.beq y.toModel.unpack = true
  rcases parts with ⟨zero, zero'⟩ | ⟨signs, rfl, rfl⟩
  · rcases seenX with ⟨-, seenX⟩ | ⟨positive, -⟩
    · rcases seenY with ⟨-, seenY⟩ | ⟨positive', -⟩
      · rw [seenX, seenY]
        rfl
      · omega
    · omega
  · rcases seenX with ⟨zero, seenX⟩ | ⟨positive, seenX⟩
    · rcases seenY with ⟨-, seenY⟩ | ⟨positive', -⟩
      · rw [seenX, seenY]
        rfl
      · omega
    · rcases seenY with ⟨zero, -⟩ | ⟨positive', seenY⟩
      · omega
      · rw [seenX, seenY]
        exact beq_finite signs positive positive'

/-- What is compared as equal is the same, but for the signs of zeros. -/
theorem eq_or_zero_of_compare {u v : UnpackedFloat} (equal : u.compare v = some .eq) :
    u = v ∨ ∃ s s', u = .zero s ∧ v = .zero s' := by
  cases u with
  | notANumber => cases v <;> cases equal
  | infinity s =>
    cases v with
    | infinity s' =>
      have signs : compare s s' = .eq := Option.some.inj equal
      cases s <;> cases s' <;> first | exact .inl rfl | cases signs
    | zero s' | finite s' => cases s <;> cases equal
    | notANumber => cases equal
  | zero s =>
    cases v with
    | zero s' => exact .inr ⟨s, s', rfl, rfl⟩
    | finite s' | infinity s' => cases s' <;> cases equal
    | notANumber => cases equal
  | finite s m e positive =>
    cases v with
    | finite s' m' e' positive' =>
      have signs : s = s' := by cases s <;> cases s' <;> first | rfl | cases equal
      subst signs
      have parts : ((compare e e').then (compare m m')) = .eq := by
        cases s with
        | positive => exact Option.some.inj equal
        | negative => exact Ordering.swap_inj.mp (Option.some.inj equal)
      obtain ⟨exponents, mantissas⟩ := Ordering.then_eq_eq.mp parts
      obtain rfl := Int.compare_eq_eq.mp exponents
      obtain rfl := Nat.compare_eq_eq.mp mantissas
      exact .inl rfl
    | zero s' => cases s <;> cases equal
    | infinity s' => cases s' <;> cases s <;> cases equal
    | notANumber => cases s <;> cases equal

/-- Equal floats have the same rank. -/
theorem rank_of_beq {x y : Float} (equal : (x == y) = true) : rank? x = rank? y := by
  have compared : x.toModel.unpack.compare y.toModel.unpack = some .eq := beq_iff_eq.mp equal
  unfold rank?
  rw [Binary.ofFloat_eq, Binary.ofFloat_eq]
  rcases eq_or_zero_of_compare compared with same | ⟨s, s', zero, zero'⟩
  · rw [same]
  · rw [zero, zero']
    cases s <;> cases s' <;> rfl

/-- Finite floats are equal to themselves. -/
theorem beq_self {x : Float} (finite : isFinite x = true) : (x == x) = true :=
  beq_of_rank finite finite rfl

end Verdict.Number
