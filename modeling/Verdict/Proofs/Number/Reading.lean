import Mathlib.Data.List.TakeWhile
import Verdict.Proofs.Number.Scientific
import Verdict.Proofs.Number.Shortest
import Verdict.Proofs.Number.Text

/-!
# The texts of floats are read back

A float is written by the shortest decimal that is rounded to it, so whatever the layout, reading
the text gives the float again (`read?_scientific`).  Different floats have different texts.
-/

namespace Verdict.Number

/-! ## Floats of one sign, mantissa and exponent -/

/-- The bits of a finite float come from its sign, mantissa and exponent. -/
theorem toBits_of_finite {x : Float} {negative : Bool} {mantissa : Nat} {exponent : Int}
    (value : Binary.ofFloat x = .finite negative mantissa exponent) :
    x.toBits.toNat = (if negative then 9223372036854775808 else 0) +
      (if mantissa < 4503599627370496 then mantissa
        else (exponent + 1075).toNat * 4503599627370496 + (mantissa - 4503599627370496)) := by
  have bound := x.toBits.toNat_lt
  unfold Binary.ofFloat Binary.ofBits at value
  generalize x.toBits.toNat = bits at value bound
  simp only [show Nat.pow 2 63 = 9223372036854775808 from rfl,
    show Nat.pow 2 52 = 4503599627370496 from rfl, show Nat.pow 2 11 = 2048 from rfl] at value
  have sign : (bits / 9223372036854775808 == 1) = negative →
      (negative = true ∧ bits / 9223372036854775808 = 1) ∨
        (negative = false ∧ bits / 9223372036854775808 = 0) := by
    rintro rfl
    by_cases one : bits / 9223372036854775808 = 1
    · exact .inl ⟨beq_iff_eq.mpr one, one⟩
    · exact .inr ⟨beq_eq_false_iff_ne.mpr one, by omega⟩
  split at value
  · split at value <;> cases value
  next notTop =>
    split at value
    next low =>
      injection value with signs mantissas exponents
      rw [beq_iff_eq] at low
      have small : mantissa < 4503599627370496 := by omega
      rcases sign signs with ⟨rfl, front⟩ | ⟨rfl, front⟩
      · rw [if_pos rfl, if_pos small]
        omega
      · rw [if_neg Bool.false_ne_true, if_pos small]
        omega
    next notLow =>
      injection value with signs mantissas exponents
      have large : ¬ mantissa < 4503599627370496 := by omega
      rcases sign signs with ⟨rfl, front⟩ | ⟨rfl, front⟩
      · rw [if_pos rfl, if_neg large]
        omega
      · rw [if_neg Bool.false_ne_true, if_neg large]
        omega

/-- A finite float is the only one of its sign, mantissa and exponent. -/
theorem eq_of_ofFloat {x y : Float} {negative : Bool} {mantissa : Nat} {exponent : Int}
    (value : Binary.ofFloat x = .finite negative mantissa exponent)
    (value' : Binary.ofFloat y = .finite negative mantissa exponent) : x = y := by
  have bits : x.toBits = y.toBits :=
    UInt64.toNat_inj.mp ((toBits_of_finite value).trans (toBits_of_finite value').symm)
  obtain ⟨⟨bitsX, _⟩⟩ := x
  obtain ⟨⟨bitsY, _⟩⟩ := y
  cases bits
  rfl

theorem ofFloat_neg {x : Float} {mantissa : Nat} {exponent : Int}
    (canonical : Canonical mantissa exponent)
    (value : Binary.ofFloat x = .finite false mantissa exponent) :
    Binary.ofFloat (-x) = .finite true mantissa exponent := by
  show Binary.ofFloat (.ofModel (.pack x.toModel.unpack.neg)) = _
  rw [unpack_of_positive value canonical.positive]
  exact ofFloat_pack canonical .negative

/-! ## Decimals -/

section

variable {mantissa n : Nat} {exponent k : Int}

/-- The decimal is neither too large nor too small for a float. -/
theorem size_bounds (positive : 0 < n) (canonical : Canonical mantissa exponent)
    (rounds : Rounds mantissa exponent (n * 10 ^ k)) :
    -400 ≤ (Nat.toDigits 10 n).length + k ∧ (Nat.toDigits 10 n).length + k ≤ 400 := by
  obtain ⟨low, high⟩ := rounds.bounds canonical
  have tens : (0 : ℚ) < 10 ^ k := by positivity
  obtain ⟨digits, length⟩ : ∃ digits, (Nat.toDigits 10 n).length = digits + 1 :=
    ⟨_, (Nat.succ_pred_eq_of_pos Nat.length_toDigits_pos).symm⟩
  have longest := lt_pow_length_toDigits n
  have shortest := pow_length_toDigits_le positive
  rw [length] at longest shortest ⊢
  have lower : (10 : ℚ) ^ ((digits : Int) + k) ≤ n * 10 ^ k := by
    rw [zpow_add₀ (by norm_num), zpow_natCast]
    exact mul_le_mul_of_nonneg_right (by exact_mod_cast shortest) tens.le
  have upper : n * (10 : ℚ) ^ k < 10 ^ (((digits + 1 : Nat) : Int) + k) := by
    rw [zpow_add₀ (by norm_num), zpow_natCast]
    exact mul_lt_mul_of_pos_right (by exact_mod_cast longest) tens
  have eights : (2 : ℚ) ^ (1200 : Int) ≤ 10 ^ (400 : Int) := by
    rw [show (1200 : Int) = 3 * 400 by norm_num, zpow_mul]
    exact zpow_le_zpow_left₀ (by norm_num) (by norm_num) (by norm_num)
  have large : (2 : ℚ) ^ (1024 : Int) ≤ 10 ^ (400 : Int) :=
    (zpow_le_zpow_right₀ one_le_two (by norm_num)).trans eights
  have small : (10 : ℚ) ^ (-400 : Int) ≤ 2 ^ (-1075 : Int) := by
    rw [zpow_neg, zpow_neg]
    exact inv_anti₀ (by positivity) ((zpow_le_zpow_right₀ one_le_two (by norm_num)).trans eights)
  have below := (zpow_lt_zpow_iff_right₀ (by norm_num : (1 : ℚ) < 10)).mp
    (lower.trans_lt (high.trans_le large))
  have above := (zpow_lt_zpow_iff_right₀ (by norm_num : (1 : ℚ) < 10)).mp
    ((small.trans low).trans_lt upper)
  omega

/-- A decimal is read as the float of the given sign that its number is rounded to. -/
theorem ofDecimal_of_rounds (positive : 0 < n) (canonical : Canonical mantissa exponent)
    (rounds : Rounds mantissa exponent (n * 10 ^ k)) (negative : Bool) :
    Binary.ofFloat (ofDecimal negative n k) = .finite negative mantissa exponent := by
  obtain ⟨notSmall, notLarge⟩ := size_bounds positive canonical rounds
  have size : ¬ (n == 0 || decide (((Nat.toDigits 10 n).length : Int) + k < -400)) = true := by
    simp only [Bool.or_eq_true, beq_iff_eq, decide_eq_true_eq]
    omega
  have unsigned : ∀ x, x = (if 0 ≤ k then Float.ofScientific n false k.toNat
      else Float.ofScientific n true (-k).toNat) →
      Binary.ofFloat x = .finite false mantissa exponent := by
    rintro x rfl
    split
    next up =>
      obtain ⟨j, rfl⟩ := Int.eq_ofNat_of_zero_le up
      rw [zpow_natCast] at rounds
      exact ofScientific_of_rounds positive canonical rounds
    next down =>
      obtain ⟨j, rfl⟩ : ∃ j : Nat, k = -j := ⟨(-k).toNat, by omega⟩
      rw [zpow_neg, zpow_natCast, ← div_eq_mul_inv] at rounds
      rw [Int.neg_neg, Int.toNat_natCast]
      exact ofScientific_of_rounds positive canonical rounds
  unfold ofDecimal
  simp only [if_neg size, if_neg (show ¬ 400 < ((Nat.toDigits 10 n).length : Int) + k by omega)]
  cases negative with
  | false => exact unsigned _ rfl
  | true => exact ofFloat_neg canonical (unsigned _ rfl)

end

/-! ## Digits that spell a number -/

/-- Whether digits begin with none that is zero and spell a number. -/
structure Digits.Spells (d : Digits) (q : ℚ) : Prop where
  digits : ∀ c ∈ d.digits, c.isDigit = true
  lead : ∃ c cs, d.digits = c :: cs ∧ c ≠ '0'
  value : (digitsValue d.digits : ℚ) * 10 ^ (d.point - d.digits.length) = q

/-- The digits of a number without its last zeros spell it. -/
theorem spells_trimmed {n : Nat} (positive : 0 < n) (k : Int) :
    Digits.Spells ⟨((Nat.toDigits 10 n).reverse.dropWhile (· == '0')).reverse,
      (Nat.toDigits 10 n).length + k⟩ (n * 10 ^ k) := by
  obtain ⟨front, zeros, trimmed, text⟩ : ∃ front zeros,
      ((Nat.toDigits 10 n).reverse.dropWhile (· == '0')).reverse = front ∧
        Nat.toDigits 10 n = front ++ List.replicate zeros '0' := by
    have zeros : ∀ c ∈ (Nat.toDigits 10 n).reverse.takeWhile (· == '0'), c = '0' := fun c member => by
      simpa using List.mem_takeWhile_imp member
    refine ⟨_, ((Nat.toDigits 10 n).reverse.takeWhile (· == '0')).length, rfl, ?_⟩
    rw [← List.reverse_inj, List.reverse_append, List.reverse_reverse, List.reverse_replicate,
      ← List.eq_replicate_of_mem zeros, List.takeWhile_append_dropWhile]
  have value : n = 10 ^ zeros * digitsValue front := by
    rw [← digitsValue_toDigits n, text, digitsValue_append, digitsValue_replicate_zero,
      List.length_replicate, Nat.add_zero]
  rw [trimmed]
  refine ⟨fun c member => ?_, ?_, ?_⟩
  · exact isDigit_toDigits n c (text ▸ List.mem_append_left _ member)
  · cases front with
    | nil =>
      rw [value] at positive
      exact absurd positive (Nat.lt_irrefl 0)
    | cons c cs =>
      refine ⟨c, cs, rfl, ?_⟩
      rintro rfl
      exact head_toDigits positive text
  · have length := congrArg List.length text
    rw [List.length_append, List.length_replicate] at length
    rw [length, value]
    push_cast
    rw [show ((front.length : Int) + zeros + k - front.length) = zeros + k by ring,
      zpow_add₀ (by norm_num), zpow_natCast]
    ring

/-! ## Reading a text -/

theorem takeWhile_digits_append {ds rest : List Char} (digits : ∀ c ∈ ds, c.isDigit = true)
    (ends : rest.takeWhile Char.isDigit = []) : (ds ++ rest).takeWhile Char.isDigit = ds := by
  rw [List.takeWhile_append_of_pos digits, ends, List.append_nil]

theorem dropWhile_digits_append {ds rest : List Char} (digits : ∀ c ∈ ds, c.isDigit = true)
    (ends : rest.takeWhile Char.isDigit = []) : (ds ++ rest).dropWhile Char.isDigit = rest := by
  rw [List.dropWhile_append_of_pos digits]
  cases rest with
  | nil => rfl
  | cons c more =>
    rw [List.takeWhile_cons] at ends
    rw [List.dropWhile_cons]
    split at ends
    · cases ends
    next other => rw [if_neg other]

section

variable {whole fraction : List Char} (negative : Bool)

/-- Digits alone are read as a whole number. -/
theorem readUnsigned?_digits (digits : areDigits whole = true) :
    readUnsigned? negative whole = some (ofDecimal negative (digitsValue whole) 0) := by
  obtain ⟨some_digit, all⟩ := Bool.and_eq_true_iff.mp digits
  rw [List.all_eq_true] at all
  unfold readUnsigned?
  simp only [List.takeWhile_eq_self_iff.mpr all, List.dropWhile_eq_nil_iff.mpr all,
    List.append_nil, List.length_nil]
  exact if_neg (by simpa using some_digit)

/-- Digits with a fraction are read as one number, scaled by the length of the fraction. -/
theorem readUnsigned?_fraction (digits : ∀ c ∈ whole ++ fraction, c.isDigit = true)
    (some_digit : whole ≠ []) :
    readUnsigned? negative (whole ++ '.' :: fraction) =
      some (ofDecimal negative (digitsValue (whole ++ fraction)) (-(fraction.length : Int))) := by
  have front : ∀ c ∈ whole, c.isDigit = true := fun c member => digits c (List.mem_append_left _ member)
  have back : ∀ c ∈ fraction, c.isDigit = true :=
    fun c member => digits c (List.mem_append_right _ member)
  have point : ('.' :: fraction).takeWhile Char.isDigit = [] := rfl
  have taken := List.takeWhile_eq_self_iff.mpr back
  have left := List.dropWhile_eq_nil_iff.mpr back
  unfold readUnsigned?
  simp only [takeWhile_digits_append front point, dropWhile_digits_append front point, taken, left]
  exact if_neg (by simp [some_digit])

/-- Digits with a fraction and an exponent. -/
theorem readUnsigned?_scientific (digits : ∀ c ∈ whole ++ fraction, c.isDigit = true)
    (some_digit : whole ≠ []) {ds : List Char} {power : Int}
    (exponent : readExponent? ds = some power) :
    readUnsigned? negative (whole ++ '.' :: (fraction ++ 'e' :: ds)) =
      some (ofDecimal negative (digitsValue (whole ++ fraction))
        (-(fraction.length : Int) + power)) := by
  have front : ∀ c ∈ whole, c.isDigit = true := fun c member => digits c (List.mem_append_left _ member)
  have back : ∀ c ∈ fraction, c.isDigit = true :=
    fun c member => digits c (List.mem_append_right _ member)
  have point : ('.' :: (fraction ++ 'e' :: ds)).takeWhile Char.isDigit = [] := rfl
  have mark : ('e' :: ds).takeWhile Char.isDigit = [] := rfl
  unfold readUnsigned?
  simp only [takeWhile_digits_append front point, dropWhile_digits_append front point,
    takeWhile_digits_append back mark, dropWhile_digits_append back mark, exponent]
  exact if_neg (by simp [some_digit])

/-- Digits with an exponent only. -/
theorem readUnsigned?_exponent (digits : ∀ c ∈ whole, c.isDigit = true)
    (some_digit : whole ≠ []) {ds : List Char} {power : Int}
    (exponent : readExponent? ds = some power) :
    readUnsigned? negative (whole ++ 'e' :: ds) =
      some (ofDecimal negative (digitsValue whole) power) := by
  have mark : ('e' :: ds).takeWhile Char.isDigit = [] := rfl
  unfold readUnsigned?
  simp only [takeWhile_digits_append digits mark, dropWhile_digits_append digits mark]
  simp [some_digit, exponent]

end

theorem areDigits_of_digits {cs : List Char} (some_digit : cs ≠ [])
    (digits : ∀ c ∈ cs, c.isDigit = true) : areDigits cs = true := by
  simp only [areDigits, Bool.and_eq_true, Bool.not_eq_true', List.isEmpty_eq_false_iff,
    List.all_eq_true]
  exact ⟨some_digit, digits⟩

theorem areDigits_toDigits (n : Nat) : areDigits (Nat.toDigits 10 n) = true :=
  areDigits_of_digits Nat.toDigits_ne_nil (isDigit_toDigits n)

/-- The text of an exponent is read back. -/
theorem readExponent?_text (power : Int) :
    readExponent? (Digits.exponentText power).toList = some power := by
  unfold Digits.exponentText
  cases power with
  | ofNat n =>
    have text : ("+" ++ toString (Int.ofNat n)).toList = '+' :: Nat.toDigits 10 n := by
      rw [String.toList_append, Int.ofNat_eq_natCast, toString_natCast]
      rfl
    rw [if_neg (Int.not_lt.mpr (Int.natCast_nonneg n) : ¬ Int.ofNat n < 0), text, readExponent?,
      if_pos (areDigits_toDigits n), digitsValue_toDigits]
    rfl
  | negSucc n =>
    rw [if_pos (by omega), toString_negSucc, readExponent?, if_pos (areDigits_toDigits _),
      digitsValue_toDigits, Int.negSucc_eq]
    rfl

/-- A minus is a sign where no sign follows. -/
theorem sign_of_parts {cs body : List Char} {negative sign : Bool} (unsigned : ∀ more, cs ≠ '-' :: more)
    (parts : (match (if negative then "-" else "").toList ++ cs with
      | '-' :: rest => (true, rest)
      | _ => (false, (if negative then "-" else "").toList ++ cs)) = (sign, body)) :
    sign = negative ∧ body = cs := by
  cases negative with
  | true =>
    cases parts
    exact ⟨rfl, rfl⟩
  | false =>
    split at parts
    next more dash => exact absurd dash (unsigned more)
    next =>
      cases parts
      exact ⟨rfl, rfl⟩

theorem unsigned_of_digits {whole : List Char} (digits : ∀ c ∈ whole, c.isDigit = true)
    (some_digit : whole ≠ []) (rest more : List Char) : whole ++ rest ≠ '-' :: more := by
  intro dash
  cases whole with
  | nil => exact some_digit rfl
  | cons c cs =>
    have digit := digits c List.mem_cons_self
    rw [(List.cons.inj dash).1] at digit
    cases digit

/-- A text of digits with a fraction or an exponent after them is read as a float. -/
theorem read?_of_unsigned {whole rest : List Char} {negative : Bool} {x : Float}
    (digits : ∀ c ∈ whole, c.isDigit = true)
    (lead : whole = ['0'] ∨ ∃ c cs, whole = c :: cs ∧ c ≠ '0')
    (ends : rest.takeWhile Char.isDigit = []) (some_rest : rest ≠ [])
    (fraction : ∀ more, rest = '.' :: more → more.takeWhile Char.isDigit ≠ [])
    (unsigned : readUnsigned? negative (whole ++ rest) = some x) :
    Json.Number.read? ((if negative then "-" else "").toList ++ (whole ++ rest)) =
      some (.float x) := by
  have some_digit : whole ≠ [] := by
    rcases lead with rfl | ⟨c, cs, rfl, -⟩ <;> exact List.cons_ne_nil _ _
  unfold Json.Number.read?
  split
  next sign body parts =>
    obtain ⟨rfl, rfl⟩ := sign_of_parts (unsigned_of_digits digits some_digit rest) parts
    simp only [takeWhile_digits_append digits ends, dropWhile_digits_append digits ends, unsigned]
    refine (if_neg fun refused => ?_).trans (if_pos (by simpa using some_rest))
    rw [Bool.or_eq_true, Bool.not_eq_true', Bool.not_eq_true'] at refused
    rcases refused with wholeBad | fractionBad
    · rcases lead with rfl | ⟨d, ds, rfl, other⟩
      · cases wholeBad
      · split at wholeBad
        next none => cases none
        next => cases wholeBad
        next zero => exact other (List.cons.inj zero).1
        next => cases wholeBad
    · split at fractionBad
      next more => simp [fraction more rfl] at fractionBad
      next => cases fractionBad

/-! ## Reading a layout -/

/-- Whether a text, after a sign or none, is read as a decimal of the given number. -/
def ReadsAs (cs : List Char) (q : ℚ) : Prop :=
  ∀ negative, ∃ (n : Nat) (k : Int), 0 < n ∧ (n : ℚ) * 10 ^ k = q ∧
    Json.Number.read? ((if negative then "-" else "").toList ++ cs) =
      some (.float (ofDecimal negative n k))

/-- Whether digits, some of them after a point or none, spell a number above zero, with no zero in
    front but one before the point. -/
structure Layout (whole fraction : List Char) (q : ℚ) : Prop where
  digits : ∀ c ∈ whole ++ fraction, c.isDigit = true
  lead : whole = ['0'] ∨ ∃ c cs, whole = c :: cs ∧ c ≠ '0'
  positive : 0 < digitsValue (whole ++ fraction)
  value : (digitsValue (whole ++ fraction) : ℚ) * 10 ^ (-(fraction.length : Int)) = q

namespace Layout

variable {whole fraction : List Char} {q : ℚ}

theorem some_digit (layout : Layout whole fraction q) : whole ≠ [] := by
  rcases layout.lead with rfl | ⟨c, cs, rfl, -⟩ <;> exact List.cons_ne_nil _ _

/-- A zero after the point adds nothing. -/
theorem pointed (layout : Layout whole [] q) : Layout whole ['0'] q := by
  have digits := layout.digits
  have positive := layout.positive
  have value := layout.value
  have number : digitsValue (whole ++ ['0']) = 10 * digitsValue (whole ++ []) := by
    rw [digitsValue_append, List.append_nil]
    exact Nat.add_zero _
  refine ⟨?_, layout.lead, ?_, ?_⟩
  · rw [List.append_nil] at digits
    exact isDigit_append digits (List.all_eq_true.mp rfl)
  · omega
  · rw [number, ← value, List.length_singleton, List.length_nil]
    push_cast
    rw [zpow_neg, zpow_one]
    ring

/-- Digits with a fraction are read as what they spell. -/
theorem readsAs (layout : Layout whole fraction q) (some_fraction : fraction ≠ []) :
    ReadsAs (whole ++ '.' :: fraction) q := by
  intro negative
  refine ⟨_, _, layout.positive, layout.value, read?_of_unsigned
    (fun c member => layout.digits c (List.mem_append_left _ member)) layout.lead rfl (by simp) ?_
    (readUnsigned?_fraction negative layout.digits layout.some_digit)⟩
  rintro more same
  rw [← (List.cons.inj same).2]
  rwa [List.takeWhile_eq_self_iff.mpr fun c member =>
    layout.digits c (List.mem_append_right whole member)]

end Layout

namespace Digits.Spells

variable {d : Digits} {q : ℚ} (spells : d.Spells q)
include spells

theorem value_pos : 0 < digitsValue d.digits := by
  obtain ⟨c, cs, lead, other⟩ := spells.lead
  have digit := Char.isDigit_iff_toNat.mp (spells.digits c (lead ▸ List.mem_cons_self))
  have notZero : c.toNat ≠ 48 := fun zero => other (Char.toNat_inj.mp zero)
  have first : 0 < digitsValue [c] := by
    show 0 < 10 * 0 + (c.toNat - 48)
    have low : 48 ≤ c.toNat := digit.1
    omega
  rw [lead, ← List.singleton_append, digitsValue_append]
  have scaled := Nat.mul_pos (Nat.pow_pos (by decide : 0 < 10) (n := cs.length)) first
  omega

theorem layout_whole {zeros : Nat} (point : d.point = d.digits.length + zeros) :
    Layout (d.digits ++ List.replicate zeros '0') [] q := by
  obtain ⟨c, cs, lead, other⟩ := spells.lead
  have number : digitsValue (d.digits ++ List.replicate zeros '0') =
      10 ^ zeros * digitsValue d.digits := by
    rw [digitsValue_append, digitsValue_replicate_zero, List.length_replicate, Nat.add_zero]
  refine ⟨?_, .inr ⟨c, cs ++ List.replicate zeros '0', by rw [lead]; rfl, other⟩, ?_, ?_⟩
  · rw [List.append_nil]
    exact isDigit_append spells.digits isDigit_replicate_zero
  · rw [List.append_nil, number]
    exact Nat.mul_pos (Nat.pow_pos (by decide)) spells.value_pos
  · have exponent : d.point - d.digits.length = zeros := by omega
    rw [List.append_nil, number, ← spells.value, exponent, zpow_natCast, List.length_nil]
    push_cast
    ring

theorem layout_split (large : 0 < d.point) (short : d.point ≤ d.digits.length) :
    Layout (d.digits.take d.point.toNat) (d.digits.drop d.point.toNat) q := by
  obtain ⟨c, cs, lead, other⟩ := spells.lead
  have number : d.digits.take d.point.toNat ++ d.digits.drop d.point.toNat = d.digits :=
    List.take_append_drop ..
  refine ⟨by rw [number]; exact spells.digits, .inr ⟨c, cs.take (d.point.toNat - 1), ?_, other⟩,
    by rw [number]; exact spells.value_pos, ?_⟩
  · rw [lead]
    obtain ⟨j, count⟩ : ∃ j, d.point.toNat = j + 1 := ⟨d.point.toNat - 1, by omega⟩
    rw [count]
    rfl
  · rw [number, ← spells.value, List.length_drop]
    congr 2
    omega

theorem layout_small (small : d.point ≤ 0) :
    Layout ['0'] (List.replicate (-d.point).toNat '0' ++ d.digits) q := by
  have number : digitsValue (['0'] ++ (List.replicate (-d.point).toNat '0' ++ d.digits)) =
      digitsValue d.digits := by
    rw [digitsValue_append, digitsValue_append, digitsValue_replicate_zero]
    exact (Nat.add_comm ..).trans (by simp [digitsValue])
  refine ⟨?_, .inl rfl, by rw [number]; exact spells.value_pos, ?_⟩
  · exact isDigit_append (List.all_eq_true.mp rfl)
      (isDigit_append isDigit_replicate_zero spells.digits)
  · rw [number, ← spells.value, List.length_append, List.length_replicate]
    congr 2
    push_cast
    omega

/-- In positional layout digits are a whole number, with the given tail, or have a fraction. -/
theorem positional :
    (∃ whole, Layout whole [] q ∧ ∀ tail, (d.positional tail).toList = whole ++ tail.toList) ∨
      ∃ whole fraction, Layout whole fraction q ∧ fraction ≠ [] ∧
        ∀ tail, (d.positional tail).toList = whole ++ '.' :: fraction := by
  rcases Int.lt_or_le 0 d.point with large | small
  · by_cases whole : d.digits.length ≤ d.point.toNat
    · exact .inl ⟨_, spells.layout_whole (by omega), fun tail => Digits.positional_whole large whole⟩
    · refine .inr ⟨_, _, spells.layout_split large (by omega), ?_,
        fun tail => Digits.positional_split large whole⟩
      rw [ne_eq, List.drop_eq_nil_iff]
      exact whole
  · refine .inr ⟨_, _, spells.layout_small small, ?_, fun tail => Digits.positional_small small⟩
    obtain ⟨c, cs, lead, -⟩ := spells.lead
    rw [lead]
    simp

theorem readsAs_positional : ReadsAs (d.positional ".0").toList q := by
  rcases spells.positional with ⟨whole, layout, text⟩ | ⟨whole, fraction, layout, more, text⟩
  · rw [text]
    exact layout.pointed.readsAs (List.cons_ne_nil _ _)
  · rw [text]
    exact layout.readsAs more

theorem readsAs_exponential : ReadsAs (d.exponential "+").toList q := by
  obtain ⟨c, cs, lead, other⟩ := spells.lead
  have positive := spells.value_pos
  have digits := spells.digits
  have value := spells.value
  have exponent := readExponent?_text (d.point - 1)
  intro negative
  rw [lead] at digits positive value
  have first : ∀ x ∈ [c], x.isDigit = true := by simpa using digits c List.mem_cons_self
  cases cs with
  | nil =>
    rw [Digits.exponential_one lead]
    refine ⟨digitsValue [c], d.point - 1, positive, value, ?_⟩
    exact read?_of_unsigned first (.inr ⟨c, [], rfl, other⟩) rfl (by simp) (by simp)
      (readUnsigned?_exponent negative first (by simp) exponent)
  | cons c' cs =>
    rw [Digits.exponential_more lead]
    refine ⟨digitsValue (c :: c' :: cs), -((c' :: cs).length : Int) + (d.point - 1), positive, ?_,
      ?_⟩
    · rw [← value]
      congr 2
      simp only [List.length_cons]
      push_cast
      ring
    · refine read?_of_unsigned first (.inr ⟨c, [], rfl, other⟩) rfl (by simp) ?_
        (readUnsigned?_scientific negative digits (by simp) exponent)
      rintro more same
      rw [← (List.cons.inj same).2, takeWhile_digits_append
        (fun x member => digits x (List.mem_cons_of_mem _ member)) rfl]
      simp

theorem readsAs_layout : ReadsAs (if -5 < d.point && d.point ≤ 16 then d.positional ".0"
    else d.exponential "+").toList q := by
  split
  · exact spells.readsAs_positional
  · exact spells.readsAs_exponential

end Digits.Spells

theorem canonical_of_finite {x : Float} {negative : Bool} {mantissa : Nat} {exponent : Int}
    (value : Binary.ofFloat x = .finite negative mantissa exponent) (positive : 0 < mantissa) :
    Canonical mantissa exponent := by
  obtain ⟨small, low, high, normal⟩ := Binary.format_of_finite value
  exact ⟨positive, small, low, high, normal⟩

theorem isFinite_of_value {x : Float} {negative : Bool} {mantissa : Nat} {exponent : Int}
    (value : Binary.ofFloat x = .finite negative mantissa exponent) : isFinite x = true := by
  rw [isFinite, value]

/-- The text of zero, of either sign. -/
theorem read?_zero (negative : Bool) :
    Json.Number.read? ((if negative then "-" else "") ++ "0.0").toList =
      some (.float (ofDecimal negative 0 (-1))) := by
  have unsigned : readUnsigned? negative (['0'] ++ ['.', '0']) = some (ofDecimal negative 0 (-1)) :=
    readUnsigned?_fraction negative (List.all_eq_true.mp rfl) (by simp)
  have fraction : ∀ more, ['.', '0'] = '.' :: more → more.takeWhile Char.isDigit ≠ [] := by
    rintro more same
    rw [← (List.cons.inj same).2]
    decide
  rw [String.toList_append, show "0.0".toList = ['0'] ++ ['.', '0'] from rfl]
  exact read?_of_unsigned (List.all_eq_true.mp rfl) (.inl rfl) rfl (by simp) fraction unsigned

/-- The text of a finite float is read back as the float. -/
theorem read?_scientific {x : Float} (finite : isFinite x = true) :
    Json.Number.read? (scientific "+" x).toList = some (.float x) := by
  obtain ⟨negative, mantissa, exponent, value⟩ := exists_of_isFinite finite
  unfold scientific
  rw [value]
  cases mantissa with
  | zero =>
    have zero : Binary.ofFloat (ofDecimal negative 0 (-1)) = .finite negative 0 (-1074) := by
      cases negative <;> decide +kernel
    have least : exponent = -1074 := by
      obtain ⟨-, -, -, normal⟩ := Binary.format_of_finite value
      omega
    rw [eq_of_ofFloat value (least ▸ zero)]
    exact read?_zero negative
  | succ mantissa =>
    have canonical := canonical_of_finite value (Nat.succ_pos _)
    obtain ⟨n, k, positive, rounds, shortest⟩ := exists_shortest canonical .even
    obtain ⟨n', k', positive', same, read⟩ := (spells_trimmed positive k).readsAs_layout negative
    simp only
    rw [String.toList_append, shortest]
    have read_value := ofDecimal_of_rounds positive' canonical (same ▸ rounds) negative
    rw [eq_of_ofFloat value read_value]
    exact read

/-- Different finite floats have different texts. -/
theorem scientific_injective {x y : Float} (finite : isFinite x = true) (finite' : isFinite y = true)
    (same : scientific "+" x = scientific "+" y) : x = y := by
  have read := read?_scientific finite
  rw [same, read?_scientific finite', Option.some.injEq, Json.Number.float.injEq] at read
  exact read.symm

/-! ## Integers as floats -/

/-- A positive float of an integral value is that integer. -/
theorem toInt?_of_value {mantissa n : Nat} {exponent : Int} (negative : Bool)
    (value : (mantissa : ℚ) * 2 ^ exponent = n) :
    (Binary.finite negative mantissa exponent).toInt? = some (if negative then -(n : Int) else n) := by
  rcases Int.lt_or_le exponent 0 with down | up
  · obtain ⟨k, rfl⟩ : ∃ k : Nat, exponent = -k := ⟨(-exponent).toNat, by omega⟩
    have whole : mantissa = n * Nat.pow 2 k := by
      rw [zpow_neg, zpow_natCast, ← div_eq_mul_inv, div_eq_iff (by positivity)] at value
      exact_mod_cast value
    have positive : 0 < Nat.pow 2 k := Nat.pow_pos (by decide)
    simp only [Binary.toInt?, if_neg (Int.not_le.mpr down), Int.neg_neg, Int.toNat_natCast, whole,
      Nat.mul_mod_left, Nat.mul_div_cancel _ positive]
    rfl
  · obtain ⟨k, rfl⟩ := Int.eq_ofNat_of_zero_le up
    have whole : mantissa * Nat.pow 2 k = n := by
      rw [zpow_natCast] at value
      exact_mod_cast value
    simp only [Binary.toInt?, if_pos up, Int.toNat_natCast, whole]

/-- Small integers are floats. -/
theorem toInt?_ofInt {n : Int} (small : n.natAbs < 9007199254740992) : toInt? (ofInt n) = some n := by
  have found : ∀ {m : Nat}, 0 < m → m < 9007199254740992 → ∃ mantissa exponent,
      Binary.ofFloat (Float.ofScientific m false 0) = .finite false mantissa exponent ∧
        (mantissa : ℚ) * 2 ^ exponent = m ∧ Canonical mantissa exponent := by
    intro m positive small
    obtain ⟨mantissa, exponent, canonical, value, -, -⟩ := exists_canonical positive small
    have rounds : Rounds mantissa exponent (if false then (m : ℚ) / 10 ^ 0 else m * 10 ^ 0) := by
      rw [if_neg Bool.false_ne_true, pow_zero, mul_one, value]
      exact .self _ _
    exact ⟨mantissa, exponent, ofScientific_of_rounds positive canonical rounds, value.symm,
      canonical⟩
  cases n with
  | ofNat m =>
    rcases Nat.eq_zero_or_pos m with rfl | positive
    · decide +kernel
    · obtain ⟨mantissa, exponent, value, number, -⟩ := found positive small
      rw [ofInt, toInt?, value, toInt?_of_value false number]
      rfl
  | negSucc m =>
    obtain ⟨mantissa, exponent, value, number, canonical⟩ := found (Nat.succ_pos m) small
    rw [ofInt, toInt?, ofFloat_neg canonical value, toInt?_of_value true number]
    rfl

end Verdict.Number
