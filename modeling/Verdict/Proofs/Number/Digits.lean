import Mathlib.Algebra.Group.Nat.Defs
import Mathlib.Data.List.Induction
import Verdict.Number.Decimal

/-!
# Decimal digits

The digits of a natural number are read as that number, and digits that follow others shift their
value by a power of ten.
-/

namespace Verdict.Number

theorem isDigit_toDigits (n : Nat) : ∀ c ∈ Nat.toDigits 10 n, c.isDigit = true :=
  fun _ member => Nat.isDigit_of_mem_toDigits (by decide) (by decide) member

theorem isDigit_replicate_zero {n : Nat} : ∀ c ∈ List.replicate n '0', c.isDigit = true := by
  intro c member
  rw [(List.mem_replicate.mp member).2]
  decide

theorem isDigit_append {cs ds : List Char} (front : ∀ c ∈ cs, c.isDigit = true)
    (back : ∀ c ∈ ds, c.isDigit = true) : ∀ c ∈ cs ++ ds, c.isDigit = true := by
  intro c member
  rcases List.mem_append.mp member with member | member
  · exact front c member
  · exact back c member

theorem toDigits_injective {m n : Nat} (same : Nat.toDigits 10 m = Nat.toDigits 10 n) : m = n := by
  rw [← Nat.ofDigitChars_ten_toDigits (n := m), same, Nat.ofDigitChars_ten_toDigits]

/-! ## The value of digits -/

theorem digitsValue_eq (ds : List Char) : digitsValue ds = Nat.ofDigitChars 10 ds 0 := rfl

@[simp] theorem digitsValue_toDigits (n : Nat) : digitsValue (Nat.toDigits 10 n) = n := by
  rw [digitsValue_eq, Nat.ofDigitChars_ten_toDigits]

theorem digitsValue_append (cs ds : List Char) :
    digitsValue (cs ++ ds) = 10 ^ ds.length * digitsValue cs + digitsValue ds := by
  simp only [digitsValue_eq]
  rw [Nat.ofDigitChars_append, Nat.ofDigitChars_eq_ofDigitChars_zero]

@[simp] theorem digitsValue_replicate_zero (n : Nat) : digitsValue (List.replicate n '0') = 0 := by
  rw [digitsValue_eq, Nat.ofDigitChars_replicate_zero, Nat.mul_zero]

/-- Digits have a value below the power of ten of their number. -/
theorem digitsValue_lt {ds : List Char} (digits : ∀ c ∈ ds, c.isDigit = true) :
    digitsValue ds < 10 ^ ds.length := by
  induction ds with
  | nil => decide
  | cons c rest ih =>
    have later := ih fun d member => digits d (List.mem_cons_of_mem _ member)
    have here : digitsValue [c] ≤ 9 := by
      have digit : c.toNat ≤ 57 := (Char.isDigit_iff_toNat.mp (digits c List.mem_cons_self)).2
      show 10 * 0 + (c.toNat - 48) ≤ 9
      omega
    rw [← List.singleton_append, digitsValue_append, List.length_append, List.length_singleton,
      Nat.pow_add]
    have scaled := Nat.mul_le_mul_left (10 ^ rest.length) here
    omega

theorem toDigits_digit {c : Char} (digit : c.isDigit = true) :
    Nat.toDigits 10 (digitsValue [c]) = [c] := by
  obtain ⟨low, high⟩ := Char.isDigit_iff_toNat.mp digit
  obtain ⟨d, small, rfl⟩ : ∃ d < 10, c = Char.ofNat (d + 48) := by
    refine ⟨c.toNat - 48, ?_, ?_⟩
    · have : c.toNat ≤ 57 := high
      omega
    · have : 48 ≤ c.toNat := low
      rw [Nat.sub_add_cancel this, Char.ofNat_toNat]
  revert d
  decide

/-- Digits are those of their value, behind zeros. -/
theorem exists_zeros {ds : List Char} (some_digit : ds ≠ []) (digits : ∀ c ∈ ds, c.isDigit = true) :
    ∃ zeros, ds = List.replicate zeros '0' ++ Nat.toDigits 10 (digitsValue ds) := by
  induction ds using List.reverseRecOn with
  | nil => exact absurd rfl some_digit
  | append_singleton front c ih =>
    have last : c.isDigit = true := digits c (by simp)
    have small : digitsValue [c] < 10 := digitsValue_lt (by simpa using last)
    rcases List.eq_nil_or_concat front with rfl | ⟨_, _, shape⟩
    · exact ⟨0, (toDigits_digit last).symm⟩
    · have some_front : front ≠ [] := by simp [shape]
      obtain ⟨zeros, form⟩ := ih some_front fun d member => digits d (by simp [member])
      have value : digitsValue (front ++ [c]) = 10 * digitsValue front + digitsValue [c] := by
        rw [digitsValue_append, List.length_singleton, Nat.pow_one]
      rcases Nat.eq_zero_or_pos (digitsValue front) with zero | positive
      · refine ⟨zeros + 1, ?_⟩
        rw [value, zero, Nat.mul_zero, Nat.zero_add, toDigits_digit last, List.replicate_succ']
        rw [zero] at form
        rw [form]
        rfl
      · refine ⟨zeros, ?_⟩
        rw [value, ← Nat.toDigits_append_toDigits (by decide) positive small, toDigits_digit last,
          ← List.append_assoc, ← form]

/-! ## The length of a number -/

theorem lt_pow_length_toDigits (n : Nat) : n < 10 ^ (Nat.toDigits 10 n).length :=
  (Nat.length_toDigits_le_iff (by decide) Nat.length_toDigits_pos).mp Nat.le.refl

theorem pow_length_toDigits_le {n : Nat} (positive : 0 < n) :
    10 ^ ((Nat.toDigits 10 n).length - 1) ≤ n := by
  refine Nat.le_of_not_lt fun less => ?_
  rcases Nat.eq_zero_or_pos ((Nat.toDigits 10 n).length - 1) with one | more
  · rw [one] at less
    omega
  · have shorter := (Nat.length_toDigits_le_iff (by decide) more).mpr less
    omega

/-- The first digit of a positive number is not zero. -/
theorem head_toDigits {n : Nat} (positive : 0 < n) {rest : List Char} :
    Nat.toDigits 10 n ≠ '0' :: rest := by
  intro text
  have digits := isDigit_toDigits n
  have large := pow_length_toDigits_le positive
  rw [text] at digits large
  have value : n = digitsValue rest := by
    rw [← digitsValue_toDigits n, text, ← List.singleton_append, digitsValue_append]
    exact Nat.zero_add _
  have small := digitsValue_lt fun c member => digits c (List.mem_cons_of_mem _ member)
  rw [List.length_cons, Nat.add_sub_cancel, value] at large
  omega

end Verdict.Number
