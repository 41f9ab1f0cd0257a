import Verdict.Json.Reader
import Verdict.Json.Writer
import Verdict.Proofs.Number.Digits

/-!
# The texts of numbers

Texts of integers and of finite floats are made of the characters of numbers, begin like a number
and tell the two kinds apart: a float shows a point or an exponent, an integer neither.
-/

namespace Verdict

open Json.Reader (isNumberChar)

/-- Whether a text begins like a number. -/
def Number.Begins (cs : List Char) : Prop :=
  ∃ c rest, cs = c :: rest ∧ (c = '-' ∨ c.isDigit = true)

/-- Whether a text shows a point or an exponent. -/
def Number.Pointed (cs : List Char) : Prop :=
  '.' ∈ cs ∨ 'e' ∈ cs

namespace Number

theorem isNumberChar_of_isDigit {c : Char} (digit : c.isDigit = true) : isNumberChar c = true := by
  simp [isNumberChar, digit]

theorem Begins.append {cs : List Char} (begins : Begins cs) (more : List Char) :
    Begins (cs ++ more) := by
  obtain ⟨c, rest, rfl, first⟩ := begins
  exact ⟨c, rest ++ more, rfl, first⟩

theorem begins_of_digits {cs : List Char} (digits : ∀ c ∈ cs, c.isDigit = true) (some_digit : cs ≠ []) :
    Begins cs := by
  cases cs with
  | nil => exact absurd rfl some_digit
  | cons c rest => exact ⟨c, rest, rfl, .inr (digits c List.mem_cons_self)⟩

/-! ## Integers -/

theorem toString_natCast (n : Nat) : (toString (n : Int)).toList = Nat.toDigits 10 n :=
  Nat.toList_repr

theorem toString_negSucc (n : Nat) :
    (toString (Int.negSucc n)).toList = '-' :: Nat.toDigits 10 (n + 1) := by
  have text : toString (Int.negSucc n) = "-" ++ (n + 1).repr := rfl
  rw [text, String.toList_append, Nat.toList_repr]
  rfl

/-- The text of an integer is a sign or none, then digits. -/
theorem toString_int (n : Int) : ∃ sign : List Char, (sign = [] ∨ sign = ['-']) ∧
    (toString n).toList = sign ++ Nat.toDigits 10 n.natAbs := by
  cases n with
  | ofNat n => exact ⟨[], .inl rfl, toString_natCast n⟩
  | negSucc n => exact ⟨['-'], .inr rfl, toString_negSucc n⟩

theorem dash_not_digit {n : Nat} : '-' ∉ Nat.toDigits 10 n := by
  intro member
  have digit := isDigit_toDigits n '-' member
  exact absurd digit (by decide)

/-- Different integers have different texts. -/
theorem toString_int_injective {m n : Int} (same : (toString m).toList = (toString n).toList) :
    m = n := by
  cases m with
  | ofNat m =>
    cases n with
    | ofNat n =>
      have digits : Nat.toDigits 10 m = Nat.toDigits 10 n := by
        rw [← toString_natCast, ← toString_natCast]
        exact same
      rw [toDigits_injective digits]
    | negSucc n =>
      have dash : '-' ∈ Nat.toDigits 10 m := by
        rw [← toString_natCast m]
        exact same ▸ toString_negSucc n ▸ List.mem_cons_self
      exact absurd dash dash_not_digit
  | negSucc m =>
    cases n with
    | ofNat n =>
      have dash : '-' ∈ Nat.toDigits 10 n := by
        rw [← toString_natCast n]
        exact same ▸ toString_negSucc m ▸ List.mem_cons_self
      exact absurd dash dash_not_digit
    | negSucc n =>
      rw [toString_negSucc, toString_negSucc] at same
      have equal := toDigits_injective (List.cons.inj same).2
      have equal' : m = n := by omega
      rw [equal']

theorem toString_int_chars (n : Int) : ∀ c ∈ (toString n).toList, isNumberChar c = true := by
  intro c member
  obtain ⟨sign, signs, text⟩ := toString_int n
  rw [text] at member
  rcases List.mem_append.mp member with first | digit
  · rcases signs with rfl | rfl
    · cases first
    · rw [List.mem_singleton.mp first]
      decide
  · exact isNumberChar_of_isDigit (isDigit_toDigits _ c digit)

theorem toString_int_begins (n : Int) : Begins (toString n).toList := by
  obtain ⟨sign, signs, text⟩ := toString_int n
  rw [text]
  rcases signs with rfl | rfl
  · exact begins_of_digits (isDigit_toDigits _) Nat.toDigits_ne_nil
  · exact ⟨'-', _, rfl, .inl rfl⟩

theorem toString_int_not_pointed (n : Int) : ¬ Pointed (toString n).toList := by
  obtain ⟨sign, signs, text⟩ := toString_int n
  have outside : ∀ c : Char, c.isDigit = false → c ≠ '-' → c ∉ (toString n).toList := by
    intro c notDigit notDash member
    rw [text] at member
    rcases List.mem_append.mp member with first | digit
    · rcases signs with rfl | rfl
      · cases first
      · exact notDash (List.mem_singleton.mp first)
    · rw [isDigit_toDigits _ c digit] at notDigit
      cases notDigit
  rintro (point | exponent)
  · exact outside '.' (by decide) (by decide) point
  · exact outside 'e' (by decide) (by decide) exponent

/-! ## Floats -/

/-- What every text of a finite float is like. -/
structure FloatText (cs : List Char) : Prop where
  chars : ∀ c ∈ cs, isNumberChar c = true
  begins : Begins cs
  pointed : Pointed cs

theorem FloatText.signed {cs : List Char} (text : FloatText cs) (negative : Bool) :
    FloatText ((if negative then "-" else "").toList ++ cs) := by
  cases negative with
  | false => exact text
  | true =>
    refine ⟨?_, ⟨'-', cs, rfl, .inl rfl⟩, ?_⟩
    · intro c member
      rcases List.mem_cons.mp member with rfl | member
      · decide
      · exact text.chars c member
    · exact text.pointed.imp (List.mem_cons_of_mem _) (List.mem_cons_of_mem _)

/-- Digits with a point or an exponent after the first of them. -/
theorem floatText_of_digits {front back : List Char} {mark : Char}
    (digits : ∀ c ∈ front, c.isDigit = true) (some_digit : front ≠ [])
    (marks : mark = '.' ∨ mark = 'e') (chars : ∀ c ∈ back, isNumberChar c = true) :
    FloatText (front ++ mark :: back) where
  chars := by
    intro c member
    rcases List.mem_append.mp member with first | member
    · exact isNumberChar_of_isDigit (digits c first)
    · rcases List.mem_cons.mp member with rfl | last
      · rcases marks with rfl | rfl <;> decide
      · exact chars c last
  begins := (begins_of_digits digits some_digit).append _
  pointed := by
    have shown : mark ∈ front ++ mark :: back := by simp
    rcases marks with rfl | rfl
    · exact .inl shown
    · exact .inr shown

/-! ### The layouts -/

namespace Digits

variable {d : Digits} {tail : String}

theorem positional_small (small : d.point ≤ 0) : (d.positional tail).toList =
    ['0'] ++ '.' :: (List.replicate (-d.point).toNat '0' ++ d.digits) := by
  simp only [positional, if_pos small, String.toList_append, String.toList_ofList]
  rfl

theorem positional_whole (large : 0 < d.point) (whole : d.digits.length ≤ d.point.toNat) :
    (d.positional tail).toList =
      (d.digits ++ List.replicate (d.point.toNat - d.digits.length) '0') ++ tail.toList := by
  simp only [positional, if_neg (Int.not_le.mpr large), if_pos whole, String.toList_append,
    String.toList_ofList]

theorem positional_split (large : 0 < d.point) (split : ¬ d.digits.length ≤ d.point.toNat) :
    (d.positional tail).toList =
      d.digits.take d.point.toNat ++ '.' :: d.digits.drop d.point.toNat := by
  simp only [positional, if_neg (Int.not_le.mpr large), if_neg split, String.toList_append,
    String.toList_ofList, List.append_assoc]
  rfl

/-- The text of an exponent. -/
def exponentText (power : Int) : String :=
  if power < 0 then toString power else "+" ++ toString power

theorem exponential_none (none : d.digits = []) : (d.exponential "+").toList = ['0', 'e', '0'] := by
  simp only [exponential, none]
  rfl

theorem exponential_one {c : Char} (one : d.digits = [c]) : (d.exponential "+").toList =
    [c] ++ 'e' :: (exponentText (d.point - 1)).toList := by
  simp only [exponential, one, exponentText, String.toList_append, String.toList_ofList,
    List.append_assoc]
  rfl

theorem exponential_more {c c' : Char} {cs : List Char} (more : d.digits = c :: c' :: cs) :
    (d.exponential "+").toList =
      [c] ++ '.' :: (c' :: cs ++ 'e' :: (exponentText (d.point - 1)).toList) := by
  simp only [exponential, more, exponentText, String.toList_append, String.toList_ofList,
    List.append_assoc]
  rfl

end Digits

theorem exponentText_chars (power : Int) :
    ∀ c ∈ (Digits.exponentText power).toList, isNumberChar c = true := by
  intro c member
  unfold Digits.exponentText at member
  split at member
  · exact toString_int_chars _ c member
  · rw [String.toList_append] at member
    rcases List.mem_append.mp member with plus | member
    · rw [List.mem_singleton.mp plus]
      decide
    · exact toString_int_chars _ c member

section

variable {d : Digits} (digits : ∀ c ∈ d.digits, c.isDigit = true)
include digits

theorem floatText_positional : FloatText (d.positional ".0").toList := by
  rcases Int.lt_or_le 0 d.point with large | small
  · by_cases whole : d.digits.length ≤ d.point.toNat
    · rw [Digits.positional_whole large whole]
      show FloatText (_ ++ '.' :: ['0'])
      refine floatText_of_digits (isDigit_append digits isDigit_replicate_zero) ?_ (.inl rfl)
        (List.all_eq_true.mp rfl)
      intro none
      have count := congrArg List.length none
      simp only [List.length_append, List.length_replicate, List.length_nil] at count
      omega
    · rw [Digits.positional_split large whole]
      refine floatText_of_digits (fun c member => digits c (List.mem_of_mem_take member)) ?_
        (.inl rfl) (fun c member => isNumberChar_of_isDigit (digits c (List.mem_of_mem_drop member)))
      intro none
      have count := congrArg List.length none
      simp only [List.length_take, List.length_nil] at count
      omega
  · rw [Digits.positional_small small]
    refine floatText_of_digits (List.all_eq_true.mp rfl) (by decide) (.inl rfl) ?_
    exact fun c member =>
      isNumberChar_of_isDigit (isDigit_append isDigit_replicate_zero digits c member)

theorem floatText_exponential : FloatText (d.exponential "+").toList := by
  have exponent := exponentText_chars (d.point - 1)
  match given : d.digits with
  | [] =>
    rw [Digits.exponential_none given]
    exact ⟨List.all_eq_true.mp rfl, ⟨'0', ['e', '0'], rfl, .inr rfl⟩, .inr (by decide)⟩
  | [c] =>
    rw [Digits.exponential_one given]
    exact floatText_of_digits (given ▸ digits) (by simp) (.inr rfl) exponent
  | c :: c' :: cs =>
    have each : ∀ x ∈ c :: c' :: cs, x.isDigit = true := given ▸ digits
    rw [Digits.exponential_more given]
    refine floatText_of_digits (by simpa using each c List.mem_cons_self) (by simp) (.inl rfl) ?_
    intro x member
    rcases List.mem_append.mp member with member | member
    · exact isNumberChar_of_isDigit (each x (List.mem_cons_of_mem _ member))
    · rcases List.mem_cons.mp member with rfl | member
      · decide
      · exact exponent x member

end

theorem isDigit_shortest (tie : Tie) (mantissa : Nat) (exponent : Int) :
    ∀ c ∈ (shortest tie mantissa exponent).digits, c.isDigit = true := by
  intro c member
  unfold shortest at member
  exact isDigit_toDigits _ c (List.mem_reverse.mp
    ((List.dropWhile_sublist _).subset (List.mem_reverse.mp member)))

/-- The text of a finite float shows what it is. -/
theorem floatText_scientific {x : Float} (finite : isFinite x = true) :
    FloatText (scientific "+" x).toList := by
  obtain ⟨negative, mantissa, exponent, value⟩ := exists_of_isFinite finite
  unfold scientific
  rw [value]
  cases mantissa with
  | zero =>
    have zero : FloatText "0.0".toList :=
      ⟨List.all_eq_true.mp rfl, ⟨'0', ['.', '0'], rfl, .inr rfl⟩, .inl (by decide)⟩
    have text := zero.signed negative
    rw [← String.toList_append] at text
    exact text
  | succ mantissa =>
    have digits := isDigit_shortest .even (mantissa + 1) exponent
    simp only
    rw [String.toList_append]
    refine FloatText.signed ?_ negative
    split
    · exact floatText_positional digits
    · exact floatText_exponential digits

end Number

namespace Json

/-- A number as the texts of finite values show it: an integer, or a finite float. -/
def Number.Finite : Number → Prop
  | .int _ => True
  | .float x => Number.isFinite x = true

theorem Number.isSound_iff {n : Number} : n.isSound = true ↔ n.Finite := by
  cases n with
  | int n => exact ⟨fun _ => trivial, fun _ => rfl⟩
  | float x => exact Iff.rfl

/-- All parts of a value have a value if its numbers are finite. -/
theorem isSound_iff {j : Json} : j.isSound = true ↔ ∀ n ∈ j.numbers, n.Finite := by
  simp only [isSound, List.all_eq_true, Number.isSound_iff]

theorem Number.text_chars {n : Number} (finite : n.Finite) :
    ∀ c ∈ n.text.toList, Reader.isNumberChar c = true := by
  cases n with
  | int n => exact Verdict.Number.toString_int_chars n
  | float x => exact (Verdict.Number.floatText_scientific finite).chars

theorem Number.text_begins {n : Number} (finite : n.Finite) :
    Verdict.Number.Begins n.text.toList := by
  cases n with
  | int n => exact Verdict.Number.toString_int_begins n
  | float x => exact (Verdict.Number.floatText_scientific finite).begins

end Json

end Verdict
