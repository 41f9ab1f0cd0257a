import Verdict.Proofs.Number.Whole
import Verdict.Yaml.Meaning

/-!
# What plain scalars mean

`Meaning` says what the plain value of a plain scalar is, and how it is read as a truth value and
as a number.  An integer is read as the same number wherever a natural number or a float is wanted,
but for a negative zero (`readNat?_eq`) and for other spellings than decimal digits
(`readFloat?_of_isDecimal`).
-/

namespace Verdict.Yaml

open Yaml.Scalar (readBool? readInt? readNat? readFloat? isNullWord isDigitText)

/-- The spellings of null. -/
def nullWords : List String := ["", "null", "Null", "NULL", "~"]

/-- The spellings of the truth values. -/
def boolWords : List String := ["true", "True", "TRUE", "false", "False", "FALSE"]

theorem mem_nullWords {text : String} (null : (text.isEmpty || isNullWord text) = true) :
    text ∈ nullWords := by
  simp only [isNullWord, Bool.or_eq_true, beq_iff_eq, String.isEmpty_iff] at null
  simp only [nullWords, List.mem_cons, List.not_mem_nil, or_false]
  tauto

theorem mem_boolWords {text : String} {b : Bool} (bool : readBool? text = some b) :
    text ∈ boolWords := by
  simp only [boolWords, List.mem_cons, List.not_mem_nil, or_false]
  rw [readBool?] at bool
  split at bool
  · rename_i yes
    simp only [Bool.or_eq_true, beq_iff_eq] at yes
    tauto
  · split at bool
    · rename_i no
      simp only [Bool.or_eq_true, beq_iff_eq] at no
      tauto
    · cases bool

theorem readBool?_nullWords : ∀ text ∈ nullWords, readBool? text = none := by
  decide

theorem readInt?_words : ∀ text ∈ nullWords ++ boolWords, readInt? text = none := by
  decide +kernel

theorem readFloat?_words : ∀ text ∈ nullWords ++ boolWords, (readFloat? text).isNone = true := by
  decide +kernel

/-- What a plain scalar of some text may mean. -/
inductive Meaning (text : String) : Json → Prop where
  | null (bool : readBool? text = none) (int : readInt? text = none)
      (float : readFloat? text = none) : Meaning text .null
  | bool {b : Bool} (bool : readBool? text = some b) (int : readInt? text = none)
      (float : readFloat? text = none) : Meaning text (.bool b)
  | int {n : Int} (bool : readBool? text = none) (int : readInt? text = some n)
      (fits : isDoubleWord n = true) : Meaning text (.ofInt n)
  | float {x : Float} (bool : readBool? text = none)
      (large : (readInt? text).filter isDoubleWord = none) (float : readFloat? text = some x) :
      Meaning text (.ofFloat x)
  | text (bool : readBool? text = none) (large : (readInt? text).filter isDoubleWord = none)
      (float : isDigitText text = true ∨ readFloat? text = none) : Meaning text (.str text)

theorem meaning_of_plainJson? {text : String} {j : Json} (means : plainJson? text = some j) :
    Meaning text j := by
  rw [plainJson?] at means
  split at means
  · rename_i null
    have word := mem_nullWords null
    have word' : text ∈ nullWords ++ boolWords := List.mem_append_left _ word
    cases means
    exact .null (readBool?_nullWords _ word) (readInt?_words _ word')
      (Option.isNone_iff_eq_none.mp (readFloat?_words _ word'))
  · split at means
    · rename_i b bool
      have word : text ∈ nullWords ++ boolWords := List.mem_append_right _ (mem_boolWords bool)
      cases means
      exact .bool bool (readInt?_words _ word)
        (Option.isNone_iff_eq_none.mp (readFloat?_words _ word))
    · rename_i bool
      split at means
      · rename_i n int
        obtain ⟨int, fits⟩ := Option.filter_eq_some_iff.mp int
        split at means
        · cases means
          exact .int bool int fits
        · cases means
      · rename_i large
        split at means
        · rename_i x float
          cases means
          split at float
          · cases float
          · exact .float bool large float
        · rename_i none
          cases means
          split at none
          · rename_i digits
            exact .text bool large (.inl digits)
          · exact .text bool large (.inr none)

/-! ## Signs -/

/-- The sign of a text, with what follows it. -/
inductive Signed : List Char → Prop where
  | minus (cs : List Char) : Signed ('-' :: cs)
  | plus (cs : List Char) : Signed ('+' :: cs)
  | none {cs : List Char} (minus : ∀ rest, cs ≠ '-' :: rest) (plus : ∀ rest, cs ≠ '+' :: rest) :
      Signed cs

theorem signed (cs : List Char) : Signed cs := by
  match cs with
  | '-' :: cs => exact .minus cs
  | '+' :: cs => exact .plus cs
  | [] => exact .none nofun nofun
  | c :: cs =>
    by_cases minus : c = '-'
    · exact minus ▸ .minus cs
    · by_cases plus : c = '+'
      · exact plus ▸ .plus cs
      · exact .none (fun _ same => minus (List.cons.inj same).1)
          (fun _ same => plus (List.cons.inj same).1)

section

variable {text : String} {cs : List Char}

theorem readInt?_minus (minus : text.toList = '-' :: cs) :
    readInt? text = (Scalar.readMagnitude? cs).map fun n : Nat => -(n : Int) := by
  simp only [readInt?, minus]
  cases Scalar.readMagnitude? cs <;> rfl

theorem readInt?_plus (plus : text.toList = '+' :: cs) :
    readInt? text = (Scalar.readMagnitude? cs).map Int.ofNat := by
  simp only [readInt?, plus]

theorem readInt?_unsigned (minus : ∀ rest, text.toList ≠ '-' :: rest)
    (plus : ∀ rest, text.toList ≠ '+' :: rest) :
    readInt? text = (Scalar.readMagnitude? text.toList).map Int.ofNat := by
  rw [readInt?]
  split
  · exact absurd ‹_› (plus _)
  · exact absurd ‹_› (minus _)
  · rfl

end

theorem sign_of_readInt? {text : String} {n : Int} (int : readInt? text = some n) :
    if text.toList.head? = some '-' then n ≤ 0 else 0 ≤ n := by
  generalize sign : text.toList = cs
  cases signed cs with
  | minus cs =>
    rw [readInt?_minus sign] at int
    obtain ⟨m, -, rfl⟩ := Option.map_eq_some_iff.mp int
    rw [if_pos List.head?_cons]
    omega
  | plus cs =>
    rw [readInt?_plus sign] at int
    obtain ⟨m, -, rfl⟩ := Option.map_eq_some_iff.mp int
    exact Int.natCast_nonneg m
  | none minus plus =>
    rw [readInt?_unsigned (sign ▸ minus) (sign ▸ plus)] at int
    obtain ⟨m, -, rfl⟩ := Option.map_eq_some_iff.mp int
    split
    · rename_i head
      obtain ⟨rest, same⟩ := List.head?_eq_some_iff.mp head
      exact absurd same (minus rest)
    · exact Int.natCast_nonneg m

/-! ## Integers as natural numbers -/

theorem readMagnitude?_minus (cs : List Char) : Scalar.readMagnitude? ('-' :: cs) = none := by
  have notDigit : Text.hexValue? '-' = none := by decide
  simp [Scalar.readMagnitude?, Scalar.hasLeadingZero, Scalar.readDigits?, notDigit]

/-- A natural number is an integer without a minus sign. -/
theorem readNat?_eq (text : String) :
    readNat? text =
      if text.toList.head? = some '-' then none else (readInt? text).map Int.toNat := by
  have unsigned (m : Option Nat) : m = (m.map Int.ofNat).map Int.toNat := by
    cases m <;> rfl
  generalize sign : text.toList = cs
  rw [readNat?, sign]
  cases signed cs with
  | minus cs => exact readMagnitude?_minus cs
  | plus cs =>
    rw [readInt?_plus sign]
    exact unsigned _
  | none minus plus =>
    have other : ¬ cs.head? = some '-' := fun head =>
      let ⟨rest, same⟩ := List.head?_eq_some_iff.mp head
      minus rest same
    rw [if_neg other, readInt?_unsigned (sign ▸ minus) (sign ▸ plus), sign]
    split
    · exact absurd rfl (plus _)
    · exact unsigned _

/-! ## Integers as floats -/

/-- Whether a text is decimal digits with an optional sign, but not a negative zero. -/
def isDecimal (text : String) : Bool :=
  match text.toList with
  | '-' :: cs => Number.areDigits cs && Number.digitsValue cs != 0
  | '+' :: cs => Number.areDigits cs
  | cs => Number.areDigits cs

theorem hexValue?_digit {c : Char} (digit : c.isDigit = true) :
    Text.hexValue? c = some (c.toNat - 48) ∧ c.toNat - 48 < 10 := by
  rw [Char.isDigit_iff_toNat] at digit
  have low : '0' ≤ c := Char.le_def.mpr (UInt32.le_iff_toNat_le.mpr digit.1)
  have high : c ≤ '9' := Char.le_def.mpr (UInt32.le_iff_toNat_le.mpr digit.2)
  refine ⟨if_pos (by simp [low, high]), ?_⟩
  have most : c.toNat ≤ 57 := digit.2
  omega

theorem readDigits?_ten {cs : List Char} (digits : Number.areDigits cs = true) :
    Scalar.readDigits? 10 cs = some (Number.digitsValue cs) := by
  obtain ⟨some_digit, all⟩ := Bool.and_eq_true_iff.mp digits
  rw [Scalar.readDigits?, if_neg (by simpa using some_digit), Number.digitsValue]
  rw [List.all_eq_true] at all
  clear digits some_digit
  generalize 0 = n
  induction cs generalizing n with
  | nil => rfl
  | cons c rest ih =>
    obtain ⟨digit, all⟩ := List.forall_mem_cons.mp all
    obtain ⟨value, small⟩ := hexValue?_digit digit
    rw [List.foldlM_cons, value, List.foldl_cons, ← ih all]
    simp [small]

/-- Decimal digits are read as their value. -/
theorem readMagnitude?_digits {cs : List Char} {m : Nat} (digits : Number.areDigits cs = true)
    (read : Scalar.readMagnitude? cs = some m) : m = Number.digitsValue cs := by
  rw [Scalar.readMagnitude?.eq_def] at read
  split at read
  · exact absurd digits (by simp [Number.areDigits])
  · exact absurd digits (by simp [Number.areDigits])
  · exact absurd digits (by simp [Number.areDigits])
  · split at read
    · cases read
    · rw [readDigits?_ten digits] at read
      exact (Option.some.inj read).symm

/-- The words for values that are not finite. -/
def endlessWords : List String :=
  [".inf", ".Inf", ".INF", "+.inf", "+.Inf", "+.INF", "-.inf", "-.Inf", "-.INF", ".nan", ".NaN",
    ".NAN"]

theorem isDecimal_endlessWords : ∀ word ∈ endlessWords, isDecimal word = false := by
  decide

theorem readFloat?_eq {text : String} (other : text ∉ endlessWords) :
    readFloat? text = (Number.readFloat? text).filter Number.isFinite := by
  simp only [endlessWords, List.mem_cons, List.not_mem_nil, or_false, not_or] at other
  simp [Scalar.readFloat?, other]

theorem natAbs_of_isDoubleWord {n : Int} (fits : isDoubleWord n = true) : n.natAbs < 2 ^ 128 := by
  simp only [isDoubleWord, Bool.and_eq_true, decide_eq_true_eq] at fits
  have low : -(2 ^ 127 : Int) ≤ n := fits.1
  have high : n < (2 ^ 128 : Int) := fits.2
  omega

/-- Decimal digits are read as the float nearest to their integer. -/
theorem readFloat?_of_isDecimal {text : String} {n : Int} (decimal : isDecimal text = true)
    (int : readInt? text = some n) (fits : isDoubleWord n = true) :
    readFloat? text = some (Number.ofInt n) := by
  have small := natAbs_of_isDoubleWord fits
  have read : Number.readFloat? text = some (Number.ofInt n) := by
    unfold isDecimal at decimal
    rw [Number.readFloat?]
    generalize sign : text.toList = cs at decimal
    cases signed cs with
    | minus cs =>
      obtain ⟨digits, positive⟩ := Bool.and_eq_true_iff.mp decimal
      rw [readInt?_minus sign] at int
      obtain ⟨m, magnitude, rfl⟩ := Option.map_eq_some_iff.mp int
      rw [readMagnitude?_digits digits magnitude] at small ⊢
      have unsigned := Number.readUnsigned?_of_natAbs true digits small rfl
        fun _ => Nat.pos_of_ne_zero (bne_iff_ne.mp positive)
      simp only [unsigned, Option.some_or]
    | plus cs =>
      rw [readInt?_plus sign] at int
      obtain ⟨m, magnitude, rfl⟩ := Option.map_eq_some_iff.mp int
      rw [readMagnitude?_digits decimal magnitude] at small ⊢
      have unsigned := Number.readUnsigned?_of_natAbs false decimal small rfl nofun
      simp only [unsigned, Option.some_or]
    | none minus plus =>
      have digits : Number.areDigits cs = true := by
        split at decimal
        · exact absurd rfl (minus _)
        · exact absurd rfl (plus _)
        · exact decimal
      rw [readInt?_unsigned (sign ▸ minus) (sign ▸ plus), sign] at int
      obtain ⟨m, magnitude, rfl⟩ := Option.map_eq_some_iff.mp int
      rw [readMagnitude?_digits digits magnitude] at small ⊢
      have unsigned := Number.readUnsigned?_of_natAbs false digits small rfl nofun
      split
      · exact absurd rfl (minus _)
      · exact absurd rfl (plus _)
      · simp only [unsigned, Option.some_or]
  have other : text ∉ endlessWords := fun word => by
    rw [isDecimal_endlessWords text word] at decimal
    cases decimal
  rw [readFloat?_eq other, read, Option.filter_some, if_pos (Number.isFinite_ofInt small)]

end Verdict.Yaml
