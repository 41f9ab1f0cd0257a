import Verdict.Proofs.Number.Exact
import Verdict.Proofs.Number.Whole
import Verdict.Value

/-!
# Full decimal notation

The text of a finite float in full notation is read back as the float (`shows_plain`), and the
decimal of an integer as the float nearest to it (`shows_toString`).  Such texts have none but
digits, a minus and a point (`Shows`).  Values show small integers in the one way and other numbers
in the other, and either way the text of a number is read as a number of the same rank
(`readNumber?_numberText`).
-/

namespace Verdict.Number

/-- The characters of full decimal notation. -/
def isPlainChar (c : Char) : Bool :=
  c.isDigit || c == '-' || c == '.'

theorem isPlainChar_of_isDigit {c : Char} (digit : c.isDigit = true) : isPlainChar c = true := by
  simp [isPlainChar, digit]

theorem toNat_of_isPlainChar {c : Char} (plain : isPlainChar c = true) :
    45 ≤ c.toNat ∧ c.toNat ≤ 57 := by
  unfold isPlainChar at plain
  rw [Bool.or_eq_true, Bool.or_eq_true, beq_iff_eq, beq_iff_eq] at plain
  rcases plain with (digit | rfl) | rfl
  · obtain ⟨low, high⟩ := Char.isDigit_iff_toNat.mp digit
    exact ⟨Nat.le_trans (by decide) low, high⟩
  · decide
  · decide

/-- Whether a text is in full decimal notation and is read as the given float. -/
structure Shows (s : String) (x : Float) : Prop where
  chars : ∀ c ∈ s.toList, isPlainChar c = true
  read : readFloat? s = some x

namespace Shows

variable {s : String} {x : Float}

/-- Nothing is trimmed off such a text. -/
theorem trim (shows : Shows s x) : Text.trim s = s := by
  have visible : ∀ c ∈ s.toList, Text.isBlank c = false := fun c member => by
    have range := toNat_of_isPlainChar (shows.chars c member)
    simp only [Text.isBlank, Bool.or_eq_false_iff, Bool.and_eq_false_iff, decide_eq_false_iff_not,
      beq_eq_false_iff_ne]
    omega
  rw [Text.trim, Text.trimChars_of_visible visible, String.ofList_toList]

/-- A sign or none, then characters that begin with a digit and are read as a number. -/
theorem of_unsigned {negative : Bool} {body : List Char}
    (text : s.toList = (signText negative).toList ++ body)
    (begins : ∃ c rest, body = c :: rest ∧ c.isDigit = true)
    (chars : ∀ c ∈ body, isPlainChar c = true) (read : readUnsigned? negative body = some x) :
    Shows s x where
  chars c member := by
    rw [text, List.mem_append] at member
    rcases member with sign | member
    · cases negative with
      | false => cases sign
      | true =>
        rw [List.mem_singleton.mp sign]
        rfl
    · exact chars c member
  read := by
    obtain ⟨c, rest, rfl, digit⟩ := begins
    unfold readFloat?
    cases negative with
    | true =>
      rw [text]
      show (readUnsigned? true (c :: rest)).or _ = _
      rw [read]
      rfl
    | false =>
      have unsigned : s.toList = c :: rest := text
      rw [unsigned]
      dsimp only
      split
      next same =>
        rw [(List.cons.inj same).1] at digit
        cases digit
      next same =>
        rw [(List.cons.inj same).1] at digit
        cases digit
      next =>
        rw [read]
        rfl

end Shows

/-! ## Integers -/

theorem begins_toDigits (n : Nat) :
    ∃ c rest, Nat.toDigits 10 n = c :: rest ∧ c.isDigit = true := by
  obtain ⟨c, rest, text⟩ := List.exists_cons_of_ne_nil (Nat.toDigits_ne_nil (b := 10) (n := n))
  exact ⟨c, rest, text, isDigit_toDigits n c (text ▸ List.mem_cons_self)⟩

/-- The decimal of an integer of a machine word or two is read as the float nearest to it. -/
theorem shows_toString {n : Int} (small : n.natAbs < 2 ^ 128) : Shows (toString n) (ofInt n) := by
  have chars (m : Nat) : ∀ c ∈ Nat.toDigits 10 m, isPlainChar c = true :=
    fun c member => isPlainChar_of_isDigit (isDigit_toDigits m c member)
  cases n with
  | ofNat m =>
    have read : readUnsigned? false (Nat.toDigits 10 m) = some (ofInt (.ofNat m)) := by
      refine readUnsigned?_of_natAbs false (areDigits_toDigits m) small ?_ nofun
      rw [digitsValue_toDigits]
      rfl
    exact .of_unsigned (toString_natCast m) (begins_toDigits m) (chars m) read
  | negSucc m =>
    have read : readUnsigned? true (Nat.toDigits 10 (m + 1)) = some (ofInt (.negSucc m)) := by
      refine readUnsigned?_of_natAbs true (areDigits_toDigits (m + 1)) small ?_ fun _ => ?_
      · rw [digitsValue_toDigits]
        rfl
      · rw [digitsValue_toDigits]
        exact Nat.succ_pos m
    exact .of_unsigned (toString_negSucc m) (begins_toDigits (m + 1)) (chars (m + 1)) read

/-! ## Floats -/

section

variable {whole fraction body : List Char} {q : ℚ}

/-- Whether a text without a sign is in full decimal notation and is read, after a sign or none, as a
    decimal of the given number. -/
structure Spelling (body : List Char) (q : ℚ) : Prop where
  begins : ∃ c rest, body = c :: rest ∧ c.isDigit = true
  chars : ∀ c ∈ body, isPlainChar c = true
  read : ∀ negative, ∃ (n : Nat) (k : Int), 0 < n ∧ (n : ℚ) * 10 ^ k = q ∧
    readUnsigned? negative body = some (ofDecimal negative n k)

theorem Layout.begins (layout : Layout whole fraction q) (rest : List Char) :
    ∃ c cs, whole ++ rest = c :: cs ∧ c.isDigit = true := by
  obtain ⟨c, cs, text⟩ := List.exists_cons_of_ne_nil layout.some_digit
  refine ⟨c, cs ++ rest, by rw [text]; rfl, layout.digits c ?_⟩
  rw [text]
  exact List.mem_cons_self

/-- Digits without a tail spell their number. -/
theorem Layout.spelling (layout : Layout whole [] q) : Spelling whole q := by
  have digits := layout.digits
  have positive := layout.positive
  have value := layout.value
  rw [List.append_nil] at digits positive value
  exact ⟨List.append_nil whole ▸ layout.begins [],
    fun c member => isPlainChar_of_isDigit (digits c member),
    fun negative => ⟨_, 0, positive, value,
      readUnsigned?_digits negative (areDigits_of_digits layout.some_digit digits)⟩⟩

/-- So do digits with a fraction. -/
theorem Layout.spelling_fraction (layout : Layout whole fraction q) :
    Spelling (whole ++ '.' :: fraction) q where
  begins := layout.begins _
  chars c member := by
    rcases List.mem_append.mp member with front | back
    · exact isPlainChar_of_isDigit (layout.digits c (List.mem_append_left _ front))
    · rcases List.mem_cons.mp back with rfl | back
      · rfl
      · exact isPlainChar_of_isDigit (layout.digits c (List.mem_append_right _ back))
  read negative := ⟨_, _, layout.positive, layout.value,
    readUnsigned?_fraction negative layout.digits layout.some_digit⟩

/-- Digits in positional layout without a tail spell their number. -/
theorem Digits.Spells.spelling {d : Digits} (spells : d.Spells q) :
    Spelling (d.positional "").toList q := by
  rcases spells.positional with ⟨whole, layout, text⟩ | ⟨whole, fraction, layout, -, text⟩
  · rw [text, String.toList_empty, List.append_nil]
    exact layout.spelling
  · rw [text]
    exact layout.spelling_fraction

end

/-- The text of a finite float in full notation is read back as the float. -/
theorem shows_plain {x : Float} (finite : isFinite x = true) : Shows (plain x) x := by
  obtain ⟨negative, mantissa, exponent, value⟩ := exists_of_isFinite finite
  unfold plain
  rw [value]
  cases mantissa with
  | zero =>
    have zero : Binary.ofFloat (ofDecimal negative 0 0) = .finite negative 0 (-1074) := by
      cases negative <;> decide +kernel
    have least : exponent = -1074 := by
      obtain ⟨-, -, -, normal⟩ := Binary.format_of_finite value
      omega
    rw [eq_of_ofFloat value (least ▸ zero)]
    have text : (signText negative ++ "0").toList = (signText negative).toList ++ ['0'] :=
      String.toList_append
    exact .of_unsigned text ⟨'0', [], rfl, rfl⟩ (List.all_eq_true.mp rfl)
      (readUnsigned?_digits negative rfl)
  | succ mantissa =>
    have canonical := canonical_of_finite value (Nat.succ_pos _)
    obtain ⟨n, k, positive, rounds, shortest⟩ := exists_shortest canonical .up
    have spelling := (spells_trimmed positive k).spelling
    obtain ⟨n', k', positive', same, read⟩ := spelling.read negative
    have read_value := ofDecimal_of_rounds positive' canonical (same ▸ rounds) negative
    simp only
    rw [shortest]
    rw [← eq_of_ofFloat value read_value] at read
    exact .of_unsigned String.toList_append spelling.begins spelling.chars read

/-! ## Numbers of the same rank -/

section

variable {x y e : Float}

/-- The infinities are of a rank that no finite float has. -/
theorem isFinite_of_rank_eq (finite : isFinite e = true) (ranks : rank? x = rank? e) :
    isFinite x = true := by
  obtain ⟨negative, mantissa, exponent, value⟩ := exists_of_isFinite finite
  obtain ⟨a, rank, -, bounds⟩ := Exact.rank_of_finite value
  obtain ⟨above, below⟩ := bounds 2100 (by decide)
  exact isFinite_of_rank (ranks.trans rank) above below

theorem same_iff (finite : isFinite e = true) : same x e = true ↔ rank? x = rank? e := by
  obtain ⟨b, rank⟩ := exists_rank_of_isFinite finite
  unfold same compareRanks
  rw [rank]
  cases rank? x with
  | none => simp
  | some a => simp

theorem same_congr (ranks : rank? x = rank? y) : same x e = same y e := by
  unfold same compareRanks
  rw [ranks]

end

end Verdict.Number

namespace Verdict.Value

open Number (Shows isFinite rank? same)

variable {x e : Float}

/-- The numbers that are written as integers. -/
theorem smallInt?_eq_some {n : Int} :
    smallInt? x = some n ↔ Number.toInt? x = some n ∧ n.natAbs < integerBound := by
  unfold smallInt?
  cases Number.toInt? x with
  | none => simp
  | some m =>
    by_cases small : m.natAbs < integerBound
    · simp only [if_pos small, Option.some.injEq]
      exact ⟨fun same => ⟨same, same ▸ small⟩, And.left⟩
    · simp only [if_neg small, Option.some.injEq, reduceCtorEq, false_iff]
      rintro ⟨rfl, small'⟩
      exact small small'

/-- The text of a finite number shows it, or the float nearest to the integer that it is. -/
theorem exists_shows_numberText (finite : isFinite x = true) :
    ∃ y, Shows (numberText x) y ∧ rank? y = rank? x := by
  unfold numberText
  cases whole : smallInt? x with
  | none => exact ⟨x, Number.shows_plain finite, rfl⟩
  | some n =>
    obtain ⟨integer, small⟩ := smallInt?_eq_some.mp whole
    have bound : integerBound = 1000000000000000 := rfl
    exact ⟨Number.ofInt n, Number.shows_toString (by omega),
      Number.rank_eq_of_toInt (Number.toInt?_ofInt (by omega)) integer⟩

/-- The texts of numbers that are not finite. -/
def endlessTexts : List String := ["NaN", "inf", "-inf"]

theorem numberText_of_not_finite (endless : isFinite x = false) : numberText x ∈ endlessTexts := by
  unfold numberText smallInt? Number.toInt? Number.plain
  cases value : Number.Binary.ofFloat x with
  | nan => exact .head _
  | infinite negative =>
    cases negative with
    | false => exact .tail _ (.head _)
    | true => exact .tail _ (.tail _ (.head _))
  | finite negative mantissa exponent => rw [isFinite, value] at endless; cases endless

/-- Finite numbers of the same rank have the same text: both zeros are written as one. -/
theorem numberText_of_rank (finite : isFinite e = true) (ranks : rank? x = rank? e) :
    numberText x = numberText e := by
  have zero {y : Float} {negative : Bool} {exponent : Int}
      (value : Number.Binary.ofFloat y = .finite negative 0 exponent) : smallInt? y = some 0 := by
    refine smallInt?_eq_some.mpr ⟨?_, by decide⟩
    rw [Number.toInt?, value, Number.toInt?_of_value (n := 0) negative (by simp)]
    cases negative <;> rfl
  obtain ⟨negative, m, k, value⟩ :=
    Number.exists_of_isFinite (Number.isFinite_of_rank_eq finite ranks)
  obtain ⟨negative', m', k', value'⟩ := Number.exists_of_isFinite finite
  rcases Number.Binary.eq_of_rank value value' ranks with ⟨rfl, rfl⟩ | ⟨rfl, rfl, rfl⟩
  · unfold numberText
    rw [zero value, zero value']
  · rw [Number.eq_of_ofFloat value value']

theorem readNumber?_endlessTexts : ∀ s ∈ endlessTexts, readNumber? s = none := by
  have refused : ∀ s ∈ endlessTexts, (readNumber? s).isNone = true := by decide +kernel
  exact fun s member => Option.isNone_iff_eq_none.mp (refused s member)

/-- The text of a number is read as a number exactly if the number is finite, and ranks as that. -/
theorem readNumber?_numberText (x : Float) :
    (readNumber? (numberText x)).map rank? = (number x).number?.map rank? := by
  have itself : (number x).number? = if isFinite x = true then some x else none := rfl
  rw [itself]
  cases finite : isFinite x with
  | true =>
    obtain ⟨y, shows, ranks⟩ := exists_shows_numberText finite
    have finite' := Number.isFinite_of_rank_eq finite ranks
    rw [readNumber?, shows.trim, shows.read, Option.filter_some, if_pos finite', if_pos rfl,
      Option.map_some, Option.map_some, ranks]
  | false =>
    rw [readNumber?_endlessTexts _ (numberText_of_not_finite finite), if_neg Bool.false_ne_true]

end Verdict.Value
