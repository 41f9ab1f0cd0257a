import Mathlib.Algebra.Group.Nat.Defs
import Verdict.Proofs.Instant.Calendar
import Verdict.Proofs.Number.Text

/-!
# The texts of instants

The text of an instant is read field by field, and every field comes back as it was written
(`written?_text`).  So different instants have different texts (`text_injective`), and the text of
an instant of the calendar is read as that instant (`read?_text`).
-/

namespace Verdict

namespace Instant

/-! ## Digits before other characters -/

/-- Whether a text does not begin with a digit. -/
def NoDigit (cs : List Char) : Prop :=
  cs.takeWhile Char.isDigit = []

theorem noDigit_cons {c : Char} (other : c.isDigit = false) (cs : List Char) : NoDigit (c :: cs) := by
  simp [NoDigit, other]

theorem NoDigit.head {c : Char} {cs : List Char} (noDigit : NoDigit (c :: cs)) :
    c.isDigit = false := by
  cases digit : c.isDigit with
  | false => rfl
  | true => simp [NoDigit, digit] at noDigit

theorem takeWhile_take {cs : List Char} (noDigit : NoDigit cs) (n : Nat) :
    (cs.take n).takeWhile Char.isDigit = [] := by
  cases cs with
  | nil => simp
  | cons c rest =>
    cases n with
    | zero => rfl
    | succ n => simp [noDigit.head]

/-- The digits in front of a text, as many as are wanted or as there are. -/
theorem takeWhile_digits {ds rest : List Char} (digits : ∀ c ∈ ds, c.isDigit = true) {most : Nat}
    (fits : ds.length ≤ most) (ends : ds.length = most ∨ NoDigit rest) :
    ((ds ++ rest).take most).takeWhile Char.isDigit = ds := by
  have front : (ds ++ rest).take most = ds ++ rest.take (most - ds.length) := by
    rw [List.take_append, List.take_of_length_le fits]
  rw [front, List.takeWhile_append_of_pos digits]
  rcases ends with all | noDigit
  · simp [all]
  · rw [takeWhile_take noDigit, List.append_nil]

theorem takeNumber_append {ds rest : List Char} (digits : ∀ c ∈ ds, c.isDigit = true)
    (some_digit : ds ≠ []) {most : Nat} (fits : ds.length ≤ most)
    (ends : ds.length = most ∨ NoDigit rest) :
    takeNumber most (ds ++ rest) = some (Number.digitsValue ds, rest) := by
  unfold takeNumber
  rw [takeWhile_digits digits fits ends]
  simp [some_digit]

theorem isBlank_of_isDigit {c : Char} (digit : c.isDigit = true) : Text.isBlank c = false := by
  have range : 48 ≤ c.toNat ∧ c.toNat ≤ 57 := by
    simpa [Char.isDigit, UInt32.le_iff_toNat_le] using digit
  simp only [Text.isBlank, Bool.or_eq_false_iff, Bool.and_eq_false_iff, decide_eq_false_iff_not,
    beq_eq_false_iff_ne]
  omega

theorem dropWhile_isBlank_digits {ds : List Char} (digits : ∀ c ∈ ds, c.isDigit = true)
    (some_digit : ds ≠ []) (rest : List Char) :
    (ds ++ rest).dropWhile Text.isBlank = ds ++ rest := by
  cases ds with
  | nil => exact absurd rfl some_digit
  | cons c more => simp [isBlank_of_isDigit (digits c List.mem_cons_self)]

/-! ## Numbers of a fixed width -/

section

variable {width n : Nat}

theorem padded_toList : (padded width n).toList =
    List.replicate (width - (Nat.toDigits 10 n).length) '0' ++ Nat.toDigits 10 n := by
  rw [padded, String.toList_ofList]

theorem isDigit_padded : ∀ c ∈ (padded width n).toList, c.isDigit = true := by
  rw [padded_toList]
  exact Number.isDigit_append Number.isDigit_replicate_zero (Number.isDigit_toDigits n)

theorem padded_ne_nil : (padded width n).toList ≠ [] := by
  rw [padded_toList]
  exact List.append_ne_nil_of_right_ne_nil _ Nat.toDigits_ne_nil

@[simp] theorem digitsValue_padded : Number.digitsValue (padded width n).toList = n := by
  rw [padded_toList, Number.digitsValue_eq, Nat.ofDigitChars_append]
  simp

theorem length_padded (positive : 0 < width) (small : n < 10 ^ width) :
    (padded width n).toList.length = width := by
  have fits := (Nat.length_toDigits_le_iff (by decide) positive).mpr small
  rw [padded_toList, List.length_append, List.length_replicate]
  omega

end

theorem takeField_padded {n : Nat} (small : n < 100) (rest : List Char) :
    takeField 2 ((padded 2 n).toList ++ rest) = some (n, rest) := by
  have length : (padded 2 n).toList.length = 2 := length_padded (by decide) small
  rw [takeField, dropWhile_isBlank_digits isDigit_padded padded_ne_nil,
    takeNumber_append isDigit_padded padded_ne_nil (by omega) (.inl length), digitsValue_padded]

theorem takeSign_cons {sign : Char} (visible : Text.isBlank sign = false) (rest : List Char) :
    takeSign sign (sign :: rest) = some rest := by
  simp [takeSign, visible]

/-! ## The fields of a text -/

/-- A year of four digits. -/
theorem takeYear_padded {n : Nat} (small : n < 10000) (rest : List Char) :
    takeYear ((padded 4 n).toList ++ rest) = some ((n : Int), rest) := by
  have length : (padded 4 n).toList.length = 4 := length_padded (by decide) small
  have some_digit : (padded 4 n).toList ≠ [] := padded_ne_nil
  obtain ⟨c, more, text⟩ := List.exists_cons_of_ne_nil some_digit
  have digit : c.isDigit = true := isDigit_padded c (text ▸ List.mem_cons_self)
  have taken : takeNumber 4 ((padded 4 n).toList ++ rest) = some (n, rest) := by
    rw [takeNumber_append isDigit_padded some_digit (Nat.le_of_eq length) (.inl length),
      digitsValue_padded]
  unfold takeYear
  rw [dropWhile_isBlank_digits isDigit_padded some_digit]
  rw [text] at taken ⊢
  simp only [List.cons_append] at taken ⊢
  split
  next _ same =>
    rw [(List.cons.inj same).1] at digit
    exact absurd digit (by decide)
  next _ same =>
    rw [(List.cons.inj same).1] at digit
    exact absurd digit (by decide)
  next => rw [taken, Option.map_some]

theorem takeNumber_padded {width n : Nat} {rest : List Char} (ends : NoDigit rest) :
    takeNumber ((padded width n).toList ++ rest).length ((padded width n).toList ++ rest) =
      some (n, rest) := by
  rw [takeNumber_append isDigit_padded padded_ne_nil (by simp) (.inr ends), digitsValue_padded]

theorem takeYear_minus {width n : Nat} {rest : List Char} (ends : NoDigit rest) :
    takeYear ('-' :: ((padded width n).toList ++ rest)) = some (-(n : Int), rest) := by
  simp only [takeYear, List.dropWhile_cons, show Text.isBlank '-' = false by decide,
    Bool.false_eq_true, if_false, takeNumber_padded ends, Option.map_some]

theorem takeYear_plus {width n : Nat} {rest : List Char} (ends : NoDigit rest) :
    takeYear ('+' :: ((padded width n).toList ++ rest)) = some ((n : Int), rest) := by
  simp only [takeYear, List.dropWhile_cons, show Text.isBlank '+' = false by decide,
    Bool.false_eq_true, if_false, takeNumber_padded ends, Option.map_some]

theorem takeYear_yearText (year : Int) (rest : List Char) :
    takeYear ((yearText year).toList ++ '-' :: rest) = some (year, '-' :: rest) := by
  have ends : NoDigit ('-' :: rest) := noDigit_cons (by decide) rest
  unfold yearText
  split
  next inside =>
    simp only [Bool.and_eq_true, decide_eq_true_eq] at inside
    rw [takeYear_padded (by omega), Int.toNat_of_nonneg inside.1]
  next outside =>
    by_cases negative : year < 0
    · have back : -((year.natAbs : Nat) : Int) = year := by omega
      have minus : "-".toList = ['-'] := rfl
      rw [if_pos negative, String.toList_append, List.append_assoc, minus, List.singleton_append,
        takeYear_minus ends, back]
    · have back : ((year.natAbs : Nat) : Int) = year := by omega
      have plus : "+".toList = ['+'] := rfl
      rw [if_neg negative, String.toList_append, List.append_assoc, plus, List.singleton_append,
        takeYear_plus ends, back]

/-- A fraction of some digits, before a text that goes on otherwise. -/
theorem takeFraction_padded {width n : Nat} (positive : 0 < width) (short : width ≤ 9)
    (small : n < 10 ^ width) {rest : List Char} (ends : NoDigit rest) :
    takeFraction (("." ++ padded width n).toList ++ rest) =
      some (n * Nat.pow 10 (9 - width), rest) := by
  have length := length_padded positive small
  have text : ("." ++ padded width n).toList ++ rest = '.' :: ((padded width n).toList ++ rest) := by
    rw [String.toList_append]
    rfl
  have fits : (padded width n).toList.length ≤ 9 := by omega
  have taken : takeNumber 9 ((padded width n).toList ++ rest) =
      some (Number.digitsValue (padded width n).toList, rest) :=
    takeNumber_append isDigit_padded padded_ne_nil fits (.inr ends)
  have used : (((padded width n).toList ++ rest).take 9).takeWhile Char.isDigit =
      (padded width n).toList :=
    takeWhile_digits isDigit_padded fits (.inr ends)
  have left : ((padded width n).toList ++ rest).dropWhile Char.isDigit = rest := by
    rw [List.dropWhile_append_of_pos isDigit_padded]
    cases rest with
    | nil => rfl
    | cons c more => simp [ends.head]
  rw [text]
  simp only [takeFraction, taken, used, left, digitsValue_padded, length]
  rfl

theorem takeFraction_fractionText {nano : Nat} (small : nano < 1000000000) {rest : List Char}
    (ends : NoDigit rest) (noPoint : ∀ more, rest ≠ '.' :: more) :
    takeFraction ((fractionText nano).toList ++ rest) = some (nano, rest) := by
  unfold fractionText
  split
  next none =>
    have zero : nano = 0 := by simpa using none
    rw [zero]
    unfold takeFraction
    split
    next _ more same => exact absurd same (noPoint more)
    next => rfl
  next some_nano =>
    split
    next millis =>
      simp only [beq_iff_eq] at millis
      rw [takeFraction_padded (by decide) (by decide) (by omega) ends]
      have back : nano / 1000000 * Nat.pow 10 (9 - 3) = nano := by
        show nano / 1000000 * 1000000 = nano
        omega
      rw [back]
    next =>
      split
      next micros =>
        simp only [beq_iff_eq] at micros
        rw [takeFraction_padded (by decide) (by decide) (by omega) ends]
        have back : nano / 1000 * Nat.pow 10 (9 - 6) = nano := by
          show nano / 1000 * 1000 = nano
          omega
        rw [back]
      next =>
        rw [takeFraction_padded (by decide) (by decide) (by omega) ends]
        have back : nano * Nat.pow 10 (9 - 9) = nano := by
          show nano * 1 = nano
          omega
        rw [back]

/-- What a text says of an instant: date, hour, minute, second, nanoseconds and offset. -/
structure Written where
  date : Date
  hour : Nat
  minute : Nat
  second : Nat
  nano : Nat
  offset : Int

/-- The fields of a text, whether or not there is such an instant. -/
def written? (cs : List Char) : Option Written := do
  let (year, cs) ← takeYear cs
  let (month, cs) ← takeField 2 (← takeSign '-' cs)
  let (day, cs) ← takeField 2 (← takeSign '-' cs)
  let cs ←
    match cs with
    | c :: rest => if c == 'T' || c == 't' || c == ' ' then some rest else none
    | [] => none
  let (hour, cs) ← takeField 2 cs
  let (minute, cs) ← takeField 2 (← takeSign ':' cs)
  let (second, cs) ← takeField 2 (← takeSign ':' cs)
  let (nano, cs) ← takeFraction cs
  let (offset, cs) ← takeOffset (cs.dropWhile Text.isBlank)
  if cs.all Text.isBlank then some ⟨⟨year, month, day⟩, hour, minute, second, nano, offset⟩
  else none

/-- The instant that is written, if there is one. -/
def Written.instant? (w : Written) : Option Instant :=
  ofFields? w.date w.hour w.minute w.second w.nano w.offset

theorem bind_of_each {α β γ : Type} {x : Option α} {f : α → Option β} {g : α → Option γ}
    {h : γ → Option β} (each : ∀ a, f a = (g a).bind h) : (x >>= f) = (x >>= g).bind h := by
  cases x with
  | none => rfl
  | some a => exact each a

theorem bind_of_some {α β : Type} {x : Option α} {a : α} {f : α → Option β} {b : Option β}
    (found : x = some a) (rest : f a = b) : (x >>= f) = b := by
  rw [found]
  exact rest

theorem readChars?_eq (cs : List Char) : readChars? cs = (written? cs).bind Written.instant? := by
  unfold readChars? written?
  refine bind_of_each fun year => bind_of_each fun cs => bind_of_each fun month =>
    bind_of_each fun cs => bind_of_each fun (day, cs) => ?_
  cases cs with
  | nil => rfl
  | cons c rest =>
    by_cases mark : (c == 'T' || c == 't' || c == ' ') = true
    · simp only [mark, if_true]
      refine bind_of_each fun cs => bind_of_each fun hour => bind_of_each fun cs =>
        bind_of_each fun minute => bind_of_each fun cs => bind_of_each fun second =>
        bind_of_each fun nano => bind_of_each fun offset => ?_
      split <;> rfl
    · simp only [mark]
      rfl

/-- An instant as it is written. -/
def toWritten (t : Instant) : Written :=
  let leap := if 1000000000 ≤ t.nano then 1 else 0
  ⟨Date.ofDays t.day, t.hour, t.second / 60 % 60, t.second % 60 + leap,
    t.nano - leap * 1000000000, 0⟩

theorem text_toList (t : Instant) : t.text.toList =
    (yearText t.toWritten.date.year).toList ++ '-' :: ((padded 2 t.toWritten.date.month).toList ++
      '-' :: ((padded 2 t.toWritten.date.day).toList ++ 'T' :: ((padded 2 t.toWritten.hour).toList ++
        ':' :: ((padded 2 t.toWritten.minute).toList ++ ':' ::
          ((padded 2 t.toWritten.second).toList ++
            ((fractionText t.toWritten.nano).toList ++ ['Z'])))))) := by
  have dash : "-".toList = ['-'] := rfl
  have between : "T".toList = ['T'] := rfl
  have colon : ":".toList = [':'] := rfl
  have zone : "Z".toList = ['Z'] := rfl
  simp only [text, localText, toWritten, String.toList_append, List.append_assoc, dash, between,
    colon, zone, List.cons_append, List.nil_append]

/-- Whether the fields have the widths that texts give them. -/
structure Written.Fits (w : Written) : Prop where
  month : w.date.month < 100
  day : w.date.day < 100
  hour : w.hour < 100
  minute : w.minute < 100
  second : w.second < 100
  nano : w.nano < 1000000000

theorem toWritten_fits (t : Instant) : t.toWritten.Fits where
  month := by
    have bound := (Date.month_ofDays t.day).2
    show (Date.ofDays t.day).month < 100
    omega
  day := by
    have bound := (Date.day_ofDays t.day).2
    have length := Date.monthLength_le (Date.ofDays t.day).year (Date.ofDays t.day).month
    show (Date.ofDays t.day).day < 100
    omega
  hour := by
    have seconds := t.second_lt
    show t.second / 3600 < 100
    omega
  minute := by
    show t.second / 60 % 60 < 100
    omega
  second := by
    show t.second % 60 + (if 1000000000 ≤ t.nano then 1 else 0) < 100
    split <;> omega
  nano := by
    have bound := t.nano_lt
    show t.nano - (if 1000000000 ≤ t.nano then 1 else 0) * 1000000000 < 1000000000
    split <;> omega

/-- Every field comes back as it is written. -/
theorem written?_text (t : Instant) : written? t.text.toList = some t.toWritten := by
  have fits := t.toWritten_fits
  have here : t.toWritten.offset = 0 := rfl
  have zone : takeOffset (['Z'].dropWhile Text.isBlank) = some (0, []) := rfl
  rw [text_toList]
  generalize t.toWritten = w at fits here ⊢
  obtain ⟨⟨year, m, d⟩, h, mi, sec, n, o⟩ := w
  simp only at here
  subst here
  have dash : Text.isBlank '-' = false := by decide
  have colon : Text.isBlank ':' = false := by decide
  have ends : ∀ more, ['Z'] ≠ '.' :: more := fun more same => absurd (List.cons.inj same).1 (by decide)
  have fraction := takeFraction_fractionText fits.nano (noDigit_cons (c := 'Z') (by decide) []) ends
  rw [written?]
  refine bind_of_some (takeYear_yearText year _) ?_
  refine bind_of_some (takeSign_cons dash _) (bind_of_some (takeField_padded fits.month _) ?_)
  refine bind_of_some (takeSign_cons dash _) (bind_of_some (takeField_padded fits.day _) ?_)
  refine (if_pos (by decide)).trans (bind_of_some rfl ?_)
  refine bind_of_some (takeField_padded fits.hour _) ?_
  refine bind_of_some (takeSign_cons colon _) (bind_of_some (takeField_padded fits.minute _) ?_)
  refine bind_of_some (takeSign_cons colon _) (bind_of_some (takeField_padded fits.second _) ?_)
  exact bind_of_some fraction (bind_of_some zone rfl)

/-- A second that is written as 60 is the leap second after the second 59. -/
theorem leap_of_second (t : Instant) :
    (if t.toWritten.second == 60 then 1 else 0) = if 1000000000 ≤ t.nano then 1 else 0 := by
  have bound := t.nano_lt
  have second : t.toWritten.second = t.second % 60 + if 1000000000 ≤ t.nano then 1 else 0 := rfl
  rw [second]
  by_cases leap : 1000000000 ≤ t.nano
  · have last : t.second % 60 + 1 = 60 := by omega
    rw [if_pos leap, last]
    rfl
  · have early : (t.second % 60 + 0 == 60) = false := by
      simp only [beq_eq_false_iff_ne]
      omega
    rw [if_neg leap, early]
    rfl

/-- Different instants have different texts. -/
theorem text_injective {t t' : Instant} (same : t.text = t'.text) : t = t' := by
  have written : t.toWritten = t'.toWritten := by
    have read := written?_text t
    rw [same, written?_text] at read
    exact (Option.some.inj read).symm
  have leaps := leap_of_second t
  rw [written, leap_of_second t'] at leaps
  have day : t.day = t'.day := by
    rw [← Date.toDays_ofDays t.day, ← Date.toDays_ofDays t'.day]
    exact congrArg (fun w => w.date.toDays) written
  have hour : t.second / 3600 = t'.second / 3600 := congrArg Written.hour written
  have minute : t.second / 60 % 60 = t'.second / 60 % 60 := congrArg Written.minute written
  have second : t.second % 60 + (if 1000000000 ≤ t.nano then 1 else 0) =
      t'.second % 60 + if 1000000000 ≤ t'.nano then 1 else 0 := congrArg Written.second written
  have nano : t.nano - (if 1000000000 ≤ t.nano then 1 else 0) * 1000000000 =
      t'.nano - (if 1000000000 ≤ t'.nano then 1 else 0) * 1000000000 := congrArg Written.nano written
  have seconds : t.second = t'.second := by
    rw [leaps] at second
    clear leaps nano
    omega
  have nanos : t.nano = t'.nano := by
    clear hour minute second seconds
    by_cases late : 1000000000 ≤ t.nano <;> by_cases late' : 1000000000 ≤ t'.nano <;>
      simp only [late, late', if_true, if_false, Nat.one_ne_zero, Nat.zero_ne_one]
        at leaps nano
    all_goals omega
  obtain ⟨d, s, n, _, _⟩ := t
  obtain ⟨d', s', n', _, _⟩ := t'
  simp only at day seconds nanos
  subst day seconds nanos
  rfl

/-- Whether the year of an instant is one that dates may have. -/
def InCalendar (t : Instant) : Prop :=
  yearInRange (Date.ofDays t.day).year = true

theorem inCalendar_of_four_digits {t : Instant} (low : 0 ≤ (Date.ofDays t.day).year)
    (high : (Date.ofDays t.day).year ≤ 9999) : t.InCalendar := by
  rw [InCalendar, yearInRange, Bool.and_eq_true, decide_eq_true_eq, decide_eq_true_eq]
  omega

/-- An instant of the calendar is the one that its fields stand for. -/
theorem instant?_toWritten {t : Instant} (inCalendar : t.InCalendar) :
    t.toWritten.instant? = some t := by
  obtain ⟨monthLow, monthHigh⟩ := Date.month_ofDays t.day
  obtain ⟨dayLow, dayHigh⟩ := Date.day_ofDays t.day
  have seconds := t.second_lt
  have nanos := t.nano_lt
  have leap := leap_of_second t
  have second : t.toWritten.second - (if 1000000000 ≤ t.nano then 1 else 0) = t.second % 60 :=
    Nat.add_sub_cancel ..
  have nano : t.toWritten.nano + (if 1000000000 ≤ t.nano then 1 else 0) * 1000000000 = t.nano := by
    show t.nano - _ + _ = t.nano
    split <;> omega
  have seconds60 : t.toWritten.second ≤ 60 := by
    show t.second % 60 + _ ≤ 60
    split <;> omega
  have minutes : ((t.toWritten.hour * 60 + t.toWritten.minute : Nat) : Int) - t.toWritten.offset / 60 =
      (t.second / 60 : Nat) := by
    show ((t.second / 3600 * 60 + t.second / 60 % 60 : Nat) : Int) - 0 / 60 = (t.second / 60 : Nat)
    clear second nano leap dayHigh
    omega
  have today : ((t.second / 60 : Nat) : Int).fdiv 1440 = 0 := by
    rw [Int.fdiv_eq_ediv_of_nonneg _ (by decide)]
    clear second nano leap dayHigh minutes
    omega
  have minuteOfDay : (((t.second / 60 : Nat) : Int) % 1440).toNat = t.second / 60 := by
    clear second nano leap dayHigh minutes today
    omega
  have whole : t.second / 60 * 60 + t.second % 60 = t.second := by
    omega
  have ranges : (yearInRange t.toWritten.date.year && 1 ≤ t.toWritten.date.month &&
      t.toWritten.date.month ≤ 12 && 1 ≤ t.toWritten.date.day &&
      t.toWritten.date.day ≤ Date.monthLength t.toWritten.date.year t.toWritten.date.month &&
      t.toWritten.hour < 24 && t.toWritten.minute < 60 && t.toWritten.second ≤ 60 &&
      t.toWritten.offset.natAbs < 86400 && t.toWritten.offset % 60 == 0) = true := by
    have hour : t.toWritten.hour < 24 := by
      show t.second / 3600 < 24
      omega
    have minute : t.toWritten.minute < 60 := Nat.mod_lt _ (by decide)
    have offset : t.toWritten.offset.natAbs < 86400 := (by decide : (0 : Int).natAbs < 86400)
    simp only [Bool.and_eq_true, decide_eq_true_eq, beq_iff_eq]
    exact ⟨⟨⟨⟨⟨⟨⟨⟨⟨inCalendar, monthLow⟩, monthHigh⟩, dayLow⟩, dayHigh⟩, hour⟩, minute⟩, seconds60⟩,
      offset⟩, rfl⟩
  have days : t.toWritten.date.toDays = t.day := Date.toDays_ofDays t.day
  unfold Written.instant? ofFields?
  rw [if_pos ranges]
  simp only [leap, second, nano, minutes, today, minuteOfDay, whole, days, Int.add_zero]
  rw [dif_pos ⟨seconds, nanos⟩]
  exact if_pos inCalendar

/-- The text of an instant of the calendar is read as that instant. -/
theorem read?_text {t : Instant} (inCalendar : t.InCalendar) :
    read? t.text = some t := by
  rw [read?, readChars?_eq, written?_text, Option.bind_some, instant?_toWritten inCalendar]

end Instant

end Verdict
