import Verdict.Text.Blank
import Verdict.Number.Decimal

/-!
# Instants

A point in time to the nanosecond, in coordinated universal time, with the last second of a
minute allowed to be a leap second.  `Instant.read?` reads date and time with an offset, blanks
tolerated where people write them; `Instant.text` and `Instant.offsetText` write it.
-/

namespace Verdict

/-- A day of the proleptic Gregorian calendar. -/
structure Date where
  year : Int
  month : Nat
  day : Nat
  deriving Repr, DecidableEq

namespace Date

/-- Leap years. -/
def isLeap (year : Int) : Bool :=
  year % 4 == 0 && (year % 100 != 0 || year % 400 == 0)

/-- The number of days of a month. -/
def monthLength (year : Int) (month : Nat) : Nat :=
  if month == 2 then (if isLeap year then 29 else 28)
  else if month == 4 || month == 6 || month == 9 || month == 11 then 30
  else 31

/-- Days since the first of January 1970. -/
def toDays (d : Date) : Int :=
  let y := if d.month ≤ 2 then d.year - 1 else d.year
  let era := y.fdiv 400
  let yearOfEra := y - era * 400
  let shifted : Int := ((d.month + 9) % 12 : Nat)
  let dayOfYear := (153 * shifted + 2) / 5 + d.day - 1
  let dayOfEra := yearOfEra * 365 + yearOfEra / 4 - yearOfEra / 100 + dayOfYear
  era * 146097 + dayOfEra - 719468

/-- The date of a number of days since the first of January 1970. -/
def ofDays (days : Int) : Date :=
  let z := days + 719468
  let era := z.fdiv 146097
  let dayOfEra := z - era * 146097
  let yearOfEra :=
    (dayOfEra - dayOfEra / 1460 + dayOfEra / 36524 - dayOfEra / 146096) / 365
  let dayOfYear := dayOfEra - (365 * yearOfEra + yearOfEra / 4 - yearOfEra / 100)
  let shifted := (5 * dayOfYear + 2) / 153
  let day := dayOfYear - (153 * shifted + 2) / 5 + 1
  let month := if shifted < 10 then shifted + 3 else shifted - 9
  let year := yearOfEra + era * 400 + (if month ≤ 2 then 1 else 0)
  ⟨year, month.toNat, day.toNat⟩

end Date

/-- A point in time: the day since the first of January 1970, the second of the day, and the
    nanoseconds into it, which reach beyond one second only in a leap second. -/
structure Instant where
  day : Int
  second : Nat
  nano : Nat
  second_lt : second < 86400 := by omega
  nano_lt : nano < 1000000000 ∨ (second % 60 = 59 ∧ nano < 2000000000) := by omega
  deriving Repr, DecidableEq

namespace Instant

/-- The first instant of 1970. -/
def epoch : Instant := ⟨0, 0, 0, by omega, by omega⟩

instance : Inhabited Instant := ⟨epoch⟩

/-- The instant some nanoseconds after the first of January 1970, or before it. -/
def ofUnix (nanos : Int) : Instant where
  day := nanos.fdiv 86400000000000
  second := (nanos.fdiv 1000000000 % 86400).toNat
  nano := (nanos % 1000000000).toNat

/-- The hour of the day. -/
def hour (t : Instant) : Nat :=
  t.second / 3600

/-- The day of the week, from 0 for Monday to 6 for Sunday. -/
def weekday (t : Instant) : Nat :=
  ((t.day + 3) % 7).toNat

/-- A number with at least `width` digits. -/
def padded (width n : Nat) : String :=
  let digits := Nat.toDigits 10 n
  String.ofList (List.replicate (width - digits.length) '0' ++ digits)

/-- A year: four digits, or a sign and at least four digits outside the years 0 to 9999. -/
def yearText (year : Int) : String :=
  if 0 ≤ year && year ≤ 9999 then padded 4 year.toNat
  else (if year < 0 then "-" else "+") ++ padded 4 year.natAbs

/-- A fraction of a second: nothing, or milliseconds, microseconds or nanoseconds. -/
def fractionText (nano : Nat) : String :=
  if nano == 0 then ""
  else if nano % 1000000 == 0 then "." ++ padded 3 (nano / 1000000)
  else if nano % 1000 == 0 then "." ++ padded 6 (nano / 1000)
  else "." ++ padded 9 nano

/-- Date and time without an offset. -/
def localText (t : Instant) : String :=
  let date := Date.ofDays t.day
  let leap := if 1000000000 ≤ t.nano then 1 else 0
  yearText date.year ++ "-" ++ padded 2 date.month ++ "-" ++ padded 2 date.day ++ "T" ++
    padded 2 t.hour ++ ":" ++ padded 2 (t.second / 60 % 60) ++ ":" ++
    padded 2 (t.second % 60 + leap) ++ fractionText (t.nano - leap * 1000000000)

/-- The stored form: date, time and `Z`. -/
def text (t : Instant) : String :=
  t.localText ++ "Z"

/-- The form that conditions see: date, time and a numeric offset. -/
def offsetText (t : Instant) : String :=
  t.localText ++ "+00:00"

/-- Takes between one and `most` digits. -/
def takeNumber (most : Nat) (cs : List Char) : Option (Nat × List Char) :=
  let digits := (cs.take most).takeWhile Char.isDigit
  if digits.isEmpty then none
  else some (Number.digitsValue digits, cs.drop digits.length)

/-- Takes a number after blanks. -/
def takeField (most : Nat) (cs : List Char) : Option (Nat × List Char) :=
  takeNumber most (cs.dropWhile Text.isBlank)

/-- Takes a year after blanks: four digits at most, or any number of digits after a sign. -/
def takeYear (cs : List Char) : Option (Int × List Char) :=
  match cs.dropWhile Text.isBlank with
  | '-' :: rest => (takeNumber rest.length rest).map fun (n, rest) => (-(n : Int), rest)
  | '+' :: rest => (takeNumber rest.length rest).map fun (n, rest) => ((n : Int), rest)
  | rest => (takeNumber 4 rest).map fun (n, rest) => ((n : Int), rest)

/-- Takes a sign after blanks. -/
def takeSign (sign : Char) (cs : List Char) : Option (List Char) :=
  match cs.dropWhile Text.isBlank with
  | c :: rest => if c == sign then some rest else none
  | [] => none

/-- Takes a fraction of a second, if there is one: nine digits count, more are skipped. -/
def takeFraction (cs : List Char) : Option (Nat × List Char) :=
  match cs with
  | '.' :: rest => do
      let (n, _) ← takeNumber 9 rest
      let used := ((rest.take 9).takeWhile Char.isDigit).length
      return (n * Nat.pow 10 (9 - used), rest.dropWhile Char.isDigit)
  | _ => some (0, cs)

/-- Takes an offset in seconds: `Z`, `UTC`, or a sign with hours and minutes. -/
def takeOffset (cs : List Char) : Option (Int × List Char) :=
  match cs with
  | 'Z' :: rest | 'z' :: rest => some (0, rest)
  | c :: rest =>
      if (String.ofList (cs.take 3)).toLower == "utc" then some (0, cs.drop 3)
      else
        let negative := c == '-' || c == '\u2212'
        if !(negative || c == '+') then none
        else
          match rest with
          | h1 :: h2 :: rest =>
              if !(h1.isDigit && h2.isDigit) then none
              else
                match rest.dropWhile fun c => c == ':' || Text.isBlank c with
                | m1 :: m2 :: rest =>
                    if !('0' ≤ m1 && m1 ≤ '5' && m2.isDigit) then none
                    else
                      let seconds : Int :=
                        (Number.digitsValue [h1, h2] * 3600 +
                          Number.digitsValue [m1, m2] * 60 : Nat)
                      some (if negative then -seconds else seconds, rest)
                | _ => none
          | _ => none
  | [] => none

/-- The years that dates may have. -/
def yearInRange (year : Int) : Bool :=
  -262143 ≤ year && year ≤ 262142

/-- The instant of a local date and time at an offset, if these exist.  A second of 60 is the
    leap second after the second 59. -/
def ofFields? (date : Date) (hour minute second nano : Nat) (offset : Int) : Option Instant :=
  if yearInRange date.year && 1 ≤ date.month && date.month ≤ 12 && 1 ≤ date.day &&
      date.day ≤ Date.monthLength date.year date.month && hour < 24 && minute < 60 &&
      second ≤ 60 && offset.natAbs < 86400 && offset % 60 == 0 then
    let leap := if second == 60 then 1 else 0
    let minutes : Int := ((hour * 60 + minute : Nat) : Int) - offset / 60
    let day := date.toDays + minutes.fdiv 1440
    let minuteOfDay := (minutes % 1440).toNat
    if h : minuteOfDay * 60 + (second - leap) < 86400 ∧
        (nano + leap * 1000000000 < 1000000000 ∨
          ((minuteOfDay * 60 + (second - leap)) % 60 = 59 ∧
            nano + leap * 1000000000 < 2000000000)) then
      if yearInRange (Date.ofDays day).year then
        some ⟨day, minuteOfDay * 60 + (second - leap), nano + leap * 1000000000, h.1, h.2⟩
      else none
    else none
  else none

/-- Reads date, time and offset. -/
def readChars? (cs : List Char) : Option Instant := do
  let (year, cs) ← takeYear cs
  let (month, cs) ← takeField 2 (← takeSign '-' cs)
  let (day, cs) ← takeField 2 (← takeSign '-' cs)
  let cs ←
    match cs with
    | c :: rest => if c == 'T' || c == 't' || c == ' ' then some rest else none
    | [] => none
  let (hour, cs) ← takeField 2 cs
  let (minute, cs) ← takeField 2 (← takeSign ':' cs)
  let (second, cs) ← takeField 2 (← takeSign ':' cs)
  let (nano, cs) ← takeFraction cs
  let (offset, cs) ← takeOffset (cs.dropWhile Text.isBlank)
  if cs.all Text.isBlank then ofFields? ⟨year, month, day⟩ hour minute second nano offset
  else none

/-- Reads the text of an instant. -/
def read? (s : String) : Option Instant :=
  readChars? s.toList

end Instant

end Verdict
