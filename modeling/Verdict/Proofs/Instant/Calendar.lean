import Verdict.Instant

/-!
# The calendar

Every day has a date, and the date gives the day back (`toDays_ofDays`).  The arithmetic counts
years from March, so that the leap day is the last day of its year, of its group of four years and
of its era of four hundred.
-/

namespace Verdict.Date

/-- The whole centuries of an era; the last one has a day more. -/
theorem exists_centuries {d : Int} (low : 0 ≤ d) (high : d < 146097) :
    ∃ c r : Int, d = 36524 * c + r ∧ (0 ≤ c ∧ c ≤ 3) ∧ (0 ≤ r ∧ r ≤ 36524) ∧
      (r = 36524 → c = 3) ∧ d / 36524 - d / 146096 = c := by
  by_cases top : d = 146096
  · exact ⟨3, 36524, by omega⟩
  · exact ⟨d / 36524, d % 36524, by omega⟩

/-- The whole groups of four years of a century. -/
theorem exists_groups {r : Int} (low : 0 ≤ r) (high : r ≤ 36524) :
    ∃ q s : Int, r = 1461 * q + s ∧ (0 ≤ q ∧ q ≤ 24) ∧ (0 ≤ s ∧ s ≤ 1460) ∧
      (s = 1460 → q = 24 → r = 36524) := by
  by_cases top : r = 36524
  · exact ⟨24, 1460, by omega⟩
  · exact ⟨r / 1461, r % 1461, by omega⟩

/-- The whole years of a group of four; the last one has a day more. -/
theorem exists_years {s : Int} (low : 0 ≤ s) (high : s ≤ 1460) :
    ∃ k n : Int, s = 365 * k + n ∧ (0 ≤ k ∧ k ≤ 3) ∧ (0 ≤ n ∧ n ≤ 365) ∧
      (n = 365 → s = 1460 ∧ k = 3) ∧ (1364 ≤ s → 1 ≤ n) ∧ (s < 1460 → n < 365) := by
  by_cases top : s = 1460
  · exact ⟨3, 365, by omega⟩
  · exact ⟨s / 365, s % 365, by omega⟩

theorem div_1460 {c q s : Int} (hc : 0 ≤ c ∧ c ≤ 3) (hq : 0 ≤ q ∧ q ≤ 24)
    (hs : 0 ≤ s ∧ s ≤ 1460) :
    ∃ b, (36524 * c + (1461 * q + s)) / 1460 = 25 * c + q + b ∧
      (b = 0 ∧ s < 1460 ∨ b = 1 ∧ 1364 ≤ s) := by
  by_cases beyond : 1460 ≤ 24 * c + q + s
  · exact ⟨1, by omega⟩
  · exact ⟨0, by omega⟩

/-- The years of an era of 400 years that a number of days makes up, and the days left over.  The
    years are counted from March, so that a leap day is the last of its year. -/
theorem exists_yearOfEra {d : Int} (low : 0 ≤ d) (high : d < 146097) :
    ∃ y n : Int, (d - d / 1460 + d / 36524 - d / 146096) / 365 = y ∧
      d = 365 * y + y / 4 - y / 100 + n ∧ (0 ≤ y ∧ y < 400) ∧ (0 ≤ n ∧ n ≤ 365) ∧
      (n = 365 → (y + 1) % 4 = 0 ∧ ((y + 1) % 100 ≠ 0 ∨ (y + 1) % 400 = 0)) := by
  obtain ⟨c, r, century, hc, hr, last, early⟩ := exists_centuries low high
  obtain ⟨q, s, group, hq, hs, full⟩ := exists_groups hr.1 hr.2
  obtain ⟨k, n, year, hk, hn, leap, some_day, short⟩ := exists_years hs.1 hs.2
  obtain ⟨b, fours, bit⟩ := div_1460 hc hq hs
  rw [← group, ← century] at fours
  have quarter : (100 * c + 4 * q + k) / 4 = 25 * c + q := by
    clear early fours
    omega
  have hundredth : (100 * c + 4 * q + k) / 100 = c := by
    clear early fours quarter
    omega
  refine ⟨100 * c + 4 * q + k, n, ?_, ?_, by omega, hn, ?_⟩
  · have rest : 0 ≤ n - b ∧ n - b < 365 := by
      clear early fours quarter hundredth
      omega
    have counted : d - d / 1460 + d / 36524 - d / 146096 = 365 * (100 * c + 4 * q + k) + (n - b) := by
      generalize d / 1460 = e, d / 36524 = f, d / 146096 = g at early fours ⊢
      clear quarter hundredth
      omega
    rw [counted]
    generalize 100 * c + 4 * q + k = y
    clear early fours quarter hundredth counted
    omega
  · rw [quarter, hundredth]
    clear early fours quarter hundredth
    omega
  · intro leapDay
    obtain ⟨whole, rfl⟩ := leap leapDay
    have final : q = 24 → c = 3 := fun century => last (full whole century)
    clear early fours quarter hundredth
    omega

/-- What the date of a day is made of: its era, its year and the day of that year, both counted from
    March. -/
theorem exists_ofDays (days : Int) :
    ∃ era y n shifted : Int, days + 719468 = era * 146097 + (365 * y + y / 4 - y / 100 + n) ∧
      (0 ≤ y ∧ y < 400) ∧ (0 ≤ n ∧ n ≤ 365) ∧
      (n = 365 → (y + 1) % 4 = 0 ∧ ((y + 1) % 100 ≠ 0 ∨ (y + 1) % 400 = 0)) ∧
      shifted = (5 * n + 2) / 153 ∧
      (ofDays days).year = y + era * 400 + (if 10 ≤ shifted then 1 else 0) ∧
      ((ofDays days).month : Int) = (if shifted < 10 then shifted + 3 else shifted - 9) ∧
      ((ofDays days).day : Int) = n - (153 * shifted + 2) / 5 + 1 := by
  obtain ⟨era, start⟩ : ∃ era, era = (days + 719468) / 146097 := ⟨_, rfl⟩
  have low : 0 ≤ days + 719468 - era * 146097 := by omega
  have high : days + 719468 - era * 146097 < 146097 := by omega
  obtain ⟨y, n, years, parts, hy, hn, leap⟩ := exists_yearOfEra low high
  have rest : days + 719468 - era * 146097 - (365 * y + y / 4 - y / 100) = n := by omega
  refine ⟨era, y, n, (5 * n + 2) / 153, by omega, hy, hn, leap, rfl, ?_⟩
  have unfolded : ofDays days =
      ⟨y + era * 400 + (if (if (5 * n + 2) / 153 < 10 then (5 * n + 2) / 153 + 3
          else (5 * n + 2) / 153 - 9) ≤ 2 then 1 else 0),
        (if (5 * n + 2) / 153 < 10 then (5 * n + 2) / 153 + 3
          else (5 * n + 2) / 153 - 9).toNat,
        (n - (153 * ((5 * n + 2) / 153) + 2) / 5 + 1).toNat⟩ := by
    unfold ofDays
    simp only [Int.fdiv_eq_ediv_of_nonneg _ (by decide : (0 : Int) ≤ 146097), ← start, years, rest]
  have month : 0 ≤ (5 * n + 2) / 153 ∧ (5 * n + 2) / 153 ≤ 11 := by
    clear rest parts leap unfolded
    omega
  have day : 0 ≤ n - (153 * ((5 * n + 2) / 153) + 2) / 5 := by
    clear rest parts leap unfolded
    omega
  rw [unfolded]
  generalize (5 * n + 2) / 153 = shifted at month day
  clear rest parts leap unfolded years
  refine ⟨?_, ?_, ?_⟩
  · simp only
    split <;> split <;> omega
  · simp only
    split <;> omega
  · simp only
    omega

/-- Months counted from March, from the day of the year. -/
theorem shifted_bounds {n shifted : Int} (hn : 0 ≤ n ∧ n ≤ 365) (months : shifted = (5 * n + 2) / 153) :
    (0 ≤ shifted ∧ shifted ≤ 11) ∧ 0 ≤ n - (153 * shifted + 2) / 5 := by
  omega

/-- A date gives its day back. -/
theorem toDays_ofDays (days : Int) : (ofDays days).toDays = days := by
  obtain ⟨era, y, n, shifted, counted, hy, hn, -, months, year, month, day⟩ := exists_ofDays days
  obtain ⟨bounds, -⟩ := shifted_bounds hn months
  have fromMarch : (if (ofDays days).month ≤ 2 then (ofDays days).year - 1 else (ofDays days).year) =
      y + era * 400 := by
    clear counted months day
    split <;> split at year <;> split at month <;> omega
  have monthFromMarch : (((ofDays days).month + 9) % 12 : Nat) = shifted := by
    clear counted months day year
    split at month <;> omega
  have inEra : (y + era * 400) / 400 = era := by
    clear counted months day year month
    omega
  unfold toDays
  simp only [fromMarch, monthFromMarch, Int.fdiv_eq_ediv_of_nonneg _ (by decide : (0 : Int) ≤ 400), inEra,
    Int.add_sub_cancel, day]
  clear months day year month inEra fromMarch monthFromMarch
  omega

theorem month_ofDays (days : Int) : 1 ≤ (ofDays days).month ∧ (ofDays days).month ≤ 12 := by
  obtain ⟨-, -, n, shifted, -, -, hn, -, months, -, month, -⟩ := exists_ofDays days
  obtain ⟨bounds, -⟩ := shifted_bounds hn months
  clear months
  split at month <;> omega

theorem monthLength_le (year : Int) (month : Nat) : monthLength year month ≤ 31 := by
  unfold monthLength
  split
  · split <;> decide
  · split <;> decide

/-- The day of a date is one of its month. -/
theorem day_ofDays (days : Int) : 1 ≤ (ofDays days).day ∧
    (ofDays days).day ≤ monthLength (ofDays days).year (ofDays days).month := by
  obtain ⟨era, y, n, shifted, -, -, hn, leap, months, year, month, day⟩ := exists_ofDays days
  obtain ⟨bounds, later⟩ := shifted_bounds hn months
  have first : 1 ≤ (ofDays days).day := by omega
  refine ⟨first, ?_⟩
  by_cases february : shifted = 11
  · have isFebruary : (ofDays days).month = 2 := by
      rw [february] at month
      simp only [Int.reduceLT, if_false] at month
      omega
    have length : monthLength (ofDays days).year (ofDays days).month =
        if isLeap (ofDays days).year then 29 else 28 := by
      rw [isFebruary]
      rfl
    rw [length]
    by_cases leapDay : n = 365
    · have leapYear : isLeap (ofDays days).year = true := by
        obtain ⟨four, hundred⟩ := leap leapDay
        have next : (ofDays days).year = y + 1 + 400 * era := by
          rw [year, february]
          simp only [Int.reduceLE, if_true]
          omega
        simp only [isLeap, Bool.and_eq_true, Bool.or_eq_true, beq_iff_eq, bne_iff_ne]
        rw [next]
        clear year month day months next
        omega
      rw [leapYear, if_pos rfl]
      omega
    · split <;> omega
  · clear year leap later first
    generalize (ofDays days).month = m, (ofDays days).day = last, (ofDays days).year = year at *
    have early : shifted = 0 ∨ shifted = 1 ∨ shifted = 2 ∨ shifted = 3 ∨ shifted = 4 ∨ shifted = 5 ∨
        shifted = 6 ∨ shifted = 7 ∨ shifted = 8 ∨ shifted = 9 ∨ shifted = 10 := by
      clear months day month
      omega
    have numbered : m = if shifted < 10 then (shifted + 3).toNat else (shifted - 9).toNat := by
      clear months day
      split at month <;> split <;> omega
    rcases early with rfl | rfl | rfl | rfl | rfl | rfl | rfl | rfl | rfl | rfl | rfl <;>
    · rw [numbered]
      simp only [monthLength, Int.reduceLT, Int.reduceAdd, Int.reduceSub, Int.reduceToNat, if_true,
        if_false, Nat.reduceBEq, Bool.false_eq_true, Bool.or_false, Bool.or_true]
      omega

end Verdict.Date
