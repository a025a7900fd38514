import TunnelFailover.Time.Calendar
import Mathlib.Tactic.Ring
/-!
This file shows that every day has a date of the calendar, from which the day is found again. A day of
an era is split into centuries, cycles of four years, years and days. Only the last year of a cycle has a
leap day, and the last year of a century does not, unless it ends the era.
-/

namespace TunnelFailover.CalendarDate

section Era

/-- A day of an era lies in a century, a cycle and a year. -/
theorem exists_parts {dayOfEra : Int} (low : 0 ≤ dayOfEra) (high : dayOfEra < 146097) :
    ∃ century cycle year day : Int, (0 ≤ century ∧ century ≤ 3) ∧ (0 ≤ cycle ∧ cycle ≤ 24) ∧
      (0 ≤ year ∧ year ≤ 3) ∧ (0 ≤ day ∧ day ≤ 365) ∧
      (day = 365 → year = 3 ∧ (cycle = 24 → century = 3)) ∧
      dayOfEra = 36524 * century + 1461 * cycle + 365 * year + day := by
  let century := min (dayOfEra / 36524) 3
  let rest := dayOfEra - 36524 * century
  let year := min (rest % 1461 / 365) 3
  have lastCentury : rest = 36524 → century = 3 := by omega
  refine ⟨century, rest / 1461, year, rest % 1461 - 365 * year, ?_, ?_, ?_, ?_, ?_, ?_⟩
  · omega
  · omega
  · omega
  · omega
  · intro last
    have lastYear : year = 3 := by omega
    omega
  · omega

/-- A day is the day of its era. -/
theorem era_eq {dayOfEra : Int} (low : 0 ≤ dayOfEra) (high : dayOfEra < 146097) (era : Int) :
    (146097 * era + dayOfEra) / 146097 = era ∧
      (146097 * era + dayOfEra) % 146097 = dayOfEra := by
  omega

variable {century cycle year day : Int} (centuries : 0 ≤ century ∧ century ≤ 3)
  (cycles : 0 ≤ cycle ∧ cycle ≤ 24) (years : 0 ≤ year ∧ year ≤ 3) (days : 0 ≤ day ∧ day ≤ 365)
  (leap : day = 365 → year = 3 ∧ (cycle = 24 → century = 3))

include centuries cycles years days leap

/-- The number of leap days before a day of an era is found from the day alone. -/
theorem yearOfEra_eq :
    let dayOfEra := 36524 * century + 1461 * cycle + 365 * year + day
    (dayOfEra - dayOfEra / 1460 + dayOfEra / 36524 - dayOfEra / 146096) / 365 =
      100 * century + 4 * cycle + year := by
  intro dayOfEra
  have centuryOf : dayOfEra / 36524 - dayOfEra / 146096 = century := by
    have atLeast : century ≤ dayOfEra / 36524 := by omega
    rcases Int.lt_or_le dayOfEra 146096 with before | last
    · have none : dayOfEra / 146096 = 0 := by omega
      omega
    · omega
  -- The days of a cycle are counted as 1460, which is one too few.
  have cycleOf : (day < 365 ∧ dayOfEra / 1460 = 25 * century + cycle) ∨
      (0 < day ∧ dayOfEra / 1460 = 25 * century + cycle + 1) := by omega
  omega

/-- The date of a day counts its year and its months from March. -/
theorem ofDays_parts (era : Int) :
    let march := (5 * day + 2) / 153
    ofDays (146097 * era + (36524 * century + 1461 * cycle + 365 * year + day) - 719468) =
      ⟨400 * era + (100 * century + 4 * cycle + year) + (if march < 10 then 0 else 1),
        (if march < 10 then march + 3 else march - 9).toNat,
        (day - (153 * march + 2) / 5 + 1).toNat⟩ := by
  intro march
  have fourths : (100 * century + 4 * cycle + year) / 4 = 25 * century + cycle := by omega
  have hundredths : (100 * century + 4 * cycle + year) / 100 = century := by omega
  have low : 0 ≤ 36524 * century + 1461 * cycle + 365 * year + day := by omega
  have high : 36524 * century + 1461 * cycle + 365 * year + day < 146097 := by omega
  have yearOf := yearOfEra_eq centuries cycles years days leap
  dsimp only at yearOf
  generalize dayOf : 36524 * century + 1461 * cycle + 365 * year + day = dayOfEra at *
  obtain ⟨eraOf, within⟩ := era_eq low high era
  have dayOfYear : dayOfEra - (365 * (100 * century + 4 * cycle + year) +
      (100 * century + 4 * cycle + year) / 4 - (100 * century + 4 * cycle + year) / 100) = day := by
    rw [fourths, hundredths, ← dayOf]
    ring
  simp only [ofDays, Int.sub_add_cancel, eraOf, within, yearOf, dayOfYear, CalendarDate.mk.injEq]
  refine ⟨?_, rfl, rfl⟩
  change _ + (if (if march < 10 then march + 3 else march - 9) ≤ 2 then 1 else 0) = _
  split <;> split <;> omega

end Era

/-- A month that is counted from March belongs to the next year from January on. -/
theorem fromMarch {march : Int} (bounds : 0 ≤ march ∧ march ≤ 11) (before : Int) :
    let month := (if march < 10 then march + 3 else march - 9).toNat
    let year := before + if march < 10 then 0 else 1
    1 ≤ month ∧ month ≤ 12 ∧ ((month : Int) + 9) % 12 = march ∧
      (if month ≤ 2 then year - 1 else year) = before := by
  intro month year
  by_cases early : march < 10
  · have monthOf : month = (march + 3).toNat := by simp [month, early]
    have yearOf : year = before := by simp [year, early]
    have late : ¬month ≤ 2 := by omega
    rw [if_neg late]
    omega
  · have monthOf : month = (march - 9).toNat := by simp [month, early]
    have yearOf : year = before + 1 := by simp [year, early]
    have early : month ≤ 2 := by omega
    rw [if_pos early]
    omega

/-- Every day has a date that counts from March. -/
theorem exists_date (days : Int) :
    ∃ era century cycle year day : Int, (0 ≤ century ∧ century ≤ 3) ∧ (0 ≤ cycle ∧ cycle ≤ 24) ∧
      (0 ≤ year ∧ year ≤ 3) ∧ (0 ≤ day ∧ day ≤ 365) ∧
      (day = 365 → year = 3 ∧ (cycle = 24 → century = 3)) ∧
      days = 146097 * era + (36524 * century + 1461 * cycle + 365 * year + day) - 719468 := by
  obtain ⟨century, cycle, year, day, centuries, cycles, years, dayBounds, leap, parts⟩ :=
    exists_parts (Int.emod_nonneg (days + 719468) (by decide))
      (Int.emod_lt_of_pos (days + 719468) (by decide))
  refine ⟨(days + 719468) / 146097, century, cycle, year, day, centuries, cycles, years, dayBounds,
    leap, ?_⟩
  omega

/-- The day of a date is found again. -/
theorem toDays_ofDays (days : Int) : (ofDays days).toDays = days := by
  obtain ⟨era, century, cycle, year, day, centuries, cycles, years, dayBounds, leap, rfl⟩ :=
    exists_date days
  rw [ofDays_parts centuries cycles years dayBounds leap]
  have monthBounds : 0 ≤ (5 * day + 2) / 153 ∧ (5 * day + 2) / 153 ≤ 11 := by omega
  obtain ⟨-, -, monthOf, yearOf⟩ :=
    fromMarch monthBounds (400 * era + (100 * century + 4 * cycle + year))
  have dayOf : ((day - (153 * ((5 * day + 2) / 153) + 2) / 5 + 1).toNat : Int) =
      day - (153 * ((5 * day + 2) / 153) + 2) / 5 + 1 := by omega
  unfold toDays
  dsimp only at monthOf yearOf ⊢
  rw [monthOf, yearOf, dayOf]
  clear leap monthOf yearOf dayOf
  omega

/-- The date of a day is one of the calendar. -/
theorem isValid_ofDays (days : Int) : (ofDays days).IsValid := by
  obtain ⟨era, century, cycle, year, day, centuries, cycles, years, dayBounds, leap, rfl⟩ :=
    exists_date days
  have leapYear (last : day = 365) :
      isLeapYear (400 * era + (100 * century + 4 * cycle + year) + 1) = true := by
    obtain ⟨lastYear, lastCycle⟩ := leap last
    simp only [isLeapYear, Bool.or_eq_true, Bool.and_eq_true, beq_iff_eq, bne_iff_ne]
    omega
  rw [ofDays_parts centuries cycles years dayBounds leap]
  have monthBounds : 0 ≤ (5 * day + 2) / 153 ∧ (5 * day + 2) / 153 ≤ 11 := by omega
  obtain ⟨atLeast, atMost, monthOf, -⟩ :=
    fromMarch monthBounds (400 * era + (100 * century + 4 * cycle + year))
  refine ⟨atLeast, atMost, ?_, ?_⟩
  · dsimp only
    clear leap leapYear atLeast atMost monthOf
    omega
  dsimp only at monthOf ⊢
  generalize marchOf : (5 * day + 2) / 153 = march at *
  generalize numberOf : (if march < 10 then march + 3 else march - 9).toNat = month at *
  unfold daysInMonth
  split
  · rename_i february
    have late : ¬march < 10 := by omega
    rw [if_neg late]
    split
    · omega
    · rename_i common
      have notLast : day ≠ 365 := fun last => common (leapYear last)
      omega
  · split
    · omega
    · omega

/-- No day of the month exceeds the longest months. -/
theorem day_le_of_isValid {date : CalendarDate} (valid : date.IsValid) : date.day ≤ 31 := by
  obtain ⟨-, -, -, day⟩ := valid
  refine day.trans ?_
  unfold daysInMonth
  split_ifs <;> decide

end TunnelFailover.CalendarDate
