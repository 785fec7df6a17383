import CertPress.Time.Calendar
import Mathlib.Tactic.IntervalCases
import Mathlib.Tactic.Linarith
import Mathlib.Tactic.SplitIfs

/-!
# Days and dates

The days of an era of 400 years are counted in centuries, spans of four years, years and
days of a year.  A number of days that is turned into a date in this way gives a date of
the calendar, and the date gives the number back.
-/

namespace CertPress.Time.Date

theorem isLeap_iff (year : Int) :
    isLeap year ↔ (year % 4 = 0 ∧ year % 100 ≠ 0) ∨ year % 400 = 0 := by
  simp [isLeap]

/-- A day of an era, which starts in March: the century, the span of four years in it, the
year in that and the day in that.  A year has a 366th day if it ends its span, unless it
ends the century and not the era. -/
structure InEra (dayOfEra century span year day : Int) : Prop where
  isDay : dayOfEra = 36524 * century + 1461 * span + 365 * year + day
  centuries : 0 ≤ century ∧ century < 4
  spans : 0 ≤ span ∧ span < 25
  years : 0 ≤ year ∧ year < 4
  days : 0 ≤ day ∧ day ≤ 365
  leap : day = 365 → year = 3 ∧ (span = 24 → century = 3)

theorem exists_inEra {dayOfEra : Int} (first : 0 ≤ dayOfEra) (last : dayOfEra < 146097) :
    ∃ century span year day, InEra dayOfEra century span year day := by
  obtain ⟨century, isCentury⟩ : ∃ century, century = min (dayOfEra / 36524) 3 := ⟨_, rfl⟩
  obtain ⟨inCentury, isInCentury⟩ :
      ∃ inCentury, inCentury = dayOfEra - 36524 * century := ⟨_, rfl⟩
  obtain ⟨span, isSpan⟩ : ∃ span, span = inCentury / 1461 := ⟨_, rfl⟩
  obtain ⟨inSpan, isInSpan⟩ : ∃ inSpan, inSpan = inCentury - 1461 * span := ⟨_, rfl⟩
  obtain ⟨year, isYear⟩ : ∃ year, year = min (inSpan / 365) 3 := ⟨_, rfl⟩
  have centuries : 0 ≤ inCentury ∧ inCentury ≤ 36524 ∧ (inCentury = 36524 → century = 3) ∧
      0 ≤ century ∧ century < 4 := by omega
  have spans : 0 ≤ inSpan ∧ inSpan ≤ 1460 ∧ 0 ≤ span ∧ span < 25 ∧
      (inSpan = 1460 → span = 24 → century = 3) := by omega
  refine ⟨century, span, year, inSpan - 365 * year, ?_, ?_, ?_, ?_, ?_, ?_⟩ <;> omega

section InEra

variable {dayOfEra century span year day : Int} (inEra : InEra dayOfEra century span year day)

include inEra

theorem InEra.leapCenturies : dayOfEra / 36524 - dayOfEra / 146096 = century := by
  obtain ⟨isDay, centuries, spans, years, days, leap⟩ := inEra
  obtain ⟨inCentury, isInCentury⟩ : ∃ inCentury, inCentury = 1461 * span + 365 * year + day :=
    ⟨_, rfl⟩
  have isDayOf : dayOfEra = 36524 * century + inCentury := by linarith
  clear isDay
  have bound : 0 ≤ inCentury ∧ (inCentury < 36524 ∨ (inCentury = 36524 ∧ century = 3)) := by omega
  clear isInCentury leap
  rcases bound with ⟨low, inside | ⟨rfl, rfl⟩⟩
  · have isCentury : dayOfEra / 36524 = century := by omega
    have notLast : dayOfEra / 146096 = 0 := by omega
    rw [isCentury, notLast, Int.sub_zero]
  · subst isDayOf
    rfl

/-- Of the spans before the day and of the one around it, those count that hold more days
than four years without a leap day. -/
theorem InEra.leapSpans : ∃ extra,
    dayOfEra / 1460 = 25 * century + span + extra ∧ 0 ≤ day - extra ∧ day - extra ≤ 364 := by
  obtain ⟨rfl, centuries, spans, years, days, leap⟩ := inEra
  obtain ⟨inYears, isInYears⟩ : ∃ inYears, inYears = 24 * century + span + 365 * year + day :=
    ⟨_, rfl⟩
  have isDay : 36524 * century + 1461 * span + 365 * year + day =
      inYears + (25 * century + span) * 1460 := by linarith
  refine ⟨inYears / 1460, ?_, ?_⟩
  · rw [isDay, Int.add_mul_ediv_right _ _ (by decide), Int.add_comm]
  · have bounds : 0 ≤ inYears ∧ inYears < 2920 := by omega
    have first : day = 0 → inYears < 1460 := by omega
    have last : day = 365 → 1460 ≤ inYears := by omega
    clear isInYears isDay leap
    omega

theorem InEra.yearOfEra :
    (dayOfEra - dayOfEra / 1460 + dayOfEra / 36524 - dayOfEra / 146096) / 365 =
      100 * century + 4 * span + year := by
  obtain ⟨extra, isSpans, first, last⟩ := inEra.leapSpans
  have isCenturies := inEra.leapCenturies
  have isDay := inEra.isDay
  have shifted : dayOfEra - dayOfEra / 1460 + dayOfEra / 36524 - dayOfEra / 146096 =
      (day - extra) + (100 * century + 4 * span + year) * 365 := by linarith
  rw [shifted, Int.add_mul_ediv_right _ _ (by decide), Int.ediv_eq_zero_of_lt first (by omega),
    Int.zero_add]

theorem InEra.daysBefore :
    365 * (100 * century + 4 * span + year) + (100 * century + 4 * span + year) / 4 -
      (100 * century + 4 * span + year) / 100 + day = dayOfEra := by
  obtain ⟨rfl, centuries, spans, years, days, leap⟩ := inEra
  have fours : (100 * century + 4 * span + year) / 4 = 25 * century + span := by omega
  have hundreds : (100 * century + 4 * span + year) / 100 = century := by omega
  rw [fours, hundreds]
  omega

/-- A year with a 366th day ends in a February with a leap day. -/
theorem InEra.isLeap (last : day = 365) (era : Int) :
    isLeap (100 * century + 4 * span + year + era * 400 + 1) := by
  obtain ⟨-, centuries, spans, years, -, leap⟩ := inEra
  obtain ⟨rfl, ofCentury⟩ := leap last
  clear last leap
  rw [isLeap_iff]
  by_cases ends : span = 24
  · obtain rfl := ofCentury ends
    subst ends
    exact .inr (by omega)
  · exact .inl ⟨by omega, by omega⟩

end InEra

/-! ## Days of a year -/

/-- The date of a day of a year that starts in March. -/
def ofDayOfYear (year : Int) (day : Nat) : Date :=
  let shiftedMonth := (5 * day + 2) / 153
  let month := if shiftedMonth < 10 then shiftedMonth + 3 else shiftedMonth - 9
  ⟨if month ≤ 2 then year + 1 else year, month, (day - daysBeforeMonth shiftedMonth) + 1⟩

section OfDayOfYear

variable (year : Int) {day : Nat} (bound : day ≤ 365)

include bound

theorem valid_ofDayOfYear (leap : day = 365 → isLeap (year + 1)) :
    (ofDayOfYear year day).valid := by
  obtain ⟨month, isMonth⟩ : ∃ month, month = (5 * day + 2) / 153 := ⟨_, rfl⟩
  have months : month < 12 := by omega
  unfold ofDayOfYear
  rw [← isMonth]
  by_cases february : month = 11
  · subst february
    by_cases last : day = 365
    · subst last
      simp [valid, daysBeforeMonth, daysInMonth, leap rfl]
    · have days : day - 337 + 1 ≤ 28 := by omega
      have most : (if Time.isLeap (year + 1) then 29 else 28) ≥ 28 := by split <;> decide
      simp [valid, daysBeforeMonth, daysInMonth]
      omega
  · interval_cases month <;> simp [valid, daysBeforeMonth, daysInMonth] <;> omega

/-- The days of a date are those of the whole years before it and those of its own. -/
theorem toDays_ofDayOfYear : (ofDayOfYear year day).toDays =
    year / 400 * 146097 + ((year - year / 400 * 400) * 365 + (year - year / 400 * 400) / 4 -
      (year - year / 400 * 400) / 100 + day) - 719468 := by
  obtain ⟨month, isMonth⟩ : ∃ month, month = (5 * day + 2) / 153 := ⟨_, rfl⟩
  have months : month < 12 := by omega
  have before : daysBeforeMonth month ≤ day := by
    unfold daysBeforeMonth
    omega
  have isYear : (if (ofDayOfYear year day).month ≤ 2 then (ofDayOfYear year day).year - 1
      else (ofDayOfYear year day).year) = year := by
    unfold ofDayOfYear
    dsimp only
    split <;> omega
  have isShifted : ((ofDayOfYear year day).month + 9) % 12 = month := by
    unfold ofDayOfYear
    dsimp only
    rw [← isMonth]
    split <;> omega
  have isDay : (daysBeforeMonth month : Int) + ((ofDayOfYear year day).day - 1 : Nat) = day := by
    unfold ofDayOfYear
    dsimp only
    rw [← isMonth]
    omega
  unfold toDays
  dsimp only
  rw [isYear, isShifted, isDay]

end OfDayOfYear

/-! ## Dates of days -/

theorem ofDays_eq {days era dayOfEra century span year day : Int}
    (isDays : days + 719468 = era * 146097 + dayOfEra)
    (inEra : InEra dayOfEra century span year day) :
    ofDays days = ofDayOfYear (100 * century + 4 * span + year + era * 400) day.toNat := by
  have bounds : 0 ≤ dayOfEra ∧ dayOfEra < 146097 := by
    obtain ⟨rfl, centuries, spans, years, days, leap⟩ := inEra
    omega
  have isEra : (days + 719468) / 146097 = era := by omega
  have isDayOfEra : days + 719468 - era * 146097 = dayOfEra := by omega
  have isDay : dayOfEra - (365 * (100 * century + 4 * span + year) +
      (100 * century + 4 * span + year) / 4 - (100 * century + 4 * span + year) / 100) = day := by
    have total := inEra.daysBefore
    linarith
  have isMonth : ((5 * day + 2) / 153).toNat = (5 * day.toNat + 2) / 153 := by
    have days := inEra.days
    omega
  unfold ofDays
  dsimp only
  rw [isEra, isDayOfEra, inEra.yearOfEra, isDay, isMonth]
  rfl

section OfDays

variable (days : Int)

theorem exists_ofDays : ∃ era dayOfEra century span year day,
    days + 719468 = era * 146097 + dayOfEra ∧ InEra dayOfEra century span year day := by
  obtain ⟨century, span, year, day, inEra⟩ :=
    exists_inEra (Int.emod_nonneg (days + 719468) (by decide))
      (Int.emod_lt_of_pos (days + 719468) (by decide))
  exact ⟨(days + 719468) / 146097, (days + 719468) % 146097, century, span, year, day,
    by omega, inEra⟩

/-- The date of a number of days is in the calendar. -/
theorem valid_ofDays : (ofDays days).valid := by
  obtain ⟨era, dayOfEra, century, span, year, day, isDays, inEra⟩ := exists_ofDays days
  have bounds := inEra.days
  rw [ofDays_eq isDays inEra]
  refine valid_ofDayOfYear _ (by omega) fun last => inEra.isLeap (by omega) era

/-- The date of a number of days lies that many days after the first one. -/
theorem toDays_ofDays : (ofDays days).toDays = days := by
  obtain ⟨era, dayOfEra, century, span, year, day, isDays, inEra⟩ := exists_ofDays days
  have bounds := inEra.days
  have total := inEra.daysBefore
  have years : 0 ≤ 100 * century + 4 * span + year ∧ 100 * century + 4 * span + year < 400 := by
    obtain ⟨-, centuries, spans, years, -, -⟩ := inEra
    omega
  have isEra : (100 * century + 4 * span + year + era * 400) / 400 = era := by omega
  rw [ofDays_eq isDays inEra, toDays_ofDayOfYear _ (by omega), isEra, Int.add_sub_cancel,
    Int.toNat_of_nonneg bounds.1]
  linarith

end OfDays

end CertPress.Time.Date
