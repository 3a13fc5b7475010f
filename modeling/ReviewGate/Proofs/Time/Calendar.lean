import ReviewGate.Time.Calendar

/-!
# Dates of days

A day has a date of the calendar, and the date leads back to the day.  An era of 400 years has three
centuries of 36524 days and one of 36525; a century is counted in spans of four years, which have
1461 days but for the last one of most centuries.
-/

namespace ReviewGate

/-! ## Days of an era -/

/-- The place of a day in its era: a century, a span of four years, a year of the span and a day of
that year.  Only a year that ends a span has a day of number 365, and the last year of a century has
it only in the last century. -/
structure PlaceInEra (dayOfEra century span year day : Nat) : Prop where
  fewCenturies : century ≤ 3
  fewSpans : span ≤ 24
  fewYears : year ≤ 3
  fewDays : day ≤ 365
  leap : day = 365 → year = 3 ∧ (span = 24 → century = 3)
  sum : dayOfEra = 36524 * century + 1461 * span + 365 * year + day

theorem exists_placeInEra {dayOfEra : Nat} (inEra : dayOfEra < 146097) :
    ∃ century span year day, PlaceInEra dayOfEra century span year day := by
  obtain ⟨century, fewCenturies, rest, inCentury, first⟩ : ∃ century, century ≤ 3 ∧
      ∃ rest, (rest < 36524 ∨ century = 3 ∧ rest = 36524) ∧
        dayOfEra = 36524 * century + rest := by
    by_cases last : dayOfEra < 146096
    · exact ⟨dayOfEra / 36524, by omega, dayOfEra % 36524, by omega, by omega⟩
    · exact ⟨3, by omega, 36524, by omega, by omega⟩
  obtain ⟨span, fewSpans, left, inSpan, second⟩ : ∃ span, span ≤ 24 ∧
      ∃ left, (left < 1461 ∧ (span = 24 → left < 1460 ∨ century = 3)) ∧
        rest = 1461 * span + left :=
    ⟨rest / 1461, by omega, rest % 1461, by omega, by omega⟩
  by_cases last : left = 1460
  · exact ⟨century, span, 3, 365, fewCenturies, fewSpans, by omega, by omega, by omega, by omega⟩
  · exact ⟨century, span, left / 365, left % 365, fewCenturies, fewSpans, by omega, by omega,
      by omega, by omega⟩

namespace PlaceInEra

variable {dayOfEra century span year day : Nat}

theorem yearOfEra (place : PlaceInEra dayOfEra century span year day) :
    (dayOfEra - dayOfEra / 1460 + dayOfEra / 36524 - dayOfEra / 146096) / 365 =
      100 * century + 4 * span + year := by
  obtain ⟨fewCenturies, fewSpans, fewYears, fewDays, leap, sum⟩ := place
  have spans : dayOfEra / 1460 =
      25 * century + span + (24 * century + span + 365 * year + day) / 1460 := by
    omega
  have cases : century = 0 ∨ century = 1 ∨ century = 2 ∨ century = 3 := by omega
  rw [spans]
  generalize carried : (24 * century + span + 365 * year + day) / 1460 = carry
  have small : carry ≤ 1 := by omega
  by_cases last : dayOfEra = 146096
  · omega
  · have centuries : dayOfEra / 36524 = century := by omega
    have none : dayOfEra / 146096 = 0 := by omega
    rw [centuries, none]
    omega

theorem daysBefore (place : PlaceInEra dayOfEra century span year day) :
    365 * (100 * century + 4 * span + year) + (100 * century + 4 * span + year) / 4 -
        (100 * century + 4 * span + year) / 100 =
      36524 * century + 1461 * span + 365 * year := by
  obtain ⟨fewCenturies, fewSpans, fewYears, -, -, -⟩ := place
  have fourths : (100 * century + 4 * span + year) / 4 = 25 * century + span := by omega
  have hundredths : (100 * century + 4 * span + year) / 100 = century := by omega
  rw [fourths, hundredths]
  omega

theorem yearOfEra_lt (place : PlaceInEra dayOfEra century span year day) :
    100 * century + 4 * span + year < 400 := by
  have fewCenturies := place.fewCenturies
  have fewSpans := place.fewSpans
  have fewYears := place.fewYears
  omega

end PlaceInEra

/-! ## Months of a year -/

/-- Months are counted from March.  The last one has 29 days only where the year has a day of number
365. -/
structure MonthOfDay (day month : Nat) : Prop where
  fewMonths : month ≤ 11
  started : (153 * month + 2) / 5 ≤ day
  short : month = 1 ∨ month = 3 ∨ month = 6 ∨ month = 8 → day - (153 * month + 2) / 5 + 1 ≤ 30
  long : day - (153 * month + 2) / 5 + 1 ≤ 31
  last : month = 11 → day - (153 * month + 2) / 5 + 1 ≤ 29 ∧
    (day < 365 → day - (153 * month + 2) / 5 + 1 ≤ 28)

theorem monthOfDay {day : Nat} (inYear : day ≤ 365) : MonthOfDay day ((5 * day + 2) / 153) := by
  generalize found : (5 * day + 2) / 153 = month
  have months : month = 0 ∨ month = 1 ∨ month = 2 ∨ month = 3 ∨ month = 4 ∨ month = 5 ∨
      month = 6 ∨ month = 7 ∨ month = 8 ∨ month = 9 ∨ month = 10 ∨ month = 11 := by
    omega
  rcases months with rfl | rfl | rfl | rfl | rfl | rfl | rfl | rfl | rfl | rfl | rfl | rfl <;>
    constructor <;> omega

namespace Day

/-- Year, month and day of a day whose place in its era is known. -/
theorem toDate_of_place {day : Day} {century span year dayOfYear : Nat}
    (place : PlaceInEra ((day.number + 719468) % 146097).toNat century span year dayOfYear) :
    day.toDate =
      if (5 * dayOfYear + 2) / 153 < 10 then
        ⟨(day.number + 719468) / 146097 * 400 + (100 * century + 4 * span + year : Nat),
          (5 * dayOfYear + 2) / 153 + 3,
          dayOfYear - (153 * ((5 * dayOfYear + 2) / 153) + 2) / 5 + 1⟩
      else
        ⟨(day.number + 719468) / 146097 * 400 + (100 * century + 4 * span + year : Nat) + 1,
          (5 * dayOfYear + 2) / 153 - 9,
          dayOfYear - (153 * ((5 * dayOfYear + 2) / 153) + 2) / 5 + 1⟩ := by
  have before := place.daysBefore
  have left : ((day.number + 719468) % 146097).toNat -
      (36524 * century + 1461 * span + 365 * year) = dayOfYear := by
    rw [place.sum]
    omega
  have fewMonths := (monthOfDay place.fewDays).fewMonths
  unfold toDate
  simp only [place.yearOfEra, before, left]
  split
  · rename_i early
    rw [if_neg (by omega)]
  · rename_i late
    rw [if_pos (by omega)]

/-- A year from March is told by its era and its place in the era. -/
theorem number_of_era (era : Int) {yearOfEra before : Nat} (dayOfYear : Nat)
    (inEra : yearOfEra < 400)
    (elapsed : 365 * yearOfEra + yearOfEra / 4 - yearOfEra / 100 = before) :
    (era * 400 + yearOfEra) / 400 * 146097 +
        ((era * 400 + yearOfEra) % 400 * 365 + (era * 400 + yearOfEra) % 400 / 4 -
          (era * 400 + yearOfEra) % 400 / 100 + dayOfYear) - 719468 =
      era * 146097 + (before + dayOfYear) - 719468 := by
  have quotient : (era * 400 + yearOfEra) / 400 = era := by omega
  have remainder : (era * 400 + yearOfEra) % 400 = yearOfEra := by omega
  rw [quotient, remainder]
  omega

/-- The date of a day leads back to the day. -/
theorem ofDate_toDate (day : Day) : ofDate day.toDate = day := by
  have inEra : ((day.number + 719468) % 146097).toNat < 146097 := by omega
  obtain ⟨century, span, year, dayOfYear, place⟩ := exists_placeInEra inEra
  have total := number_of_era ((day.number + 719468) / 146097) dayOfYear place.yearOfEra_lt
    place.daysBefore
  have same : (day.number + 719468) / 146097 * 146097 +
      ((36524 * century + 1461 * span + 365 * year : Nat) + dayOfYear) - 719468 = day.number := by
    have sum := place.sum
    omega
  obtain ⟨fewMonths, started, -, -, -⟩ := monthOfDay place.fewDays
  rw [toDate_of_place place]
  generalize (5 * dayOfYear + 2) / 153 = month at fewMonths started
  have again : (153 * month + 2) / 5 + (dayOfYear - (153 * month + 2) / 5 + 1 - 1) = dayOfYear := by
    omega
  split
  · rename_i early
    have back : (month + 3 + 9) % 12 = month := by omega
    unfold ofDate
    dsimp only
    rw [if_neg (by omega), back, again, total, same]
  · rename_i late
    have back : (month - 9 + 9) % 12 = month := by omega
    unfold ofDate
    dsimp only
    rw [if_pos (by omega), back, again, Int.add_sub_cancel, total, same]

/-- The date of a day is one of the calendar. -/
theorem isValid_toDate (day : Day) : day.toDate.isValid = true := by
  have inEra : ((day.number + 719468) % 146097).toNat < 146097 := by omega
  obtain ⟨century, span, year, dayOfYear, place⟩ := exists_placeInEra inEra
  obtain ⟨fewMonths, started, short, long, last⟩ := monthOfDay place.fewDays
  rw [toDate_of_place place]
  generalize (5 * dayOfYear + 2) / 153 = month at fewMonths started short long last
  generalize (day.number + 719468) / 146097 = era
  have leapYear : dayOfYear = 365 →
      CalendarDate.isLeapYear (era * 400 + (100 * century + 4 * span + year : Nat) + 1) = true := by
    intro full
    obtain ⟨rfl, lastCentury⟩ := place.leap full
    have fewSpans := place.fewSpans
    unfold CalendarDate.isLeapYear
    rw [Bool.and_eq_true, Bool.or_eq_true, decide_eq_true_eq, decide_eq_true_eq, bne_iff_ne]
    refine ⟨by omega, ?_⟩
    by_cases ends : span = 24
    · have last := lastCentury ends
      exact .inr (by omega)
    · exact .inl (by omega)
  have fewDays := place.fewDays
  split
  · rename_i early
    have known : month + 3 ≠ 2 := by omega
    simp only [CalendarDate.isValid, CalendarDate.daysInMonth, if_neg known, Bool.and_eq_true,
      decide_eq_true_eq]
    refine ⟨⟨⟨by omega, by omega⟩, by omega⟩, ?_⟩
    split
    · rename_i thirty
      exact short (by omega)
    · exact long
  · rename_i late
    simp only [CalendarDate.isValid, CalendarDate.daysInMonth, Bool.and_eq_true,
      decide_eq_true_eq]
    refine ⟨⟨⟨by omega, by omega⟩, by omega⟩, ?_⟩
    by_cases february : month = 11
    · obtain ⟨atMost, ordinary⟩ := last february
      rw [if_pos (by omega)]
      by_cases full : dayOfYear = 365
      · rw [leapYear full]
        exact atMost
      · have fewer := ordinary (by omega)
        split <;> omega
    · rw [if_neg (by omega), if_neg (by omega)]
      exact long

end Day

end ReviewGate
