import ReviewGate.Number.Reader

/-!
# Calendar days

A day is the number of days since 1 January 1970 in the proleptic Gregorian calendar.
-/

namespace ReviewGate

/-- Days since 1 January 1970. -/
structure Day where
  number : Int
  deriving DecidableEq, Repr, Inhabited

/-- A year, a month from 1 and a day of the month from 1. -/
structure CalendarDate where
  year : Int
  month : Nat
  day : Nat
  deriving DecidableEq, Repr

namespace CalendarDate

def isLeapYear (year : Int) : Bool :=
  year % 4 = 0 && (year % 100 != 0 || year % 400 = 0)

def daysInMonth (year : Int) (month : Nat) : Nat :=
  if month = 2 then if isLeapYear year then 29 else 28
  else if month = 4 ∨ month = 6 ∨ month = 9 ∨ month = 11 then 30
  else 31

/-- The month exists and has that day. -/
def isValid (date : CalendarDate) : Bool :=
  decide (1 ≤ date.month) && decide (date.month ≤ 12) && decide (1 ≤ date.day) &&
    decide (date.day ≤ daysInMonth date.year date.month)

end CalendarDate

namespace Day

instance : LT Day := ⟨fun first second => first.number < second.number⟩
instance : LE Day := ⟨fun first second => first.number ≤ second.number⟩
instance (first second : Day) : Decidable (first < second) :=
  inferInstanceAs (Decidable (first.number < second.number))
instance (first second : Day) : Decidable (first ≤ second) :=
  inferInstanceAs (Decidable (first.number ≤ second.number))

/-- The day of a date.  Years are counted from March, so that a leap day ends its year. -/
def ofDate (date : CalendarDate) : Day :=
  let year := if date.month ≤ 2 then date.year - 1 else date.year
  let era := year / 400
  let yearOfEra := year % 400
  let fromMarch := (date.month + 9) % 12
  let dayOfYear := (153 * fromMarch + 2) / 5 + (date.day - 1)
  let dayOfEra := yearOfEra * 365 + yearOfEra / 4 - yearOfEra / 100 + dayOfYear
  ⟨era * 146097 + dayOfEra - 719468⟩

/-- The date of a day. -/
def toDate (day : Day) : CalendarDate :=
  let shifted := day.number + 719468
  let era := shifted / 146097
  let dayOfEra := (shifted % 146097).toNat
  let yearOfEra :=
    (dayOfEra - dayOfEra / 1460 + dayOfEra / 36524 - dayOfEra / 146096) / 365
  let dayOfYear := dayOfEra - (365 * yearOfEra + yearOfEra / 4 - yearOfEra / 100)
  let fromMarch := (5 * dayOfYear + 2) / 153
  let month := if fromMarch < 10 then fromMarch + 3 else fromMarch - 9
  let year := era * 400 + yearOfEra
  ⟨if month ≤ 2 then year + 1 else year, month, dayOfYear - (153 * fromMarch + 2) / 5 + 1⟩

end Day

/-- A number filled up with zeros on the left. -/
def zeroPadded (width value : Nat) : String :=
  let digits := toString value
  String.ofList (List.replicate (width - digits.length) '0') ++ digits

/-- Four digits; a year outside 0 to 9999 has a sign. -/
def yearText (year : Int) : String :=
  if 0 ≤ year ∧ year ≤ 9999 then zeroPadded 4 year.toNat
  else (if year < 0 then "-" else "+") ++ zeroPadded 4 year.natAbs

/-- The text `YYYY-MM-DD` of a day. -/
def Day.toText (day : Day) : String :=
  let date := day.toDate
  yearText date.year ++ "-" ++ zeroPadded 2 date.month ++ "-" ++ zeroPadded 2 date.day

end ReviewGate
