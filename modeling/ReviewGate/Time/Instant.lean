import ReviewGate.Time.Calendar

/-!
# Instants

An instant is a number of seconds since the start of 1970 with a fraction in nanoseconds.  A
fraction of a second or more lies in the leap second that follows the given second.
-/

namespace ReviewGate

structure Instant where
  seconds : Int
  nanos : Nat
  deriving DecidableEq, Repr, Inhabited

/-- A length of time: seconds, and nanoseconds below one second added to them. -/
structure Span where
  seconds : Int
  nanos : Nat
  deriving DecidableEq, Repr

namespace Span

/-- Complete seconds, toward zero. -/
def wholeSeconds (span : Span) : Int :=
  if span.seconds < 0 ∧ 0 < span.nanos then span.seconds + 1 else span.seconds

/-- Complete milliseconds, toward zero. -/
def wholeMillis (span : Span) : Int :=
  if span.seconds < 0 ∧ 0 < span.nanos then
    (span.seconds + 1) * 1000 - ((1000000000 - span.nanos) / 1000000 : Nat)
  else span.seconds * 1000 + (span.nanos / 1000000 : Nat)

/-- Complete days, toward zero. -/
def wholeDays (span : Span) : Int := span.wholeSeconds.tdiv 86400

end Span

namespace Instant

/-- Seconds first, then the fraction. -/
def before (first second : Instant) : Bool :=
  decide (first.seconds < second.seconds) ||
    (decide (first.seconds = second.seconds) && decide (first.nanos < second.nanos))

instance : LT Instant := ⟨fun first second => first.before second = true⟩
instance : LE Instant := ⟨fun first second => second.before first = false⟩
instance (first second : Instant) : Decidable (first < second) :=
  inferInstanceAs (Decidable (first.before second = true))
instance (first second : Instant) : Decidable (first ≤ second) :=
  inferInstanceAs (Decidable (second.before first = false))

/-- The later of two instants. -/
def latest (first second : Instant) : Instant := if first < second then second else first

def ofSeconds (seconds : Int) : Instant := ⟨seconds, 0⟩

/-- The second of the day, a leap second counting as the one before it. -/
def secondOfDay (instant : Instant) : Int := instant.seconds % 86400

def day (instant : Instant) : Day := ⟨instant.seconds / 86400⟩

def nanosPerSecond : Nat := 1000000000

/-- The time from one instant to a later one.  A leap second counts if it lies between the two
times of day. -/
def since (later earlier : Instant) : Span :=
  let leap : Int :=
    if earlier.secondOfDay < later.secondOfDay then
      if nanosPerSecond ≤ earlier.nanos then 1 else 0
    else if later.secondOfDay < earlier.secondOfDay then
      if nanosPerSecond ≤ later.nanos then -1 else 0
    else 0
  let nanos := (later.nanos : Int) - earlier.nanos
  ⟨later.seconds - earlier.seconds + leap + nanos / nanosPerSecond,
    (nanos % nanosPerSecond).toNat⟩

/-- The instant some seconds away; leaving a leap second loses it. -/
def addSeconds (instant : Instant) (seconds : Int) : Instant :=
  if instant.nanos < nanosPerSecond ∨ seconds = 0 then
    ⟨instant.seconds + seconds, instant.nanos⟩
  else if 0 < seconds then ⟨instant.seconds + seconds, instant.nanos - nanosPerSecond⟩
  else ⟨instant.seconds + 1 + seconds, instant.nanos - nanosPerSecond⟩

/-- The calendar ends with the year 262142 and starts with the year -262143. -/
def inCalendar (instant : Instant) : Bool :=
  decide ((Day.ofDate ⟨-262143, 1, 1⟩).number * 86400 ≤ instant.seconds) &&
    decide (instant.seconds < ((Day.ofDate ⟨262142, 12, 31⟩).number + 1) * 86400)

/-- The instant some hours away, if the calendar reaches it. -/
def addHours? (instant : Instant) (hours : Int) : Option Instant :=
  let moved := instant.addSeconds (hours * 3600)
  if moved.inCalendar then some moved else none

@[simp]
theorem before_irrefl (instant : Instant) : instant.before instant = false := by
  simp [before]

/-! ## Text -/

def fractionText (nanos : Nat) : String :=
  if nanos = 0 then ""
  else if nanos % 1000000 = 0 then "." ++ zeroPadded 3 (nanos / 1000000)
  else if nanos % 1000 = 0 then "." ++ zeroPadded 6 (nanos / 1000)
  else "." ++ zeroPadded 9 nanos

/-- Date and time of day in UTC, the fraction in as few groups of three digits as it needs. -/
def toText (instant : Instant) : String :=
  let time := instant.secondOfDay.toNat
  let leap := instant.nanos / nanosPerSecond
  instant.day.toText ++ "T" ++ zeroPadded 2 (time / 3600) ++ ":" ++
    zeroPadded 2 (time / 60 % 60) ++ ":" ++ zeroPadded 2 (time % 60 + leap) ++
    fractionText (instant.nanos % nanosPerSecond) ++ "Z"

end Instant

end ReviewGate
