import ReviewGate.Time.Instant
import ReviewGate.Text.Blank

/-!
# Reading instants

A date and a time of day, separated by `T` or a blank, and an offset from UTC.  Blanks are allowed
around every part.
-/

namespace ReviewGate.Instant

def skipBlanks (letters : List Char) : List Char := letters.dropWhile Text.isBlank

/-- At most some digits at the front, at least one. -/
def digitsUpTo? (most : Nat) (letters : List Char) : Option (Nat × List Char) :=
  let digits := (letters.take most).takeWhile Number.isDigit
  if digits.isEmpty then none else some (Number.naturalValue digits, letters.drop digits.length)

/-- A number of at most two digits behind blanks. -/
def pair? (letters : List Char) : Option (Nat × List Char) :=
  digitsUpTo? 2 (skipBlanks letters)

/-- A year of at most four digits, or of any number of digits behind a sign. -/
def year? (letters : List Char) : Option (Int × List Char) :=
  match skipBlanks letters with
  | '-' :: rest => (digitsUpTo? rest.length rest).map fun found => (-Int.ofNat found.1, found.2)
  | '+' :: rest => (digitsUpTo? rest.length rest).map fun found => (Int.ofNat found.1, found.2)
  | letters => (digitsUpTo? 4 letters).map fun found => (Int.ofNat found.1, found.2)

def mark? (mark : Char) (letters : List Char) : Option (List Char) :=
  match skipBlanks letters with
  | letter :: rest => if letter = mark then some rest else none
  | [] => none

/-- A fraction in nanoseconds; digits after the ninth are dropped. -/
def fraction? : List Char → Option (Nat × List Char)
  | '.' :: rest =>
      let (digits, rest) := Number.spanDigits rest
      if digits.isEmpty then none
      else
        let kept := digits.take 9
        some (Number.naturalValue kept * Nat.pow 10 (9 - kept.length), rest)
  | letters => some (0, letters)

def twoDigits? : List Char → Option (Nat × List Char)
  | first :: second :: rest =>
      if Number.isDigit first && Number.isDigit second then
        some (Number.naturalValue [first, second], rest)
      else none
  | _ => none

/-- Seconds east of UTC. -/
def offset? (letters : List Char) : Option (Int × List Char) :=
  match letters with
  | 'Z' :: rest | 'z' :: rest => some (0, rest)
  | _ =>
      if String.ofList ((letters.take 3).map Char.toLower) = "utc" then some (0, letters.drop 3)
      else do
        let (sign, rest) ← match letters with
          | '+' :: rest => some ((1 : Int), rest)
          | '-' :: rest => some (-1, rest)
          | mark :: rest => if mark.toNat = 0x2212 then some (-1, rest) else none
          | [] => none
        let (hours, rest) ← twoDigits? rest
        let rest := rest.dropWhile fun letter => letter == ':' || Text.isBlank letter
        let (minutes, rest) ← twoDigits? rest
        if minutes < 60 ∧ hours < 24 then
          some (sign * (hours * 3600 + minutes * 60 : Nat), rest)
        else none

/-- The instant a text stands for. -/
def ofText? (text : String) : Option Instant := do
  let (year, rest) ← year? text.toList
  let rest ← mark? '-' rest
  let (month, rest) ← pair? rest
  let rest ← mark? '-' rest
  let (day, rest) ← pair? rest
  let rest ← match rest with
    | 'T' :: rest | 't' :: rest | ' ' :: rest => some rest
    | _ => none
  let (hour, rest) ← pair? rest
  let rest ← mark? ':' rest
  let (minute, rest) ← pair? rest
  let rest ← mark? ':' rest
  let (second, rest) ← pair? rest
  let (nanos, rest) ← fraction? rest
  let (offset, rest) ← offset? (skipBlanks rest)
  let date : CalendarDate := ⟨year, month, day⟩
  let time := hour * 3600 + minute * 60 + min second 59
  let instant : Instant :=
    ⟨(Day.ofDate date).number * 86400 + time - offset,
      nanos + (if second = 60 then nanosPerSecond else 0)⟩
  if (skipBlanks rest).isEmpty && date.isValid && decide (hour < 24) && decide (minute < 60) &&
      decide (second ≤ 60) && instant.inCalendar then some instant
  else none

end ReviewGate.Instant
