import ReviewGate.Proofs.Time.Calendar
import ReviewGate.Time.Reader

/-!
# Instants and their text

The text of an instant is read back as that instant.
-/

namespace ReviewGate

/-! ## Digits -/

namespace Number

theorem naturalValue_eq (digits : List Char) :
    naturalValue digits = Nat.ofDigitChars 10 digits 0 := rfl

end Number

theorem toList_zeroPadded (width value : Nat) :
    (zeroPadded width value).toList =
      List.replicate (width - (Nat.toDigits 10 value).length) '0' ++ Nat.toDigits 10 value := by
  have digits : (toString value).toList = Nat.toDigits 10 value := by
    rw [Nat.toString_eq_ofList_toDigits, String.toList_ofList]
  simp only [zeroPadded, String.toList_append, String.toList_ofList, ← String.length_toList, digits]

/-- Letters that are all digits, at least one. -/
structure AreDigits (letters : List Char) : Prop where
  digits : ∀ letter ∈ letters, Number.isDigit letter = true
  some : letters ≠ []

theorem areDigits_zeroPadded (width value : Nat) : AreDigits (zeroPadded width value).toList := by
  rw [toList_zeroPadded]
  constructor
  · intro letter membership
    rcases List.mem_append.mp membership with padding | digit
    · rw [List.eq_of_mem_replicate padding]
      rfl
    · exact Nat.isDigit_of_mem_toDigits (by decide) (by decide) digit
  · simp

@[simp]
theorem naturalValue_zeroPadded (width value : Nat) :
    Number.naturalValue (zeroPadded width value).toList = value := by
  rw [toList_zeroPadded, Number.naturalValue_eq, Nat.ofDigitChars_append,
    Nat.ofDigitChars_replicate_zero, Nat.mul_zero, Nat.ofDigitChars_ten_toDigits]

theorem length_zeroPadded {width value : Nat} (positive : 0 < width)
    (fits : value < Nat.pow 10 width) : (zeroPadded width value).toList.length = width := by
  have short := (Nat.length_toDigits_le_iff (by decide) positive).mpr fits
  rw [toList_zeroPadded, List.length_append, List.length_replicate]
  omega

/-! ## Reading the parts -/

namespace Instant

/-- No digit stands at the front. -/
def StopsDigits (letters : List Char) : Prop :=
  ∀ letter, letters.head? = some letter → Number.isDigit letter = false

theorem stopsDigits_cons {letter : Char} (other : Number.isDigit letter = false)
    (rest : List Char) : StopsDigits (letter :: rest) := by
  rintro _ ⟨⟩
  exact other

theorem takeWhile_digits {digits rest : List Char} (are : AreDigits digits)
    (stops : StopsDigits rest) : (digits ++ rest).takeWhile Number.isDigit = digits := by
  rw [List.takeWhile_append_of_pos are.digits]
  cases rest with
  | nil => simp
  | cons letter rest => rw [List.takeWhile_cons, stops letter rfl]; simp

theorem spanDigits_append {digits rest : List Char} (are : AreDigits digits)
    (stops : StopsDigits rest) : Number.spanDigits (digits ++ rest) = (digits, rest) := by
  have left : (digits ++ rest).dropWhile Number.isDigit = rest := by
    rw [List.dropWhile_append_of_pos are.digits]
    cases rest with
    | nil => rfl
    | cons letter rest => rw [List.dropWhile_cons, stops letter rfl]; simp
  rw [Number.spanDigits, takeWhile_digits are stops, left]

/-- A run of digits is read as far as it goes, or up to its bound. -/
theorem digitsUpTo?_append {most : Nat} {digits rest : List Char} (are : AreDigits digits)
    (fits : digits.length ≤ most) (ends : digits.length = most ∨ StopsDigits rest) :
    digitsUpTo? most (digits ++ rest) = some (Number.naturalValue digits, rest) := by
  have read : ((digits ++ rest).take most).takeWhile Number.isDigit = digits := by
    rw [List.take_append, List.take_of_length_le fits]
    refine takeWhile_digits are ?_
    rcases ends with full | stops
    · simp [full, StopsDigits]
    · intro letter first
      rw [List.head?_take] at first
      split at first
      · contradiction
      · exact stops letter first
  unfold digitsUpTo?
  simp [read, are.some]

theorem isBlank_of_isDigit {letter : Char} (digit : Number.isDigit letter = true) :
    Text.isBlank letter = false := by
  have code : 48 ≤ letter.toNat ∧ letter.toNat ≤ 57 := by
    rw [Number.isDigit, Bool.and_eq_true, decide_eq_true_eq, decide_eq_true_eq] at digit
    exact digit
  simp only [Text.isBlank, Text.whiteSpace, Text.Ranges.contains_cons]
  rw [if_neg (by omega), if_neg (by omega), if_neg (by omega), if_neg (by omega),
    if_pos (by omega)]

theorem skipBlanks_cons {letter : Char} (printed : Text.isBlank letter = false)
    (rest : List Char) : skipBlanks (letter :: rest) = letter :: rest := by
  simp [skipBlanks, printed]

theorem skipBlanks_append {digits rest : List Char} (are : AreDigits digits) :
    skipBlanks (digits ++ rest) = digits ++ rest := by
  cases digits with
  | nil => exact absurd rfl are.some
  | cons letter digits =>
      exact skipBlanks_cons (isBlank_of_isDigit (are.digits letter List.mem_cons_self)) _

/-- Two digits are read as the number they were written for. -/
theorem pair?_append {value : Nat} (fits : value < 100) (rest : List Char) :
    pair? ((zeroPadded 2 value).toList ++ rest) = some (value, rest) := by
  have are := areDigits_zeroPadded 2 value
  have length := length_zeroPadded (by decide : 0 < 2) fits
  unfold pair?
  rw [skipBlanks_append are, digitsUpTo?_append are (Nat.le_of_eq length) (.inl length),
    naturalValue_zeroPadded]

theorem mark?_cons {mark : Char} (printed : Text.isBlank mark = false) (rest : List Char) :
    mark? mark (mark :: rest) = some rest := by
  unfold mark?
  rw [skipBlanks_cons printed]
  simp

/-- A year is read with its sign, if it has one. -/
theorem year?_append (year : Int) {rest : List Char} (stops : StopsDigits rest) :
    year? ((yearText year).toList ++ rest) = some (year, rest) := by
  have signed : ∀ value : Nat, digitsUpTo? ((zeroPadded 4 value).toList ++ rest).length
      ((zeroPadded 4 value).toList ++ rest) = some (value, rest) := by
    intro value
    rw [digitsUpTo?_append (areDigits_zeroPadded 4 value) (by simp) (.inr stops),
      naturalValue_zeroPadded]
  unfold yearText
  split
  · rename_i inFour
    have same : (year.toNat : Int) = year := Int.toNat_of_nonneg inFour.1
    have are := areDigits_zeroPadded 4 year.toNat
    have length := length_zeroPadded (by decide : 0 < 4) (by omega : year.toNat < 10000)
    have read := digitsUpTo?_append are (Nat.le_of_eq length) (.inl length : _ ∨ StopsDigits rest)
    rw [naturalValue_zeroPadded] at read
    unfold year?
    rw [skipBlanks_append are]
    -- The first letter is a digit, hence no sign.
    generalize (zeroPadded 4 year.toNat).toList = digits at are read
    have unsigned : ∀ sign others, Number.isDigit sign = false →
        digits ++ rest ≠ sign :: others := by
      intro sign others noDigit same
      cases digits with
      | nil => exact are.some rfl
      | cons letter digits =>
          injection same with first
          rw [← first, are.digits letter List.mem_cons_self] at noDigit
          cases noDigit
    split
    · rename_i others found
      exact absurd found (unsigned '-' others (by decide))
    · rename_i others found
      exact absurd found (unsigned '+' others (by decide))
    · rw [read, Option.map_some, Int.ofNat_eq_natCast, same]
  · rename_i beyond
    split
    · rename_i negative
      simp only [String.toList_append, List.append_assoc]
      unfold year?
      rw [show "-".toList = ['-'] from rfl, List.singleton_append, skipBlanks_cons rfl]
      simp only [signed, Option.map_some]
      rw [Int.ofNat_eq_natCast, show -(year.natAbs : Int) = year by omega]
    · rename_i positive
      simp only [String.toList_append, List.append_assoc]
      unfold year?
      rw [show "+".toList = ['+'] from rfl, List.singleton_append, skipBlanks_cons rfl]
      simp only [signed, Option.map_some]
      rw [Int.ofNat_eq_natCast, show (year.natAbs : Int) = year by omega]

/-- A fraction in groups of three digits is read in nanoseconds. -/
theorem fraction?_append {nanos : Nat} (fits : nanos < nanosPerSecond) {rest : List Char}
    (stops : StopsDigits rest) (noPoint : rest.head? ≠ some '.') :
    fraction? ((fractionText nanos).toList ++ rest) = some (nanos, rest) := by
  have grouped : ∀ width value, 0 < width → width ≤ 9 → value < 10 ^ width →
      fraction? (("." ++ zeroPadded width value).toList ++ rest) =
        some (value * 10 ^ (9 - width), rest) := by
    intro width value positive short fits
    have are := areDigits_zeroPadded width value
    have length := length_zeroPadded positive fits
    have same := naturalValue_zeroPadded width value
    rw [String.toList_append, show ".".toList = ['.'] from rfl, List.append_assoc,
      List.singleton_append, fraction?, spanDigits_append are stops]
    generalize (zeroPadded width value).toList = digits at are length same
    have kept : digits.take 9 = digits := List.take_of_length_le (by omega)
    simp [are.some, kept, same, length]
  unfold nanosPerSecond at fits
  unfold fractionText
  split
  · rename_i nothing
    rw [nothing, show "".toList = [] from rfl, List.nil_append]
    cases rest with
    | nil => rfl
    | cons letter rest =>
        have other : letter ≠ '.' := fun same => noPoint (congrArg some same)
        unfold fraction?
        split
        · rename_i same
          injection same with first
          exact absurd first other
        · rfl
  · split
    · rw [grouped 3 (nanos / 1000000) (by decide) (by decide) (by omega)]
      congr 2
      omega
    · split
      · rw [grouped 6 (nanos / 1000) (by decide) (by decide) (by omega)]
        congr 2
        omega
      · rw [grouped 9 nanos (by decide) (by decide) (by omega)]
        congr 2
        omega

/-! ## Reading the whole -/

/-- An instant that a clock can show: a fraction of a second or more belongs to the leap second at
the end of a minute. -/
structure IsValid (instant : Instant) : Prop where
  fraction : instant.nanos < 2 * nanosPerSecond
  leap : nanosPerSecond ≤ instant.nanos → instant.seconds % 60 = 59

theorem toList_toText (instant : Instant) :
    instant.toText.toList =
      (yearText instant.day.toDate.year).toList ++ '-' ::
        ((zeroPadded 2 instant.day.toDate.month).toList ++ '-' ::
          ((zeroPadded 2 instant.day.toDate.day).toList ++ 'T' ::
            ((zeroPadded 2 (instant.secondOfDay.toNat / 3600)).toList ++ ':' ::
              ((zeroPadded 2 (instant.secondOfDay.toNat / 60 % 60)).toList ++ ':' ::
                ((zeroPadded 2 (instant.secondOfDay.toNat % 60 +
                    instant.nanos / nanosPerSecond)).toList ++
                  ((fractionText (instant.nanos % nanosPerSecond)).toList ++ ['Z'])))))) := by
  have dash : "-".toList = ['-'] := rfl
  have colon : ":".toList = [':'] := rfl
  have mark : "T".toList = ['T'] := rfl
  have zone : "Z".toList = ['Z'] := rfl
  simp only [toText, Day.toText, String.toList_append, dash, colon, mark, zone, List.append_assoc,
    List.cons_append, List.nil_append]

theorem two_digits_of_isValid {date : CalendarDate} (valid : date.isValid = true) :
    date.month < 100 ∧ date.day < 100 := by
  simp only [CalendarDate.isValid, Bool.and_eq_true, decide_eq_true_eq] at valid
  obtain ⟨⟨⟨-, months⟩, -⟩, days⟩ := valid
  have atMost : CalendarDate.daysInMonth date.year date.month ≤ 31 := by
    unfold CalendarDate.daysInMonth
    split
    · split <;> decide
    · split <;> decide
  omega

/-- Hours, minutes, seconds and the fraction make up the instant again; a leap second is written as
the sixtieth. -/
theorem ofParts {instant : Instant} (valid : instant.IsValid) :
    (⟨instant.day.number * 86400 +
        (instant.secondOfDay.toNat / 3600 * 3600 + instant.secondOfDay.toNat / 60 % 60 * 60 +
          min (instant.secondOfDay.toNat % 60 + instant.nanos / nanosPerSecond) 59 : Nat) - 0,
      instant.nanos % nanosPerSecond +
        if instant.secondOfDay.toNat % 60 + instant.nanos / nanosPerSecond = 60
          then nanosPerSecond else 0⟩ : Instant) = instant ∧
      instant.secondOfDay.toNat % 60 + instant.nanos / nanosPerSecond ≤ 60 := by
  obtain ⟨fraction, leap⟩ := valid
  obtain ⟨inDay, sum⟩ : instant.secondOfDay.toNat < 86400 ∧
      instant.day.number * 86400 + instant.secondOfDay.toNat = instant.seconds := by
    simp only [secondOfDay, day]
    omega
  generalize instant.secondOfDay.toNat = time at inDay sum
  generalize instant.day.number = day at sum
  obtain ⟨seconds, nanos⟩ := instant
  dsimp only at fraction leap sum ⊢
  rw [Instant.mk.injEq]
  unfold nanosPerSecond at *
  by_cases leaps : 1000000000 ≤ nanos
  · have last := leap leaps
    have carried : nanos / 1000000000 = 1 := by omega
    rw [carried, if_pos (by omega)]
    exact ⟨⟨by omega, by omega⟩, by omega⟩
  · have carried : nanos / 1000000000 = 0 := by omega
    rw [carried, if_neg (by omega)]
    exact ⟨⟨by omega, by omega⟩, by omega⟩

/-- What is written for an instant of the calendar is read as that instant. -/
theorem ofText?_toText {instant : Instant} (valid : instant.IsValid)
    (within : instant.inCalendar = true) : ofText? instant.toText = some instant := by
  have dash : Text.isBlank '-' = false := rfl
  have colon : Text.isBlank ':' = false := rfl
  have dated := instant.day.isValid_toDate
  have back := instant.day.ofDate_toDate
  obtain ⟨months, days⟩ := two_digits_of_isValid dated
  have seconds : instant.secondOfDay.toNat < 86400 := by
    simp only [secondOfDay]
    omega
  obtain ⟨whole, sixty⟩ := ofParts valid
  have short : instant.nanos % nanosPerSecond < nanosPerSecond := Nat.mod_lt _ (by decide)
  have read := fraction?_append short (stopsDigits_cons (by decide : Number.isDigit 'Z' = false) [])
    (by simp)
  have zone : offset? (skipBlanks ['Z']) = some (0, []) := rfl
  unfold ofText?
  rw [toList_toText]
  refine Option.bind_eq_some_iff.mpr
    ⟨_, year?_append _ (stopsDigits_cons (by decide) _), ?_⟩
  refine Option.bind_eq_some_iff.mpr ⟨_, mark?_cons dash _, ?_⟩
  refine Option.bind_eq_some_iff.mpr ⟨_, pair?_append months _, ?_⟩
  refine Option.bind_eq_some_iff.mpr ⟨_, mark?_cons dash _, ?_⟩
  refine Option.bind_eq_some_iff.mpr ⟨_, pair?_append days _, ?_⟩
  refine Option.bind_eq_some_iff.mpr ⟨_, rfl, ?_⟩
  refine Option.bind_eq_some_iff.mpr ⟨_, pair?_append (by omega) _, ?_⟩
  refine Option.bind_eq_some_iff.mpr ⟨_, mark?_cons colon _, ?_⟩
  refine Option.bind_eq_some_iff.mpr ⟨_, pair?_append (by omega) _, ?_⟩
  refine Option.bind_eq_some_iff.mpr ⟨_, mark?_cons colon _, ?_⟩
  refine Option.bind_eq_some_iff.mpr ⟨_, pair?_append (by omega) _, ?_⟩
  refine Option.bind_eq_some_iff.mpr ⟨_, read, ?_⟩
  refine Option.bind_eq_some_iff.mpr ⟨_, zone, ?_⟩
  have date : (⟨instant.day.toDate.year, instant.day.toDate.month, instant.day.toDate.day⟩ :
      CalendarDate) = instant.day.toDate := rfl
  dsimp only
  rw [date, back, whole, dated, within, if_pos]
  rw [decide_eq_true sixty, decide_eq_true (by omega), decide_eq_true (by omega)]
  rfl

end Instant

end ReviewGate
