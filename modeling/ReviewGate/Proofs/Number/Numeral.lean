import Mathlib.Algebra.Order.Field.Basic
import Mathlib.Algebra.Order.Ring.Rat
import Mathlib.Data.List.TakeWhile
import Mathlib.Tactic.FieldSimp
import Mathlib.Tactic.Ring
import ReviewGate.Number.Decimal
import ReviewGate.Number.Reader

/-!
# Numerals

What is written for a decimal is a sign and a numeral: digits, digits behind a point, and an
exponent.  The letters of a numeral determine its parts, hence the number it stands for.
-/

namespace ReviewGate

/-! ## Letters of one kind -/

/-- Letters of one kind end where another letter or nothing follows. -/
theorem append_inj_of_kind {kind : Char → Bool} {first second rest other : List Char}
    (kinds : ∀ letter ∈ first, kind letter = true)
    (kindsSecond : ∀ letter ∈ second, kind letter = true)
    (ends : ∀ letter ∈ rest.head?, kind letter = false)
    (endsOther : ∀ letter ∈ other.head?, kind letter = false)
    (same : first ++ rest = second ++ other) : first = second ∧ rest = other := by
  have taken : ∀ {front back : List Char}, (∀ letter ∈ front, kind letter = true) →
      (∀ letter ∈ back.head?, kind letter = false) →
      (front ++ back).takeWhile kind = front := by
    intro front back all stops
    rw [List.takeWhile_append_of_pos all]
    cases back with
    | nil => simp
    | cons letter back => simp [stops letter rfl]
  have equal : first = second := by
    rw [← taken kinds ends, same, taken kindsSecond endsOther]
  subst equal
  exact ⟨rfl, List.append_cancel_left same⟩

/-! ## Digits -/

theorem isDigit_digitChar {digit : Nat} (small : digit < 10) :
    Number.isDigit (Nat.digitChar digit) = true := by
  have decided : (Nat.digitChar digit).isDigit = true := by
    rw [Nat.isDigit_digitChar, decide_eq_true small]
  exact decided

theorem isDigit_of_mem_digitChars {digits part : List Nat}
    (small : ∀ digit ∈ digits, digit < 10) (sub : part ⊆ digits) :
    ∀ letter ∈ digitChars part, Number.isDigit letter = true := by
  intro letter membership
  obtain ⟨digit, found, rfl⟩ := List.mem_map.mp membership
  exact isDigit_digitChar (small digit (sub found))

theorem isDigit_of_mem_zeros (count : Nat) :
    ∀ letter ∈ List.replicate count '0', Number.isDigit letter = true := by
  intro letter membership
  rw [List.eq_of_mem_replicate membership]
  rfl

theorem naturalValue_digitChars {digits : List Nat} (small : ∀ digit ∈ digits, digit < 10) :
    Number.naturalValue (digitChars digits) = Decimal.valueOf digits := by
  unfold Number.naturalValue digitChars Decimal.valueOf
  rw [List.foldl_map]
  generalize 0 = start
  induction digits generalizing start with
  | nil => rfl
  | cons digit rest inductionHypothesis =>
      obtain ⟨head, tail⟩ := List.forall_mem_cons.mp small
      have value : Number.digitValue (Nat.digitChar digit) = digit :=
        Nat.toNat_digitChar_sub_48_of_lt_ten head
      rw [List.foldl_cons, List.foldl_cons, value, inductionHypothesis tail]

theorem naturalValue_append (first second : List Char) :
    Number.naturalValue (first ++ second) =
      Number.naturalValue first * 10 ^ second.length + Number.naturalValue second := by
  have split : Nat.ofDigitChars 10 (first ++ second) 0 =
      10 ^ second.length * Nat.ofDigitChars 10 first 0 + Nat.ofDigitChars 10 second 0 := by
    rw [Nat.ofDigitChars_append, Nat.ofDigitChars_eq_ofDigitChars_zero]
  rw [Nat.mul_comm]
  exact split

theorem naturalValue_replicate_zero (count : Nat) :
    Number.naturalValue (List.replicate count '0') = 0 :=
  Nat.ofDigitChars_replicate_zero.trans (Nat.mul_zero _)

theorem isDigit_of_mem_toString {value : Nat} {letter : Char}
    (membership : letter ∈ (toString value).toList) : Number.isDigit letter = true := by
  rw [Nat.toString_eq_ofList_toDigits, String.toList_ofList] at membership
  exact Nat.isDigit_of_mem_toDigits (by decide) (by decide) membership

theorem naturalValue_toString (value : Nat) :
    Number.naturalValue (toString value).toList = value := by
  rw [Nat.toString_eq_ofList_toDigits, String.toList_ofList]
  exact Nat.ofDigitChars_ten_toDigits

namespace Decimal

theorem valueOf_append (first second : List Nat) :
    valueOf (first ++ second) = valueOf first * 10 ^ second.length + valueOf second := by
  have added : ∀ start, second.foldl (fun value digit => 10 * value + digit) start =
      start * 10 ^ second.length + valueOf second := by
    unfold valueOf
    induction second with
    | nil => simp
    | cons digit rest inductionHypothesis =>
        intro start
        rw [List.foldl_cons, inductionHypothesis, List.foldl_cons, inductionHypothesis (10 * 0 + _),
          List.length_cons, pow_succ]
        ring
  rw [valueOf, List.foldl_append, added]
  rfl

/-- The digits of a number are digits and stand for it. -/
theorem digitsOf_spec (value : Nat) :
    valueOf (digitsOf value) = value ∧ ∀ digit ∈ digitsOf value, digit < 10 := by
  -- The digits are collected from the last one on, so the ones behind are any.
  have collected : ∀ rest, ∃ front, digitsOf.go value rest = front ++ rest ∧
      valueOf front = value ∧ ∀ digit ∈ front, digit < 10 := by
    induction value using Nat.strong_induction_on with
    | _ value inductionHypothesis =>
      intro rest
      rw [digitsOf.go]
      split
      · rename_i zero
        exact ⟨[], rfl, zero.symm, nofun⟩
      · obtain ⟨front, gone, stands, digits⟩ :=
          inductionHypothesis (value / 10) (by omega) (value % 10 :: rest)
        refine ⟨front ++ [value % 10], by simp [gone], ?_, ?_⟩
        · rw [valueOf_append, stands]
          change value / 10 * 10 ^ 1 + (10 * 0 + value % 10) = value
          omega
        · intro digit membership
          rcases List.mem_append.mp membership with before | last
          · exact digits digit before
          · rw [List.mem_singleton.mp last]
            omega
  obtain ⟨front, gone, stands, digits⟩ := collected []
  rw [digitsOf, gone, List.append_nil]
  exact ⟨stands, digits⟩

theorem exists_dropTrailingZeros (digits : List Nat) :
    ∃ count, digits = dropTrailingZeros digits ++ List.replicate count 0 := by
  refine ⟨(digits.reverse.takeWhile (· == 0)).length, ?_⟩
  have zeros : digits.reverse.takeWhile (· == 0) =
      List.replicate (digits.reverse.takeWhile (· == 0)).length 0 :=
    List.eq_replicate_of_mem fun digit membership => by
      simpa using List.mem_takeWhile_imp membership
  have whole := congrArg List.reverse (List.takeWhile_append_dropWhile (p := (· == 0))
    (l := digits.reverse))
  rw [List.reverse_append, List.reverse_reverse, zeros, List.reverse_replicate] at whole
  exact whole.symm

def magnitude (value : Decimal) : Rat :=
  valueOf value.digits * 10 ^ (value.point - value.digits.length)

theorem valueOf_replicate_zero (count : Nat) : valueOf (List.replicate count 0) = 0 := by
  unfold valueOf
  induction count with
  | zero => rfl
  | succ count inductionHypothesis => exact inductionHypothesis

theorem magnitude_ofCoefficient (negative : Bool) (coefficient : Nat) (scale : Int) :
    (ofCoefficient negative coefficient scale).magnitude = coefficient * 10 ^ scale := by
  obtain ⟨count, split⟩ := exists_dropTrailingZeros (digitsOf coefficient)
  have stands := (digitsOf_spec coefficient).1
  rw [split, valueOf_append, valueOf_replicate_zero, List.length_replicate, Nat.add_zero] at stands
  unfold ofCoefficient
  dsimp only
  split
  · rename_i none
    rw [none] at stands
    rw [← stands]
    simp [magnitude, valueOf]
  · have length := congrArg List.length split
    rw [List.length_append, List.length_replicate] at length
    have shifted : ((digitsOf coefficient).length + scale : Int) -
        (dropTrailingZeros (digitsOf coefficient)).length = count + scale := by omega
    have value : (coefficient : Rat) =
        valueOf (dropTrailingZeros (digitsOf coefficient)) * 10 ^ count := by
      exact_mod_cast stands.symm
    rw [magnitude, shifted, value, mul_assoc, ← zpow_natCast, ← zpow_add₀ (by norm_num)]

theorem digits_ofCoefficient (negative : Bool) (coefficient : Nat) (scale : Int) :
    ∀ digit ∈ (ofCoefficient negative coefficient scale).digits, digit < 10 := by
  obtain ⟨count, split⟩ := exists_dropTrailingZeros (digitsOf coefficient)
  have small := (digitsOf_spec coefficient).2
  unfold ofCoefficient
  dsimp only
  split
  · nofun
  · intro digit membership
    refine small digit ?_
    rw [split]
    exact List.mem_append_left _ membership

@[simp]
theorem negative_ofCoefficient (negative : Bool) (coefficient : Nat) (scale : Int) :
    (ofCoefficient negative coefficient scale).negative = negative := by
  unfold ofCoefficient
  dsimp only
  split <;> rfl

end Decimal

/-! ## Numerals -/

/-- Digits, digits behind a point, and an exponent with its sign; true stands for minus. -/
structure Numeral where
  whole : List Char
  fraction : List Char
  exponent : Option (Bool × List Char)

namespace Numeral

def exponentLetters : Option (Bool × List Char) → List Char
  | none => []
  | some (negative, digits) => 'e' :: (if negative then '-' else '+') :: digits

/-- The letters behind the digits in front. -/
def tail (numeral : Numeral) : List Char :=
  (if numeral.fraction = [] then [] else '.' :: numeral.fraction) ++
    exponentLetters numeral.exponent

def letters (numeral : Numeral) : List Char := numeral.whole ++ numeral.tail

/-- The power of ten an exponent stands for. -/
def power : Option (Bool × List Char) → Int
  | none => 0
  | some (negative, digits) =>
      if negative then -(Number.naturalValue digits : Int) else Number.naturalValue digits

def magnitude (numeral : Numeral) : Rat :=
  Number.naturalValue (numeral.whole ++ numeral.fraction) *
    10 ^ (power numeral.exponent - numeral.fraction.length)

/-- All parts are made of digits, and there is one in front. -/
structure IsValid (numeral : Numeral) : Prop where
  whole : ∀ letter ∈ numeral.whole, Number.isDigit letter = true
  some : numeral.whole ≠ []
  fraction : ∀ letter ∈ numeral.fraction, Number.isDigit letter = true
  exponent : ∀ part ∈ numeral.exponent, ∀ letter ∈ part.2, Number.isDigit letter = true

/-- A point or an exponent sets a numeral apart from a whole number. -/
def IsMarked (numeral : Numeral) : Prop := numeral.fraction ≠ [] ∨ numeral.exponent.isSome

theorem head?_exponentLetters (exponent : Option (Bool × List Char)) :
    ∀ letter ∈ (exponentLetters exponent).head?, letter = 'e' := by
  rcases exponent with _ | ⟨negative, digits⟩ <;> simp [exponentLetters]

theorem exponentLetters_injective {first second : Option (Bool × List Char)}
    (same : exponentLetters first = exponentLetters second) : first = second := by
  rcases first with _ | ⟨negative, digits⟩ <;> rcases second with _ | ⟨other, others⟩
  · rfl
  · simp [exponentLetters] at same
  · simp [exponentLetters] at same
  · cases negative <;> cases other <;> simp_all [exponentLetters]

theorem isDigit_head?_tail (numeral : Numeral) :
    ∀ letter ∈ numeral.tail.head?, Number.isDigit letter = false := by
  intro letter first
  unfold tail at first
  split at first
  · rw [head?_exponentLetters numeral.exponent letter first]
    rfl
  · cases first
    rfl

/-- The letters of a numeral determine its parts. -/
theorem eq_of_letters_eq {first second : Numeral} (valid : first.IsValid)
    (validSecond : second.IsValid) (same : first.letters = second.letters) : first = second := by
  obtain ⟨whole, tails⟩ := append_inj_of_kind valid.whole validSecond.whole
    first.isDigit_head?_tail second.isDigit_head?_tail same
  have exponentFirst := head?_exponentLetters first.exponent
  have exponentSecond := head?_exponentLetters second.exponent
  have stops : ∀ {exponent : Option (Bool × List Char)},
      ∀ letter ∈ (exponentLetters exponent).head?, Number.isDigit letter = false := by
    intro exponent letter found
    rw [head?_exponentLetters exponent letter found]
    rfl
  obtain ⟨wholeFirst, fractionFirst, powerFirst⟩ := first
  obtain ⟨wholeSecond, fractionSecond, powerSecond⟩ := second
  -- Only with a point do the letters go on with one; an exponent goes on with its own letter.
  have parts : fractionFirst = fractionSecond ∧ powerFirst = powerSecond := by
    unfold tail at tails
    by_cases noneFirst : fractionFirst = [] <;> by_cases noneSecond : fractionSecond = []
    · simp only [noneFirst, noneSecond, if_true, List.nil_append] at tails
      exact ⟨noneFirst.trans noneSecond.symm, exponentLetters_injective tails⟩
    · simp only [noneFirst, noneSecond, if_true, if_false, List.nil_append] at tails
      dsimp only at exponentFirst
      rw [tails] at exponentFirst
      exact absurd (exponentFirst '.' rfl) (by decide)
    · simp only [noneFirst, noneSecond, if_true, if_false, List.nil_append] at tails
      dsimp only at exponentSecond
      rw [← tails] at exponentSecond
      exact absurd (exponentSecond '.' rfl) (by decide)
    · simp only [noneFirst, noneSecond, if_false, List.cons_append, List.cons.injEq,
        true_and] at tails
      obtain ⟨fractions, exponents⟩ := append_inj_of_kind valid.fraction validSecond.fraction
        stops stops tails
      exact ⟨fractions, exponentLetters_injective exponents⟩
  rw [Numeral.mk.injEq]
  exact ⟨whole, parts⟩

/-- A numeral begins with a digit. -/
theorem exists_letters_eq_cons {numeral : Numeral} (valid : numeral.IsValid) :
    ∃ letter rest, numeral.letters = letter :: rest ∧ Number.isDigit letter = true := by
  obtain ⟨letter, rest, front⟩ := List.exists_cons_of_ne_nil valid.some
  exact ⟨letter, rest ++ numeral.tail, by rw [letters, front, List.cons_append],
    valid.whole letter (front ▸ List.mem_cons_self)⟩

/-- So do the letters behind a sign. -/
theorem eq_of_signed_eq {first second : Numeral} {negative other : Bool} (valid : first.IsValid)
    (validSecond : second.IsValid)
    (same : (if negative then ['-'] else []) ++ first.letters =
      (if other then ['-'] else []) ++ second.letters) : negative = other ∧ first = second := by
  obtain ⟨letter, rest, begins, digit⟩ := exists_letters_eq_cons valid
  obtain ⟨letterSecond, restSecond, beginsSecond, digitSecond⟩ :=
    exists_letters_eq_cons validSecond
  cases negative <;> cases other
  · exact ⟨rfl, eq_of_letters_eq valid validSecond same⟩
  · rw [begins] at same
    injection same with first
    rw [first] at digit
    cases digit
  · rw [beginsSecond] at same
    injection same with first
    rw [← first] at digitSecond
    cases digitSecond
  · injection same with _ same
    exact ⟨rfl, eq_of_letters_eq valid validSecond same⟩

end Numeral

/-! ## Decimals as numerals -/

namespace Decimal

/-- Digits around a point.  A whole number has the mark of one where the layout keeps it. -/
theorem exists_numeral_positional (layout : Layout) {digits : List Nat}
    (small : ∀ digit ∈ digits, digit < 10) (some : digits ≠ []) (point : Int) :
    ∃ numeral : Numeral, numeral.IsValid ∧ numeral.exponent = none ∧
      (layout.wholeFraction = true → numeral.IsMarked) ∧
      numeral.magnitude = valueOf digits * 10 ^ (point - digits.length) ∧
      positionalChars layout digits point = numeral.letters := by
  have written := isDigit_of_mem_digitChars small (List.Subset.refl digits)
  unfold positionalChars
  split
  · rename_i low
    refine ⟨⟨['0'], List.replicate (-point).toNat '0' ++ digitChars digits, none⟩,
      ⟨by simp; rfl, by simp, ?_, nofun⟩, rfl, fun _ => .inl (by simp [digitChars, some]), ?_, ?_⟩
    · exact fun letter membership => (List.mem_append.mp membership).elim
        (isDigit_of_mem_zeros _ letter) (written letter)
    · have nothing : Number.naturalValue ['0'] = 0 := rfl
      have exponent : (0 : Int) - ((-point).toNat + digits.length : Nat) =
          point - digits.length := by omega
      rw [Numeral.magnitude, naturalValue_append, naturalValue_append, nothing,
        naturalValue_replicate_zero, naturalValue_digitChars small, List.length_append,
        List.length_replicate, digitChars, List.length_map, Numeral.power, exponent]
      simp
    · simp [Numeral.letters, Numeral.tail, Numeral.exponentLetters, digitChars, some]
  · rename_i high
    dsimp only
    split
    · rename_i fits
      have padded : ∀ letter ∈
          digitChars digits ++ List.replicate (point.toNat - digits.length) '0',
          Number.isDigit letter = true :=
        fun letter membership => (List.mem_append.mp membership).elim (written letter)
          (isDigit_of_mem_zeros _ letter)
      have exponent : point - digits.length = ((point.toNat - digits.length : Nat) : Int) := by
        omega
      cases kept : layout.wholeFraction with
      | true =>
          refine ⟨⟨digitChars digits ++ List.replicate (point.toNat - digits.length) '0', ['0'],
            none⟩, ⟨padded, by simp [digitChars, some], by simp; rfl, nofun⟩, rfl,
            fun _ => .inl (by simp), ?_, rfl⟩
          have nothing : Number.naturalValue ['0'] = 0 := rfl
          rw [Numeral.magnitude, naturalValue_append, naturalValue_append, nothing,
            naturalValue_replicate_zero, naturalValue_digitChars small, List.length_replicate,
            Numeral.power, exponent, zpow_natCast, List.length_singleton]
          norm_num
          ring
      | false =>
          refine ⟨⟨digitChars digits ++ List.replicate (point.toNat - digits.length) '0', [],
            none⟩, ⟨padded, by simp [digitChars, some], nofun, nofun⟩, rfl, nofun, ?_, rfl⟩
          rw [Numeral.magnitude, List.append_nil, naturalValue_append,
            naturalValue_replicate_zero, naturalValue_digitChars small, List.length_replicate,
            Numeral.power, exponent, zpow_natCast]
          norm_num
    · rename_i inside
      have front : digits.take point.toNat ≠ [] := by
        simp only [ne_eq, List.take_eq_nil_iff, some, or_false]
        omega
      have back : digits.drop point.toNat ≠ [] := by
        simp only [ne_eq, List.drop_eq_nil_iff]
        omega
      refine ⟨⟨digitChars (digits.take point.toNat), digitChars (digits.drop point.toNat), none⟩,
        ⟨isDigit_of_mem_digitChars small (List.take_subset _ _), by simpa [digitChars] using front,
          isDigit_of_mem_digitChars small (List.drop_subset _ _), nofun⟩, rfl,
        fun _ => .inl (by simpa [digitChars] using back), ?_, ?_⟩
      · have exponent : (0 : Int) - (digits.length - point.toNat : Nat) =
            point - digits.length := by omega
        rw [Numeral.magnitude, digitChars, digitChars, ← List.map_append, List.take_append_drop,
          List.length_map, List.length_drop, Numeral.power, exponent,
          ← naturalValue_digitChars small]
        rfl
      · have followed : digitChars (digits.drop point.toNat) ≠ [] := by
          simpa only [digitChars, ne_eq, List.map_eq_nil_iff] using back
        simp [Numeral.letters, Numeral.tail, Numeral.exponentLetters, followed]

/-- One digit, the others behind a point, and an exponent. -/
theorem exists_numeral_exponent {digits : List Nat} (small : ∀ digit ∈ digits, digit < 10)
    (some : digits ≠ []) (point : Int) :
    ∃ numeral : Numeral, numeral.IsValid ∧ numeral.IsMarked ∧
      numeral.magnitude = valueOf digits * 10 ^ (point - digits.length) ∧
      exponentChars Layout.data digits point = numeral.letters := by
  have front : digits.take 1 ≠ [] := by simp [some]
  refine ⟨⟨digitChars (digits.take 1), digitChars (digits.drop 1),
      .some (decide (point - 1 < 0), (toString (point - 1).natAbs).toList)⟩,
    ⟨isDigit_of_mem_digitChars small (List.take_subset _ _), by simpa [digitChars] using front,
      isDigit_of_mem_digitChars small (List.drop_subset _ _), ?_⟩, .inr rfl, ?_, ?_⟩
  · rintro _ ⟨⟩ letter membership
    exact isDigit_of_mem_toString membership
  · have length := List.length_pos_iff.mpr some
    have power : Numeral.power (.some (decide (point - 1 < 0),
        (toString (point - 1).natAbs).toList)) = point - 1 := by
      rw [Numeral.power, naturalValue_toString]
      by_cases negative : point - 1 < 0
      · rw [if_pos (decide_eq_true negative)]
        omega
      · rw [if_neg (by simpa using negative)]
        omega
    have exponent : point - 1 - (digits.length - 1 : Nat) = point - digits.length := by omega
    rw [Numeral.magnitude, power, digitChars, digitChars, ← List.map_append,
      List.take_append_drop, List.length_map, List.length_drop, exponent,
      ← naturalValue_digitChars small]
    rfl
  · have mark : (if point - 1 < 0 then ['-'] else Layout.data.exponentPlus.toList) =
        [if point - 1 < 0 then '-' else '+'] := by
      split <;> rfl
    have single : digitChars (digits.drop 1) = [] ↔ digits.length ≤ 1 := by
      rw [digitChars, List.map_eq_nil_iff, List.drop_eq_nil_iff]
    unfold exponentChars Numeral.letters Numeral.tail Numeral.exponentLetters
    dsimp only
    simp only [mark, single, decide_eq_true_eq, List.cons_append, List.nil_append,
      List.append_assoc]

/-- What is written for a decimal is its sign and a numeral of its magnitude. -/
theorem exists_numeral (value : Decimal) (small : ∀ digit ∈ value.digits, digit < 10) :
    ∃ numeral : Numeral, numeral.IsValid ∧ numeral.IsMarked ∧
      numeral.magnitude = value.magnitude ∧
      (value.toText Layout.data).toList =
        (if value.negative then ['-'] else []) ++ numeral.letters := by
  have layout : Layout.data.wholeFraction = true ∧ Layout.data.positional = some (-4, 16) :=
    ⟨rfl, rfl⟩
  obtain ⟨negative, digits, point⟩ := value
  rw [toText, String.toList_ofList, layout.1, layout.2]
  cases digits with
  | nil =>
      refine ⟨⟨['0'], ['0'], none⟩, ⟨by simp; rfl, by simp, by simp; rfl, nofun⟩,
        .inl (by simp), ?_, rfl⟩
      simp [Numeral.magnitude, magnitude, valueOf, Number.naturalValue, Number.digitValue]
  | cons digit rest =>
      obtain ⟨positional, validPositional, -, marked, magnitudePositional, writtenPositional⟩ :=
        exists_numeral_positional Layout.data small (List.cons_ne_nil _ _) point
      obtain ⟨scientific, validScientific, powered, magnitudeScientific, writtenScientific⟩ :=
        exists_numeral_exponent small (List.cons_ne_nil _ _) point
      by_cases near : (-4 : Int) ≤ point ∧ point ≤ 16
      · refine ⟨positional, validPositional, marked layout.1, magnitudePositional, ?_⟩
        dsimp only
        rw [if_pos near, writtenPositional]
      · refine ⟨scientific, validScientific, powered, magnitudeScientific, ?_⟩
        dsimp only
        rw [if_neg near, writtenScientific]

/-- In a message a decimal has no exponent. -/
theorem exists_numeral_message (value : Decimal) (small : ∀ digit ∈ value.digits, digit < 10) :
    ∃ numeral : Numeral, numeral.IsValid ∧ numeral.exponent = none ∧
      numeral.magnitude = value.magnitude ∧
      (value.toText Layout.message).toList =
        (if value.negative then ['-'] else []) ++ numeral.letters := by
  obtain ⟨negative, digits, point⟩ := value
  rw [toText, String.toList_ofList]
  cases digits with
  | nil =>
      refine ⟨⟨['0'], [], none⟩, ⟨by simp; rfl, by simp, nofun, nofun⟩, rfl, ?_, rfl⟩
      simp [Numeral.magnitude, magnitude, valueOf, Number.naturalValue, Number.digitValue]
  | cons digit rest =>
      obtain ⟨numeral, valid, plain, -, magnitude, written⟩ :=
        exists_numeral_positional Layout.message small (List.cons_ne_nil _ _) point
      exact ⟨numeral, valid, plain, magnitude, congrArg _ written⟩

end Decimal

end ReviewGate
