import ReviewGate.Proofs.Number.Numeral

/-!
# Decimal literals

A decimal literal has an exact value, and it is read to the double that is nearest to that value.
-/

namespace ReviewGate

/-- A decimal as programs write it: a sign, digits, digits behind a point, and a mark with an
exponent.  True stands for minus, and for a mark that is a capital. -/
structure Literal where
  sign : Option Bool
  whole : List Char
  fraction : Option (List Char)
  exponent : Option (Bool × Option Bool × List Char)
  hasDigit : whole ++ fraction.getD [] ≠ []
  wholeDigits : ∀ letter ∈ whole, Number.isDigit letter = true
  fractionDigits : ∀ digits ∈ fraction, ∀ letter ∈ digits, Number.isDigit letter = true
  exponentDigits : ∀ part ∈ exponent, part.2.2 ≠ [] ∧
    ∀ letter ∈ part.2.2, Number.isDigit letter = true

namespace Literal

def signLetters : Option Bool → List Char
  | none => []
  | some negative => [if negative then '-' else '+']

def fractionLetters : Option (List Char) → List Char
  | none => []
  | some digits => '.' :: digits

def exponentLetters : Option (Bool × Option Bool × List Char) → List Char
  | none => []
  | some (capital, sign, digits) => (if capital then 'E' else 'e') :: (signLetters sign ++ digits)

def letters (literal : Literal) : List Char :=
  signLetters literal.sign ++
    (literal.whole ++ (fractionLetters literal.fraction ++ exponentLetters literal.exponent))

def isNegative (literal : Literal) : Bool := literal.sign.getD false

def coefficient (literal : Literal) : Nat :=
  Number.naturalValue (literal.whole ++ literal.fraction.getD [])

def power : Option (Bool × Option Bool × List Char) → Int
  | none => 0
  | some (_, sign, digits) =>
      if sign.getD false then -(Number.naturalValue digits : Int) else Number.naturalValue digits

/-- The power of ten of the last digit. -/
def scale (literal : Literal) : Int :=
  power literal.exponent - (literal.fraction.getD []).length

/-- The exact value. -/
def value (literal : Literal) : Rat :=
  (if literal.isNegative then -1 else 1) * literal.coefficient * 10 ^ literal.scale

/-- The double that is nearest to the value. -/
def double (literal : Literal) : Float :=
  Number.scaled literal.isNegative literal.coefficient literal.scale

/-! ## Reading -/

theorem spanDigits_append {digits rest : List Char}
    (all : ∀ letter ∈ digits, Number.isDigit letter = true)
    (stops : ∀ letter ∈ rest.head?, Number.isDigit letter = false) :
    Number.spanDigits (digits ++ rest) = (digits, rest) := by
  unfold Number.spanDigits
  rw [List.takeWhile_append_of_pos all, List.dropWhile_append_of_pos all]
  cases rest with
  | nil => simp
  | cons letter rest => simp [stops letter rfl]

theorem head?_exponentLetters {exponent : Option (Bool × Option Bool × List Char)} :
    ∀ letter ∈ (exponentLetters exponent).head?, letter = 'e' ∨ letter = 'E' := by
  rcases exponent with _ | ⟨_ | _, sign, digits⟩ <;> simp [exponentLetters]

theorem isDigit_head?_exponentLetters {exponent : Option (Bool × Option Bool × List Char)} :
    ∀ letter ∈ (exponentLetters exponent).head?, Number.isDigit letter = false := by
  intro letter first
  rcases head?_exponentLetters letter first with rfl | rfl <;> rfl

theorem spanSign_append {sign : Option Bool} {rest : List Char}
    (unsigned : ∀ letter ∈ rest.head?, letter ≠ '-' ∧ letter ≠ '+') :
    Number.spanSign (signLetters sign ++ rest) = (sign.getD false, rest) := by
  rcases sign with _ | _ | _
  · cases rest with
    | nil => rfl
    | cons letter rest =>
        obtain ⟨notMinus, notPlus⟩ := unsigned letter rfl
        simp [signLetters, Number.spanSign, notMinus, notPlus]
  · rfl
  · rfl

theorem isDigit_head?_fractionLetters {fraction : Option (List Char)}
    {exponent : Option (Bool × Option Bool × List Char)} :
    ∀ letter ∈ (fractionLetters fraction ++ exponentLetters exponent).head?,
      Number.isDigit letter = false := by
  cases fraction with
  | none => exact isDigit_head?_exponentLetters
  | some digits =>
      rintro letter ⟨⟩
      rfl

/-- Digits are not signs. -/
theorem unsigned_of_isDigit {letters : List Char}
    (digits : ∀ letter ∈ letters, Number.isDigit letter = true) :
    ∀ letter ∈ letters.head?, letter ≠ '-' ∧ letter ≠ '+' := by
  intro letter first
  have digit := digits letter (List.mem_of_mem_head? first)
  constructor <;>
  · rintro rfl
    cases digit

/-- The letters of a literal without its sign. -/
def unsignedLetters (literal : Literal) : List Char :=
  literal.whole ++ (fractionLetters literal.fraction ++ exponentLetters literal.exponent)

theorem natural?_of_isDigit {digits : List Char} (some : digits ≠ [])
    (all : ∀ letter ∈ digits, Number.isDigit letter = true) :
    Number.natural? digits = Option.some (Number.naturalValue digits) := by
  rw [Number.natural?, if_pos]
  simpa [some] using all

theorem exponent?_exponentLetters {exponent : Option (Bool × Option Bool × List Char)}
    (digits : ∀ part ∈ exponent, part.2.2 ≠ [] ∧
      ∀ letter ∈ part.2.2, Number.isDigit letter = true) :
    Number.exponent? (exponentLetters exponent) = Option.some (power exponent) := by
  rcases exponent with _ | ⟨capital, sign, letters⟩
  · rfl
  · obtain ⟨some, all⟩ := digits _ rfl
    have marked : (if capital then 'E' else 'e') = 'e' ∨ (if capital then 'E' else 'e') = 'E' := by
      cases capital <;> simp
    rw [exponentLetters, Number.exponent?, if_pos marked,
      spanSign_append (unsigned_of_isDigit all)]
    dsimp only
    rw [natural?_of_isDigit some all]
    rfl

theorem spanFraction_append {fraction : Option (List Char)}
    {exponent : Option (Bool × Option Bool × List Char)}
    (digits : ∀ part ∈ fraction, ∀ letter ∈ part, Number.isDigit letter = true) :
    Number.spanFraction (fractionLetters fraction ++ exponentLetters exponent) =
      (fraction.getD [], exponentLetters exponent) := by
  cases fraction with
  | none => rcases exponent with _ | ⟨_ | _, sign, letters⟩ <;> rfl
  | some part => exact spanDigits_append (digits part rfl) isDigit_head?_exponentLetters

theorem decimal?_unsignedLetters (literal : Literal) (negative : Bool) :
    Number.decimal? negative literal.unsignedLetters =
      Option.some (Number.scaled negative literal.coefficient literal.scale) := by
  have digits : ¬(literal.whole.isEmpty && (literal.fraction.getD []).isEmpty) = true := by
    rw [Bool.and_eq_true, List.isEmpty_iff, List.isEmpty_iff, ← List.append_eq_nil_iff]
    exact literal.hasDigit
  rw [Number.decimal?, unsignedLetters,
    spanDigits_append literal.wholeDigits isDigit_head?_fractionLetters]
  dsimp only
  rw [spanFraction_append literal.fractionDigits]
  dsimp only
  rw [if_neg digits, exponent?_exponentLetters literal.exponentDigits]
  rfl

/-- A literal begins with a digit or a point, apart from its sign. -/
theorem exists_unsignedLetters_eq_cons (literal : Literal) :
    ∃ letter rest, literal.unsignedLetters = letter :: rest ∧
      (Number.isDigit letter = true ∨ letter = '.') := by
  unfold unsignedLetters
  cases front : literal.whole with
  | cons letter rest =>
      exact ⟨letter, _, List.cons_append, .inl (literal.wholeDigits letter (by simp [front]))⟩
  | nil =>
      have hasDigit := literal.hasDigit
      cases behind : literal.fraction with
      | none => simp [front, behind] at hasDigit
      | some digits => exact ⟨'.', _, rfl, .inr rfl⟩

theorem toLower_of_isDigit {letter : Char} (digit : Number.isDigit letter = true) :
    letter.toLower = letter := by
  rw [Number.isDigit, Bool.and_eq_true, decide_eq_true_eq, decide_eq_true_eq] at digit
  exact dif_neg fun capital => absurd (UInt32.le_trans capital.1 digit.2) (by decide)

theorem ofList_ne_of_head? {letters : List Char} {name : String}
    (apart : letters.head? ≠ name.toList.head?) : String.ofList letters ≠ name := by
  rintro rfl
  exact apart (by rw [String.toList_ofList])

theorem letters_eq (literal : Literal) :
    literal.letters = signLetters literal.sign ++ literal.unsignedLetters := rfl

/-- A literal is not the name of a value. -/
theorem read?_letters (literal : Literal) :
    Number.read? literal.letters = Option.some literal.double := by
  obtain ⟨letter, rest, front, first⟩ := literal.exists_unsignedLetters_eq_cons
  have lower : letter.toLower = letter := by
    rcases first with digit | rfl
    · exact toLower_of_isDigit digit
    · rfl
  have other : ∀ initial, Number.isDigit initial = false ∧ initial ≠ '.' → letter ≠ initial := by
    rintro _ ⟨notDigit, notPoint⟩ rfl
    exact first.elim (fun digit => Bool.noConfusion (notDigit.symm.trans digit)) notPoint
  have unsigned : ∀ letter ∈ literal.unsignedLetters.head?, letter ≠ '-' ∧ letter ≠ '+' := by
    rw [front]
    rintro _ ⟨⟩
    exact ⟨other '-' (by decide), other '+' (by decide)⟩
  have head : (literal.unsignedLetters.map Char.toLower).head? = Option.some letter := by
    rw [front, List.map_cons, lower]
    rfl
  have unnamed : ∀ name : String, (∃ initial ∈ name.toList.head?,
      Number.isDigit initial = false ∧ initial ≠ '.') →
        String.ofList (literal.unsignedLetters.map Char.toLower) ≠ name := by
    rintro name ⟨initial, begins, apart⟩
    refine ofList_ne_of_head? ?_
    rw [head, begins]
    exact fun same => other initial apart (Option.some_inj.mp same)
  rw [Number.read?, letters_eq, spanSign_append unsigned]
  dsimp only
  rw [if_neg (not_or.mpr ⟨unnamed "inf" ⟨'i', by decide⟩, unnamed "infinity" ⟨'i', by decide⟩⟩),
    if_neg (unnamed "nan" ⟨'n', by decide⟩), decimal?_unsignedLetters]
  rfl

/-- The letters of a literal are digits, signs, a point and a mark. -/
theorem mem_letters {literal : Literal} {letter : Char} (belongs : letter ∈ literal.letters) :
    Number.isDigit letter = true ∨ letter ∈ ['+', '-', '.', 'e', 'E'] := by
  have signs : ∀ {sign : Option Bool}, letter ∈ signLetters sign →
      letter ∈ ['+', '-', '.', 'e', 'E'] := by
    rintro (_ | _ | _) found <;> simp_all [signLetters]
  rw [letters_eq, unsignedLetters, List.mem_append, List.mem_append, List.mem_append] at belongs
  rcases belongs with sign | whole | fraction | exponent
  · exact .inr (signs sign)
  · exact .inl (literal.wholeDigits letter whole)
  · cases behind : literal.fraction with
    | none => simp [behind, fractionLetters] at fraction
    | some digits =>
        rw [behind, fractionLetters, List.mem_cons] at fraction
        rcases fraction with rfl | digit
        · simp
        · exact .inl (literal.fractionDigits digits behind letter digit)
  · cases behind : literal.exponent with
    | none => simp [behind, exponentLetters] at exponent
    | some part =>
        obtain ⟨capital, sign, digits⟩ := part
        rw [behind, exponentLetters, List.mem_cons, List.mem_append] at exponent
        rcases exponent with mark | sign | digit
        · cases capital <;> simp_all
        · exact .inr (signs sign)
        · exact .inl ((literal.exponentDigits _ behind).2 letter digit)

theorem letters_ne_nil (literal : Literal) : literal.letters ≠ [] := by
  obtain ⟨letter, rest, front, -⟩ := literal.exists_unsignedLetters_eq_cons
  simp [letters_eq, front]

end Literal

end ReviewGate
