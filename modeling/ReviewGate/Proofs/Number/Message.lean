import ReviewGate.Proofs.Number.Extended
import ReviewGate.Proofs.Number.Literal

/-!
# Numbers in messages

A message tells a double by a decimal without an exponent.  The exact value of the decimal need not
be that of the double, but every other double lies on the same side of both.
-/

namespace ReviewGate

/-! ## Reading a decimal -/

namespace Number

/-- The exact value of the decimal at the front, whatever comes behind it. -/
def exact (letters : List Char) : Rat :=
  let (negative, unsigned) := spanSign letters
  let (whole, rest) := spanDigits unsigned
  let fraction := (spanFraction rest).1
  (if negative then -1 else 1) * naturalValue (whole ++ fraction) * 10 ^ (-(fraction.length : Int))

theorem spanSign_letters {numeral : Numeral} (valid : numeral.IsValid) (negative : Bool)
    (rest : List Char) :
    spanSign ((if negative then ['-'] else []) ++ numeral.letters ++ rest) =
      (negative, numeral.letters ++ rest) := by
  cases negative with
  | true => rfl
  | false =>
      obtain ⟨letter, others, begins, digit⟩ := Numeral.exists_letters_eq_cons valid
      obtain ⟨notMinus, notPlus⟩ : letter ≠ '-' ∧ letter ≠ '+' := by
        constructor <;>
        · rintro rfl
          cases digit
      simp [begins, spanSign, notMinus, notPlus]

/-- A decimal ends where neither a digit nor a point follows. -/
theorem exact_letters {numeral : Numeral} (valid : numeral.IsValid)
    (plain : numeral.exponent = none) (negative : Bool) {rest : List Char}
    (stops : ∀ letter ∈ rest.head?, isDigit letter = false ∧ letter ≠ '.') :
    exact ((if negative then ['-'] else []) ++ numeral.letters ++ rest) =
      (if negative then -1 else 1) * numeral.magnitude := by
  have ends : ∀ letter ∈ rest.head?, isDigit letter = false := fun letter first =>
    (stops letter first).1
  have tail : numeral.tail ++ rest =
      (if numeral.fraction = [] then [] else '.' :: numeral.fraction) ++ rest := by
    rw [Numeral.tail, plain]
    simp [Numeral.exponentLetters]
  have behind : ∀ letter ∈ (numeral.tail ++ rest).head?, isDigit letter = false := by
    rw [tail]
    split
    · exact ends
    · rintro _ ⟨⟩
      rfl
  have fraction : (spanFraction (numeral.tail ++ rest)).1 = numeral.fraction := by
    rw [tail]
    split
    · rename_i none
      rw [none, List.nil_append]
      unfold spanFraction
      split
      · exact absurd rfl (stops '.' rfl).2
      · rfl
    · exact congrArg Prod.fst (Literal.spanDigits_append valid.fraction ends)
  unfold exact
  rw [spanSign_letters valid]
  dsimp only
  rw [Numeral.letters, List.append_assoc, Literal.spanDigits_append valid.whole behind]
  dsimp only
  rw [fraction, Numeral.magnitude, plain, Numeral.power, zero_sub, mul_assoc]

end Number

/-! ## Sides of a double -/

namespace Binary

theorem size_eq_quarters (value : Binary) :
    value.size = (4 * value.mantissa : Nat) * 2 ^ (value.exponent - 2) := by
  rw [size, ← four_mul_zpow]
  push_cast
  ring

theorem lower_lt_size {value : Binary} (some : 0 < value.mantissa) : value.lower < value.size := by
  have one : 0 < value.below := by
    unfold below
    split <;> decide
  have less : 4 * value.mantissa - value.below < 4 * value.mantissa := by omega
  rw [size_eq_quarters]
  exact mul_lt_mul_of_pos_right (by exact_mod_cast less) (zpow_pos (by norm_num) _)

theorem size_lt_upper (value : Binary) : value.size < value.upper := by
  have less : 4 * value.mantissa < 4 * value.mantissa + 2 := by omega
  rw [size_eq_quarters]
  exact mul_lt_mul_of_pos_right (by exact_mod_cast less) (zpow_pos (by norm_num) _)

/-- The numbers of a larger double begin where those of a smaller one end. -/
theorem upper_le_lower {first second : Binary} (canonical : first.Canonical)
    (canonicalSecond : second.Canonical) (less : first.size < second.size) :
    first.upper ≤ second.lower := by
  have ordered := (cmp_eq_lt_iff _ _).mpr less
  rw [cmp_size canonical canonicalSecond, Ordering.then_eq_lt, Int.compare_eq_lt,
    Int.compare_eq_eq, Nat.compare_eq_lt] at ordered
  rcases ordered with exponents | ⟨same, mantissas⟩
  · rcases upper_le_lower_of_exponent_lt canonical canonicalSecond exponents with
      apart | ⟨meet, -⟩
    · exact apart.le
    · exact meet.le
  · rcases upper_le_lower_of_mantissa_lt same mantissas with apart | ⟨meet, -⟩
    · exact apart.le
    · exact meet.le

theorem size_nonneg (value : Binary) : 0 ≤ value.size :=
  mul_nonneg (Nat.cast_nonneg _) (zpow_nonneg (by norm_num) _)

theorem mantissa_eq_zero_iff (value : Binary) : value.mantissa = 0 ↔ value.size = 0 := by
  have unit : (2 : Rat) ^ value.exponent ≠ 0 := zpow_ne_zero _ (by norm_num)
  simp [size, unit]

theorem Rounds.nonneg {value : Binary} {number : Rat} (rounds : value.Rounds number) :
    0 ≤ number :=
  (mul_nonneg (Nat.cast_nonneg _) (zpow_nonneg (by norm_num) _)).trans rounds.bounds.1

/-- Another double lies on one side of a double and of all numbers that round to it. -/
theorem Rounds.lt_size_iff {first second : Binary} {number : Rat} (rounds : first.Rounds number)
    (canonical : first.Canonical) (canonicalSecond : second.Canonical)
    (differs : second.size ≠ first.size) : number < second.size ↔ first.size < second.size := by
  obtain ⟨low, high⟩ := rounds.bounds
  rcases lt_or_gt_of_ne differs with less | greater
  · have above := second.size_lt_upper.trans_le (upper_le_lower canonicalSecond canonical less)
    exact iff_of_false (above.trans_le low).not_gt less.not_gt
  · have some : 0 < second.mantissa := by
      rw [Nat.pos_iff_ne_zero, ne_eq, mantissa_eq_zero_iff]
      exact (first.size_nonneg.trans_lt greater).ne'
    have below := upper_le_lower canonical canonicalSecond greater
    exact iff_of_true ((high.trans below).trans_lt (lower_lt_size some)) greater

end Binary

namespace Double

open Float.Model Float.Model.UnpackedFloat

/-- The bits of a double, as they are unpacked. -/
def bits (value : Float) : BitVec Format.binary64.numBits := value.toModel.toBits.toBitVec

theorem toNat_unpackExponent (value : Float) :
    (unpackExponent (bits value)).toNat = value.toBits.toNat / 2 ^ 52 % 2 ^ 11 := by
  rw [unpackExponent, BitVec.toNat_cast, BitVec.extractLsb, BitVec.extractLsb'_toNat,
    Nat.shiftRight_eq_div_pow]
  rfl

theorem toNat_unpackMantissa (value : Float) :
    (unpackMantissa (bits value)).toNat = value.toBits.toNat % 2 ^ 52 := by
  rw [unpackMantissa, BitVec.toNat_cast, BitVec.extractLsb, BitVec.extractLsb'_toNat,
    Nat.shiftRight_eq_div_pow, pow_zero, Nat.div_one]
  rfl

theorem ofBitVec_unpackSign (value : Float) : Sign.ofBitVec (unpackSign (bits value)) =
    if 2 ^ 63 ≤ value.toBits.toNat then .negative else .positive := by
  have bounded := value.toBits.toNat_lt
  have sign : (unpackSign (bits value)).toNat = value.toBits.toNat / 2 ^ 63 % 2 := by
    rw [unpackSign, BitVec.toNat_cast, BitVec.extractLsb, BitVec.extractLsb'_toNat,
      Nat.shiftRight_eq_div_pow]
    rfl
  have plus : unpackSign (bits value) = 0#1 ↔ ¬2 ^ 63 ≤ value.toBits.toNat := by
    rw [← BitVec.toNat_inj, sign]
    change _ = 0 ↔ _
    omega
  rw [Sign.ofBitVec, ite_cond_congr (propext plus), ite_not]

/-- A sign takes a size to a number. -/
theorem rational_finite (minus : Prop) [Decidable minus] {mantissa : Nat} (exponent : Int)
    (positive : 0 < mantissa) :
    rational (.finite (if minus then .negative else .positive) mantissa exponent positive) =
      (if decide minus then -1 else 1) * Binary.size ⟨decide minus, mantissa, exponent⟩ := by
  by_cases negative : minus <;> simp [negative, rational, Binary.size]

/-- A finite double and its parts stand for the same number. -/
theorem rational_parts {value : Float} {split : Binary}
    (found : Binary.ofFloat? value = some split) :
    (parts value).isFinite = true ∧
      rational (parts value) = (if split.negative then -1 else 1) * split.size := by
  have exponent := toNat_unpackExponent value
  have mantissa := toNat_unpackMantissa value
  have sign := ofBitVec_unpackSign value
  have hidden := toNat_leading (bits value)
  change (unpack .binary64 (bits value)).isFinite = true ∧
    rational (unpack .binary64 (bits value)) = _
  unfold Binary.ofFloat? at found
  unfold UnpackedFloat.unpack
  dsimp only at found ⊢
  split at found
  · contradiction
  · rename_i notFull
    have stored : unpackExponent (bits value) ≠ -1#_ := by
      intro full
      rw [full] at exponent
      exact notFull exponent.symm
    rw [if_neg stored]
    split at found
    · rename_i least
      have least : unpackExponent (bits value) = 0#_ :=
        BitVec.eq_of_toNat_eq (exponent.trans least)
      cases found
      rw [if_pos least]
      split
      · rename_i empty
        rw [empty] at mantissa
        have nothing : value.toBits.toNat % Nat.pow 2 52 = 0 := mantissa.symm
        refine ⟨rfl, ?_⟩
        simp [nothing, rational, Binary.size]
      · refine ⟨rfl, ?_⟩
        have power : (((unpackExponent (bits value)).toNat : Int) -
            (Format.binary64.exponentBias + Format.binary64.mantissaBitsWithoutImplicit) + 1) =
              -1074 := by
          rw [least]
          rfl
        simp only [sign, mantissa, power]
        exact rational_finite _ _ _
    · rename_i more
      have more : unpackExponent (bits value) ≠ 0#_ := by
        intro least
        rw [least] at exponent
        exact more exponent.symm
      cases found
      rw [if_neg more]
      refine ⟨rfl, ?_⟩
      have power : (((unpackExponent (bits value)).toNat : Int) -
          (Format.binary64.exponentBias + Format.binary64.mantissaBitsWithoutImplicit)) =
            Int.ofNat (value.toBits.toNat / Nat.pow 2 52 % Nat.pow 2 11) - 1075 := by
        rw [exponent]
        rfl
      have full : 2 ^ 52 + value.toBits.toNat % 2 ^ 52 =
          value.toBits.toNat % Nat.pow 2 52 + Nat.pow 2 52 := Nat.add_comm _ _
      simp only [sign, hidden, mantissa, power, full]
      exact rational_finite _ _ _

/-- A double lies above a rational number. -/
def exceeds (value : Float) (number : Rat) : Bool :=
  match parts value with
  | .infinity .positive => true
  | .infinity .negative => false
  | unpacked => decide (number < rational unpacked)

/-- What a message tells of a finite double rounds to it. -/
theorem exists_exact_write {value : Float} (bounded : Scalar.isFinite value = true)
    {rest : List Char} (stops : ∀ letter ∈ rest.head?, Number.isDigit letter = false ∧ letter ≠ '.') :
    ∃ split number, Binary.ofFloat? value = some split ∧ split.Canonical ∧
      split.Rounds number ∧ (split.mantissa = 0 → number = 0) ∧
      Number.exact ((Layout.message.write value).toList ++ rest) =
        (if split.negative then -1 else 1) * number := by
  obtain ⟨split, found⟩ := Binary.exists_ofFloat? bounded
  have canonical := Binary.canonical_ofFloat? found
  obtain ⟨rounds, small, sign⟩ := Binary.shortest_spec canonical
  obtain ⟨numeral, valid, plain, magnitude, written⟩ :=
    split.shortest.exists_numeral_message small
  refine ⟨split, split.shortest.magnitude, found, canonical, rounds, ?_, ?_⟩
  · intro nothing
    simp [Binary.shortest, nothing, Decimal.magnitude, Decimal.valueOf]
  · have told : Layout.message.write value = split.shortest.toText Layout.message := by
      rw [Layout.write, found]
    rw [told, written, sign, Number.exact_letters valid plain _ stops, magnitude]

theorem exceeds_of_isFinite {value : Float} (bounded : (parts value).isFinite = true)
    (number : Rat) : exceeds value number = decide (number < rational (parts value)) := by
  unfold exceeds
  cases found : parts value with
  | notANumber | zero | finite => rfl
  | infinity =>
      rw [found] at bounded
      cases bounded

theorem toEReal_of_isFinite {value : Float} (bounded : (parts value).isFinite = true) :
    toEReal value = ((rational (parts value) : ℝ) : EReal) := extended_of_isFinite bounded

theorem toEReal_zero : toEReal 0.0 = 0 := by
  have nothing : rational (parts 0.0) = 0 := rfl
  rw [toEReal_of_isFinite (by rfl), nothing]
  simp

/-- A double that is not below zero stands for its size, whatever its sign. -/
theorem rational_eq_size {value : Float} {split : Binary}
    (found : Binary.ofFloat? value = some split) (low : ¬value < 0.0) :
    rational (parts value) = split.size ∧ (split.negative = true → split.mantissa = 0) := by
  obtain ⟨bounded, same⟩ := rational_parts found
  have number := bne_self_of_isFinite (isFinite_iff.mpr bounded)
  rw [lt_iff_toEReal number (by rfl), toEReal_zero, toEReal_of_isFinite bounded, not_lt] at low
  have low : 0 ≤ rational (parts value) := by exact_mod_cast low
  cases negative : split.negative with
  | false => exact ⟨by simpa [negative] using same, nofun⟩
  | true =>
      rw [same, negative] at low ⊢
      have nothing : split.size = 0 := by
        have := split.size_nonneg
        simp only [if_true] at low
        linarith
      exact ⟨by simp [nothing], fun _ => split.mantissa_eq_zero_iff.mpr nothing⟩

/-- Another double exceeds what a message tells of a double if and only if it exceeds the double. -/
theorem exceeds_exact_write {told value : Float} (bounded : Scalar.isFinite told = true)
    (low : ¬told < 0.0) (number : (value != value) = false)
    (differs : toEReal value ≠ toEReal told) {rest : List Char}
    (stops : ∀ letter ∈ rest.head?, Number.isDigit letter = false ∧ letter ≠ '.') :
    exceeds value (Number.exact ((Layout.message.write told).toList ++ rest)) =
      decide (told < value) := by
  obtain ⟨split, exact, found, canonical, rounds, empty, read⟩ := exists_exact_write bounded stops
  obtain ⟨size, signless⟩ := rational_eq_size found low
  have finiteTold := isFinite_iff.mp bounded
  have read : Number.exact ((Layout.message.write told).toList ++ rest) = exact := by
    rw [read]
    cases negative : split.negative with
    | false => simp
    | true => simp [empty (signless negative)]
  rw [read]
  cases finite : Scalar.isFinite value with
  | false =>
      rcases eq_infinity_or_of_isFinite_eq_false finite with rfl | rfl | nothing
      · rw [exceeds, eq_infinity_iff.mp rfl, decide_eq_true (lt_infinity bounded)]
      · rw [exceeds, eq_neg_infinity_iff.mp rfl, decide_eq_false (not_lt_neg_infinity told)]
      · rw [number] at nothing
        cases nothing
  | true =>
      obtain ⟨other, foundOther⟩ := Binary.exists_ofFloat? finite
      obtain ⟨finite, same⟩ := rational_parts foundOther
      rw [exceeds_of_isFinite finite, decide_eq_decide,
        lt_iff_toEReal (bne_self_of_isFinite bounded) number]
      rw [toEReal_of_isFinite finite, toEReal_of_isFinite finiteTold, size, ne_eq,
        EReal.coe_eq_coe_iff, Rat.cast_inj, same] at differs
      rw [toEReal_of_isFinite finite, toEReal_of_isFinite finiteTold, size, EReal.coe_lt_coe_iff,
        Rat.cast_lt, same]
      cases negative : other.negative with
      | false =>
          rw [negative, if_neg Bool.false_ne_true, one_mul] at differs
          rw [if_neg Bool.false_ne_true, one_mul]
          exact rounds.lt_size_iff canonical (Binary.canonical_ofFloat? foundOther) differs
      | true =>
          have notAbove : (if true = true then -1 else 1) * other.size ≤ 0 := by
            simpa using other.size_nonneg
          exact iff_of_false (notAbove.trans rounds.nonneg).not_gt
            (notAbove.trans split.size_nonneg).not_gt

end Double

end ReviewGate
