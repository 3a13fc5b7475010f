import Mathlib
import ReviewGate.Proofs.Number.Double

/-!
# Rounded sums and differences

Rounding does not lead out of the unit interval: a sum of doubles that are not below zero is not
below zero, and what is left of a double that is not above one, when a double that is not below zero
is taken from it, is not above one.
-/

namespace ReviewGate.Double

open Float.Model Float.Model.UnpackedFloat

/-! ## Signs -/

theorem isNegative_round (mantissa : Nat) (exponent : Int) :
    isNegative (UnpackedFloat.round .binary64 .positive mantissa exponent) = false :=
  isNegative_roundWithAccuracy ..

theorem isNegative_normalize {mantissa : Int} (low : 0 ≤ mantissa) (exponent : Int) :
    isNegative (normalize .binary64 mantissa exponent .positive) = false := by
  unfold UnpackedFloat.normalize
  cases order : compare mantissa 0 with
  | lt =>
      have below : mantissa < 0 := Int.compare_eq_lt.mp order
      omega
  | eq => rfl
  | gt => exact isNegative_round ..

theorem isNegative_add {first second : UnpackedFloat} (left : isNegative first = false)
    (right : isNegative second = false) :
    isNegative (UnpackedFloat.add .binary64 first second) = false := by
  cases first with
  | notANumber => rfl
  | infinity sign =>
      cases sign with
      | negative => contradiction
      | positive =>
          cases second with
          | notANumber | zero | finite => rfl
          | infinity sign =>
              cases sign with
              | negative => contradiction
              | positive => rfl
  | zero sign =>
      cases second with
      | notANumber => rfl
      | infinity other => exact right
      | zero other => cases sign <;> cases other <;> rfl
      | finite other mantissa exponent positive => exact right
  | finite sign mantissa exponent positive =>
      cases sign with
      | negative => contradiction
      | positive =>
          cases second with
          | notANumber | zero => rfl
          | infinity sign => exact right
          | finite sign other power positive =>
              cases sign with
              | negative => contradiction
              | positive =>
                  exact isNegative_normalize
                    (Int.add_nonneg (Int.natCast_nonneg _) (Int.natCast_nonneg _)) _

/-- A quotient by what is above zero keeps its sign. -/
theorem isNegative_div {first second : UnpackedFloat} (left : isNegative first = false)
    (above : UnpackedFloat.compare (.zero .positive) second = some .lt) :
    isNegative (UnpackedFloat.div .binary64 first second) = false := by
  cases second with
  | notANumber => contradiction
  | zero sign => cases above
  | infinity sign =>
      cases sign with
      | negative => cases above
      | positive =>
          cases first with
          | notANumber | infinity | zero => rfl
          | finite sign =>
              cases sign with
              | negative => contradiction
              | positive => rfl
  | finite sign =>
      cases sign with
      | negative => cases above
      | positive =>
          cases first with
          | notANumber | zero => rfl
          | infinity sign =>
              cases sign with
              | negative => contradiction
              | positive => rfl
          | finite sign =>
              cases sign with
              | negative => contradiction
              | positive => exact isNegative_roundWithAccuracy ..

theorem not_add_lt_zero {first second : Float} (left : ¬first < 0.0) (right : ¬second < 0.0) :
    ¬first + second < 0.0 := by
  rw [lt_zero_iff, Bool.not_eq_true] at left right ⊢
  exact isNegative_unpack_pack (isNegative_add left right)

theorem not_div_lt_zero {dividend divisor : Float} (low : ¬dividend < 0.0)
    (above : 0.0 < divisor) : ¬dividend / divisor < 0.0 := by
  rw [lt_zero_iff, Bool.not_eq_true] at low ⊢
  rw [lt_iff, parts_zero] at above
  exact isNegative_unpack_pack (isNegative_div low above)

theorem isNegative_ofScientific (mantissa : Nat) (power : Int) :
    isNegative (UnpackedFloat.ofScientific .binary64 mantissa power) = false := by
  unfold UnpackedFloat.ofScientific
  split
  · rfl
  · split
    · rfl
    · split
      · rfl
      · split
        · exact isNegative_roundWithAccuracy ..
        · exact isNegative_roundWithAccuracy ..

/-- A natural number fits into the mantissa, or it is rounded like any decimal number. -/
theorem not_ofNat_lt_zero (number : Nat) : ¬Float.ofNat number < 0.0 := by
  change ¬Float.ofScientific number false 0 < 0.0
  unfold Float.ofScientific
  split
  · have converted : ¬number.toUInt64.toFloat < 0.0 := by
      rw [lt_zero_iff, Bool.not_eq_true]
      exact isNegative_unpack_pack (isNegative_normalize (Int.natCast_nonneg _) 0)
    have one : ¬Float.exactlyRepresentablePowersOfTen[0] < 0.0 := by decide
    exact not_mul_lt_zero converted one
  · rw [lt_zero_iff, Bool.not_eq_true]
    exact isNegative_unpack_pack (isNegative_ofScientific number 0)

theorem not_ofInt_lt_zero {number : Int} (low : 0 ≤ number) : ¬Float.ofInt number < 0.0 := by
  obtain ⟨number, rfl⟩ := Int.eq_ofNat_of_zero_le low
  exact not_ofNat_lt_zero number

/-! ## Above one -/

/-- A number above one, or the positive infinity. -/
def isAboveOne : UnpackedFloat → Bool
  | .infinity .positive => true
  | .finite .positive mantissa exponent _ =>
      decide (-52 < exponent ∨ exponent = -52 ∧ 2 ^ 52 < mantissa)
  | _ => false

theorem parts_one : parts 1.0 = .finite .positive (2 ^ 52) (-52) (by decide) := rfl

theorem one_lt_iff {value : Float} : 1.0 < value ↔ isAboveOne (parts value) = true := by
  rw [lt_iff, parts_one]
  cases parts value with
  | notANumber => decide
  | infinity sign => cases sign <;> decide
  | zero sign => exact iff_of_false nofun nofun
  | finite sign mantissa exponent positive =>
      cases sign with
      | negative => exact iff_of_false nofun nofun
      | positive =>
          have unfolded : UnpackedFloat.compare (.finite .positive (2 ^ 52) (-52) (by decide))
              (.finite .positive mantissa exponent positive) =
                some ((compare (-52) exponent).then (compare (2 ^ 52) mantissa)) := rfl
          rw [unfolded, Option.some_inj, Ordering.then_eq_lt, Int.compare_eq_lt,
            Int.compare_eq_eq, Nat.compare_eq_lt]
          rw [isAboveOne, decide_eq_true_iff, @eq_comm Int exponent]

/-- What is stored with a smaller exponent than one has, or as one is, is not above one. -/
theorem isAboveOne_unpack {bits : BitVec Format.binary64.numBits}
    (small : (unpackExponent bits).toNat < 1023 ∨
      (unpackExponent bits).toNat = 1023 ∧ unpackMantissa bits = 0#_) :
    isAboveOne (unpack .binary64 bits) = false := by
  have full : unpackExponent bits ≠ -1#_ := by
    intro full
    have largest : (unpackExponent bits).toNat = 2047 := by
      rw [full]
      rfl
    omega
  unfold UnpackedFloat.unpack
  dsimp only
  rw [if_neg full]
  split
  · rename_i least
    split
    · rfl
    · cases Sign.ofBitVec (unpackSign bits) with
      | negative => rfl
      | positive =>
          have smallest : (0#11).toNat = 0 := rfl
          have bias : Format.binary64.exponentBias = 1023 := rfl
          rw [isAboveOne, decide_eq_false_iff_not, least]
          omega
  · cases Sign.ofBitVec (unpackSign bits) with
    | negative => rfl
    | positive =>
        rw [isAboveOne, decide_eq_false_iff_not]
        have bias : Format.binary64.exponentBias = 1023 := rfl
        rcases small with less | ⟨same, empty⟩
        · omega
        · have implicit : (1#1 ++ unpackMantissa bits).toNat = 2 ^ 52 := by
            rw [empty]
            rfl
          omega

/-- What is stored with a minus is not above one. -/
theorem isAboveOne_unpack_of_minus {bits : BitVec Format.binary64.numBits}
    (minus : unpackSign bits = 1#1) : isAboveOne (unpack .binary64 bits) = false := by
  rcases unpack_cases bits with
    ⟨-, -, found⟩ | found | found | ⟨mantissa, exponent, positive, found⟩
  case inr.inl => rw [found]; rfl
  all_goals
    rw [found, minus]
    rfl

/-- Packing and unpacking does not lead above one. -/
theorem isAboveOne_unpack_pack {unpacked : UnpackedFloat}
    (below : isAboveOne unpacked = false) :
    isAboveOne (unpack .binary64 (UnpackedFloat.pack .binary64 unpacked)) = false := by
  cases unpacked with
  | notANumber => rfl
  | zero sign => cases sign <;> decide
  | infinity sign =>
      cases sign with
      | positive => cases below
      | negative => decide
  | finite sign mantissa exponent positive =>
      cases sign with
      | negative =>
          unfold UnpackedFloat.pack
          dsimp only
          split
          · decide
          · split <;> exact isAboveOne_unpack_of_minus (unpackSign_packComponents .negative _ _)
      | positive =>
          rw [isAboveOne, decide_eq_false_iff_not] at below
          unfold UnpackedFloat.pack
          dsimp only
          have bias : Format.binary64.exponentBias = 1023 := rfl
          rw [if_neg (by omega)]
          split
          · rename_i normal
            apply isAboveOne_unpack
            rw [unpackExponent_packComponents, unpackMantissa_packComponents]
            have bits : Format.binary64.mantissaBits = 53 := rfl
            have large := Nat.log2_self_le (Nat.pos_iff_ne_zero.mp positive)
            have log : mantissa.log2 = 52 := by omega
            rw [log] at large
            have field : ∀ number : Int, number ≤ 1023 →
                (BitVec.ofNat 11 number.toNat).toNat = number.toNat := by
              intro number atMost
              rw [BitVec.toNat_ofNat, Nat.mod_eq_of_lt (by omega)]
            have biased : exponent + 1023 + 52 ≤ 1023 := by omega
            rw [bias]
            change (BitVec.ofNat 11 (exponent + 1023 + 52).toNat).toNat < 1023 ∨
              (BitVec.ofNat 11 (exponent + 1023 + 52).toNat).toNat = 1023 ∧
                BitVec.ofNat 52 mantissa = 0#52
            rw [field _ biased]
            by_cases less : exponent < -52
            · exact .inl (by omega)
            · have same : mantissa = 2 ^ 52 := by omega
              exact .inr ⟨by omega, by rw [same]; rfl⟩
          · apply isAboveOne_unpack
            rw [unpackExponent_packComponents]
            exact .inl (by decide)

/-! ### Shifted mantissas -/

theorem mantissa_shiftRight (extended : ExtendedMantissa) (amount : Nat) :
    (extended >>> amount).mantissa = extended.mantissa / 2 ^ amount := by
  induction amount with
  | zero => exact (Nat.div_one _).symm
  | succ amount inductionHypothesis =>
      change (extended >>> amount).mantissa / 2 = _
      rw [inductionHypothesis, Nat.div_div_eq_div_mul, Nat.pow_succ]

theorem roundedMantissa_le (extended : ExtendedMantissa) :
    extended.roundedMantissa ≤ extended.mantissa + 1 := by
  obtain ⟨mantissa, roundBit, stickyBit⟩ := extended
  cases roundBit <;> cases stickyBit <;>
    simp only [ExtendedMantissa.roundedMantissa, ExtendedMantissa.accuracy,
      Accuracy.roundToNearestEven] <;>
    omega

/-- The exponent with which a number is stored. -/
def storedExponent (mantissa : Nat) (exponent : Int) : Int :=
  Format.binary64.targetExponent (totalExponent mantissa exponent)

theorem storedExponent_eq (mantissa : Nat) (exponent : Int) :
    storedExponent mantissa exponent = max (mantissa.log2 + 1 + exponent - 53) (-1074) := rfl

theorem mantissa_shiftToTargetExponent (mantissa : Nat) (exponent : Int) (accuracy : Accuracy) :
    (shiftToTargetExponent .binary64 mantissa exponent accuracy).1.mantissa =
      mantissa / 2 ^ (storedExponent mantissa exponent - exponent).toNat := by
  unfold shiftToTargetExponent shiftToExponent
  rw [mantissa_shiftRight]
  cases accuracy with
  | exact => rfl
  | inexact relation => cases relation <;> rfl

theorem exponent_shiftToTargetExponent (mantissa : Nat) (exponent : Int) (accuracy : Accuracy) :
    (shiftToTargetExponent .binary64 mantissa exponent accuracy).2 =
      exponent + (storedExponent mantissa exponent - exponent).toNat := rfl

/-- The first shift leaves at most 53 binary digits. -/
theorem div_lt_of_storedExponent (mantissa : Nat) (exponent : Int) :
    mantissa / 2 ^ (storedExponent mantissa exponent - exponent).toNat < 2 ^ 53 := by
  have stored := storedExponent_eq mantissa exponent
  have digits : mantissa.log2 + 1 ≤
      53 + (storedExponent mantissa exponent - exponent).toNat := by omega
  have below := Nat.lt_of_lt_of_le Nat.lt_log2_self (Nat.pow_le_pow_right Nat.two_pos digits)
  rw [Nat.pow_add] at below
  exact Nat.div_lt_of_lt_mul (by rwa [Nat.mul_comm])

/-- A number below one is rounded to one at most. -/
theorem isAboveOne_roundWithAccuracy {mantissa : Nat} {exponent : Int} (accuracy : Accuracy)
    (below : totalExponent mantissa exponent ≤ 0)
    (precise : exponent ≤ storedExponent mantissa exponent) :
    isAboveOne (roundWithAccuracy .binary64 .positive mantissa exponent accuracy) = false := by
  have stored := storedExponent_eq mantissa exponent
  unfold totalExponent at below
  have first := div_lt_of_storedExponent mantissa exponent
  rw [← mantissa_shiftToTargetExponent mantissa exponent accuracy] at first
  have shifted := exponent_shiftToTargetExponent mantissa exponent accuracy
  unfold roundWithAccuracy
  generalize shiftToTargetExponent .binary64 mantissa exponent accuracy = once at first shifted ⊢
  obtain ⟨extended, reached⟩ := once
  dsimp only at first shifted ⊢
  have rounded := roundedMantissa_le extended
  generalize extended.roundedMantissa = digits at rounded ⊢
  have again := mantissa_shiftToTargetExponent digits reached .exact
  have restored := storedExponent_eq digits reached
  have log : digits.log2 ≤ 53 := by
    by_cases empty : digits = 0
    · rw [empty]
      decide
    · exact Nat.le_of_lt_succ ((Nat.log2_lt empty).mpr (by omega))
  rw [exponent_shiftToTargetExponent]
  split
  · rfl
  · rw [isAboveOne, decide_eq_false_iff_not, again]
    -- The rounded digits are shifted by one place at most.
    obtain none | one : (storedExponent digits reached - reached).toNat = 0 ∨
        (storedExponent digits reached - reached).toNat = 1 := by omega
    · rw [none]
      omega
    · rw [one]
      omega

theorem log2_shiftLeft {mantissa : Nat} (positive : mantissa ≠ 0) (amount : Nat) :
    (mantissa <<< amount).log2 = mantissa.log2 + amount := by
  induction amount with
  | zero => rfl
  | succ amount inductionHypothesis =>
      have shifted : mantissa <<< amount ≠ 0 := by
        rw [Nat.shiftLeft_eq]
        exact Nat.mul_ne_zero positive (Nat.ne_of_gt (Nat.two_pow_pos amount))
      rw [Nat.shiftLeft_succ, Nat.log2_two_mul shifted, inductionHypothesis, Nat.add_assoc]

/-- A number below one is rounded to one at most, with any exponent. -/
theorem isAboveOne_round {mantissa : Nat} {exponent : Int} (positive : mantissa ≠ 0)
    (below : totalExponent mantissa exponent ≤ 0) :
    isAboveOne (UnpackedFloat.round .binary64 .positive mantissa exponent) = false := by
  have same : ∀ amount : Nat, totalExponent (mantissa <<< amount) (exponent - amount) =
      totalExponent mantissa exponent := by
    intro amount
    unfold totalExponent
    rw [log2_shiftLeft positive]
    omega
  have stored : ∀ amount : Nat, storedExponent (mantissa <<< amount) (exponent - amount) =
      storedExponent mantissa exponent := fun amount =>
    congrArg Format.binary64.targetExponent (same amount)
  refine isAboveOne_roundWithAccuracy .exact ?_ ?_
  · exact Int.le_trans (Int.le_of_eq (same _)) below
  · refine Int.le_trans ?_ (Int.le_of_eq (stored _).symm)
    unfold storedExponent
    omega

theorem isAboveOne_roundWithAccuracy_negative (mantissa : Nat) (exponent : Int)
    (accuracy : Accuracy) :
    isAboveOne (roundWithAccuracy .binary64 .negative mantissa exponent accuracy) = false := by
  unfold roundWithAccuracy
  dsimp only
  rw [apply_dite isAboveOne]
  exact dite_eq_ite.trans (ite_self false)

theorem isAboveOne_normalize {mantissa exponent : Int}
    (below : mantissa < (2 ^ (-exponent).toNat : Nat)) :
    isAboveOne (normalize .binary64 mantissa exponent .positive) = false := by
  unfold UnpackedFloat.normalize
  cases order : compare mantissa 0 with
  | lt => exact isAboveOne_roundWithAccuracy_negative ..
  | eq => rfl
  | gt =>
      have positive : 0 < mantissa := Int.compare_eq_gt.mp order
      have some : mantissa.toNat ≠ 0 := by omega
      have log := (Nat.log2_lt some).mpr (by omega : mantissa.toNat < 2 ^ (-exponent).toNat)
      apply isAboveOne_round some
      unfold totalExponent
      omega

/-! ### Differences -/

theorem mantissa_lt_of_unpack {bits : BitVec Format.binary64.numBits} {sign : Sign}
    {mantissa : Nat} {exponent : Int} {positive : 0 < mantissa}
    (unpacked : unpack .binary64 bits = .finite sign mantissa exponent positive) :
    mantissa < 2 ^ 53 := by
  unfold UnpackedFloat.unpack at unpacked
  dsimp only at unpacked
  split at unpacked
  · split at unpacked <;> cases unpacked
  · split at unpacked
    · split at unpacked
      · cases unpacked
      · cases unpacked
        exact Nat.lt_trans (unpackMantissa bits).isLt (by decide)
    · cases unpacked
      exact (1#1 ++ unpackMantissa bits).isLt

/-- A mantissa of 53 binary digits that is not above one stays so with a smaller exponent. -/
theorem shiftLeft_le_of_isAboveOne {mantissa : Nat} {exponent least : Int}
    {positive : 0 < mantissa} (digits : mantissa < 2 ^ 53)
    (below : isAboveOne (.finite .positive mantissa exponent positive) = false)
    (smaller : least ≤ exponent) :
    mantissa <<< (exponent - least).toNat ≤ 2 ^ (-least).toNat := by
  rw [isAboveOne, decide_eq_false_iff_not] at below
  have fits : mantissa ≤ 2 ^ (-exponent).toNat := by
    by_cases less : exponent < -52
    · exact Nat.le_trans (Nat.le_of_lt digits) (Nat.pow_le_pow_right Nat.two_pos (by omega))
    · have same : (-exponent).toNat = 52 := by omega
      rw [same]
      omega
  have sum : (-least).toNat = (-exponent).toNat + (exponent - least).toNat := by omega
  rw [Nat.shiftLeft_eq, sum, Nat.pow_add]
  exact Nat.mul_le_mul_right _ fits

/-- What is left of a number that is not above one. -/
theorem isAboveOne_sub {first second : UnpackedFloat}
    (digits : ∀ sign mantissa exponent positive,
      first = .finite sign mantissa exponent positive → mantissa < 2 ^ 53)
    (below : isAboveOne first = false) (low : isNegative second = false) :
    isAboveOne (UnpackedFloat.sub .binary64 first second) = false := by
  cases second with
  | notANumber => cases first <;> rfl
  | infinity sign =>
      cases sign with
      | negative => contradiction
      | positive =>
          cases first with
          | infinity sign => cases sign <;> rfl
          | notANumber | zero | finite => rfl
  | zero sign =>
      cases first with
      | zero other => cases sign <;> cases other <;> rfl
      | notANumber | infinity | finite => exact below
  | finite sign taken power some =>
      cases sign with
      | negative => contradiction
      | positive =>
          cases first with
          | notANumber | zero => rfl
          | infinity sign => exact below
          | finite sign mantissa exponent positive =>
              let least := min exponent power
              let minuend := mantissa <<< (exponent - least).toNat
              let subtrahend := taken <<< (power - least).toNat
              change isAboveOne (normalize .binary64 (sign.apply minuend - subtrahend) least
                .positive) = false
              have taken : 0 < subtrahend := by
                unfold subtrahend
                rw [Nat.shiftLeft_eq]
                exact Nat.mul_pos some (Nat.two_pow_pos _)
              apply isAboveOne_normalize
              cases sign with
              | negative =>
                  have minus : Sign.negative.apply minuend = -(minuend : Int) := rfl
                  have low : 0 ≤ (minuend : Int) := Int.natCast_nonneg minuend
                  have room : 0 < 2 ^ (-least).toNat := Nat.two_pow_pos _
                  omega
              | positive =>
                  have plus : Sign.positive.apply minuend = (minuend : Int) := rfl
                  have smaller : least ≤ exponent := Int.min_le_left exponent power
                  have fits := shiftLeft_le_of_isAboveOne
                    (digits .positive mantissa exponent positive rfl) below smaller
                  omega

/-- What is left of a double that is not above one, when one not below zero is taken from it. -/
theorem not_one_lt_sub {value amount : Float} (below : ¬1.0 < value) (low : ¬amount < 0.0) :
    ¬1.0 < value - amount := by
  rw [one_lt_iff, Bool.not_eq_true] at below ⊢
  rw [lt_zero_iff, Bool.not_eq_true] at low
  exact isAboveOne_unpack_pack
    (isAboveOne_sub (fun _ _ _ _ => mantissa_lt_of_unpack) below low)

/-! ## The unit interval -/

theorem compare_swap (first second : UnpackedFloat) :
    (UnpackedFloat.compare first second).map Ordering.swap =
      UnpackedFloat.compare second first := by
  have magnitudes : ∀ (mantissa other : Nat) (exponent power : Int),
      ((compare exponent power).then (compare mantissa other)).swap =
        (compare power exponent).then (compare other mantissa) := by
    intro mantissa other exponent power
    rw [Ordering.swap_then, Int.compare_swap, Nat.compare_swap]
  cases first with
  | notANumber => cases second <;> rfl
  | zero sign =>
      cases second with
      | notANumber | zero => rfl
      | infinity other | finite other => cases other <;> rfl
  | infinity sign =>
      cases second with
      | notANumber => cases sign <;> rfl
      | zero => cases sign <;> rfl
      | infinity other | finite other => cases sign <;> cases other <;> rfl
  | finite sign mantissa exponent positive =>
      cases second with
      | notANumber => cases sign <;> rfl
      | zero => cases sign <;> rfl
      | infinity other => cases sign <;> cases other <;> rfl
      | finite other power =>
          cases sign with
          | positive =>
              cases other with
              | positive => exact congrArg some (magnitudes ..)
              | negative => rfl
          | negative =>
              cases other with
              | positive => rfl
              | negative => exact congrArg (some ·.swap) (magnitudes ..)

theorem compare_eq_none_iff {first second : UnpackedFloat} :
    UnpackedFloat.compare first second = none ↔ first = .notANumber ∨ second = .notANumber := by
  fun_cases UnpackedFloat.compare first second <;> simp_all

/-- Numbers are ordered one way or the other. -/
theorem le_iff_not_lt {first second : Float} (left : (first != first) = false)
    (right : (second != second) = false) : first ≤ second ↔ ¬second < first := by
  rw [Bool.eq_false_iff, ne_eq, bne_self_iff] at left right
  rw [le_iff, lt_iff, ← compare_swap (parts first) (parts second)]
  cases compared : (parts first).compare (parts second) with
  | none => exact absurd (compare_eq_none_iff.mp compared) (by simp [left, right])
  | some order => cases order <;> simp

theorem bne_self_of_le {first second : Float} (ordered : first ≤ second) :
    (first != first) = false ∧ (second != second) = false := by
  obtain ⟨order, compared, -⟩ := le_iff.mp ordered
  rw [Bool.eq_false_iff, Bool.eq_false_iff, ne_eq, ne_eq, bne_self_iff, bne_self_iff, ← not_or,
    ← compare_eq_none_iff, compared]
  exact nofun

theorem inUnit_iff {value : Float} :
    Scalar.InUnit value ↔ (value != value) = false ∧ ¬value < 0.0 ∧ ¬1.0 < value := by
  constructor
  · intro ⟨low, high⟩
    have number := (bne_self_of_le low).2
    exact ⟨number, (le_iff_not_lt rfl number).mp low, (le_iff_not_lt number rfl).mp high⟩
  · intro ⟨number, low, high⟩
    exact ⟨(le_iff_not_lt rfl number).mpr low, (le_iff_not_lt number rfl).mpr high⟩

theorem inUnit_clampUnit (value : Float) : Scalar.InUnit (Scalar.clampUnit value) := by
  unfold Scalar.clampUnit
  split
  · decide
  · rename_i number
    split
    · decide
    · rename_i notBelow
      split
      · decide
      · rename_i notAbove
        exact inUnit_iff.mpr ⟨Bool.eq_false_iff.mpr number, notBelow, notAbove⟩

theorem isAboveOne_of_compare {lower upper : UnpackedFloat} {order : Ordering}
    (compared : UnpackedFloat.compare lower upper = some order) (isLE : order.isLE = true)
    (above : isAboveOne lower = true) : isAboveOne upper = true := by
  cases lower with
  | notANumber | zero => cases above
  | infinity sign =>
      cases sign with
      | negative => cases above
      | positive =>
          cases upper with
          | infinity other =>
              cases other with
              | positive => rfl
              | negative =>
                  cases compared
                  cases isLE
          | notANumber => cases compared
          | zero | finite =>
              cases compared
              cases isLE
  | finite sign mantissa exponent positive =>
      cases sign with
      | negative => cases above
      | positive =>
          cases upper with
          | notANumber => cases compared
          | zero =>
              cases compared
              cases isLE
          | infinity other =>
              cases other with
              | positive => rfl
              | negative =>
                  cases compared
                  cases isLE
          | finite other digits power some =>
              cases other with
              | negative =>
                  cases compared
                  cases isLE
              | positive =>
                  have same : (compare exponent power).then (compare mantissa digits) = order :=
                    Option.some_inj.mp compared
                  rw [isAboveOne, decide_eq_true_iff] at above ⊢
                  rw [← same, Ordering.isLE_then_iff_or, Int.compare_eq_lt, Int.compare_eq_eq,
                    Nat.isLE_compare] at isLE
                  omega

/-- What is at most a number that is not above one is not above one. -/
theorem not_one_lt_of_le {value bound : Float} (below : ¬1.0 < bound) (atMost : value ≤ bound) :
    ¬1.0 < value := by
  rw [one_lt_iff] at below ⊢
  obtain ⟨order, compared, isLE⟩ := le_iff.mp atMost
  exact fun above => below (isAboveOne_of_compare compared isLE above)

/-- A number is not raised above one, when it is raised to a bound at most. -/
theorem inUnit_larger_sub {value amount bound : Float} (within : Scalar.InUnit value)
    (low : ¬amount < 0.0) (bounded : Scalar.InUnit bound) :
    Scalar.InUnit (Scalar.larger (value - amount) bound) := by
  unfold Scalar.larger
  split
  · exact bounded
  · rename_i kept
    obtain ⟨notBelow, number⟩ := not_or.mp kept
    have number : (value - amount != value - amount) = false := Bool.eq_false_iff.mpr number
    obtain ⟨boundNumber, boundLow, -⟩ := inUnit_iff.mp bounded
    have above := (le_iff_not_lt boundNumber number).mpr notBelow
    exact inUnit_iff.mpr ⟨number, not_lt_zero_of_le boundLow (.inr above),
      not_one_lt_sub (inUnit_iff.mp within).2.2 low⟩

theorem inUnit_smaller_add {value amount bound : Float} (within : Scalar.InUnit value)
    (low : ¬amount < 0.0) (bounded : Scalar.InUnit bound) :
    Scalar.InUnit (Scalar.smaller (value + amount) bound) := by
  unfold Scalar.smaller
  split
  · exact bounded
  · rename_i kept
    obtain ⟨notAbove, number⟩ := not_or.mp kept
    have number : (value + amount != value + amount) = false := Bool.eq_false_iff.mpr number
    obtain ⟨boundNumber, -, boundHigh⟩ := inUnit_iff.mp bounded
    have below := (le_iff_not_lt number boundNumber).mpr notAbove
    exact inUnit_iff.mpr ⟨number, not_add_lt_zero (inUnit_iff.mp within).2.1 low,
      not_one_lt_of_le boundHigh below⟩

end ReviewGate.Double
