import ReviewGate.Number.Scalar

/-!
# Doubles

What bounds and products say about doubles.  One that is not finite is an infinity, or it differs
from itself.
-/

namespace ReviewGate.Double

open Float.Model Float.Model.UnpackedFloat

/-- Sign, mantissa and exponent, or what stands in their place. -/
def parts (value : Float) : UnpackedFloat := value.toModel.unpack

def infinity : Float := 1.0 / 0.0

/-! ## From parts to doubles and back -/

theorem unpackSign_packComponents (sign : Sign) (exponent : BitVec 11) (mantissa : BitVec 52) :
    unpackSign (packComponents .binary64 sign exponent mantissa) = sign.toBitVec := by
  unfold unpackSign packComponents BitVec.extractLsb
  rw [BitVec.extractLsb'_append_eq_of_le (by decide),
    BitVec.extractLsb'_append_eq_of_le (by decide)]
  cases sign <;> rfl

theorem toBitVec_ofBitVec (bit : BitVec 1) : (Sign.ofBitVec bit).toBitVec = bit := by
  revert bit
  decide

/-- The bits of a double are put together from its three components. -/
theorem pack_components (bits : BitVec Format.binary64.numBits) :
    packComponents .binary64 (Sign.ofBitVec (unpackSign bits)) (unpackExponent bits)
      (unpackMantissa bits) = bits := by
  unfold packComponents unpackSign unpackExponent unpackMantissa
  rw [toBitVec_ofBitVec]
  ext index below
  have below : index < 64 := below
  rw [BitVec.getElem_append]
  split
  · rw [BitVec.getElem_cast, BitVec.extractLsb, BitVec.getElem_extractLsb', Nat.zero_add,
      BitVec.getLsbD_eq_getElem]
  · rename_i outside
    have beyondMantissa : 52 ≤ index := Nat.le_of_not_lt outside
    rw [BitVec.getElem_append]
    split
    · have shifted : 52 + (index - 52) = index := Nat.add_sub_cancel' beyondMantissa
      rw [BitVec.getElem_cast, BitVec.extractLsb, BitVec.getElem_extractLsb', shifted,
        BitVec.getLsbD_eq_getElem]
    · rename_i outside
      have beyondExponent : 11 ≤ index - 52 := Nat.le_of_not_lt outside
      have shifted : 52 + 11 + (index - 52 - 11) = index := by omega
      rw [BitVec.getElem_cast, BitVec.extractLsb, BitVec.getElem_extractLsb', shifted,
        BitVec.getLsbD_eq_getElem]

/-- What bits are unpacked to, and which bits are those of an infinity. -/
theorem unpack_cases (bits : BitVec Format.binary64.numBits) :
    (unpackExponent bits = -1#_ ∧ unpackMantissa bits = 0#_ ∧
      unpack .binary64 bits = .infinity (Sign.ofBitVec (unpackSign bits))) ∨
    unpack .binary64 bits = .notANumber ∨
    unpack .binary64 bits = .zero (Sign.ofBitVec (unpackSign bits)) ∨
    ∃ (mantissa : Nat) (exponent : Int) (positive : 0 < mantissa), unpack .binary64 bits =
      .finite (Sign.ofBitVec (unpackSign bits)) mantissa exponent positive := by
  unfold UnpackedFloat.unpack
  dsimp only
  by_cases full : unpackExponent bits = -1#_
  · rw [if_pos full]
    by_cases empty : unpackMantissa bits = 0#_
    · rw [if_pos empty]
      exact .inl ⟨full, empty, rfl⟩
    · rw [if_neg empty]
      exact .inr (.inl rfl)
  · rw [if_neg full]
    by_cases least : unpackExponent bits = 0#_
    · rw [if_pos least]
      by_cases empty : unpackMantissa bits = 0#_
      · rw [dif_pos empty]
        exact .inr (.inr (.inl rfl))
      · have positive := BitVec.toNat_pos_of_ne_zero empty
        rw [dif_neg empty]
        exact .inr (.inr (.inr ⟨_, _, positive, rfl⟩))
    · have positive : 0 < (1#1 ++ unpackMantissa bits).toNat := by
        rw [BitVec.toNat_append]
        exact Nat.lt_of_lt_of_le (by decide) Nat.left_le_or
      rw [if_neg least]
      exact .inr (.inr (.inr ⟨_, _, positive, rfl⟩))

/-- There is one double for each infinity. -/
theorem eq_of_parts_eq_infinity {value : Float} {sign : Sign}
    (unpacked : parts value = .infinity sign) :
    value = .ofModel (Float.Model.pack (.infinity sign)) := by
  obtain ⟨⟨bits, valid⟩⟩ := value
  have unpacked : unpack .binary64 bits.toBitVec = .infinity sign := unpacked
  rcases unpack_cases bits.toBitVec with
    ⟨full, empty, found⟩ | found | found | ⟨mantissa, exponent, positive, found⟩
  · injection found.symm.trans unpacked with same
    have rebuilt := pack_components bits.toBitVec
    rw [full, empty, same] at rebuilt
    congr 2
    exact UInt64.toBitVec_inj.mp rebuilt.symm
  all_goals
    rw [found] at unpacked
    contradiction

theorem eq_infinity_iff {value : Float} :
    value = infinity ↔ parts value = .infinity .positive := by
  constructor
  · rintro rfl
    rfl
  · intro unpacked
    rw [eq_of_parts_eq_infinity unpacked]
    rfl

theorem eq_neg_infinity_iff {value : Float} :
    value = -infinity ↔ parts value = .infinity .negative := by
  constructor
  · rintro rfl
    rfl
  · intro unpacked
    rw [eq_of_parts_eq_infinity unpacked]
    rfl

/-! ## Comparisons -/

theorem lt_iff {first second : Float} :
    first < second ↔ (parts first).compare (parts second) = some .lt := by
  have unfolded : first < second ↔ (parts first).lt (parts second) = true := by
    change decide (first.toModel < second.toModel) = true ↔ _
    rw [decide_eq_true_iff]
    exact Iff.rfl
  rw [unfolded, UnpackedFloat.lt, beq_iff_eq]

theorem le_iff {first second : Float} :
    first ≤ second ↔ ∃ order, (parts first).compare (parts second) = some order ∧
      order.isLE = true := by
  have unfolded : first ≤ second ↔ (parts first).le (parts second) = true := by
    change decide (first.toModel ≤ second.toModel) = true ↔ _
    rw [decide_eq_true_iff]
    exact Iff.rfl
  rw [unfolded, UnpackedFloat.le, Option.any_eq_true]

theorem beq_iff {first second : Float} :
    (first == second) = true ↔ (parts first).compare (parts second) = some .eq := by
  change (parts first).beq (parts second) = true ↔ _
  unfold UnpackedFloat.beq
  rw [beq_iff_eq]

theorem compare_notANumber (other : UnpackedFloat) :
    UnpackedFloat.compare .notANumber other = none ∧
      UnpackedFloat.compare other .notANumber = none := by
  refine ⟨rfl, ?_⟩
  cases other <;> rfl

theorem compare_finite_self (sign : Sign) (mantissa : Nat) (exponent : Int)
    (positive : 0 < mantissa) :
    UnpackedFloat.compare (.finite sign mantissa exponent positive)
      (.finite sign mantissa exponent positive) = some .eq := by
  have same : (compare exponent exponent).then (compare mantissa mantissa) = .eq := by
    rw [Std.ReflOrd.compare_self, Std.ReflOrd.compare_self]
    rfl
  cases sign with
  | positive => exact congrArg some same
  | negative => exact congrArg (some ·.swap) same

/-- Only what is not a number differs from itself. -/
theorem bne_self_iff {value : Float} : (value != value) = true ↔ parts value = .notANumber := by
  have negated : (value != value) = true ↔ ¬(value == value) = true := by
    rw [bne, Bool.not_eq_true', Bool.not_eq_true]
  rw [negated, beq_iff]
  cases parts value with
  | notANumber => exact iff_of_true nofun rfl
  | infinity sign => cases sign <;> exact iff_of_false (not_not_intro rfl) nofun
  | zero sign => exact iff_of_false (not_not_intro rfl) nofun
  | finite sign mantissa exponent positive =>
      exact iff_of_false (not_not_intro (compare_finite_self ..)) nofun

theorem parts_zero : parts 0.0 = .zero .positive := rfl

theorem isFinite_iff {value : Float} :
    Scalar.isFinite value = true ↔ (parts value).isFinite = true := by
  change (value - value == 0.0) = true ↔ _
  rw [beq_iff]
  have difference : parts (value - value) = unpack .binary64 (UnpackedFloat.pack .binary64
      (UnpackedFloat.sub .binary64 (parts value) (parts value))) := rfl
  rw [difference, parts_zero]
  cases parts value with
  | notANumber => decide
  | infinity sign => cases sign <;> decide
  | zero sign => cases sign <;> decide
  | finite sign mantissa exponent positive =>
      have vanishes : UnpackedFloat.sub .binary64 (.finite sign mantissa exponent positive)
          (.finite sign mantissa exponent positive) = .zero .positive := by
        let aligned := (decreaseExponent mantissa exponent (min exponent exponent)).1
        change UnpackedFloat.normalize .binary64 (sign.apply aligned - sign.apply aligned)
          (min exponent exponent) .positive = _
        rw [Int.sub_self]
        rfl
      rw [vanishes]
      exact iff_of_true rfl rfl

/-! ## Infinities -/

/-- A double that is not finite is an infinity, or it differs from itself. -/
theorem eq_infinity_or_of_isFinite_eq_false {value : Float}
    (unbounded : Scalar.isFinite value = false) :
    value = infinity ∨ value = -infinity ∨ (value != value) = true := by
  have unbounded : ¬(parts value).isFinite = true := by
    rw [← isFinite_iff, unbounded]
    exact Bool.false_ne_true
  rw [eq_infinity_iff, eq_neg_infinity_iff, bne_self_iff]
  cases found : parts value with
  | notANumber => exact .inr (.inr rfl)
  | infinity sign =>
      cases sign with
      | positive => exact .inl rfl
      | negative => exact .inr (.inl rfl)
  | zero sign =>
      rw [found] at unbounded
      contradiction
  | finite sign mantissa exponent positive =>
      rw [found] at unbounded
      contradiction

theorem bne_self_of_isFinite {value : Float} (bounded : Scalar.isFinite value = true) :
    (value != value) = false := by
  have bounded := isFinite_iff.mp bounded
  rw [Bool.eq_false_iff, ne_eq, bne_self_iff]
  intro nothing
  rw [nothing] at bounded
  contradiction

theorem not_lt_of_bne_self {value : Float} (differs : (value != value) = true) (bound : Float) :
    ¬value < bound ∧ ¬bound < value := by
  have nothing := bne_self_iff.mp differs
  rw [lt_iff, lt_iff, nothing]
  obtain ⟨left, right⟩ := compare_notANumber (parts bound)
  rw [left, right]
  exact ⟨nofun, nofun⟩

theorem lt_infinity {bound : Float} (bounded : Scalar.isFinite bound = true) :
    bound < infinity := by
  have bounded := isFinite_iff.mp bounded
  rw [lt_iff, eq_infinity_iff.mp rfl]
  cases found : parts bound with
  | notANumber | infinity =>
      rw [found] at bounded
      contradiction
  | zero sign => rfl
  | finite sign mantissa exponent positive => cases sign <;> rfl

theorem neg_infinity_lt {bound : Float} (bounded : Scalar.isFinite bound = true) :
    -infinity < bound := by
  have bounded := isFinite_iff.mp bounded
  rw [lt_iff, eq_neg_infinity_iff.mp rfl]
  cases found : parts bound with
  | notANumber | infinity =>
      rw [found] at bounded
      contradiction
  | zero sign => rfl
  | finite sign mantissa exponent positive => cases sign <;> rfl

theorem not_infinity_lt (value : Float) : ¬infinity < value := by
  rw [lt_iff, eq_infinity_iff.mp rfl]
  cases parts value with
  | infinity sign => cases sign <;> decide
  | notANumber | zero | finite => exact nofun

theorem not_lt_neg_infinity (value : Float) : ¬value < -infinity := by
  rw [lt_iff, eq_neg_infinity_iff.mp rfl]
  cases parts value with
  | infinity sign => cases sign <;> decide
  | notANumber => decide
  | zero sign => exact nofun
  | finite sign mantissa exponent positive => cases sign <;> exact nofun

/-- What lies between two doubles is finite. -/
theorem isFinite_of_lt_of_lt {low value high : Float} (above : low < value)
    (below : value < high) : Scalar.isFinite value = true := by
  rw [← Bool.not_eq_false]
  intro unbounded
  rcases eq_infinity_or_of_isFinite_eq_false unbounded with rfl | rfl | differs
  · exact not_infinity_lt high below
  · exact not_lt_neg_infinity low above
  · exact (not_lt_of_bne_self differs high).1 below

/-! ## Bounds -/

theorem isFinite_of_inUnit {value : Float} (inside : Scalar.InUnit value) :
    Scalar.isFinite value = true := by
  obtain ⟨low, high⟩ := inside
  rw [← Bool.not_eq_false]
  intro unbounded
  rcases eq_infinity_or_of_isFinite_eq_false unbounded with rfl | rfl | differs
  · exact absurd high (by decide)
  · exact absurd low (by decide)
  · obtain ⟨order, compared, -⟩ := le_iff.mp high
    rw [bne_self_iff.mp differs] at compared
    contradiction

theorem isFinite_clampUnit (value : Float) : Scalar.isFinite (Scalar.clampUnit value) = true := by
  unfold Scalar.clampUnit
  split
  · rfl
  · rename_i number
    split
    · rfl
    · rename_i notBelow
      split
      · rfl
      · rename_i notAbove
        rw [← Bool.not_eq_false]
        intro unbounded
        rcases eq_infinity_or_of_isFinite_eq_false unbounded with rfl | rfl | differs
        · exact notAbove (lt_infinity rfl)
        · exact notBelow (neg_infinity_lt rfl)
        · exact number differs

/-- The larger of a double and a finite one can only be unbounded above. -/
theorem larger_eq_infinity {value bound : Float} (bounded : Scalar.isFinite bound = true)
    (unbounded : Scalar.isFinite (Scalar.larger value bound) = false) :
    Scalar.larger value bound = infinity := by
  unfold Scalar.larger at unbounded ⊢
  split at unbounded
  · rw [bounded] at unbounded
    contradiction
  · rename_i kept
    rw [if_neg kept]
    rcases eq_infinity_or_of_isFinite_eq_false unbounded with same | rfl | differs
    · exact same
    · exact absurd (.inl (neg_infinity_lt bounded)) kept
    · exact absurd (.inr differs) kept

/-- The smaller of a double and a finite one can only be unbounded below. -/
theorem smaller_eq_neg_infinity {value bound : Float} (bounded : Scalar.isFinite bound = true)
    (unbounded : Scalar.isFinite (Scalar.smaller value bound) = false) :
    Scalar.smaller value bound = -infinity := by
  unfold Scalar.smaller at unbounded ⊢
  split at unbounded
  · rw [bounded] at unbounded
    contradiction
  · rename_i kept
    rw [if_neg kept]
    rcases eq_infinity_or_of_isFinite_eq_false unbounded with rfl | same | differs
    · exact absurd (.inl (lt_infinity bounded)) kept
    · exact same
    · exact absurd (.inr differs) kept

/-- A finite double stays finite when it is raised, but not above a finite bound. -/
theorem isFinite_larger_smaller {value bound : Float} (first : Scalar.isFinite value = true)
    (bounded : Scalar.isFinite bound = true) (other : Float) :
    Scalar.isFinite (Scalar.larger value (Scalar.smaller bound other)) = true := by
  unfold Scalar.larger
  split
  · rename_i raised
    have raised : value < Scalar.smaller bound other := by
      rcases raised with less | differs
      · exact less
      · rw [bne_self_of_isFinite first] at differs
        contradiction
    unfold Scalar.smaller at raised ⊢
    split
    · rename_i lowered
      rw [if_pos lowered] at raised
      rcases lowered with less | differs
      · exact isFinite_of_lt_of_lt raised less
      · rw [bne_self_of_isFinite bounded] at differs
        contradiction
    · exact bounded
  · exact first

/-! ## Products -/

/-- Below zero: a negative number or the negative infinity. -/
def isNegative : UnpackedFloat → Bool
  | .infinity .negative | .finite .negative .. => true
  | _ => false

theorem lt_zero_iff {value : Float} : value < 0.0 ↔ isNegative (parts value) = true := by
  rw [lt_iff, parts_zero]
  cases parts value with
  | notANumber => decide
  | infinity sign => cases sign <;> decide
  | zero sign => exact iff_of_false nofun nofun
  | finite sign mantissa exponent positive =>
      cases sign with
      | positive => exact iff_of_false nofun nofun
      | negative => exact iff_of_true rfl rfl

/-- What is packed with a plus is not below zero. -/
theorem isNegative_unpack {bits : BitVec Format.binary64.numBits}
    (plus : unpackSign bits = 0#1) : isNegative (unpack .binary64 bits) = false := by
  rcases unpack_cases bits with
    ⟨-, -, found⟩ | found | found | ⟨mantissa, exponent, positive, found⟩
  case inr.inl => rw [found]; rfl
  all_goals
    rw [found, plus]
    rfl

theorem isNegative_unpack_pack {unpacked : UnpackedFloat}
    (signless : isNegative unpacked = false) :
    isNegative (unpack .binary64 (UnpackedFloat.pack .binary64 unpacked)) = false := by
  have plus : ∀ (exponent : BitVec 11) (mantissa : BitVec 52),
      isNegative (unpack .binary64 (packComponents .binary64 .positive exponent mantissa)) =
        false := fun exponent mantissa =>
    isNegative_unpack (unpackSign_packComponents .positive exponent mantissa)
  have infinite : isNegative (unpack .binary64 (packedInfinity .binary64 .positive)) = false := by
    unfold packedInfinity
    exact plus _ _
  cases unpacked with
  | notANumber => rfl
  | infinity sign =>
      cases sign with
      | negative => cases signless
      | positive => exact infinite
  | zero sign => cases sign <;> decide
  | finite sign mantissa exponent positive =>
      cases sign with
      | negative => cases signless
      | positive =>
          unfold UnpackedFloat.pack
          dsimp only
          split
          · exact infinite
          · split <;> exact plus _ _

theorem isNegative_roundWithAccuracy (mantissa : Nat) (exponent : Int) (accuracy : Accuracy) :
    isNegative (roundWithAccuracy .binary64 .positive mantissa exponent accuracy) = false := by
  unfold roundWithAccuracy
  dsimp only
  rw [apply_dite isNegative]
  exact dite_eq_ite.trans (ite_self false)

theorem isNegative_mul {first second : UnpackedFloat} (left : isNegative first = false)
    (right : isNegative second = false) :
    isNegative (UnpackedFloat.mul .binary64 first second) = false := by
  cases first with
  | notANumber => rfl
  | infinity firstSign =>
      cases firstSign with
      | negative => contradiction
      | positive =>
          cases second with
          | notANumber | zero => rfl
          | infinity sign | finite sign =>
              cases sign with
              | negative => contradiction
              | positive => rfl
  | zero firstSign =>
      cases second <;> rfl
  | finite firstSign mantissa exponent positive =>
      cases firstSign with
      | negative => contradiction
      | positive =>
          cases second with
          | notANumber | zero => rfl
          | infinity sign =>
              cases sign with
              | negative => contradiction
              | positive => rfl
          | finite sign =>
              cases sign with
              | negative => contradiction
              | positive => exact isNegative_roundWithAccuracy ..

/-- A product of doubles that are not below zero is not below zero either. -/
theorem not_mul_lt_zero {first second : Float} (left : ¬first < 0.0) (right : ¬second < 0.0) :
    ¬first * second < 0.0 := by
  rw [lt_zero_iff, Bool.not_eq_true] at left right ⊢
  exact isNegative_unpack_pack (isNegative_mul left right)

/-- What is above a double that is not below zero is not below zero. -/
theorem not_lt_zero_of_le {bound value : Float} (low : ¬bound < 0.0)
    (above : bound < value ∨ bound ≤ value) : ¬value < 0.0 := by
  have ordered : ∃ order, (parts bound).compare (parts value) = some order ∧
      order.isLE = true := by
    rcases above with less | atMost
    · exact ⟨.lt, lt_iff.mp less, rfl⟩
    · exact le_iff.mp atMost
  rw [lt_zero_iff, Bool.not_eq_true] at low ⊢
  obtain ⟨order, compared, isLE⟩ := ordered
  rw [← Bool.not_eq_true]
  intro negative
  have reversed : (parts bound).compare (parts value) = none ∨
      (parts bound).compare (parts value) = some .gt := by
    cases other : parts value with
    | notANumber | zero =>
        rw [other] at negative
        contradiction
    | infinity sign | finite sign =>
        cases sign with
        | positive =>
            rw [other] at negative
            contradiction
        | negative =>
            cases found : parts bound with
            | notANumber => exact .inl rfl
            | zero boundSign => exact .inr rfl
            | infinity boundSign | finite boundSign =>
                cases boundSign with
                | negative =>
                    rw [found] at low
                    contradiction
                | positive => exact .inr rfl
  rcases reversed with incomparable | greater
  · rw [incomparable] at compared
    contradiction
  · rw [greater] at compared
    cases compared
    contradiction

/-- The smaller of a double that is not below zero and one that is finite or the infinity. -/
theorem smaller_eq_infinity {value bound : Float} (low : ¬value < 0.0)
    (high : Scalar.isFinite bound = false → bound = infinity)
    (unbounded : Scalar.isFinite (Scalar.smaller value bound) = false) :
    Scalar.smaller value bound = infinity := by
  unfold Scalar.smaller at unbounded ⊢
  split at unbounded
  · rename_i lowered
    rw [if_pos lowered]
    exact high unbounded
  · rename_i kept
    rw [if_neg kept]
    rcases eq_infinity_or_of_isFinite_eq_false unbounded with same | rfl | differs
    · exact same
    · exact absurd (neg_infinity_lt rfl) low
    · exact absurd (.inr differs) kept

end ReviewGate.Double
