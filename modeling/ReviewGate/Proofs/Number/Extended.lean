import Mathlib.Data.EReal.Basic
import Mathlib.Order.Compare
import ReviewGate.Proofs.Number.Rounding
import ReviewGate.Proofs.Number.Shortest

/-!
# Doubles as extended reals

A double that is a number stands for an extended real, and doubles are compared as those are.
-/

namespace ReviewGate

namespace Binary

/-- With a larger exponent the number is larger too: all digits of the mantissa are in use. -/
theorem size_lt_of_exponent_lt {first second : Binary} (canonical : first.Canonical)
    (canonicalSecond : second.Canonical) (less : first.exponent < second.exponent) :
    first.size < second.size := by
  have unit : (0 : Rat) < 2 ^ first.exponent := zpow_pos (by norm_num) _
  have full : (2 ^ 52 : Rat) ≤ second.mantissa := by
    rcases canonicalSecond with ⟨_, least⟩ | ⟨full, _⟩
    · rcases canonical with ⟨_, same⟩ | ⟨_, _, low, _⟩ <;> omega
    · exact_mod_cast full
  have wider : 2 * (2 : Rat) ^ first.exponent ≤ 2 ^ second.exponent := by
    rw [← zpow_one_add₀ (by norm_num)]
    exact zpow_le_zpow_right₀ (by norm_num) (by omega)
  calc first.size < 2 ^ 53 * 2 ^ first.exponent :=
        mul_lt_mul_of_pos_right (by exact_mod_cast canonical.mantissa_lt) unit
    _ = 2 ^ 52 * (2 * 2 ^ first.exponent) := by ring
    _ ≤ second.size := mul_le_mul full wider (by positivity) (by positivity)

/-- Exponents are compared first, and mantissas where exponents are the same. -/
theorem cmp_size {first second : Binary} (canonical : first.Canonical)
    (canonicalSecond : second.Canonical) :
    cmp first.size second.size =
      (compare first.exponent second.exponent).then (compare first.mantissa second.mantissa) := by
  rcases lt_trichotomy first.exponent second.exponent with less | same | greater
  · rw [Int.compare_eq_lt.mpr less, Ordering.lt_then, cmp_eq_lt_iff]
    exact size_lt_of_exponent_lt canonical canonicalSecond less
  · have unit : (0 : Rat) < 2 ^ second.exponent := zpow_pos (by norm_num) _
    rw [Int.compare_eq_eq.mpr same, Ordering.eq_then, ← cmp_eq_compare, size, size, same,
      cmp_mul_pos_right unit]
    exact Nat.strictMono_cast.cmp_map_eq _ _
  · rw [Int.compare_eq_gt.mpr greater, Ordering.gt_then, cmp_eq_gt_iff]
    exact size_lt_of_exponent_lt canonicalSecond canonical greater

end Binary

namespace Double

open Float.Model Float.Model.UnpackedFloat

/-- The rational number of finite parts. -/
def rational : UnpackedFloat → Rat
  | .finite .positive mantissa exponent _ => Binary.size ⟨false, mantissa, exponent⟩
  | .finite .negative mantissa exponent _ => -Binary.size ⟨true, mantissa, exponent⟩
  | _ => 0

/-- The extended real of parts, and zero for what is not a number. -/
noncomputable def extended : UnpackedFloat → EReal
  | .infinity .positive => ⊤
  | .infinity .negative => ⊥
  | unpacked => ((rational unpacked : ℝ) : EReal)

/-- Parts as doubles have them. -/
def IsCanonical : UnpackedFloat → Prop
  | .finite _ mantissa exponent _ => (⟨false, mantissa, exponent⟩ : Binary).Canonical
  | _ => True

/-- The leading bit of a mantissa is not stored. -/
theorem toNat_leading (bits : BitVec Format.binary64.numBits) :
    (1#1 ++ unpackMantissa bits).toNat = 2 ^ 52 + (unpackMantissa bits).toNat := by
  rw [BitVec.toNat_append, Nat.shiftLeft_eq, Nat.mul_comm]
  exact (Nat.two_pow_add_eq_or_of_lt (unpackMantissa bits).isLt 1).symm

theorem isCanonical_unpack (bits : BitVec Format.binary64.numBits) :
    IsCanonical (unpack .binary64 bits) := by
  have stored : (unpackExponent bits).toNat < 2 ^ 11 := (unpackExponent bits).isLt
  unfold UnpackedFloat.unpack
  dsimp only
  split
  · split <;> trivial
  · rename_i notFull
    split
    · rename_i least
      split
      · trivial
      · left
        rw [least]
        exact ⟨(unpackMantissa bits).isLt, rfl⟩
    · rename_i notLeast
      have some : (unpackExponent bits).toNat ≠ 0 := fun none =>
        notLeast (BitVec.eq_of_toNat_eq none)
      have notLast : (unpackExponent bits).toNat ≠ 2047 := fun last =>
        notFull (BitVec.eq_of_toNat_eq last)
      have below : (unpackMantissa bits).toNat < 2 ^ 52 := (unpackMantissa bits).isLt
      right
      dsimp only
      rw [toNat_leading]
      refine ⟨Nat.le_add_right .., ?_, ?_, ?_⟩
      · change _ < 2 ^ 53
        omega
      · change -1074 ≤ ((unpackExponent bits).toNat : Int) - (1023 + 52)
        omega
      · change ((unpackExponent bits).toNat : Int) - (1023 + 52) ≤ 971
        omega

theorem isCanonical_parts (value : Float) : IsCanonical (parts value) :=
  isCanonical_unpack _

theorem rational_pos {mantissa : Nat} (exponent : Int) (positive : 0 < mantissa) :
    0 < rational (.finite .positive mantissa exponent positive) :=
  mul_pos (Nat.cast_pos.mpr positive) (zpow_pos (by norm_num) exponent)

theorem rational_neg {mantissa : Nat} (exponent : Int) (positive : 0 < mantissa) :
    rational (.finite .negative mantissa exponent positive) < 0 :=
  neg_neg_of_pos (rational_pos exponent positive)

/-- Finite parts are compared as their rational numbers. -/
theorem compare_eq_cmp_rational {first second : UnpackedFloat} (canonical : IsCanonical first)
    (canonicalSecond : IsCanonical second) (bounded : first.isFinite = true)
    (boundedSecond : second.isFinite = true) :
    UnpackedFloat.compare first second = some (cmp (rational first) (rational second)) := by
  cases first with
  | notANumber | infinity => cases bounded
  | zero sign =>
      cases second with
      | notANumber | infinity => cases boundedSecond
      | zero other => exact congrArg some (cmp_self_eq_eq 0).symm
      | finite other digits power nonzero =>
          cases other with
          | positive =>
              exact congrArg some ((cmp_eq_lt_iff _ _).mpr (rational_pos power nonzero)).symm
          | negative =>
              exact congrArg some ((cmp_eq_gt_iff _ _).mpr (rational_neg power nonzero)).symm
  | finite sign mantissa exponent positive =>
      cases second with
      | notANumber | infinity => cases boundedSecond
      | zero other =>
          cases sign with
          | positive =>
              exact congrArg some ((cmp_eq_gt_iff _ _).mpr (rational_pos exponent positive)).symm
          | negative =>
              exact congrArg some ((cmp_eq_lt_iff _ _).mpr (rational_neg exponent positive)).symm
      | finite other digits power nonzero =>
          cases sign with
          | positive =>
              cases other with
              | positive => exact congrArg some (Binary.cmp_size canonical canonicalSecond).symm
              | negative =>
                  have apart := (rational_neg power nonzero).trans (rational_pos exponent positive)
                  exact congrArg some ((cmp_eq_gt_iff _ _).mpr apart).symm
          | negative =>
              cases other with
              | positive =>
                  have apart := (rational_neg exponent positive).trans (rational_pos power nonzero)
                  exact congrArg some ((cmp_eq_lt_iff _ _).mpr apart).symm
              | negative =>
                  have turned := congrArg Ordering.swap (Binary.cmp_size canonical canonicalSecond)
                  rw [cmp_swap, ← StrictAnti.cmp_map_eq fun _ _ => neg_lt_neg] at turned
                  exact congrArg some turned.symm

theorem compare_infinity {other : UnpackedFloat} (bounded : other.isFinite = true) :
    UnpackedFloat.compare (.infinity .positive) other = some .gt ∧
      UnpackedFloat.compare other (.infinity .positive) = some .lt ∧
      UnpackedFloat.compare (.infinity .negative) other = some .lt ∧
      UnpackedFloat.compare other (.infinity .negative) = some .gt := by
  cases other with
  | notANumber | infinity => cases bounded
  | zero => exact ⟨rfl, rfl, rfl, rfl⟩
  | finite sign => cases sign <;> exact ⟨rfl, rfl, rfl, rfl⟩

theorem infinity_or_isFinite {unpacked : UnpackedFloat} (number : unpacked ≠ .notANumber) :
    unpacked = .infinity .positive ∨ unpacked = .infinity .negative ∨
      unpacked.isFinite = true := by
  cases unpacked with
  | notANumber => contradiction
  | infinity sign => cases sign <;> simp
  | zero | finite => exact .inr (.inr rfl)

theorem extended_of_isFinite {unpacked : UnpackedFloat} (bounded : unpacked.isFinite = true) :
    extended unpacked = ((rational unpacked : ℝ) : EReal) := by
  cases unpacked with
  | notANumber | infinity => cases bounded
  | zero | finite => rfl

/-- Numbers are compared as their extended reals. -/
theorem compare_eq_cmp_extended {first second : UnpackedFloat} (canonical : IsCanonical first)
    (canonicalSecond : IsCanonical second) (number : first ≠ .notANumber)
    (numberSecond : second ≠ .notANumber) :
    UnpackedFloat.compare first second = some (cmp (extended first) (extended second)) := by
  have self : ∀ value : EReal, Ordering.eq = cmp value value := fun value =>
    (cmp_self_eq_eq value).symm
  have less : ∀ {low high : EReal}, low < high → Ordering.lt = cmp low high :=
    fun before => ((cmp_eq_lt_iff _ _).mpr before).symm
  have greater : ∀ {low high : EReal}, low < high → Ordering.gt = cmp high low :=
    fun before => ((cmp_eq_gt_iff _ _).mpr before).symm
  rcases infinity_or_isFinite number with rfl | rfl | bounded
  · rcases infinity_or_isFinite numberSecond with rfl | rfl | bounded
    · exact congrArg some (self ⊤)
    · exact congrArg some (greater bot_lt_top)
    · rw [(compare_infinity bounded).1, extended_of_isFinite bounded]
      exact congrArg some (greater (EReal.coe_lt_top _))
  · rcases infinity_or_isFinite numberSecond with rfl | rfl | bounded
    · exact congrArg some (less bot_lt_top)
    · exact congrArg some (self ⊥)
    · rw [(compare_infinity bounded).2.2.1, extended_of_isFinite bounded]
      exact congrArg some (less (EReal.bot_lt_coe _))
  · rcases infinity_or_isFinite numberSecond with rfl | rfl | boundedSecond
    · rw [(compare_infinity bounded).2.1, extended_of_isFinite bounded]
      exact congrArg some (less (EReal.coe_lt_top _))
    · rw [(compare_infinity bounded).2.2.2, extended_of_isFinite bounded]
      exact congrArg some (greater (EReal.bot_lt_coe _))
    · rw [compare_eq_cmp_rational canonical canonicalSecond bounded boundedSecond,
        extended_of_isFinite bounded, extended_of_isFinite boundedSecond,
        EReal.coe_strictMono.cmp_map_eq, Rat.cast_strictMono.cmp_map_eq]

/-! ## Doubles -/

/-- The extended real of a double. -/
noncomputable def toEReal (value : Float) : EReal := extended (parts value)

theorem toEReal_infinity : toEReal infinity = ⊤ := by
  rw [toEReal, eq_infinity_iff.mp rfl]
  rfl

theorem toEReal_neg_infinity : toEReal (-infinity) = ⊥ := by
  rw [toEReal, eq_neg_infinity_iff.mp rfl]
  rfl

theorem compare_parts {first second : Float} (number : (first != first) = false)
    (numberSecond : (second != second) = false) :
    (parts first).compare (parts second) = some (cmp (toEReal first) (toEReal second)) := by
  rw [Bool.eq_false_iff, ne_eq, bne_self_iff] at number numberSecond
  exact compare_eq_cmp_extended (isCanonical_parts first) (isCanonical_parts second) number
    numberSecond

theorem lt_iff_toEReal {first second : Float} (number : (first != first) = false)
    (numberSecond : (second != second) = false) :
    first < second ↔ toEReal first < toEReal second := by
  rw [lt_iff, compare_parts number numberSecond, Option.some_inj, cmp_eq_lt_iff]

theorem beq_iff_toEReal {first second : Float} (number : (first != first) = false)
    (numberSecond : (second != second) = false) :
    (first == second) = true ↔ toEReal first = toEReal second := by
  rw [beq_iff, compare_parts number numberSecond, Option.some_inj, cmp_eq_eq_iff]

theorem le_iff_toEReal {first second : Float} (number : (first != first) = false)
    (numberSecond : (second != second) = false) :
    first ≤ second ↔ toEReal first ≤ toEReal second := by
  rw [le_iff_not_lt number numberSecond, lt_iff_toEReal numberSecond number, not_lt]

/-- What is not a number is neither less than, nor equal to, nor more than anything. -/
theorem incomparable_of_bne_self {value : Float} (differs : (value != value) = true)
    (other : Float) :
    ¬value < other ∧ ¬other < value ∧ (value == other) = false ∧ (other == value) = false := by
  obtain ⟨left, right⟩ := compare_notANumber (parts other)
  rw [Bool.eq_false_iff, Bool.eq_false_iff, ne_eq, ne_eq, beq_iff, beq_iff, bne_self_iff.mp differs,
    left, right]
  exact ⟨(not_lt_of_bne_self differs other).1, (not_lt_of_bne_self differs other).2, nofun, nofun⟩

end Double

end ReviewGate
