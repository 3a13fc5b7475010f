import Mathlib.Algebra.Order.Field.Power
import Mathlib.Data.Nat.Cast.Order.Field
import Mathlib.Tactic.Linarith
import Mathlib.Tactic.NormNum
import Mathlib.Tactic.Positivity
import ReviewGate.Proofs.Number.Double
import ReviewGate.Proofs.Number.Numeral

/-!
# The shortest decimal of a double

The decimal that is chosen for a double lies among the numbers that round to it, and no number
rounds to two doubles.  So a finite double is known by its text.
-/

namespace ReviewGate

/-! ## Quotients -/

/-- A power with its sign moved into a quotient. -/
theorem div_eq_mul_zpow (coefficient base : Nat) (positive : 0 < base) (exponent : Int) :
    let quotient : Nat × Nat :=
      if 0 ≤ exponent then (coefficient * Nat.pow base exponent.toNat, 1)
      else (coefficient, Nat.pow base (-exponent).toNat)
    0 < quotient.2 ∧ (quotient.1 : Rat) / quotient.2 = coefficient * (base : Rat) ^ exponent := by
  dsimp only
  split
  · rename_i low
    refine ⟨Nat.one_pos, ?_⟩
    obtain ⟨count, rfl⟩ := Int.eq_ofNat_of_zero_le low
    simp
  · rename_i negative
    refine ⟨Nat.pow_pos positive, ?_⟩
    obtain ⟨count, same⟩ : ∃ count : Nat, exponent = -count := ⟨exponent.natAbs, by omega⟩
    subst same
    simp [div_eq_mul_inv]

theorem scaledRatio_spec (numerator : Nat) {denominator : Nat} (positive : 0 < denominator)
    (scale : Int) :
    0 < (scaledRatio numerator denominator scale).2 ∧
      ((scaledRatio numerator denominator scale).1 : Rat) /
          (scaledRatio numerator denominator scale).2 =
        numerator / denominator / (10 : Rat) ^ scale := by
  unfold scaledRatio
  split
  · rename_i low
    refine ⟨Nat.mul_pos positive (Nat.pow_pos (by decide)), ?_⟩
    obtain ⟨count, rfl⟩ := Int.eq_ofNat_of_zero_le low
    simp [div_div]
  · rename_i negative
    refine ⟨positive, ?_⟩
    obtain ⟨count, same⟩ : ∃ count : Nat, scale = -count := ⟨scale.natAbs, by omega⟩
    subst same
    simp [div_eq_mul_inv, mul_right_comm]

/-- Products across a comparison of quotients. -/
theorem mul_mul_le_iff {coefficient first second numerator denominator : Nat}
    (positive : 0 < second) (positiveOther : 0 < denominator) :
    coefficient * first * denominator ≤ numerator * second ↔
      (coefficient : Rat) * (first / second) ≤ numerator / denominator := by
  rw [← mul_div_assoc, div_le_div_iff₀ (by exact_mod_cast positive)
    (by exact_mod_cast positiveOther)]
  exact_mod_cast Iff.rfl

theorem le_mul_mul_iff {coefficient first second numerator denominator : Nat}
    (positive : 0 < second) (positiveOther : 0 < denominator) :
    numerator * second ≤ coefficient * first * denominator ↔
      (numerator : Rat) / denominator ≤ coefficient * (first / second) := by
  rw [← mul_div_assoc, div_le_div_iff₀ (by exact_mod_cast positiveOther)
    (by exact_mod_cast positive)]
  exact_mod_cast Iff.rfl

namespace Binary

/-! ## Numbers that round to a double -/

def size (value : Binary) : Rat := value.mantissa * 2 ^ value.exponent

/-- Quarters of a unit down to the numbers that round to the double below: at a power of two the gap
below is half as wide. -/
def below (value : Binary) : Nat :=
  if value.mantissa = Nat.pow 2 52 ∧ -1074 < value.exponent then 1 else 2

def lower (value : Binary) : Rat :=
  ((4 * value.mantissa - value.below : Nat) : Rat) * 2 ^ (value.exponent - 2)

def upper (value : Binary) : Rat :=
  ((4 * value.mantissa + 2 : Nat) : Rat) * 2 ^ (value.exponent - 2)

/-- A number that rounds to a double; halfway between two doubles it goes to the even one. -/
def Rounds (value : Binary) (number : Rat) : Prop :=
  if value.mantissa % 2 = 0 then value.lower ≤ number ∧ number ≤ value.upper
  else value.lower < number ∧ number < value.upper

/-- Candidates that read back are the numbers that round to the double. -/
theorem readsBack_iff (value : Binary) (candidate : Nat) (scale : Int) :
    value.readsBack candidate scale = true ↔ value.Rounds (candidate * 10 ^ scale) := by
  obtain ⟨positivePoint, point⟩ := div_eq_mul_zpow candidate 10 (by decide) scale
  obtain ⟨positiveUnit, unit⟩ := div_eq_mul_zpow 1 2 (by decide) (value.exponent - 2)
  have sign : -(value.exponent - 2) = 2 - value.exponent := by omega
  simp only [Nat.cast_one, one_mul, Nat.cast_ofNat, sign] at point unit positiveUnit
  unfold readsBack Rounds lower upper below
  dsimp only
  rw [← point, ← unit]
  split
  · rw [decide_eq_true_eq, mul_mul_le_iff positiveUnit positivePoint,
      le_mul_mul_iff positiveUnit positivePoint]
  · rw [decide_eq_true_eq]
    refine and_congr ?_ ?_
    · exact not_le.symm.trans ((le_mul_mul_iff positiveUnit positivePoint).not.trans not_le)
    · exact not_le.symm.trans ((mul_mul_le_iff positiveUnit positivePoint).not.trans not_le)

theorem Rounds.bounds {value : Binary} {number : Rat} (rounds : value.Rounds number) :
    value.lower ≤ number ∧ number ≤ value.upper := by
  unfold Rounds at rounds
  split at rounds
  · exact rounds
  · exact ⟨rounds.1.le, rounds.2.le⟩

theorem Rounds.strict {value : Binary} {number : Rat} (rounds : value.Rounds number)
    (odd : value.mantissa % 2 = 1) : value.lower < number ∧ number < value.upper := by
  rwa [Rounds, if_neg (by omega)] at rounds

/-- The parts of a finite double: below the least normal one the exponent stays the same. -/
def Canonical (value : Binary) : Prop :=
  value.mantissa < Nat.pow 2 52 ∧ value.exponent = -1074 ∨
    Nat.pow 2 52 ≤ value.mantissa ∧ value.mantissa < Nat.pow 2 53 ∧
      -1074 ≤ value.exponent ∧ value.exponent ≤ 971

theorem Canonical.mantissa_lt {value : Binary} (canonical : value.Canonical) :
    value.mantissa < 2 ^ 53 := by
  rcases canonical with ⟨small, _⟩ | ⟨_, bounded, _⟩
  · exact small.trans (by decide)
  · exact bounded

theorem below_le (value : Binary) : value.below ≤ 2 := by
  unfold below
  split <;> decide

theorem four_mul_zpow (exponent : Int) : 4 * (2 : Rat) ^ (exponent - 2) = 2 ^ exponent := by
  rw [zpow_sub₀ (by norm_num)]
  norm_num
  ring

/-- Above the least exponent, numbers round to doubles of at least half the full mantissa. -/
theorem quarters_of_normal {value : Binary} (canonical : value.Canonical)
    (normal : -1074 < value.exponent) : 2 ^ 54 - 1 ≤ 4 * value.mantissa - value.below := by
  have atLeast : 2 ^ 52 ≤ value.mantissa := by
    rcases canonical with ⟨_, lowest⟩ | ⟨atLeast, _, _⟩
    · omega
    · exact atLeast
  have two := value.below_le
  rcases Nat.eq_or_lt_of_le atLeast with power | above
  · have one : value.below = 1 := if_pos ⟨power.symm, normal⟩
    omega
  · omega

/-- The numbers of a double of a larger exponent begin where those of smaller exponents end. -/
theorem upper_le_lower_of_exponent_lt {first second : Binary} (canonical : first.Canonical)
    (canonicalSecond : second.Canonical) (less : first.exponent < second.exponent) :
    first.upper < second.lower ∨ first.upper = second.lower ∧ first.mantissa % 2 = 1 := by
  have unit : (0 : Rat) < 2 ^ (first.exponent - 2) := zpow_pos (by norm_num) _
  have bounded := canonical.mantissa_lt
  have normal : -1074 < second.exponent := by
    rcases canonical with ⟨_, lowest⟩ | ⟨_, _, low, _⟩ <;> omega
  have wider : 2 * (2 : Rat) ^ (first.exponent - 2) ≤ 2 ^ (second.exponent - 2) := by
    rw [← zpow_one_add₀ (by norm_num)]
    exact zpow_le_zpow_right₀ (by norm_num) (by omega)
  have begins : ((2 ^ 55 - 2 : Nat) : Rat) * 2 ^ (first.exponent - 2) ≤ second.lower := by
    calc ((2 ^ 55 - 2 : Nat) : Rat) * 2 ^ (first.exponent - 2)
        = ((2 ^ 54 - 1 : Nat) : Rat) * (2 * 2 ^ (first.exponent - 2)) := by
          norm_num
          ring
      _ ≤ ((4 * second.mantissa - second.below : Nat) : Rat) * 2 ^ (second.exponent - 2) :=
          mul_le_mul (by exact_mod_cast quarters_of_normal canonicalSecond normal) wider
            (by positivity) (by positivity)
  rcases Nat.mod_two_eq_zero_or_one first.mantissa with even | odd
  · left
    refine lt_of_lt_of_le (mul_lt_mul_of_pos_right ?_ unit) begins
    have strictly : 4 * first.mantissa + 2 < 2 ^ 55 - 2 := by omega
    exact_mod_cast strictly
  · have ends : first.upper ≤ second.lower := by
      refine le_trans (mul_le_mul_of_nonneg_right ?_ unit.le) begins
      have atMost : 4 * first.mantissa + 2 ≤ 2 ^ 55 - 2 := by omega
      exact_mod_cast atMost
    exact ends.lt_or_eq.imp_right fun equal => ⟨equal, odd⟩

/-- Numbers of one exponent follow one another. -/
theorem upper_le_lower_of_mantissa_lt {first second : Binary}
    (same : first.exponent = second.exponent) (less : first.mantissa < second.mantissa) :
    first.upper < second.lower ∨
      first.upper = second.lower ∧ (first.mantissa % 2 = 1 ∨ second.mantissa % 2 = 1) := by
  have unit : (0 : Rat) < 2 ^ (first.exponent - 2) := zpow_pos (by norm_num) _
  have two := second.below_le
  unfold upper lower
  rw [← same]
  by_cases next : second.mantissa = first.mantissa + 1
  · have ends : ((4 * first.mantissa + 2 : Nat) : Rat) * 2 ^ (first.exponent - 2) ≤
        ((4 * second.mantissa - second.below : Nat) : Rat) * 2 ^ (first.exponent - 2) := by
      refine mul_le_mul_of_nonneg_right ?_ unit.le
      have atMost : 4 * first.mantissa + 2 ≤ 4 * second.mantissa - second.below := by omega
      exact_mod_cast atMost
    exact ends.lt_or_eq.imp_right fun equal => ⟨equal, by omega⟩
  · left
    refine mul_lt_mul_of_pos_right ?_ unit
    have strictly : 4 * first.mantissa + 2 < 4 * second.mantissa - second.below := by omega
    exact_mod_cast strictly

/-- No number rounds to two doubles. -/
theorem Rounds.not_before {first second : Binary} {number : Rat} (canonical : first.Canonical)
    (canonicalSecond : second.Canonical) (rounds : first.Rounds number)
    (roundsSecond : second.Rounds number) :
    ¬ (first.exponent < second.exponent ∨
      first.exponent = second.exponent ∧ first.mantissa < second.mantissa) := by
  intro before
  have high := rounds.bounds.2
  have low := roundsSecond.bounds.1
  -- Where two ends meet, the odd double of the two does not have its end.
  have meeting : first.upper < second.lower ∨
      first.upper = second.lower ∧ (first.mantissa % 2 = 1 ∨ second.mantissa % 2 = 1) := by
    rcases before with less | ⟨same, less⟩
    · exact (upper_le_lower_of_exponent_lt canonical canonicalSecond less).imp_right
        (And.imp_right .inl)
    · exact upper_le_lower_of_mantissa_lt same less
  rcases meeting with apart | ⟨meet, odd | odd⟩
  · exact absurd (low.trans high) (not_le.mpr apart)
  · exact absurd (meet ▸ low) (not_le.mpr (rounds.strict odd).2)
  · exact absurd (meet ▸ high) (not_le.mpr (roundsSecond.strict odd).1)

theorem Rounds.unique {first second : Binary} {number : Rat} (canonical : first.Canonical)
    (canonicalSecond : second.Canonical) (rounds : first.Rounds number)
    (roundsSecond : second.Rounds number) :
    first.mantissa = second.mantissa ∧ first.exponent = second.exponent := by
  have forward := rounds.not_before canonical canonicalSecond roundsSecond
  have backward := roundsSecond.not_before canonicalSecond canonical rounds
  omega

/-! ## The number of digits -/

theorem ratio_spec (value : Binary) :
    0 < value.ratio.2 ∧ (value.ratio.1 : Rat) / value.ratio.2 = value.size :=
  div_eq_mul_zpow value.mantissa 2 (by decide) value.exponent

theorem ten_pow_le : (10 : Rat) ^ 1233 ≤ 2 ^ 4096 := by
  have powers : (10 : Nat) ^ 1233 ≤ 2 ^ 4096 := by decide +kernel
  exact_mod_cast powers

theorem two_pow_le : (2 : Rat) ^ 4096 ≤ 10 ^ 1234 := by
  have powers : (2 : Nat) ^ 4096 ≤ 10 ^ 1234 := by decide +kernel
  exact_mod_cast powers

/-- The estimate of the logarithm is not too large. -/
theorem zpow_estimate_le {tens twos : Int} (estimate : 4096 * tens ≤ 1233 * twos)
    (bounded : -8192 ≤ twos) : (10 : Rat) ^ (tens - 2) ≤ 2 ^ twos := by
  have powers : (10 : Rat) ^ (1233 * twos - 8192) ≤ (2 ^ (4096 : Int)) ^ twos := by
    rcases le_or_gt 0 twos with low | negative
    · obtain ⟨count, rfl⟩ := Int.eq_ofNat_of_zero_le low
      calc (10 : Rat) ^ (1233 * (count : Int) - 8192)
          ≤ 10 ^ (1233 * (count : Int)) := zpow_le_zpow_right₀ (by norm_num) (by omega)
        _ = (10 ^ 1233) ^ count := by rw [zpow_mul, zpow_natCast, ← zpow_natCast 10 1233]; rfl
        _ ≤ (2 ^ 4096) ^ count := pow_le_pow_left₀ (by positivity) ten_pow_le count
        _ = (2 ^ (4096 : Int)) ^ (count : Int) := by rw [zpow_natCast]; rfl
    · obtain ⟨count, rfl⟩ : ∃ count : Nat, twos = -count := ⟨twos.natAbs, by omega⟩
      calc (10 : Rat) ^ (1233 * -(count : Int) - 8192)
          ≤ 10 ^ (1234 * -(count : Int)) := zpow_le_zpow_right₀ (by norm_num) (by omega)
        _ = ((10 ^ 1234) ^ count)⁻¹ := by
            rw [mul_neg, zpow_neg, zpow_mul, zpow_natCast, ← zpow_natCast 10 1234]
            rfl
        _ ≤ ((2 ^ 4096) ^ count)⁻¹ :=
            inv_anti₀ (by positivity) (pow_le_pow_left₀ (by positivity) two_pow_le count)
        _ = (2 ^ (4096 : Int)) ^ (-(count : Int)) := by rw [zpow_neg, zpow_natCast]; rfl
  -- The logarithm of two is estimated as 1233 / 4096; raised to the power 4096, both sides are
  -- whole powers.
  have raised : ((10 : Rat) ^ (tens - 2)) ^ 4096 ≤ (2 ^ twos) ^ 4096 := by
    calc ((10 : Rat) ^ (tens - 2)) ^ 4096
        = 10 ^ (4096 * tens - 8192) := by
          rw [← zpow_natCast, ← zpow_mul]
          congr 1
          push_cast
          ring
      _ ≤ 10 ^ (1233 * twos - 8192) := zpow_le_zpow_right₀ (by norm_num) (by omega)
      _ ≤ (2 ^ (4096 : Int)) ^ twos := powers
      _ = (2 ^ twos) ^ 4096 := by
          rw [← zpow_natCast, ← zpow_mul, ← zpow_mul, mul_comm]
          rfl
  exact le_of_pow_le_pow_left₀ (by decide) (zpow_nonneg (by norm_num) twos) raised

/-- The search for the point does not go too far. -/
theorem pointFrom_spec {numerator denominator : Nat} (positive : 0 < denominator) (fuel : Nat)
    {point : Int} (low : (10 : Rat) ^ (point - 1) ≤ numerator / denominator) :
    (10 : Rat) ^ (pointFrom numerator denominator fuel point - 1) ≤ numerator / denominator := by
  induction fuel generalizing point with
  | zero => exact low
  | succ fuel inductionHypothesis =>
      rw [pointFrom]
      split
      · exact low
      · rename_i notBelow
        obtain ⟨positiveScaled, scaled⟩ := scaledRatio_spec numerator positive point
        refine inductionHypothesis ?_
        have atLeast : (1 : Rat) ≤ (scaledRatio numerator denominator point).1 /
            (scaledRatio numerator denominator point).2 := by
          rw [le_div_iff₀ (by exact_mod_cast positiveScaled), one_mul]
          exact_mod_cast not_lt.mp notBelow
        have power : (0 : Rat) < 10 ^ point := by positivity
        rw [scaled, le_div_iff₀ power, one_mul] at atLeast
        rwa [add_sub_cancel_right]

/-- The first digit stands at or above the point that is found. -/
theorem decimalPoint_spec {numerator denominator : Nat} (some : 0 < numerator)
    (positive : 0 < denominator) (bounded : denominator.log2 ≤ 8191) :
    (10 : Rat) ^ (decimalPoint numerator denominator - 1) ≤ numerator / denominator := by
  refine pointFrom_spec positive 6 ?_
  have high : (2 : Rat) ^ numerator.log2 ≤ numerator := by
    exact_mod_cast Nat.log2_self_le some.ne'
  have low : (denominator : Rat) ≤ 2 ^ (denominator.log2 + 1) := by
    exact_mod_cast Nat.lt_log2_self.le
  generalize numerator.log2 = above at high
  generalize denominator.log2 = beneath at low bounded
  have estimate : (10 : Rat) ^ (((above : Int) - beneath - 1) * 1233 / 4096 - 2) ≤
      2 ^ ((above : Int) - beneath - 1) :=
    zpow_estimate_le (by omega) (by omega)
  calc (10 : Rat) ^ (((above : Int) - beneath - 1) * 1233 / 4096 - 1 - 1)
      = 10 ^ (((above : Int) - beneath - 1) * 1233 / 4096 - 2) := by
        congr 1
        omega
    _ ≤ 2 ^ ((above : Int) - beneath - 1) := estimate
    _ = 2 ^ above / 2 ^ (beneath + 1) := by
        rw [← zpow_natCast, ← zpow_natCast, ← zpow_sub₀ (by norm_num)]
        congr 1
        push_cast
        ring
    _ ≤ numerator / denominator :=
        div_le_div₀ (by positivity) high (by exact_mod_cast positive) low

/-! ## The decimal that is chosen -/

theorem size_eq (value : Binary) :
    value.size = (4 * value.mantissa : Nat) * 2 ^ (value.exponent - 2) := by
  rw [size, ← four_mul_zpow]
  push_cast
  ring

/-- On a fine grid the number just below a double rounds to it. -/
theorem rounds_floor {value : Binary} (some : 0 < value.mantissa) {scale : Int}
    (fine : (10 : Rat) ^ scale ≤ 2 ^ (value.exponent - 2)) :
    let scaled := scaledRatio value.ratio.1 value.ratio.2 scale
    value.Rounds ((scaled.1 / scaled.2 : Nat) * 10 ^ scale) := by
  obtain ⟨positiveRatio, ratio⟩ := value.ratio_spec
  obtain ⟨positive, scaled⟩ := scaledRatio_spec value.ratio.1 positiveRatio scale
  dsimp only
  generalize scaledRatio value.ratio.1 value.ratio.2 scale = pair at positive scaled
  have power : (0 : Rat) < 10 ^ scale := by positivity
  have unit : (0 : Rat) < 2 ^ (value.exponent - 2) := by positivity
  have atMost : ((pair.1 / pair.2 : Nat) : Rat) * 10 ^ scale ≤ value.size := by
    rw [← le_div_iff₀ power, ← ratio, ← scaled]
    exact Nat.cast_div_le
  have above : value.size < ((pair.1 / pair.2 : Nat) : Rat) * 10 ^ scale + 10 ^ scale := by
    have next : (pair.1 : Rat) / pair.2 < (pair.1 / pair.2 : Nat) + 1 := by
      rw [div_lt_iff₀ (by exact_mod_cast positive), mul_comm]
      exact_mod_cast Nat.lt_mul_div_succ pair.1 positive
    rw [scaled, ratio, div_lt_iff₀ power] at next
    linarith
  have lowest : value.lower + 2 ^ (value.exponent - 2) ≤ value.size := by
    have less : 4 * value.mantissa - value.below + 1 ≤ 4 * value.mantissa := by
      have one : 0 < value.below := by
        unfold below
        split <;> decide
      omega
    have less : ((4 * value.mantissa - value.below : Nat) : Rat) + 1 ≤
        (4 * value.mantissa : Nat) := by exact_mod_cast less
    rw [size_eq, lower, ← add_one_mul]
    exact mul_le_mul_of_nonneg_right less unit.le
  have highest : value.size < value.upper := by
    rw [size_eq, upper]
    refine mul_lt_mul_of_pos_right ?_ unit
    exact_mod_cast Nat.lt_add_of_pos_right (by decide)
  unfold Rounds
  split
  · exact ⟨by linarith, by linarith⟩
  · exact ⟨by linarith, by linarith⟩

/-- Each step of the search only takes what reads back, and the last grid is fine enough. -/
theorem shortestFrom_spec {value : Binary} {numerator denominator : Nat} {point : Int}
    (last : Nat)
    (floor : value.Rounds (((scaledRatio numerator denominator (point - last)).1 /
      (scaledRatio numerator denominator (point - last)).2 : Nat) * 10 ^ (point - last)))
    (fuel count : Nat) (sum : fuel + count = last) :
    ∃ candidate scale, value.Rounds ((candidate : Nat) * 10 ^ (scale : Int)) ∧
      value.shortestFrom numerator denominator point fuel count =
        Decimal.ofCoefficient value.negative candidate scale := by
  induction fuel generalizing count with
  | zero =>
      rw [← sum, Nat.zero_add] at floor
      exact ⟨_, _, floor, rfl⟩
  | succ fuel inductionHypothesis =>
      rw [shortestFrom]
      split
      · rename_i lowFits
        rw [Bool.and_eq_true] at lowFits
        exact ⟨_, _, (readsBack_iff _ _ _).mp lowFits.1, rfl⟩
      · split
        · rename_i highFits
          exact ⟨_, _, (readsBack_iff _ _ _).mp highFits, rfl⟩
        · exact inductionHypothesis (count + 1) (by omega)

/-- Behind the first digit, seventeen more make a grid that is fine enough. -/
theorem fine_of_point {value : Binary} (canonical : value.Canonical) {point : Int}
    (first : (10 : Rat) ^ (point - 1) ≤ value.size) :
    (10 : Rat) ^ (point - 18) ≤ 2 ^ (value.exponent - 2) := by
  have bounded : (value.mantissa : Rat) ≤ 2 ^ 53 := by
    exact_mod_cast canonical.mantissa_lt.le
  have unit : (0 : Rat) < 2 ^ value.exponent := by positivity
  have digits : (10 : Rat) ^ (point - 18) = 10 ^ (point - 1) / 10 ^ 17 := by
    rw [← zpow_natCast, ← zpow_sub₀ (by norm_num)]
    congr 1
    push_cast
    ring
  have quarter := four_mul_zpow value.exponent
  have size : value.size ≤ 2 ^ 53 * 2 ^ value.exponent :=
    mul_le_mul_of_nonneg_right bounded unit.le
  rw [digits, div_le_iff₀ (by norm_num)]
  linarith

theorem log2_ratio_le {value : Binary} (canonical : value.Canonical) :
    value.ratio.2.log2 ≤ 8191 := by
  obtain ⟨count, bounded, power⟩ : ∃ count ≤ 1074, value.ratio.2 = 2 ^ count := by
    unfold ratio
    split
    · exact ⟨0, by decide, rfl⟩
    · refine ⟨_, ?_, rfl⟩
      rcases canonical with ⟨_, same⟩ | ⟨_, _, low, _⟩ <;> omega
  rw [power, Nat.log2_two_pow]
  omega

/-- The decimal chosen for a double rounds to it. -/
theorem exists_shortest {value : Binary} (canonical : value.Canonical)
    (some : 0 < value.mantissa) :
    ∃ candidate scale, value.Rounds ((candidate : Nat) * 10 ^ (scale : Int)) ∧
      value.shortest = Decimal.ofCoefficient value.negative candidate scale := by
  obtain ⟨positive, ratio⟩ := value.ratio_spec
  have numerator : 0 < value.ratio.1 := by
    unfold Binary.ratio
    split
    · exact Nat.mul_pos some (Nat.pow_pos (by decide))
    · exact some
  have first := decimalPoint_spec numerator positive (log2_ratio_le canonical)
  rw [ratio] at first
  rw [shortest, if_neg some.ne']
  exact shortestFrom_spec 18 (rounds_floor some (fine_of_point canonical first)) 17 1 rfl

theorem shortest_spec {value : Binary} (canonical : value.Canonical) :
    value.Rounds value.shortest.magnitude ∧ (∀ digit ∈ value.shortest.digits, digit < 10) ∧
      value.shortest.negative = value.negative := by
  rcases Nat.eq_zero_or_pos value.mantissa with zero | some
  · rw [shortest, if_pos zero]
    refine ⟨?_, nofun, rfl⟩
    have nothing : value.lower = 0 := by
      simp [lower, zero]
    have above : 0 ≤ value.upper := mul_nonneg (Nat.cast_nonneg _) (zpow_nonneg (by norm_num) _)
    rw [Rounds, if_pos (by rw [zero]), nothing]
    simpa [Decimal.magnitude, Decimal.valueOf] using above
  · obtain ⟨candidate, scale, rounds, chosen⟩ := exists_shortest canonical some
    rw [chosen, Decimal.magnitude_ofCoefficient]
    exact ⟨rounds, Decimal.digits_ofCoefficient _ _ _, Decimal.negative_ofCoefficient _ _ _⟩

/-! ## The parts of a double -/

theorem canonical_ofFloat? {value : Float} {parts : Binary} (found : ofFloat? value = some parts) :
    parts.Canonical := by
  have two52 : Nat.pow 2 52 = 4503599627370496 := rfl
  have two53 : Nat.pow 2 53 = 9007199254740992 := rfl
  have two11 : Nat.pow 2 11 = 2048 := rfl
  unfold ofFloat? at found
  unfold Canonical
  simp only [two52, two53, two11, Int.ofNat_eq_natCast] at found ⊢
  split at found
  · cases found
  · split at found
    · cases found
      dsimp only
      omega
    · cases found
      dsimp only
      omega

/-- The bits that parts were taken from. -/
def bits (parts : Binary) : Nat :=
  (if parts.negative then Nat.pow 2 63 else 0) +
    if parts.mantissa < Nat.pow 2 52 then parts.mantissa
    else (parts.exponent + 1075).toNat * Nat.pow 2 52 + (parts.mantissa - Nat.pow 2 52)

theorem toBits_of_ofFloat? {value : Float} {parts : Binary} (found : ofFloat? value = some parts) :
    value.toBits.toNat = parts.bits := by
  have two52 : Nat.pow 2 52 = 4503599627370496 := rfl
  have two63 : Nat.pow 2 63 = 9223372036854775808 := rfl
  have two11 : Nat.pow 2 11 = 2048 := rfl
  have bounded := value.toBits.toNat_lt
  unfold ofFloat? at found
  unfold bits
  simp only [two52, two63, two11, Int.ofNat_eq_natCast] at found ⊢
  split at found
  · cases found
  · split at found
    · cases found
      simp only [decide_eq_true_eq]
      split <;> split <;> omega
    · cases found
      simp only [decide_eq_true_eq]
      split <;> split <;> omega

theorem eq_of_ofFloat? {first second : Float} {parts : Binary} (found : ofFloat? first = some parts)
    (foundSecond : ofFloat? second = some parts) : first = second := by
  have same : first.toBits = second.toBits :=
    UInt64.toNat_inj.mp ((toBits_of_ofFloat? found).trans (toBits_of_ofFloat? foundSecond).symm)
  obtain ⟨⟨_, _⟩⟩ := first
  obtain ⟨⟨_, _⟩⟩ := second
  cases same
  rfl

open Float.Model UnpackedFloat in
theorem exists_ofFloat? {value : Float} (bounded : Scalar.isFinite value = true) :
    ∃ parts, ofFloat? value = some parts := by
  unfold ofFloat?
  dsimp only
  split
  · rename_i full
    have full : @unpackExponent .binary64 value.toModel.toBits.toBitVec = -1#_ := by
      refine BitVec.eq_of_toNat_eq ?_
      rw [unpackExponent, BitVec.toNat_cast, BitVec.extractLsb, BitVec.extractLsb'_toNat,
        Nat.shiftRight_eq_div_pow]
      exact full
    have unbounded : (Double.parts value).isFinite = false := by
      change (unpack .binary64 value.toModel.toBits.toBitVec).isFinite = false
      unfold UnpackedFloat.unpack
      rw [if_pos full]
      split <;> rfl
    rw [Double.isFinite_iff, unbounded] at bounded
    cases bounded
  · split
    · exact ⟨_, rfl⟩
    · exact ⟨_, rfl⟩

end Binary

/-! ## The text of a double -/

namespace Layout

/-- What is written for a finite double is a sign and a numeral of a number that rounds to it. -/
theorem exists_numeral_write {value : Float} (bounded : Scalar.isFinite value = true) :
    ∃ parts numeral, Binary.ofFloat? value = some parts ∧ parts.Canonical ∧
      Numeral.IsValid numeral ∧ numeral.IsMarked ∧ parts.Rounds numeral.magnitude ∧
      (data.write value).toList = (if parts.negative then ['-'] else []) ++ numeral.letters := by
  obtain ⟨parts, found⟩ := Binary.exists_ofFloat? bounded
  have canonical := Binary.canonical_ofFloat? found
  obtain ⟨rounds, small, sign⟩ := Binary.shortest_spec canonical
  obtain ⟨numeral, valid, marked, magnitude, written⟩ := parts.shortest.exists_numeral small
  refine ⟨parts, numeral, found, canonical, valid, marked, magnitude ▸ rounds, ?_⟩
  rw [← sign, ← written, write, found]

/-- A finite double is known by its text. -/
theorem eq_of_write_eq {first second : Float} (bounded : Scalar.isFinite first = true)
    (boundedSecond : Scalar.isFinite second = true)
    (same : data.write first = data.write second) : first = second := by
  obtain ⟨parts, numeral, found, canonical, valid, _, rounds, written⟩ :=
    exists_numeral_write bounded
  obtain ⟨others, other, foundSecond, canonicalSecond, validSecond, _, roundsSecond,
    writtenSecond⟩ := exists_numeral_write boundedSecond
  rw [same, writtenSecond] at written
  obtain ⟨signs, letters⟩ := Numeral.eq_of_signed_eq valid validSecond written.symm
  subst letters
  obtain ⟨mantissas, exponents⟩ := rounds.unique canonical canonicalSecond roundsSecond
  have same : parts = others := by
    obtain ⟨negative, mantissa, exponent⟩ := parts
    obtain ⟨negativeOther, mantissaOther, exponentOther⟩ := others
    rw [Binary.mk.injEq]
    exact ⟨signs, mantissas, exponents⟩
  exact Binary.eq_of_ofFloat? found (same ▸ foundSecond)

end Layout

end ReviewGate
