import Mathlib.Algebra.BigOperators.Group.List.Basic
import Mathlib.Algebra.Order.Ring.Rat
import Mathlib.Tactic.Linarith
import Mathlib.Tactic.NormNum
import ReviewGate.Number.Scalar

/-!
# Exact scalars

On rationals the operations on scalars are those of the ordered field.
-/

namespace ReviewGate.Scalar

theorem zero_rat : (0.0 : Rat) = 0 := by norm_num

theorem one_rat : (1.0 : Rat) = 1 := by norm_num

theorem larger_rat (first second : Rat) : larger first second = max first second := by
  unfold larger
  by_cases less : first < second
  · rw [if_pos (.inl less), max_eq_right less.le]
  · rw [if_neg (by simp [less]), max_eq_left (not_lt.mp less)]

theorem smaller_rat (first second : Rat) : smaller first second = min first second := by
  unfold smaller
  by_cases less : second < first
  · rw [if_pos (.inl less), min_eq_right less.le]
  · rw [if_neg (by simp [less]), min_eq_left (not_lt.mp less)]

theorem inUnit_rat_iff {value : Rat} : InUnit value ↔ 0 ≤ value ∧ value ≤ 1 := by
  rw [InUnit, zero_rat, one_rat]

/-- A number of the unit interval is left as it is. -/
theorem clampUnit_rat {value : Rat} (low : 0 ≤ value) (high : value ≤ 1) :
    clampUnit value = value := by
  unfold clampUnit
  rw [zero_rat, one_rat, if_neg (by simp), if_neg (not_lt.mpr low), if_neg (not_lt.mpr high)]

theorem clampUnit_rat_of_le_one {value : Rat} (high : value ≤ 1) :
    clampUnit value = max 0 value := by
  rcases lt_or_ge value 0 with below | low
  · rw [max_eq_left below.le, clampUnit, zero_rat, if_neg (by simp), if_pos below]
  · rw [max_eq_right low, clampUnit_rat low high]

theorem sum_rat (values : List Rat) : sum values = values.sum := by
  have added : ∀ start : Rat, values.foldl (· + ·) start = start + values.sum := by
    induction values with
    | nil => simp
    | cons value rest inductionHypothesis =>
        intro start
        rw [List.foldl_cons, inductionHypothesis, List.sum_cons, add_assoc]
  rw [sum, added, zero_rat, zero_add]

theorem product_rat (values : List Rat) : product values = values.prod := by
  have multiplied : ∀ start : Rat, values.foldl (· * ·) start = start * values.prod := by
    induction values with
    | nil => simp
    | cons value rest inductionHypothesis =>
        intro start
        rw [List.foldl_cons, inductionHypothesis, List.prod_cons, mul_assoc]
  rw [product, multiplied, one_rat, one_mul]

/-- Squaring gives the power. -/
theorem power_rat (base : Rat) (exponent : Nat) : power base exponent = base ^ exponent := by
  have squared : ∀ result square : Rat, power.go result square exponent =
      result * square ^ exponent := by
    induction exponent using Nat.strong_induction_on with
    | _ exponent inductionHypothesis =>
      intro result square
      unfold power.go
      dsimp only
      have digit : (if exponent % 2 = 1 then result * square else result) =
          result * square ^ (exponent % 2) := by
        rcases Nat.mod_two_eq_zero_or_one exponent with even | odd
        · simp [even]
        · simp [odd]
      rw [digit]
      split
      · rename_i small
        rw [Nat.mod_eq_of_lt small]
      · rw [inductionHypothesis (exponent / 2) (by omega), mul_assoc, ← pow_two, ← pow_mul,
          ← pow_add, Nat.mod_add_div]
  rw [power, squared, one_rat, one_mul]

end ReviewGate.Scalar
