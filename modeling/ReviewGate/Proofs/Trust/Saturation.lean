import Mathlib.Algebra.Order.BigOperators.Group.List
import Mathlib.Algebra.Order.Group.MinMax
import ReviewGate.Proofs.Trust.DailyCap

/-!
# Penalties in any order

In exact arithmetic the penalties of one day take together what they would take at once: as much as
the cap leaves room for, and no more than the score has.  The order in which they come decides only
which of them is cut short.
-/

namespace ReviewGate

/-! ## Bounded sums -/

/-- What was cut off at a bound stays cut off. -/
theorem min_min_add {bound sum added : Rat} (nonneg : 0 ≤ added) :
    min bound (min bound sum + added) = min bound (sum + added) := by
  rcases le_total bound sum with full | room
  · rw [min_eq_left full, min_eq_left (by linarith), min_eq_left (by linarith)]
  · rw [min_eq_right room]

/-- What is lost beyond zero is not lost. -/
theorem max_max_sub {score first second : Rat} (nonneg : 0 ≤ second) :
    max 0 (max 0 (score - first) - second) = max 0 (score - (first + second)) := by
  rcases le_total 0 (score - first) with left | spent
  · rw [max_eq_right left, sub_sub]
  · rw [max_eq_left spent, max_eq_left (by linarith), max_eq_left (by linarith)]

/-! ## One penalty -/

/-- A penalty takes its magnitude, or what is left of the cap, or nothing where nothing is left. -/
structure PenaltyOutcome.Settles (outcome : PenaltyOutcome Rat)
    (cap score dailySum effective : Rat) : Prop where
  sum : outcome.dailySum = min cap (dailySum + effective)
  score : outcome.adjustedScore = max 0 (score - (outcome.dailySum - dailySum))
  applied : outcome.disposition = .applied ↔ dailySum + effective ≤ cap
  truncated : outcome.disposition = .truncated ↔ dailySum < cap ∧ cap < dailySum + effective
  deferred : outcome.disposition = .deferred ↔ cap ≤ dailySum

namespace PenaltyPolicy

/-- The disposition follows from how much room there is. -/
theorem disposition_cases {effective : Rat} (positive : 0 < effective) (room : Rat) :
    let disposition : Disposition :=
      if min effective (max room 0.0) ≤ 0.0 then .deferred
      else if min effective (max room 0.0) < effective then .truncated
      else .applied
    (disposition = .applied ↔ effective ≤ room) ∧
      (disposition = .truncated ↔ 0 < room ∧ room < effective) ∧
      (disposition = .deferred ↔ room ≤ 0) := by
  rw [Scalar.zero_rat]
  rcases le_or_gt room 0 with full | some
  · rw [max_eq_right full, min_eq_right positive.le, if_pos le_rfl]
    simp [full, full.not_gt, full.trans_lt positive]
  · rw [max_eq_left some.le]
    rcases le_or_gt effective room with fits | short
    · rw [min_eq_left fits, if_neg positive.not_ge, if_neg (lt_irrefl effective)]
      simp [fits, fits.not_gt, some.not_ge]
    · rw [min_eq_right short.le, if_neg some.not_ge, if_pos short]
      simp [some, short, some.not_ge, short.not_ge]

/-- No penalty fails within the cap. -/
theorem exists_charge {config : TrustConfig Rat} (bounded : config.Bounded) {score dailySum : Rat}
    (inUnit : 0 ≤ score ∧ score ≤ 1)
    (within : 0 ≤ dailySum ∧ dailySum ≤ config.penalties.dailyCap) (kind : PenaltyType)
    (honesty : Honesty) (stage : Stage) :
    ∃ outcome, config.penalties.charge score kind honesty stage dailySum = .ok outcome ∧
      outcome.Settles config.penalties.dailyCap score dailySum
        (config.penalties.effective kind honesty stage) := by
  have positive := effective_pos bounded kind honesty stage
  have admitted : requireUnit "current score" score = .ok () :=
    requireUnit_eq_ok_iff.mpr (Scalar.inUnit_rat_iff.mpr inUnit)
  have counted : require (Scalar.isFinite dailySum ∧ 0.0 ≤ dailySum)
      (.dailySum (Scalar.toFloat dailySum)) = .ok () := by
    apply require_eq_ok_iff.mpr
    rw [Scalar.isFinite, Scalar.zero_rat, sub_self]
    exact ⟨rfl, within.1⟩
  unfold charge
  rw [admitted, counted]
  refine ⟨_, rfl, ?_⟩
  rw [Scalar.smaller_rat, Scalar.larger_rat]
  generalize config.penalties.effective kind honesty stage = effective at positive ⊢
  have room : 0 ≤ config.penalties.dailyCap - dailySum := sub_nonneg.mpr within.2
  have dispositions := disposition_cases positive (config.penalties.dailyCap - dailySum)
  have taken : min effective (max (config.penalties.dailyCap - dailySum) 0.0) =
      min config.penalties.dailyCap (dailySum + effective) - dailySum := by
    rw [Scalar.zero_rat, max_eq_left room, ← min_sub_sub_right, add_sub_cancel_left, min_comm]
  have kept : 0 ≤ min effective (max (config.penalties.dailyCap - dailySum) 0.0) :=
    le_min positive.le (le_max_of_le_left room)
  constructor
  case sum =>
    dsimp only
    rw [taken, add_sub_cancel]
  case score =>
    dsimp only
    rw [add_sub_cancel_left]
    exact Scalar.clampUnit_rat_of_le_one (by linarith)
  case applied => exact dispositions.1.trans le_sub_iff_add_le'
  case truncated =>
    rw [dispositions.2.1, sub_pos, sub_lt_iff_lt_add']
  case deferred => exact dispositions.2.2.trans sub_nonpos

/-! ## The penalties of a day -/

/-- Charges penalties one after another, each one what the one before has left. -/
def chargeAll {R : Type} [Scalar R] (policy : PenaltyPolicy R) (stage : Stage)
    (score dailySum : R) : List (PenaltyType × Honesty) → Except TrustError (R × R)
  | [] => .ok (score, dailySum)
  | (kind, honesty) :: rest => do
      let outcome ← policy.charge score kind honesty stage dailySum
      policy.chargeAll stage outcome.adjustedScore outcome.dailySum rest

/-- What penalties would take without a cap. -/
def demand (policy : PenaltyPolicy Rat) (stage : Stage) (penalties : List (PenaltyType × Honesty)) :
    Rat :=
  (penalties.map fun penalty => policy.effective penalty.1 penalty.2 stage).sum

theorem demand_nonneg {config : TrustConfig Rat} (bounded : config.Bounded) (stage : Stage)
    (penalties : List (PenaltyType × Honesty)) : 0 ≤ config.penalties.demand stage penalties := by
  apply List.sum_nonneg
  intro effective belongs
  obtain ⟨penalty, -, rfl⟩ := List.mem_map.mp belongs
  exact (effective_pos bounded penalty.1 penalty.2 stage).le

/-- The score and the sum of the day after penalties, as if they had come at once. -/
def settled (policy : PenaltyPolicy Rat) (stage : Stage) (score dailySum : Rat)
    (penalties : List (PenaltyType × Honesty)) : Rat × Rat :=
  let total := min policy.dailyCap (dailySum + policy.demand stage penalties)
  (max 0 (score - (total - dailySum)), total)

theorem settled_within {config : TrustConfig Rat} (bounded : config.Bounded) {score dailySum : Rat}
    (inUnit : 0 ≤ score ∧ score ≤ 1)
    (within : 0 ≤ dailySum ∧ dailySum ≤ config.penalties.dailyCap) (stage : Stage)
    (penalties : List (PenaltyType × Honesty)) :
    let after := config.penalties.settled stage score dailySum penalties
    (0 ≤ after.1 ∧ after.1 ≤ 1) ∧ dailySum ≤ after.2 ∧ after.2 ≤ config.penalties.dailyCap := by
  have demand := demand_nonneg bounded stage penalties
  have grown : dailySum ≤ min config.penalties.dailyCap
      (dailySum + config.penalties.demand stage penalties) :=
    le_min within.2 (by linarith)
  refine ⟨⟨le_max_left .., max_le zero_le_one ?_⟩, grown, min_le_left ..⟩
  linarith

theorem chargeAll_eq_settled {config : TrustConfig Rat} (bounded : config.Bounded) (stage : Stage)
    (penalties : List (PenaltyType × Honesty)) {score dailySum : Rat}
    (inUnit : 0 ≤ score ∧ score ≤ 1)
    (within : 0 ≤ dailySum ∧ dailySum ≤ config.penalties.dailyCap) :
    config.penalties.chargeAll stage score dailySum penalties =
      .ok (config.penalties.settled stage score dailySum penalties) := by
  induction penalties generalizing score dailySum with
  | nil =>
      simp [chargeAll, settled, demand, min_eq_right within.2, max_eq_right inUnit.1]
  | cons penalty rest inductionHypothesis =>
      obtain ⟨kind, honesty⟩ := penalty
      obtain ⟨outcome, charged, settles⟩ := exists_charge bounded inUnit within kind honesty stage
      have first : config.penalties.settled stage score dailySum [(kind, honesty)] =
          (outcome.adjustedScore, outcome.dailySum) := by
        simp [settled, demand, settles.sum, settles.score]
      obtain ⟨inUnitAfter, grown, capped⟩ :=
        settled_within bounded inUnit within stage [(kind, honesty)]
      rw [first] at inUnitAfter grown capped
      have following := inductionHypothesis inUnitAfter ⟨within.1.trans grown, capped⟩
      have added := demand_nonneg bounded stage rest
      have total : min config.penalties.dailyCap
          (outcome.dailySum + config.penalties.demand stage rest) =
          min config.penalties.dailyCap
            (dailySum + config.penalties.demand stage ((kind, honesty) :: rest)) := by
        rw [settles.sum, min_min_add added, demand, demand, List.map_cons, List.sum_cons,
          add_assoc]
      have further : outcome.dailySum ≤ min config.penalties.dailyCap
          (outcome.dailySum + config.penalties.demand stage rest) := le_min capped (by linarith)
      rw [chargeAll, charged]
      change config.penalties.chargeAll stage outcome.adjustedScore outcome.dailySum rest = _
      rw [following]
      simp only [settled]
      rw [settles.score, max_max_sub (sub_nonneg.mpr further), total, sub_add_sub_cancel']

/-- The penalties of a day take what they would take at once, whatever their order, and each of them
is cut short exactly where the ones before it have left less than its magnitude. -/
theorem saturates_of_validate {config : TrustConfig Rat} (valid : config.validate = .ok ())
    (stage : Stage) {score dailySum : Rat} (inUnit : 0 ≤ score ∧ score ≤ 1)
    (within : 0 ≤ dailySum ∧ dailySum ≤ config.penalties.dailyCap)
    (penalties : List (PenaltyType × Honesty)) :
    (∀ order, order.Perm penalties →
      config.penalties.chargeAll stage score dailySum order =
        let total := min config.penalties.dailyCap (dailySum + (penalties.map fun penalty =>
          config.penalties.effective penalty.1 penalty.2 stage).sum)
        .ok (max 0 (score - (total - dailySum)), total)) ∧
    ∀ before kind honesty after, penalties = before ++ (kind, honesty) :: after →
      ∃ reached outcome,
        config.penalties.chargeAll stage score dailySum before = .ok reached ∧
        config.penalties.charge reached.1 kind honesty stage reached.2 = .ok outcome ∧
        outcome.Settles config.penalties.dailyCap reached.1 reached.2
          (config.penalties.effective kind honesty stage) := by
  have bounded := TrustConfig.bounded_of_validate valid
  constructor
  · intro order permuted
    rw [chargeAll_eq_settled bounded stage order inUnit within, settled, demand,
      (permuted.map _).sum_eq]
  · rintro before kind honesty after -
    obtain ⟨inUnitAfter, grown, capped⟩ := settled_within bounded inUnit within stage before
    obtain ⟨outcome, charged, settles⟩ :=
      exists_charge bounded inUnitAfter ⟨within.1.trans grown, capped⟩ kind honesty stage
    exact ⟨_, outcome, chargeAll_eq_settled bounded stage before inUnit within, charged, settles⟩

/-- The first penalty fits under the cap, the second one fills it, and for the third nothing is
left.  The second also takes more than the score has. -/
def afternoon : List (PenaltyType × Honesty) :=
  [(.heuristicFinding, .honest), (.secretExposure, .malicious), (.heuristicFinding, .honest)]

theorem saturates_afternoon :
    (.default : TrustConfig Rat).validate = .ok () ∧
      (.default : TrustConfig Rat).penalties.chargeAll .knowledgeBased 0.04 0.2
        afternoon.reverse = .ok (0, 0.25) ∧
      ∃ reached outcome,
        (.default : TrustConfig Rat).penalties.chargeAll .knowledgeBased 0.04 0.2
          [(.heuristicFinding, .honest)] = .ok reached ∧
        (.default : TrustConfig Rat).penalties.charge reached.1 .secretExposure .malicious
          .knowledgeBased reached.2 = .ok outcome ∧
        outcome.disposition = .truncated := by
  have valid : (.default : TrustConfig Rat).validate = .ok () :=
    eq_ok_of_toOption (by decide +kernel)
  have inUnit : (0 : Rat) ≤ 0.04 ∧ (0.04 : Rat) ≤ 1 := by norm_num
  have within : (0 : Rat) ≤ 0.2 ∧ 0.2 ≤ (.default : TrustConfig Rat).penalties.dailyCap := by
    decide +kernel
  obtain ⟨all, each⟩ := saturates_of_validate valid .knowledgeBased inUnit within afternoon
  refine ⟨valid, (all _ afternoon.reverse_perm).trans (congrArg _ (by decide +kernel)), ?_⟩
  obtain ⟨reached, outcome, before, charged, settles⟩ := each [_] _ _ _ rfl
  refine ⟨reached, outcome, before, charged, settles.truncated.mpr ?_⟩
  have first := (saturates_of_validate valid .knowledgeBased inUnit within
    [(.heuristicFinding, .honest)]).1 _ (List.Perm.refl _)
  cases before.symm.trans first
  decide +kernel

end PenaltyPolicy

end ReviewGate
