import ReviewGate.Time.Instant
import ReviewGate.Trust.Config

/-!
# Trust arithmetic

The formulas that move a score: an outcome is blended in, a penalty is subtracted under a daily cap,
and an inactive score drifts toward a baseline.
-/

namespace ReviewGate

variable {R : Type} [Scalar R]

/-- The stage whose lower bound a score reaches. -/
def StageBoundaries.classify (boundaries : StageBoundaries R) (score : R) : Stage :=
  if boundaries.identificationBased ≤ score then .identificationBased
  else if boundaries.knowledgeBased ≤ score then .knowledgeBased
  else .calculusBased

/-- An exponentially weighted average of the score so far and a new outcome. -/
def blend (retention score outcome : R) : R := retention * score + (1.0 - retention) * outcome

/-! ## Penalties -/

/-- What a penalty did. -/
structure PenaltyOutcome (R : Type) where
  adjustedScore : R
  /-- What was subtracted. -/
  applied : R
  /-- What would be subtracted without the daily cap. -/
  effective : R
  disposition : Disposition
  /-- The sum of the day, this penalty included. -/
  dailySum : R

namespace PenaltyPolicy

/-- A magnitude scaled for loss aversion, for intent and for the stage. -/
def effective (policy : PenaltyPolicy R) (kind : PenaltyType) (honesty : Honesty)
    (stage : Stage) : R :=
  let loss := policy.baseMagnitude kind * policy.lossAversion
  let scaled := match honesty with
    | .honest => loss
    | .malicious => loss * policy.maliciousFactor
  scaled * policy.stageMultipliers.get stage

/-- Charges a penalty as far as the cap of the day leaves room for it. -/
def charge (policy : PenaltyPolicy R) (score : R) (kind : PenaltyType) (honesty : Honesty)
    (stage : Stage) (dailySum : R) : Except TrustError (PenaltyOutcome R) := do
  requireUnit "current score" score
  require (Scalar.isFinite dailySum ∧ 0.0 ≤ dailySum) (.dailySum (Scalar.toFloat dailySum))
  let effective := policy.effective kind honesty stage
  let remaining := Scalar.larger (policy.dailyCap - dailySum) 0.0
  let applied := Scalar.smaller effective remaining
  return {
    adjustedScore := Scalar.clampUnit (score - applied)
    applied
    effective
    disposition :=
      if applied ≤ 0.0 then .deferred
      else if applied < effective then .truncated
      else .applied
    dailySum := dailySum + applied }

end PenaltyPolicy

/-! ## Inactivity and probation -/

namespace DecayPolicy

/-- The way a score drifts between two instants. -/
def drift (policy : DecayPolicy R) (last now : Instant) : R :=
  Scalar.ofInt (now.since last).wholeSeconds / 86400.0 / 30.0 * policy.ratePerThirtyDays

/-- The score after inactivity since `last`; it never passes the baseline. -/
def decay (policy : DecayPolicy R) (score : R) (last now : Instant) : R :=
  if now ≤ last then score
  else if policy.baseline < score then
    Scalar.larger (score - policy.drift last now) policy.baseline
  else if score < policy.baseline then
    Scalar.smaller (score + policy.drift last now) policy.baseline
  else score

end DecayPolicy

/-- The signed number that a word of 64 bits stands for. -/
def signedWord (value : Nat) : Int := (value : Int).bmod (Nat.pow 2 64)

namespace ProbationPolicy

/-- An identity is on probation while it is young or has few verifications. -/
def covers (policy : ProbationPolicy R) (createdAt : Instant) (verifications : Nat)
    (now : Instant) : Bool :=
  decide ((now.since createdAt).wholeDays < signedWord policy.days) ||
    decide (verifications < policy.minVerifications)

end ProbationPolicy

end ReviewGate
