import ReviewGate.Proofs.Number.Double
import ReviewGate.Proofs.Trust.Operation

/-!
# Bounds of trust arithmetic

Which numbers the formulas can arrive at under a validated policy.  Blended and penalized scores are
finite.  What a penalty takes is finite or unlimited, and a drift is finite or runs away from the
baseline.
-/

namespace ReviewGate

variable {R K : Type}

section Validation

variable [Scalar R]

/-! ## Validation -/

/-- What validation establishes about the numbers that move a score. -/
structure TrustConfig.Bounded (config : TrustConfig R) : Prop where
  lossAversion : 1.0 < config.penalties.lossAversion
  maliciousFactor : 1.0 ≤ config.penalties.maliciousFactor
  dailyCap : 0.0 < config.penalties.dailyCap
  stageMultipliers : ∀ stage, 0.0 < config.penalties.stageMultipliers.get stage
  baseMagnitudes : ∀ kind magnitude, config.penalties.baseMagnitudes kind = some magnitude →
    0.0 < magnitude
  floor : Scalar.InUnit config.probation.floor
  baseline : Scalar.InUnit config.decay.baseline

theorem require_of_yields {condition : Prop} [Decidable condition] {cause : Invalid}
    {step : ForInStep Unit}
    (done : (do require condition cause; pure (.yield ())) = Except.ok step) :
    condition ∧ step = .yield () := by
  obtain ⟨_, required, same⟩ := bind_eq_ok_iff.mp done
  cases same
  exact ⟨require_eq_ok_iff.mp required, rfl⟩

theorem TrustConfig.bounded_of_validate {config : TrustConfig R}
    (valid : config.validate = .ok ()) : config.Bounded := by
  unfold TrustConfig.validate at valid
  obtain ⟨_, -, valid⟩ := bind_eq_ok_iff.mp valid
  obtain ⟨_, -, valid⟩ := bind_eq_ok_iff.mp valid
  obtain ⟨_, -, valid⟩ := bind_eq_ok_iff.mp valid
  obtain ⟨_, lossAversion, valid⟩ := bind_eq_ok_iff.mp valid
  obtain ⟨_, maliciousFactor, valid⟩ := bind_eq_ok_iff.mp valid
  obtain ⟨_, dailyCap, valid⟩ := bind_eq_ok_iff.mp valid
  obtain ⟨_, multipliers, valid⟩ := bind_eq_ok_iff.mp valid
  obtain ⟨_, magnitudes, valid⟩ := bind_eq_ok_iff.mp valid
  obtain ⟨_, floor, valid⟩ := bind_eq_ok_iff.mp valid
  obtain ⟨_, baseline, -⟩ := bind_eq_ok_iff.mp valid
  have perStage := yields_of_forIn_eq_ok (fun _ _ done => (require_of_yields done).2) multipliers
  have perKind := yields_of_forIn_eq_ok (by
    intro kind step done
    cases found : config.penalties.baseMagnitudes kind with
    | none =>
        simp only [found] at done
        cases done
        rfl
    | some magnitude =>
        simp only [found] at done
        exact (require_of_yields done).2) magnitudes
  constructor
  case lossAversion => exact require_eq_ok_iff.mp lossAversion
  case maliciousFactor => exact require_eq_ok_iff.mp maliciousFactor
  case dailyCap => exact require_eq_ok_iff.mp dailyCap
  case stageMultipliers =>
    intro stage
    have listed : stage ∈ (Named.all : List Stage) := by cases stage <;> decide
    exact (require_of_yields (perStage stage listed)).1
  case baseMagnitudes =>
    intro kind magnitude found
    have listed : kind ∈ (Named.all : List PenaltyType) := by cases kind <;> decide
    have checked := perKind kind listed
    simp only [found] at checked
    exact (require_of_yields checked).1.1
  case floor => exact requireUnit_eq_ok_iff.mp floor
  case baseline => exact requireUnit_eq_ok_iff.mp baseline

/-- Validation leaves something of the old score and lets something of the outcome in. -/
theorem TrustConfig.retention_of_validate {config : TrustConfig R}
    (valid : config.validate = .ok ()) (context : RiskContext) :
    0.0 < config.retention.get context ∧ config.retention.get context < 1.0 := by
  unfold TrustConfig.validate at valid
  obtain ⟨_, -, valid⟩ := bind_eq_ok_iff.mp valid
  obtain ⟨_, -, valid⟩ := bind_eq_ok_iff.mp valid
  obtain ⟨_, retentions, -⟩ := bind_eq_ok_iff.mp valid
  have each := yields_of_forIn_eq_ok (by
    rintro ⟨name, retention⟩ step done
    exact (require_of_yields done).2) retentions
  cases context with
  | lowRisk =>
      exact (require_of_yields (each ("lambda.low_risk", config.retention.lowRisk) (by simp))).1
  | highRisk =>
      exact (require_of_yields (each ("lambda.high_risk", config.retention.highRisk) (by simp))).1

end Validation

/-! ## Penalties -/

namespace PenaltyPolicy

/-- No factor of a penalty is below zero. -/
theorem not_effective_lt_zero {config : TrustConfig Float} (bounded : config.Bounded)
    (kind : PenaltyType) (honesty : Honesty) (stage : Stage) :
    ¬config.penalties.effective kind honesty stage < 0.0 := by
  have lossAversion : ¬config.penalties.lossAversion < 0.0 :=
    Double.not_lt_zero_of_le (by decide) (.inl bounded.lossAversion)
  have maliciousFactor : ¬config.penalties.maliciousFactor < 0.0 :=
    Double.not_lt_zero_of_le (by decide) (.inr bounded.maliciousFactor)
  have multiplier : ¬config.penalties.stageMultipliers.get stage < 0.0 :=
    Double.not_lt_zero_of_le (by decide) (.inl (bounded.stageMultipliers stage))
  have magnitude : ¬config.penalties.baseMagnitude kind < 0.0 := by
    unfold baseMagnitude
    cases found : config.penalties.baseMagnitudes kind with
    | none => cases kind <;> decide
    | some magnitude =>
        exact Double.not_lt_zero_of_le (by decide)
          (.inl (bounded.baseMagnitudes kind magnitude found))
  have loss := Double.not_mul_lt_zero magnitude lossAversion
  cases honesty with
  | honest => exact Double.not_mul_lt_zero loss multiplier
  | malicious =>
      exact Double.not_mul_lt_zero (Double.not_mul_lt_zero loss maliciousFactor) multiplier

/-- What a penalty takes is finite or unlimited, and it leaves a finite score. -/
theorem charge_cases {config : TrustConfig Float} (bounded : config.Bounded) {score dailySum : Float}
    {kind : PenaltyType} {honesty : Honesty} {stage : Stage} {outcome : PenaltyOutcome Float}
    (done : config.penalties.charge score kind honesty stage dailySum = .ok outcome) :
    Scalar.isFinite outcome.adjustedScore = true ∧
      (Scalar.isFinite outcome.applied = false → outcome.applied = Double.infinity) ∧
      outcome.dailySum = dailySum + outcome.applied := by
  unfold charge at done
  obtain ⟨_, -, done⟩ := bind_eq_ok_iff.mp done
  obtain ⟨_, -, done⟩ := bind_eq_ok_iff.mp done
  cases done
  refine ⟨Double.isFinite_clampUnit _, ?_, rfl⟩
  have room : ∀ value : Float, Scalar.isFinite (Scalar.larger value 0.0) = false →
      Scalar.larger value 0.0 = Double.infinity := fun value => Double.larger_eq_infinity rfl
  exact Double.smaller_eq_infinity (not_effective_lt_zero bounded kind honesty stage) (room _)

end PenaltyPolicy

/-! ## Drifts -/

namespace DecayPolicy

/-- Where a drift ends up that exceeds every number. -/
def runaway (baseline score : Float) : Float :=
  if baseline < score then Double.infinity else -Double.infinity

theorem bne_self_runaway (baseline score : Float) :
    (runaway baseline score != runaway baseline score) = false := by
  unfold runaway
  split <;> decide

/-- A drift ends at a finite score, or it runs away from the baseline. -/
theorem decay_eq_runaway {policy : DecayPolicy Float} {score : Float} {last now : Instant}
    (baseline : Scalar.isFinite policy.baseline = true) (number : (score != score) = false)
    (unbounded : Scalar.isFinite (policy.decay score last now) = false) :
    policy.decay score last now = runaway policy.baseline score := by
  have kept : Scalar.isFinite score = false → score = runaway policy.baseline score := by
    intro unbounded
    unfold runaway
    rcases Double.eq_infinity_or_of_isFinite_eq_false unbounded with rfl | rfl | differs
    · rw [if_pos (Double.lt_infinity baseline)]
    · rw [if_neg (Double.not_lt_neg_infinity policy.baseline)]
    · rw [number] at differs
      cases differs
  unfold decay at unbounded ⊢
  split at unbounded
  · rename_i early
    rw [if_pos early]
    exact kept unbounded
  · rename_i later
    rw [if_neg later]
    split at unbounded
    · rename_i above
      rw [if_pos above, runaway, if_pos above]
      exact Double.larger_eq_infinity baseline unbounded
    · rename_i notAbove
      rw [if_neg notAbove]
      split at unbounded
      · rename_i below
        rw [if_pos below, runaway, if_neg notAbove]
        exact Double.smaller_eq_neg_infinity baseline unbounded
      · rename_i notBelow
        rw [if_neg notBelow]
        exact kept unbounded

/-- From the baseline itself nothing runs away. -/
theorem lt_or_lt_of_decay {policy : DecayPolicy Float} {score : Float} {last now : Instant}
    (baseline : Scalar.isFinite policy.baseline = true) (number : (score != score) = false)
    (unbounded : Scalar.isFinite (policy.decay score last now) = false) :
    policy.baseline < score ∨ score < policy.baseline := by
  have kept : Scalar.isFinite score = false →
      policy.baseline < score ∨ score < policy.baseline := by
    intro unbounded
    rcases Double.eq_infinity_or_of_isFinite_eq_false unbounded with rfl | rfl | differs
    · exact .inl (Double.lt_infinity baseline)
    · exact .inr (Double.neg_infinity_lt baseline)
    · rw [number] at differs
      cases differs
  unfold decay at unbounded
  split at unbounded
  · exact kept unbounded
  · split at unbounded
    · rename_i above
      exact .inl above
    · split at unbounded
      · rename_i below
        exact .inr below
      · exact kept unbounded

theorem bne_self_decay {policy : DecayPolicy Float} {score : Float} (last now : Instant)
    (baseline : Scalar.isFinite policy.baseline = true) (number : (score != score) = false) :
    (policy.decay score last now != policy.decay score last now) = false := by
  cases bounded : Scalar.isFinite (policy.decay score last now) with
  | true => exact Double.bne_self_of_isFinite bounded
  | false =>
      rw [decay_eq_runaway baseline number bounded]
      exact bne_self_runaway policy.baseline score

end DecayPolicy

/-! ## Windows -/

/-- An instant that the ledger can tell in full. -/
structure Instant.IsTellable (instant : Instant) : Prop where
  valid : instant.IsValid
  within : instant.inCalendar = true

/-- Whole minutes lead from one instant of a clock to another. -/
theorem Instant.isValid_addSeconds {instant : Instant} (valid : instant.IsValid) (minutes : Int) :
    (instant.addSeconds (minutes * 60)).IsValid := by
  obtain ⟨fraction, leap⟩ := valid
  unfold nanosPerSecond at fraction leap
  have ordinary : ∀ seconds : Int,
      (⟨seconds, instant.nanos - nanosPerSecond⟩ : Instant).IsValid := by
    intro seconds
    constructor
    case fraction =>
      dsimp only [nanosPerSecond]
      omega
    case leap =>
      dsimp only [nanosPerSecond]
      omega
  unfold addSeconds
  split
  · refine ⟨fraction, ?_⟩
    intro leaps
    have last := leap leaps
    dsimp only
    omega
  · split
    · exact ordinary _
    · exact ordinary _

/-- The end of a window can be told if the end of the window before it can. -/
theorem CoolingOffPolicy.isTellable_deadline? {policy : CoolingOffPolicy} {honesty : Honesty}
    {now deadline : Instant} {open? : Option Instant} (shown : now.IsValid)
    (before : ∀ earlier, open? = some earlier → earlier.IsTellable)
    (ends : policy.deadline? honesty now open? = .ok deadline) : deadline.IsTellable := by
  unfold deadline? at ends
  split at ends
  · cases ends
  · rename_i requested added
    have tellable : requested.IsTellable := by
      unfold Instant.addHours? at added
      dsimp only at added
      split at added
      · rename_i within
        cases added
        refine ⟨?_, within⟩
        have minutes : signedWord (policy.hours honesty) * 3600 =
            signedWord (policy.hours honesty) * 60 * 60 := by omega
        rw [minutes]
        exact Instant.isValid_addSeconds shown _
      · cases added
    cases open? with
    | none =>
        cases ends
        exact tellable
    | some earlier =>
        cases ends
        change (requested.latest earlier).IsTellable
        unfold Instant.latest
        split
        · exact before earlier rfl
        · exact tellable

/-! ## Outcomes -/

namespace Engine

/-- A blended score is finite, on probation too. -/
theorem isFinite_scoreUpdate {engine : Engine Float K} (bounded : engine.config.Bounded)
    (record : IdentityRecord Float) (outcome : Float) (context : RiskContext)
    (reference : Option String) (now : Instant) :
    Scalar.isFinite (engine.scoreUpdate record outcome context reference now).newScore = true := by
  have blended := Double.isFinite_clampUnit
    (blend (engine.config.retention.get context) record.trustScore outcome)
  unfold scoreUpdate
  dsimp only
  split
  · exact Double.isFinite_larger_smaller blended (Double.isFinite_of_inUnit bounded.floor) _
  · exact blended

end Engine

end ReviewGate
