import ReviewGate.Data.Document
import ReviewGate.Number.Scalar
import ReviewGate.Trust.Basic

/-!
# Trust policy

Every number that decides about trust, with its default and its legal range.
-/

namespace ReviewGate

/-- Lower bounds of the two upper stages. -/
structure StageBoundaries (R : Type) where
  knowledgeBased : R
  identificationBased : R

/-- How much of the old score an outcome leaves. -/
structure Retention (R : Type) where
  lowRisk : R
  highRisk : R

/-- A number for each stage. -/
structure PerStage (R : Type) where
  calculusBased : R
  knowledgeBased : R
  identificationBased : R

structure PenaltyPolicy (R : Type) where
  /-- Multiplies every loss. -/
  lossAversion : R
  /-- Multiplies deliberate losses once more. -/
  maliciousFactor : R
  /-- No identity loses more than this in a day. -/
  dailyCap : R
  stageMultipliers : PerStage R
  baseMagnitudes : PenaltyType → Option R

/-- Lengths of cooling-off windows. -/
structure CoolingOffPolicy where
  honestHours : Nat
  maliciousHours : Nat
  deriving DecidableEq, Repr

/-- New identities are not pulled below a floor. -/
structure ProbationPolicy (R : Type) where
  days : Nat
  minVerifications : Nat
  floor : R

/-- Inactive identities drift toward a baseline. -/
structure DecayPolicy (R : Type) where
  baseline : R
  /-- The way drifted in 30 days. -/
  ratePerThirtyDays : R

structure PropagationPolicy (R : Type) where
  dampingFactor : R
  hopLimit : Nat

structure TrustConfig (R : Type) where
  /-- The score at registration. -/
  initialScore : R
  stages : StageBoundaries R
  retention : Retention R
  penalties : PenaltyPolicy R
  coolingOff : CoolingOffPolicy
  probation : ProbationPolicy R
  decay : DecayPolicy R
  propagation : PropagationPolicy R
  /-- So many score updates are remembered. -/
  maxHistory : Nat

/-- The most hops trust is propagated over. -/
def maxHopLimit : Nat := 16

variable {R : Type} [Scalar R]

namespace PerStage

omit [Scalar R] in
def get (values : PerStage R) : Stage → R
  | .calculusBased => values.calculusBased
  | .knowledgeBased => values.knowledgeBased
  | .identificationBased => values.identificationBased

end PerStage

namespace PenaltyType

/-- The magnitude of a penalty to which the policy gives none. -/
def defaultMagnitude (R : Type) [Scalar R] : PenaltyType → R
  | .heuristicFinding => 0.01
  | .contractViolation => 0.02
  | .verificationFailure => 0.05
  | .approvalRejected => 0.05
  | .secretExposure => 0.08
  | .scopeViolation => 0.03

end PenaltyType

namespace PenaltyPolicy

def baseMagnitude (policy : PenaltyPolicy R) (kind : PenaltyType) : R :=
  (policy.baseMagnitudes kind).getD (kind.defaultMagnitude R)

def default : PenaltyPolicy R where
  lossAversion := 2.0
  maliciousFactor := 1.5
  dailyCap := 0.25
  stageMultipliers := ⟨1.5, 1.0, 0.75⟩
  baseMagnitudes := fun kind => some (kind.defaultMagnitude R)

end PenaltyPolicy

namespace CoolingOffPolicy

def default : CoolingOffPolicy := ⟨24, 168⟩

def hours (policy : CoolingOffPolicy) : Honesty → Nat
  | .honest => policy.honestHours
  | .malicious => policy.maliciousHours

end CoolingOffPolicy

namespace Retention

omit [Scalar R] in
def get (retention : Retention R) : RiskContext → R
  | .lowRisk => retention.lowRisk
  | .highRisk => retention.highRisk

end Retention

def StageBoundaries.default : StageBoundaries R := ⟨0.5, 0.8⟩

def Retention.default : Retention R := ⟨0.97, 0.94⟩

def ProbationPolicy.default : ProbationPolicy R := ⟨30, 5, 0.35⟩

def DecayPolicy.default : DecayPolicy R := ⟨0.4, 0.01⟩

def PropagationPolicy.default : PropagationPolicy R := ⟨0.5, 3⟩

/-- Refuses a number outside the unit interval. -/
def requireUnit (name : String) (value : R) : Except TrustError Unit :=
  if Scalar.InUnit value then .ok ()
  else .error (.invalid (.outsideUnit name (Scalar.toFloat value)))

/-- Refuses for a cause unless a condition holds. -/
def require (condition : Prop) [Decidable condition] (cause : Invalid) : Except TrustError Unit :=
  if condition then .ok () else .error (.invalid cause)

namespace TrustConfig

def default : TrustConfig R where
  initialScore := 0.4
  stages := .default
  retention := .default
  penalties := .default
  coolingOff := .default
  probation := .default
  decay := .default
  propagation := .default
  maxHistory := 10000

/-- The first value out of its range decides. -/
def validate (config : TrustConfig R) : Except TrustError Unit := do
  requireUnit "initial_score" config.initialScore
  let stages := config.stages
  require (0.0 < stages.knowledgeBased ∧ stages.knowledgeBased < stages.identificationBased ∧
      stages.identificationBased ≤ 1.0)
    (.stageBoundaries (Scalar.toFloat stages.knowledgeBased)
      (Scalar.toFloat stages.identificationBased))
  for (name, retention) in [("lambda.low_risk", config.retention.lowRisk),
      ("lambda.high_risk", config.retention.highRisk)] do
    require (0.0 < retention ∧ retention < 1.0) (.retention name (Scalar.toFloat retention))
  let penalties := config.penalties
  require (1.0 < penalties.lossAversion) (.lossAversion (Scalar.toFloat penalties.lossAversion))
  require (1.0 ≤ penalties.maliciousFactor)
    (.maliciousFactor (Scalar.toFloat penalties.maliciousFactor))
  require (0.0 < penalties.dailyCap) .dailyCap
  for stage in (Named.all : List Stage) do
    require (0.0 < penalties.stageMultipliers.get stage) .stageMultipliers
  for kind in (Named.all : List PenaltyType) do
    match penalties.baseMagnitudes kind with
    | none => pure ()
    | some magnitude =>
        require (0.0 < magnitude ∧ magnitude ≤ 1.0)
          (.baseMagnitude kind (Scalar.toFloat magnitude))
  requireUnit "probation.floor" config.probation.floor
  requireUnit "decay.baseline" config.decay.baseline
  requireUnit "propagation.damping_factor" config.propagation.dampingFactor
  require (config.propagation.hopLimit ≤ maxHopLimit)
    (.hopLimit "propagation.hop_limit" maxHopLimit config.propagation.hopLimit)

end TrustConfig

/-! ## Records -/

/-- A number as data. -/
def Scalar.toJson (value : R) : Json := .float (Scalar.toFloat value)

namespace TrustConfig

/-- The fields in the order in which a configuration file lists them. -/
def toJson (config : TrustConfig R) : Json :=
  .object [
    ("initial_score", Scalar.toJson config.initialScore),
    ("stages", .object [
      ("knowledge_based", Scalar.toJson config.stages.knowledgeBased),
      ("identification_based", Scalar.toJson config.stages.identificationBased)]),
    ("lambda", .object [
      ("low_risk", Scalar.toJson config.retention.lowRisk),
      ("high_risk", Scalar.toJson config.retention.highRisk)]),
    ("penalties", .object [
      ("loss_aversion", Scalar.toJson config.penalties.lossAversion),
      ("malicious_factor", Scalar.toJson config.penalties.maliciousFactor),
      ("daily_cap", Scalar.toJson config.penalties.dailyCap),
      ("stage_multipliers", .object ((Named.all : List Stage).map fun stage =>
        (Named.name stage, Scalar.toJson (config.penalties.stageMultipliers.get stage)))),
      ("base_magnitudes", .object ((Named.all : List PenaltyType).filterMap fun kind =>
        (config.penalties.baseMagnitudes kind).map fun magnitude =>
          (Named.name kind, Scalar.toJson magnitude)))]),
    ("cooling_off", .object [
      ("honest_hours", Json.ofNat config.coolingOff.honestHours),
      ("malicious_hours", Json.ofNat config.coolingOff.maliciousHours)]),
    ("probation", .object [
      ("days", Json.ofNat config.probation.days),
      ("min_verifications", Json.ofNat config.probation.minVerifications),
      ("floor", Scalar.toJson config.probation.floor)]),
    ("decay", .object [
      ("baseline", Scalar.toJson config.decay.baseline),
      ("rate_per_30_days", Scalar.toJson config.decay.ratePerThirtyDays)]),
    ("propagation", .object [
      ("damping_factor", Scalar.toJson config.propagation.dampingFactor),
      ("hop_limit", Json.ofNat config.propagation.hopLimit)]),
    ("max_history", Json.ofNat config.maxHistory)]

end TrustConfig

open Document

def StageBoundaries.ofDocument? (document : Document) : Option (StageBoundaries Float) := do
  let fields ← document.toRecord? ["knowledge_based", "identification_based"]
  pure ⟨← required fields "knowledge_based" toFloat?,
    ← required fields "identification_based" toFloat?⟩

def Retention.ofDocument? (document : Document) : Option (Retention Float) := do
  let fields ← document.toRecord? ["low_risk", "high_risk"]
  pure ⟨← required fields "low_risk" toFloat?, ← required fields "high_risk" toFloat?⟩

def PerStage.ofDocument? (document : Document) : Option (PerStage Float) := do
  let fields ← document.toRecord? ["calculus_based", "knowledge_based", "identification_based"]
  pure ⟨← required fields "calculus_based" toFloat?, ← required fields "knowledge_based" toFloat?,
    ← required fields "identification_based" toFloat?⟩

def CoolingOffPolicy.ofDocument? (document : Document) : Option CoolingOffPolicy := do
  let fields ← document.toRecord? ["honest_hours", "malicious_hours"]
  pure ⟨← required fields "honest_hours" toNat?, ← required fields "malicious_hours" toNat?⟩

def ProbationPolicy.ofDocument? (document : Document) : Option (ProbationPolicy Float) := do
  let fields ← document.toRecord? ["days", "min_verifications", "floor"]
  pure ⟨← required fields "days" toNat?, ← required fields "min_verifications" toNat?,
    ← required fields "floor" toFloat?⟩

def DecayPolicy.ofDocument? (document : Document) : Option (DecayPolicy Float) := do
  let fields ← document.toRecord? ["baseline", "rate_per_30_days"]
  pure ⟨← required fields "baseline" toFloat?, ← required fields "rate_per_30_days" toFloat?⟩

def PropagationPolicy.ofDocument? (document : Document) : Option (PropagationPolicy Float) := do
  let fields ← document.toRecord? ["damping_factor", "hop_limit"]
  pure ⟨← required fields "damping_factor" toFloat?, ← required fields "hop_limit" toNat?⟩

namespace PenaltyPolicy

/-- Magnitudes by the name of the penalty; of two for one penalty the later one counts. -/
def magnitudesOfDocument? (document : Document) : Option (PenaltyType → Option Float) :=
  match document.untagged with
  | .map fields => do
      let entries ← fields.mapM fun (name, value) => do
        let kind ← (Named.ofName? name : Option PenaltyType)
        let magnitude ← value.toFloat?
        pure (kind, magnitude)
      pure fun kind => (entries.reverse.find? fun entry => entry.1 == kind).map Prod.snd
  | .plain "" => some fun _ => none
  | _ => none

def ofDocument? (document : Document) : Option (PenaltyPolicy Float) := do
  let fields ← document.toRecord? ["loss_aversion", "malicious_factor", "daily_cap",
    "stage_multipliers", "base_magnitudes"]
  let policy : PenaltyPolicy Float := default
  pure {
    lossAversion := ← withDefault fields "loss_aversion" toFloat? policy.lossAversion
    maliciousFactor := ← withDefault fields "malicious_factor" toFloat? policy.maliciousFactor
    dailyCap := ← withDefault fields "daily_cap" toFloat? policy.dailyCap
    stageMultipliers :=
      ← withDefault fields "stage_multipliers" PerStage.ofDocument? policy.stageMultipliers
    baseMagnitudes :=
      ← withDefault fields "base_magnitudes" magnitudesOfDocument? policy.baseMagnitudes }

end PenaltyPolicy

namespace TrustConfig

def ofDocument? (document : Document) : Option (TrustConfig Float) := do
  let fields ← document.toRecord? ["initial_score", "stages", "lambda", "penalties",
    "cooling_off", "probation", "decay", "propagation", "max_history"]
  let config : TrustConfig Float := default
  pure {
    initialScore := ← withDefault fields "initial_score" toFloat? config.initialScore
    stages := ← withDefault fields "stages" StageBoundaries.ofDocument? config.stages
    retention := ← withDefault fields "lambda" Retention.ofDocument? config.retention
    penalties := ← withDefault fields "penalties" PenaltyPolicy.ofDocument? config.penalties
    coolingOff := ← withDefault fields "cooling_off" CoolingOffPolicy.ofDocument? config.coolingOff
    probation := ← withDefault fields "probation" ProbationPolicy.ofDocument? config.probation
    decay := ← withDefault fields "decay" DecayPolicy.ofDocument? config.decay
    propagation :=
      ← withDefault fields "propagation" PropagationPolicy.ofDocument? config.propagation
    maxHistory := ← withDefault fields "max_history" toNat? config.maxHistory }

end TrustConfig

end ReviewGate
