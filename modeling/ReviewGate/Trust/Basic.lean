import ReviewGate.Data.Cause
import ReviewGate.Data.Named
import ReviewGate.Number.Decimal

/-!
# Trust vocabulary

Roles, stages, kinds of penalties, and the causes for which an operation on trust is refused.
-/

namespace ReviewGate

inductive Role where
  | sentinel
  | judge
  | overseer
  | scrivener
  deriving DecidableEq, Repr, Inhabited

instance : Named Role where
  all := [.sentinel, .judge, .overseer, .scrivener]
  name
    | .sentinel => "sentinel"
    | .judge => "judge"
    | .overseer => "overseer"
    | .scrivener => "scrivener"

/-- How far an agent is trusted; it follows from the score. -/
inductive Stage where
  | calculusBased
  | knowledgeBased
  | identificationBased
  deriving DecidableEq, Repr, Inhabited

namespace Stage

instance : Named Stage where
  all := [.calculusBased, .knowledgeBased, .identificationBased]
  name
    | .calculusBased => "calculus_based"
    | .knowledgeBased => "knowledge_based"
    | .identificationBased => "identification_based"

/-- Place in the order from least to most trusted. -/
def rank : Stage → Nat
  | .calculusBased => 0
  | .knowledgeBased => 1
  | .identificationBased => 2

end Stage

/-- The risk of the work an outcome is about. -/
inductive RiskContext where
  | lowRisk
  | highRisk
  deriving DecidableEq, Repr, Inhabited

instance : Named RiskContext where
  all := [.lowRisk, .highRisk]
  name
    | .lowRisk => "low_risk"
    | .highRisk => "high_risk"

inductive PenaltyType where
  | heuristicFinding
  | contractViolation
  | verificationFailure
  | approvalRejected
  | secretExposure
  | scopeViolation
  deriving DecidableEq, Repr, Inhabited

instance : Named PenaltyType where
  all := [.heuristicFinding, .contractViolation, .verificationFailure, .approvalRejected,
    .secretExposure, .scopeViolation]
  name
    | .heuristicFinding => "heuristic_finding"
    | .contractViolation => "contract_violation"
    | .verificationFailure => "verification_failure"
    | .approvalRejected => "approval_rejected"
    | .secretExposure => "secret_exposure"
    | .scopeViolation => "scope_violation"

/-- Whether a violation looks like a mistake or deliberate. -/
inductive Honesty where
  | honest
  | malicious
  deriving DecidableEq, Repr, Inhabited

instance : Named Honesty where
  all := [.honest, .malicious]
  name
    | .honest => "honest"
    | .malicious => "malicious"

/-- How much of a penalty reached the score. -/
inductive Disposition where
  | applied
  /-- Cut short by the daily cap. -/
  | truncated
  /-- Nothing was left under the cap. -/
  | deferred
  deriving DecidableEq, Repr, Inhabited

instance : Named Disposition where
  all := [.applied, .truncated, .deferred]
  name
    | .applied => "applied"
    | .truncated => "truncated"
    | .deferred => "deferred"

inductive UpdateKind where
  | ewma
  | microPenalty
  | penaltyDeferred
  | temporalDecay
  deriving DecidableEq, Repr, Inhabited

instance : Named UpdateKind where
  all := [.ewma, .microPenalty, .penaltyDeferred, .temporalDecay]
  name
    | .ewma => "ewma"
    | .microPenalty => "micro_penalty"
    | .penaltyDeferred => "penalty_deferred"
    | .temporalDecay => "temporal_decay"

inductive LedgerError where
  | unavailable (reason : String)
  /-- An entry does not follow from the one before it. -/
  | chainBroken (sequence : Nat)
  deriving DecidableEq, Repr

namespace LedgerError

def code : LedgerError → String
  | .unavailable _ => "Unavailable"
  | .chainBroken _ => "ChainBroken"

def message : LedgerError → String
  | .unavailable reason => "Ledger unavailable: " ++ reason
  | .chainBroken sequence => "Hash chain broken at entry " ++ toString sequence

instance : Cause LedgerError := ⟨code, message⟩

end LedgerError

inductive KeyError where
  | unavailable (reason : String)
  | alreadyIssued (identity : String)
  | noneToRotate (identity : String)
  | notCurrent (fingerprint identity : String)
  deriving DecidableEq, Repr

namespace KeyError

def code : KeyError → String
  | .unavailable _ => "Unavailable"
  | _ => "Rejected"

def message : KeyError → String
  | .unavailable reason => "Identity provider unavailable: " ++ reason
  | .alreadyIssued identity => "Identity request rejected: " ++ identity ++ " already holds a key"
  | .noneToRotate identity => "Identity request rejected: " ++ identity ++ " has no key to rotate"
  | .notCurrent fingerprint identity =>
      "Identity request rejected: " ++ fingerprint ++ " is not the current key of " ++ identity

instance : Cause KeyError := ⟨code, message⟩

end KeyError

/-- What is wrong with a value that was handed in. -/
inductive Invalid where
  | outsideUnit (name : String) (value : Float)
  | stageBoundaries (knowledge identification : Float)
  | retention (name : String) (value : Float)
  | lossAversion (value : Float)
  | maliciousFactor (value : Float)
  | dailyCap
  | stageMultipliers
  | baseMagnitude (kind : PenaltyType) (value : Float)
  | dailySum (value : Float)
  | hopLimit (name : String) (most value : Nat)
  | blankIdentity
  | emptyEndpoint

namespace Invalid

def message : Invalid → String
  | .outsideUnit name value => name ++ " must lie in [0, 1], got " ++ Layout.message.write value
  | .stageBoundaries knowledge identification =>
      "stage boundaries must satisfy 0 < " ++ Layout.message.write knowledge ++ " < " ++
        Layout.message.write identification ++ " <= 1"
  | .retention name value => name ++ " must lie in (0, 1), got " ++ Layout.message.write value
  | .lossAversion value => "loss_aversion must exceed 1.0, got " ++ Layout.message.write value
  | .maliciousFactor value =>
      "malicious_factor must be at least 1.0, got " ++ Layout.message.write value
  | .dailyCap => "daily_cap must be positive"
  | .stageMultipliers => "stage multipliers must be positive"
  | .baseMagnitude kind value =>
      "base magnitude for " ++ Named.name kind ++ " must lie in (0, 1], got " ++
        Layout.message.write value
  | .dailySum value =>
      "daily penalty sum must be a non-negative number, got " ++ Layout.message.write value
  | .hopLimit name most value =>
      name ++ " must be at most " ++ toString most ++ ", got " ++ toString value
  | .blankIdentity => "identity must be non-empty"
  | .emptyEndpoint => "trust edge endpoints must be non-empty"

end Invalid

inductive TrustError where
  | invalid (cause : Invalid)
  | unknownIdentity (identity : String)
  | duplicateIdentity (identity : String)
  | ledger (cause : LedgerError)
  | keys (cause : KeyError)
  /-- A window would end where the calendar does not reach. -/
  | beyondCalendar

namespace TrustError

def code : TrustError → String
  | .invalid _ => "Validation"
  | .unknownIdentity _ => "UnknownIdentity"
  | .duplicateIdentity _ => "DuplicateIdentity"
  | .ledger cause => "Ledger." ++ cause.code
  | .keys cause => "Identity." ++ cause.code
  | .beyondCalendar => "BeyondCalendar"

def message : TrustError → String
  | .invalid cause => "Validation error: " ++ cause.message
  | .unknownIdentity identity => "Unknown identity: " ++ identity
  | .duplicateIdentity identity => "Identity already registered: " ++ identity
  | .ledger cause => "Ledger error: " ++ cause.message
  | .keys cause => "Identity provider error: " ++ cause.message
  | .beyondCalendar => "Window ends beyond the calendar"

instance : Cause TrustError := ⟨code, message⟩

end TrustError

end ReviewGate
