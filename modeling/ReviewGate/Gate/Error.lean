import ReviewGate.Data.Cause
import ReviewGate.Gate.State
import ReviewGate.Pattern.Library
import ReviewGate.Trust.Basic
import ReviewGate.Verifier

/-!
# Errors of the gate
-/

namespace ReviewGate

/-- The tiers that ask a service and have a time bound. -/
inductive BoundedTier where
  | contractCheck
  | deepVerification
  deriving DecidableEq, Repr

def BoundedTier.title : BoundedTier → String
  | .contractCheck => "Contract check"
  | .deepVerification => "Deep verification"

/-- What is wrong with a request. -/
inductive Malformed where
  | noUnitId
  | noAuthor (unitId : String)
  | noResolver
  /-- Found by whoever finalizes a resolution. -/
  | finding (reason : String)
  deriving DecidableEq, Repr

def Malformed.message : Malformed → String
  | .noUnitId => "unit id must not be empty"
  | .noAuthor unitId => "unit " ++ unitId ++ " has no author"
  | .noResolver => "resolver must not be empty"
  | .finding reason => reason

/-- Why a resolution is not possible now. -/
inductive Conflict where
  | alreadyResolved (requestId resolver : String)
  | ownChange (resolver : String)
  /-- Somebody else is resolving it. -/
  | claimed (requestId : String)
  deriving DecidableEq, Repr

def Conflict.message : Conflict → String
  | .alreadyResolved requestId resolver =>
      "approval request " ++ requestId ++ " already resolved by " ++ resolver
  | .ownChange resolver => resolver ++ " cannot approve their own change"
  | .claimed requestId => "approval request " ++ requestId ++ " is already being resolved"

inductive Missing where
  | request (requestId : String)
  | rule (ruleId : String)
  deriving DecidableEq, Repr

def Missing.message : Missing → String
  | .request requestId => "approval request " ++ requestId
  | .rule ruleId => "rule " ++ ruleId

/-- What the gate cannot run with. -/
inductive Misconfigured where
  | trust (cause : TrustError)
  | outsideUnit (name : String) (value : Float)
  | zeroTimeout
  | zeroCapacity
  | unknownMode (text : String)

def Misconfigured.message : Misconfigured → String
  | .trust cause => cause.message
  | .outsideUnit name value => name ++ " must lie in [0, 1], got " ++ Layout.message.write value
  | .zeroTimeout => "tier timeouts must be non-zero"
  | .zeroCapacity => "max_concurrent_reviews must be at least 1"
  | .unknownMode text => "unknown mode: " ++ text

inductive GateError where
  | malformed (cause : Malformed)
  | service (cause : ServiceError)
  | timeout (tier : BoundedTier) (millis : Nat)
  | conflict (cause : Conflict)
  | notFound (missing : Missing)
  | invalidTransition (source target : ReviewState)
  | trust (cause : TrustError)
  | library (cause : LibraryError)
  | ledger (cause : LedgerError)
  | configuration (cause : Misconfigured)
  /-- More reviews at once than can be counted. -/
  | capacity

namespace GateError

def code : GateError → String
  | .malformed _ => "Validation"
  | .service cause => "ExternalService." ++ cause.code
  | .timeout .. => "Timeout"
  | .conflict _ => "Conflict"
  | .notFound _ => "NotFound"
  | .invalidTransition .. => "InvalidTransition"
  | .trust cause => "Trust." ++ cause.code
  | .library cause => "Library." ++ cause.code
  | .ledger cause => "Ledger." ++ cause.code
  | .configuration _ => "Config"
  | .capacity => "Capacity"

def message : GateError → String
  | .malformed cause => "Validation error: " ++ cause.message
  | .service cause => "External service error: " ++ cause.message
  | .timeout tier millis => tier.title ++ " timed out after " ++ toString millis ++ " ms"
  | .conflict cause => "Conflict: " ++ cause.message
  | .notFound missing => "Not found: " ++ missing.message
  | .invalidTransition source target =>
      "Invalid transition: " ++ Named.name source ++ " -> " ++ Named.name target
  | .trust cause => cause.message
  | .library cause => cause.message
  | .ledger cause => cause.message
  | .configuration cause => "Configuration error: " ++ cause.message
  | .capacity => "Too many concurrent reviews"

instance : Cause GateError := ⟨code, message⟩

end GateError

/-- Adds a state to a trail, or tells why it may not follow. -/
def Trail.advance (trail : Trail) (next : ReviewState) : Except GateError Trail :=
  match trail.advance? next with
  | some trail => .ok trail
  | none => .error (.invalidTransition trail.current next)

end ReviewGate
