import ReviewGate.Gate.State
import ReviewGate.Pattern.Finding
import ReviewGate.Time.Record

/-!
# Verdicts
-/

namespace ReviewGate

inductive VerdictStatus where
  | pass
  | fail
  /-- Held for a human. -/
  | held
  deriving DecidableEq, Repr, Inhabited

instance : Named VerdictStatus where
  all := [.pass, .fail, .held]
  name
    | .pass => "pass"
    | .fail => "fail"
    | .held => "l3_required"

/-- What decided a verdict. -/
inductive Tier where
  | scan
  | contracts
  | deep
  | approvalGate
  /-- Verification is disabled. -/
  | bypass
  deriving DecidableEq, Repr, Inhabited

instance : Named Tier where
  all := [.scan, .contracts, .deep, .approvalGate, .bypass]
  name
    | .scan => "tier1"
    | .contracts => "tier2"
    | .deep => "tier3"
    | .approvalGate => "approval_gate"
    | .bypass => "bypass"

/-- The decision on one unit. -/
structure Verdict where
  id : String
  unitId : String
  /-- The author. -/
  identity : String
  status : VerdictStatus
  tier : Tier
  rationale : String
  violations : List Violation
  warnings : List String
  /-- The version of the library the unit was scanned with. -/
  libraryVersion : Option Nat
  timestamp : Instant
  deriving DecidableEq, Repr

namespace Verdict

def isPass (verdict : Verdict) : Bool := decide (verdict.status = .pass)

def toJson (verdict : Verdict) : Json :=
  Json.ofFields [("id", .string verdict.id), ("unit_id", .string verdict.unitId),
    ("identity", .string verdict.identity), ("status", Named.toJson verdict.status),
    ("tier", Named.toJson verdict.tier), ("rationale", .string verdict.rationale),
    ("violations", Json.ofList Violation.toJson verdict.violations),
    ("warnings", Json.ofStrings verdict.warnings),
    ("library_version", Json.ofOption Json.ofNat verdict.libraryVersion),
    ("timestamp", verdict.timestamp.toJson)]

def ofDocument? (document : Document) : Option Verdict := do
  let fields ← document.toRecord? ["id", "unit_id", "identity", "status", "tier", "rationale",
    "violations", "warnings", "library_version", "timestamp"]
  pure {
    id := ← Document.required fields "id" Document.toText?
    unitId := ← Document.required fields "unit_id" Document.toText?
    identity := ← Document.required fields "identity" Document.toText?
    status := ← Document.required fields "status" Document.toNamed?
    tier := ← Document.required fields "tier" Document.toNamed?
    rationale := ← Document.required fields "rationale" Document.toText?
    violations :=
      ← Document.required fields "violations" (Document.toList? Violation.ofDocument?)
    warnings := ← Document.required fields "warnings" (Document.toList? Document.toText?)
    libraryVersion := ← Document.optional fields "library_version" Document.toNat?
    timestamp := ← Document.required fields "timestamp" Instant.ofDocument? }

end Verdict

end ReviewGate
