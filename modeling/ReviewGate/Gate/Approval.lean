import ReviewGate.Data.Table
import ReviewGate.Gate.Error
import ReviewGate.Gate.Verdict
import ReviewGate.Text.Blank

/-!
# Approval of held units

A request is pending until somebody other than its author resolves it.  A resolver claims the
request, finalizes the resolution elsewhere, and then stores it; while it is claimed nobody else can
resolve it, and if finalizing fails or is given up the request stays pending.
-/

namespace ReviewGate

inductive ApprovalStatus where
  | pending
  | approved
  | rejected
  deriving DecidableEq, Repr, Inhabited

instance : Named ApprovalStatus where
  all := [.pending, .approved, .rejected]
  name
    | .pending => "pending"
    | .approved => "approved"
    | .rejected => "rejected"

inductive Decision where
  | approve
  | reject
  deriving DecidableEq, Repr, Inhabited

namespace Decision

instance : Named Decision where
  all := [.approve, .reject]
  name
    | .approve => "approve"
    | .reject => "reject"

def status : Decision → ApprovalStatus
  | .approve => .approved
  | .reject => .rejected

end Decision

/-- What a resolver says about a request. -/
structure Ruling where
  requestId : String
  resolver : String
  decision : Decision
  rationale : String
  deriving DecidableEq, Repr

structure ApprovalRequest where
  id : String
  /-- The verdict that holds the unit. -/
  verdictId : String
  unitId : String
  /-- The author of the unit. -/
  requester : String
  critical : Bool
  rationale : String
  violations : List Violation
  warnings : List String
  /-- The states the unit had passed through. -/
  trail : List ReviewState
  status : ApprovalStatus
  resolver : Option String
  resolution : Option String
  createdAt : Instant
  resolvedAt : Option Instant
  deriving DecidableEq, Repr

namespace ApprovalRequest

/-- A pending request for a held unit. -/
def ofVerdict (id : String) (now : Instant) (verdict : Verdict) (critical : Bool)
    (trail : List ReviewState) : ApprovalRequest where
  id
  verdictId := verdict.id
  unitId := verdict.unitId
  requester := verdict.identity
  critical
  rationale := verdict.rationale
  violations := verdict.violations
  warnings := verdict.warnings
  trail
  status := .pending
  resolver := none
  resolution := none
  createdAt := now
  resolvedAt := none

def isPending (request : ApprovalRequest) : Bool := decide (request.status = .pending)

/-- The request as somebody resolves it. -/
def resolve (request : ApprovalRequest) (now : Instant) (ruling : Ruling) : ApprovalRequest :=
  { request with
    status := ruling.decision.status
    resolver := some ruling.resolver
    resolution := some ruling.rationale
    resolvedAt := some now }

/-- Older requests first, and of one instant by the unit. -/
def comesBefore (first second : ApprovalRequest) : Bool :=
  decide (first.createdAt < second.createdAt) ||
    (decide (first.createdAt = second.createdAt) && decide (first.unitId ≤ second.unitId))

end ApprovalRequest

structure ApprovalGate where
  requests : Table ApprovalRequest
  /-- The requests that are being resolved. -/
  claims : List String

namespace ApprovalGate

def empty : ApprovalGate := ⟨[], []⟩

def get? (gate : ApprovalGate) (requestId : String) : Option ApprovalRequest :=
  gate.requests.get? requestId

def insert (gate : ApprovalGate) (request : ApprovalRequest) : ApprovalGate :=
  { gate with requests := gate.requests.insert request.id request }

def pending (gate : ApprovalGate) : List ApprovalRequest :=
  (gate.requests.values.filter (·.isPending)).mergeSort ApprovalRequest.comesBefore

/-- The pending request that a resolver may claim. -/
def claimable (gate : ApprovalGate) (ruling : Ruling) : Except GateError ApprovalRequest :=
  if Text.isBlankText ruling.resolver then .error (.malformed .noResolver)
  else
    match gate.get? ruling.requestId with
    | none => .error (.notFound (.request ruling.requestId))
    | some request =>
        if !request.isPending then
          .error (.conflict (.alreadyResolved ruling.requestId
            (request.resolver.getD "unknown")))
        else if request.requester = ruling.resolver then
          .error (.conflict (.ownChange ruling.resolver))
        else if gate.claims.contains ruling.requestId then
          .error (.conflict (.claimed ruling.requestId))
        else .ok request

/-- Claims a request and tells how it will be when it is resolved. -/
def claim (gate : ApprovalGate) (now : Instant) (ruling : Ruling) :
    Except GateError (ApprovalRequest × ApprovalGate) := do
  let request ← gate.claimable ruling
  return (request.resolve now ruling, { gate with claims := ruling.requestId :: gate.claims })

/-- Gives a claim up. -/
def unclaim (gate : ApprovalGate) (requestId : String) : ApprovalGate :=
  { gate with claims := gate.claims.erase requestId }

/-- Stores a finalized resolution and gives its claim up. -/
def settle (gate : ApprovalGate) (resolved : ApprovalRequest) : ApprovalGate :=
  (gate.insert resolved).unclaim resolved.id

/-- Resolves a request where nothing has to be finalized. -/
def resolve (gate : ApprovalGate) (now : Instant) (ruling : Ruling) :
    Except GateError (ApprovalRequest × ApprovalGate) := do
  let (resolved, gate) ← gate.claim now ruling
  return (resolved, gate.settle resolved)

end ApprovalGate

/-! ## Records -/

def Ruling.ofDocument? (document : Document) : Option Ruling := do
  let fields ← document.toRecord? ["request", "resolver", "decision", "rationale"]
  pure {
    requestId := ← Document.required fields "request" Document.toText?
    resolver := ← Document.required fields "resolver" Document.toText?
    decision := ← Document.required fields "decision" Document.toNamed?
    rationale := ← Document.required fields "rationale" Document.toText? }

namespace ApprovalRequest

def toJson (request : ApprovalRequest) : Json :=
  Json.ofFields [("id", .string request.id), ("verdict_id", .string request.verdictId),
    ("unit_id", .string request.unitId), ("requester", .string request.requester),
    ("critical", .bool request.critical), ("rationale", .string request.rationale),
    ("violations", Json.ofList Violation.toJson request.violations),
    ("warnings", Json.ofStrings request.warnings),
    ("trail", Json.ofList Named.toJson request.trail), ("status", Named.toJson request.status),
    ("resolver", Json.ofOption .string request.resolver),
    ("resolution", Json.ofOption .string request.resolution),
    ("created_at", request.createdAt.toJson),
    ("resolved_at", Json.ofOption Instant.toJson request.resolvedAt)]

end ApprovalRequest

end ReviewGate
