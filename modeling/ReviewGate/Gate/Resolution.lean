import ReviewGate.Gate.Review

/-!
# Resolutions

A resolution claims its request, writes the decision, the final verdict and the outcome for the
author as one batch, and then stores the request.  Where anything fails the claim is given up and
the request stays pending.
-/

namespace ReviewGate

/-- A resolution on its way into the ledger. -/
structure Settlement where
  resolved : ApprovalRequest
  verdict : Verdict
  trail : Trail

inductive Resolution where
  | submitted (ruling : Ruling)
  /-- Has claimed the request and waits for the record of the author. -/
  | committing (settlement : Settlement) (commit : Commit Float)
  /-- Holds the record. -/
  | writing (settlement : Settlement) (prepared : PreparedCommit Float)
  | settling (settlement : Settlement) (prepared : PreparedCommit Float) (hashes : List String)
  | storing (settlement : Settlement) (score : Float)
  | finished (result : Except GateError ReviewOutcome)

variable {K : Type}

namespace ApprovalRequest

/-- The status of the verdict on a resolved request. -/
def verdictStatus (request : ApprovalRequest) : VerdictStatus :=
  if request.status = .approved then .pass else .fail

def decisionWord (request : ApprovalRequest) : String :=
  if request.status = .approved then "Approved" else "Rejected"

/-- The verdict on a resolved request. -/
def finalVerdict (request : ApprovalRequest) (id : String) (now : Instant) : Verdict where
  id
  unitId := request.unitId
  identity := request.requester
  status := request.verdictStatus
  tier := .approvalGate
  rationale := request.decisionWord ++ " by " ++ request.resolver.getD "" ++ ": " ++
    request.resolution.getD ""
  violations := request.violations
  warnings := request.warnings
  libraryVersion := none
  timestamp := now

def resolutionEvent (request : ApprovalRequest) (now : Instant) : LedgerRecord where
  identity := request.requester
  eventType := .approvalResolved
  payload := Json.ofFields [("request_id", .string request.id),
    ("resolver", .string (request.resolver.getD "")), ("status", Named.toJson request.status),
    ("rationale", .string (request.resolution.getD "")),
    ("held_verdict", .string request.verdictId)]
  timestamp := now

end ApprovalRequest

namespace Gate

/-- What a resolution commits. -/
def resolutionCommit (gate : Gate K) (now : Instant) (settlement : Settlement) :
    Commit Float where
  identity := settlement.resolved.requester
  events := [settlement.resolved.resolutionEvent now,
    ⟨settlement.verdict.identity, .verdictEmitted, settlement.verdict.toJson,
      settlement.verdict.timestamp⟩]
  coolingOff := none
  update := some (if settlement.verdict.isPass then gate.config.pipeline.approvalCredit else 0.0,
    .highRisk)
  reference := some settlement.verdict.id

/-- A resolution that fails after it has claimed its request. -/
def giveUp (gate : Gate K) (requestId : String) (cause : GateError) : Resolution × Gate K :=
  (.finished (.error cause), { gate with approvals := gate.approvals.unclaim requestId })

/-- The way from the claim to the commit. -/
def finalize (gate : Gate K) (now : Instant) (resolved : ApprovalRequest) :
    Resolution × Gate K :=
  match (Trail.resume resolved.trail).advance resolved.verdictStatus.state with
  | .error cause => gate.giveUp resolved.id cause
  | .ok trail =>
      let (id, gate) := gate.freshId
      let settlement : Settlement := ⟨resolved, resolved.finalVerdict ("verdict-" ++ id) now, trail⟩
      let commit := gate.resolutionCommit now settlement
      match gate.engine.admitCommit commit with
      | .error cause => gate.giveUp resolved.id (.trust cause)
      | .ok () => (.committing settlement commit, gate)

end Gate

namespace Settlement

def outcome (settlement : Settlement) (score : Float) : ReviewOutcome where
  unitId := settlement.resolved.unitId
  identity := settlement.resolved.requester
  state := settlement.trail.current
  trail := settlement.trail.states
  verdict := settlement.verdict
  approval := some settlement.resolved
  critical := settlement.resolved.critical
  risk := none
  deepStatus := none
  trustScore := some score
  learned := []

end Settlement

namespace Resolution

/-- The next step, unless the resolution is finished or waits. -/
def step? (now : Instant) (gate : Gate K) : Resolution → Option (Resolution × Gate K)
  | .submitted ruling =>
      match gate.approvals.claim now ruling with
      | .error cause => some (.finished (.error cause), gate)
      | .ok (resolved, approvals) => some ({ gate with approvals }.finalize now resolved)
  | .committing settlement commit =>
      if gate.engine.isHeld commit.identity then none
      else
        match gate.engine.prepare now commit with
        | .error cause => some (gate.giveUp settlement.resolved.id (.trust cause))
        | .ok prepared =>
            some (.writing settlement prepared,
              { gate with engine := gate.engine.hold commit.identity })
  | .writing settlement prepared =>
      match gate.engine.write prepared.records with
      | .error cause =>
          some ({ gate with engine := gate.engine.release prepared.identity }.giveUp
            settlement.resolved.id (.trust (.ledger cause)))
      | .ok (hashes, engine) => some (.settling settlement prepared hashes, { gate with engine })
  | .settling settlement prepared hashes =>
      match gate.engine.settle prepared hashes with
      | .error cause =>
          some ({ gate with engine := gate.engine.release prepared.identity }.giveUp
            settlement.resolved.id (.trust cause))
      | .ok (receipt, engine) =>
          some (.storing settlement receipt.score,
            { gate with engine := engine.release prepared.identity })
  | .storing settlement score =>
      some (.finished (.ok (settlement.outcome score)),
        { gate with approvals := gate.approvals.settle settlement.resolved })
  | .finished _ => none

def stagesLeft : Resolution → Nat
  | .submitted .. => 5
  | .committing .. => 4
  | .writing .. => 3
  | .settling .. => 2
  | .storing .. => 1
  | .finished .. => 0

theorem stagesLeft_finalize_le (gate : Gate K) (now : Instant) (resolved : ApprovalRequest) :
    (gate.finalize now resolved).1.stagesLeft ≤ 4 := by
  unfold Gate.finalize
  split
  · exact Nat.zero_le 4
  · dsimp only
    split
    · exact Nat.zero_le 4
    · exact Nat.le_refl 4

theorem stagesLeft_lt_of_step? {now : Instant} {gate later : Gate K}
    {resolution next : Resolution} (stepped : step? now gate resolution = some (next, later)) :
    next.stagesLeft < resolution.stagesLeft := by
  have finalized := stagesLeft_finalize_le (K := K)
  cases resolution <;> simp only [step?] at stepped <;> grind [stagesLeft, Gate.giveUp]

/-- Goes on until the resolution is finished or has to wait. -/
def run (now : Instant) (gate : Gate K) (resolution : Resolution) : Resolution × Gate K :=
  match _stepped : step? now gate resolution with
  | none => (resolution, gate)
  | some (next, gate) => run now gate next
termination_by resolution.stagesLeft
decreasing_by exact stagesLeft_lt_of_step? _stepped

/-- The result of a resolution, once there is one. -/
def result? : Resolution → Option (Except GateError ReviewOutcome)
  | .finished result => some result
  | _ => none

end Resolution

/-- Resolves a request without a pause. -/
def Gate.resolve (gate : Gate K) (now : Instant) (ruling : Ruling) : Resolution × Gate K :=
  Resolution.run now gate (.submitted ruling)

end ReviewGate
