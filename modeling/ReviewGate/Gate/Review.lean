import ReviewGate.Gate.Basic
import ReviewGate.Gate.Dossier

/-!
# Reviews

A review is a machine: each of its steps runs without interruption, and between two steps other work
may go on.  It waits for a permit, for the answer of a service, and for the record of its author.
The verdict, the rules learned and the change of trust are written as one batch; the rules are
published only after that.
-/

namespace ReviewGate

structure ReviewOutcome where
  unitId : String
  identity : String
  /-- Accepted, rejected or held. -/
  state : ReviewState
  trail : List ReviewState
  verdict : Verdict
  approval : Option ApprovalRequest
  critical : Bool
  /-- The risk found by the scan; resolutions have none. -/
  risk : Option Float
  deepStatus : Option DeepStatus
  /-- The score of the author, if it was changed. -/
  trustScore : Option Float
  learned : List Learned

namespace ReviewOutcome

def toJson (outcome : ReviewOutcome) : Json :=
  Json.ofFields [("unit_id", .string outcome.unitId), ("identity", .string outcome.identity),
    ("state", Named.toJson outcome.state), ("trail", Json.ofList Named.toJson outcome.trail),
    ("verdict", outcome.verdict.toJson),
    ("approval", Json.ofOption ApprovalRequest.toJson outcome.approval),
    ("critical", .bool outcome.critical), ("risk", Json.ofOption Json.ofNumber outcome.risk),
    ("tier3_status", Json.ofOption Named.toJson outcome.deepStatus),
    ("trust_score", Json.ofOption Json.ofNumber outcome.trustScore),
    ("synthesis", Json.ofList Learned.toJson outcome.learned)]

end ReviewOutcome

/-- A verdict on its way into the ledger, with the request that a held unit gets. -/
structure Emission where
  dossier : Dossier
  verdict : Verdict
  request : Option ApprovalRequest

/-- How far a review has come. -/
inductive Review where
  | submitted (unit : CodeUnit)
  | staged (unit : CodeUnit) (stage : Stage)
  /-- Waits for the permit of its ticket. -/
  | queued (unit : CodeUnit) (stage : Stage) (coolingOff : Bool) (ticket : Nat)
  | admitted (unit : CodeUnit) (stage : Stage) (coolingOff : Bool)
  /-- Waits until the checker has answered or its time is over. -/
  | checking (dossier : Dossier) (due : Nat)
      (answer : Option (Except ServiceError ContractReport))
  /-- Waits until the deep verifier has answered or its time is over. -/
  | deepening (dossier : Dossier) (due : Nat)
      (answer : Option (Except ServiceError DeepReport))
  /-- Some violations are still to be learned from. -/
  | learning (dossier : Dossier) (verdict : Verdict) (left : List Violation)
  /-- Waits for the record of the author. -/
  | committing (emission : Emission) (commit : Commit Float)
  /-- Holds the record. -/
  | writing (emission : Emission) (prepared : PreparedCommit Float)
  | settling (emission : Emission) (prepared : PreparedCommit Float) (hashes : List String)
  | filing (emission : Emission) (score : Float)
  /-- Some rules are still to be published. -/
  | publishing (emission : Emission) (score : Float) (left : List Proposal)
  | finished (result : Except GateError ReviewOutcome)

variable {K : Type}

namespace Gate

/-- A verdict under a fresh id; the warnings so far go with it. -/
def verdictOn (gate : Gate K) (now : Instant) (dossier : Dossier) (opinion : Opinion) :
    Verdict × Gate K :=
  let (id, gate) := gate.freshId
  ({ id := "verdict-" ++ id
     unitId := dossier.unit.id
     identity := dossier.unit.author
     status := opinion.status
     tier := opinion.tier
     rationale := opinion.rationale
     violations := opinion.violations
     warnings := dossier.warnings
     libraryVersion := some dossier.libraryVersion
     timestamp := now }, gate)

/-- A review that has come to an opinion. -/
def opine (gate : Gate K) (now : Instant) (dossier : Dossier) (opinion : Opinion)
    (toLearn : List Violation) : Review × Gate K :=
  let (verdict, gate) := gate.verdictOn now dossier opinion
  (.learning dossier verdict toLearn, gate)

/-- A review that fails and gives its permit back. -/
def refuse (gate : Gate K) (cause : GateError) : Review × Gate K :=
  (.finished (.error cause), { gate with permits := gate.permits.giveBack })

/-- The end of the deep tier. -/
def concludeDeep (gate : Gate K) (now : Instant) (dossier : Dossier)
    (result : Dossier.DeepResult) : Review × Gate K :=
  let (dossier, opinion, toLearn) := dossier.afterDeep result
  gate.opine now dossier opinion toLearn

/-- The deep verifier is asked, unless the mode or its absence forbids it. -/
def askVerifier (gate : Gate K) (now : Instant) (dossier : Dossier) : Review × Gate K :=
  if gate.config.mode = .lite then
    gate.concludeDeep now dossier (.unavailable "Deep verification skipped in lite mode")
  else
    match gate.verifier with
    | none => gate.concludeDeep now dossier (.unavailable "No deep verifier configured")
    | some verifier =>
        let bound := gate.config.pipeline.deepTimeout
        let reply := verifier dossier.unit.source bound
        (.deepening dossier (gate.timer + reply.settledAfter bound) (reply.within bound),
          { gate with verifierCalls := gate.verifierCalls + 1 })

/-- The end of the contract tier: an opinion, or the deep tier. -/
def leaveContracts (gate : Gate K) (now : Instant) (dossier : Dossier)
    (opinion : Option Opinion) : Review × Gate K :=
  match opinion with
  | some opinion => gate.opine now dossier opinion []
  | none =>
      if dossier.isElevated gate.config then
        match dossier.pass .tier3 with
        | .ok dossier => gate.askVerifier now dossier
        | .error cause => gate.refuse cause
      else gate.opine now dossier dossier.contractsHoldOpinion []

/-- The checker is asked, if there is anything to check. -/
def askChecker (gate : Gate K) (now : Instant) (dossier : Dossier) : Review × Gate K :=
  let set := dossier.unit.constraints
  if set.isEmpty then gate.leaveContracts now dossier none
  else
    let bound := gate.config.pipeline.contractTimeout
    let reply := gate.checker set
    (.checking (dossier.warnUnmodelled set) (gate.timer + reply.settledAfter bound)
      (reply.within bound), gate)

/-- The scan, and the contract tier if the scan does not decide. -/
def scanUnit (gate : Gate K) (now : Instant) (unit : CodeUnit) (stage : Stage)
    (coolingOff : Bool) : Review × Gate K :=
  let report := gate.library.scan Float .low unit.source
  let (dossier, opinion) :=
    (Dossier.ofScan gate.config unit stage coolingOff report).afterScan gate.config report
  match opinion with
  | some opinion => gate.opine now dossier opinion []
  | none =>
      match dossier.pass .tier2 with
      | .ok dossier => gate.askChecker now dossier
      | .error cause => gate.refuse cause

/-- The events of a verdict and of the rules learned from it. -/
def verdictEvents (gate : Gate K) (now : Instant) (dossier : Dossier) (verdict : Verdict) :
    List LedgerRecord :=
  ⟨verdict.identity, .verdictEmitted, verdict.toJson, verdict.timestamp⟩ ::
    dossier.proposals.filterMap fun proposal => gate.proposalEvent? proposal verdict.id now

def requestEvent (now : Instant) (request : ApprovalRequest) : LedgerRecord where
  identity := request.requester
  eventType := .approvalRequested
  payload := Json.ofFields [("request_id", .string request.id),
    ("verdict_id", .string request.verdictId), ("unit_id", .string request.unitId)]
  timestamp := now

/-- The request under which a verdict holds a unit. -/
def requestFor (gate : Gate K) (now : Instant) (dossier : Dossier) (verdict : Verdict) :
    Option ApprovalRequest × Gate K :=
  if verdict.status = .held then
    let (id, gate) := gate.freshId
    (some (.ofVerdict ("approval-" ++ id) now verdict dossier.critical dossier.trail.states), gate)
  else (none, gate)

/-- What a verdict commits: its events, and an outcome for the author unless the unit is held. -/
def verdictCommit (gate : Gate K) (now : Instant) (emission : Emission) : Commit Float where
  identity := emission.dossier.unit.author
  events := gate.verdictEvents now emission.dossier emission.verdict ++
    (emission.request.map (requestEvent now)).toList
  coolingOff := emission.dossier.sanction
  update :=
    if emission.verdict.status = .held then none
    else some (if emission.verdict.isPass then 1.0 else 0.0, emission.dossier.context)
  reference := if emission.verdict.status = .held then none else some emission.verdict.id

/-- The way from the last tier to the commit. -/
def emit (gate : Gate K) (now : Instant) (dossier : Dossier) (verdict : Verdict) :
    Review × Gate K :=
  match dossier.pass verdict.status.state with
  | .error cause => gate.refuse cause
  | .ok dossier =>
      let (request, gate) := gate.requestFor now dossier verdict
      let emission : Emission := ⟨dossier, verdict, request⟩
      let commit := gate.verdictCommit now emission
      match gate.engine.admitCommit commit with
      | .error cause => gate.refuse (.trust cause)
      | .ok () => (.committing emission commit, gate)

/-- Learns from one violation; where no rule can be made, a warning says so. -/
def learnFrom (gate : Gate K) (now : Instant) (dossier : Dossier) (verdict : Verdict)
    (violation : Violation) : Dossier × Gate K :=
  let trace := Trace.ofViolation dossier.unit.source violation verdict.id .deepVerification
  let (proposal, ids) := gate.learner.propose now gate.ids trace
  let gate := { gate with ids }
  match proposal with
  | .ok proposal => ({ dossier with proposals := dossier.proposals ++ [proposal] }, gate)
  | .error cause => (dossier.warn ("Rule synthesis skipped: " ++ cause.message), gate)

/-- Publishes one rule; where that fails the rule is left out. -/
def publish (gate : Gate K) (emission : Emission) (proposal : Proposal) : Emission × Gate K :=
  let (result, learner) := gate.learner.applyInPlace proposal
  let gate := { gate with learner }
  match result with
  | .ok learned =>
      ({ emission with dossier :=
          { emission.dossier with learned := emission.dossier.learned ++ [learned] } }, gate)
  | .error _ => (emission, gate)

end Gate

namespace Emission

def outcome (emission : Emission) (score : Float) : ReviewOutcome where
  unitId := emission.dossier.unit.id
  identity := emission.dossier.unit.author
  state := emission.dossier.trail.current
  trail := emission.dossier.trail.states
  verdict := emission.verdict
  approval := emission.request
  critical := emission.dossier.critical
  risk := some emission.dossier.risk
  deepStatus := emission.dossier.deepStatus
  trustScore := if emission.request.isSome then none else some score
  learned := emission.dossier.learned

end Emission

namespace Review

/-- The next step, unless the review is finished or waits. -/
def step? (now : Instant) (gate : Gate K) : Review → Option (Review × Gate K)
  | .submitted unit =>
      match unit.validate with
      | .error cause => some (.finished (.error cause), gate)
      | .ok () =>
          if gate.engine.isHeld unit.author then none
          else
            match gate.engine.stage unit.author with
            | .error cause => some (.finished (.error (.trust cause)), gate)
            | .ok stage => some (.staged unit stage, gate)
  | .staged unit stage =>
      if gate.engine.isHeld unit.author then none
      else
        match gate.engine.isCoolingOff unit.author now with
        | .error cause => some (.finished (.error (.trust cause)), gate)
        | .ok coolingOff =>
            some (.queued unit stage coolingOff gate.permits.ticket,
              { gate with permits := gate.permits.draw })
  | .queued unit stage coolingOff ticket =>
      if gate.permits.isGranted ticket then some (.admitted unit stage coolingOff, gate) else none
  | .admitted unit stage coolingOff => some (gate.scanUnit now unit stage coolingOff)
  | .checking dossier due answer =>
      if due ≤ gate.timer then
        let (dossier, opinion) := dossier.afterContracts gate.config answer
        some (gate.leaveContracts now dossier opinion)
      else none
  | .deepening dossier due answer =>
      if due ≤ gate.timer then
        some (gate.concludeDeep now dossier (Dossier.deepResult gate.config answer))
      else none
  | .learning dossier verdict [] => some (gate.emit now dossier verdict)
  | .learning dossier verdict (violation :: left) =>
      let (dossier, gate) := gate.learnFrom now dossier verdict violation
      some (.learning dossier verdict left, gate)
  | .committing emission commit =>
      if gate.engine.isHeld commit.identity then none
      else
        match gate.engine.prepare now commit with
        | .error cause => some (gate.refuse (.trust cause))
        | .ok prepared =>
            some (.writing emission prepared,
              { gate with engine := gate.engine.hold commit.identity })
  | .writing emission prepared =>
      match gate.engine.write prepared.records with
      | .error cause =>
          some ({ gate with engine := gate.engine.release prepared.identity }.refuse
            (.trust (.ledger cause)))
      | .ok (hashes, engine) => some (.settling emission prepared hashes, { gate with engine })
  | .settling emission prepared hashes =>
      match gate.engine.settle prepared hashes with
      | .error cause =>
          some ({ gate with engine := gate.engine.release prepared.identity }.refuse
            (.trust cause))
      | .ok (receipt, engine) =>
          some (.filing emission receipt.score,
            { gate with engine := engine.release prepared.identity })
  | .filing emission score =>
      let approvals := match emission.request with
        | some request => gate.approvals.insert request
        | none => gate.approvals
      some (.publishing emission score emission.dossier.proposals, { gate with approvals })
  | .publishing emission score [] =>
      some (.finished (.ok (emission.outcome score)),
        { gate with permits := gate.permits.giveBack })
  | .publishing emission score (proposal :: left) =>
      let (emission, gate) := gate.publish emission proposal
      some (.publishing emission score left, gate)
  | .finished _ => none

/-- How many kinds of steps may still come. -/
def stagesLeft : Review → Nat
  | .submitted .. => 12
  | .staged .. => 11
  | .queued .. => 10
  | .admitted .. => 9
  | .checking .. => 8
  | .deepening .. => 7
  | .learning .. => 6
  | .committing .. => 5
  | .writing .. => 4
  | .settling .. => 3
  | .filing .. => 2
  | .publishing .. => 1
  | .finished .. => 0

/-- How often the present kind of step comes again. -/
def repeatsLeft : Review → Nat
  | .learning _ _ left => left.length
  | .publishing _ _ left => left.length
  | _ => 0

/-- One machine is closer to its end than another. -/
def Closer (review other : Review) : Prop :=
  review.stagesLeft < other.stagesLeft ∨
    review.stagesLeft = other.stagesLeft ∧ review.repeatsLeft < other.repeatsLeft

theorem stagesLeft_opine (gate : Gate K) (now : Instant) (dossier : Dossier) (opinion : Opinion)
    (toLearn : List Violation) : (gate.opine now dossier opinion toLearn).1.stagesLeft = 6 := rfl

theorem stagesLeft_refuse (gate : Gate K) (cause : GateError) :
    (gate.refuse cause).1.stagesLeft = 0 := rfl

theorem stagesLeft_concludeDeep (gate : Gate K) (now : Instant) (dossier : Dossier)
    (result : Dossier.DeepResult) : (gate.concludeDeep now dossier result).1.stagesLeft = 6 := rfl

theorem stagesLeft_askVerifier_le (gate : Gate K) (now : Instant) (dossier : Dossier) :
    (gate.askVerifier now dossier).1.stagesLeft ≤ 7 := by
  unfold Gate.askVerifier
  split
  · rw [stagesLeft_concludeDeep]
    decide
  · split
    · rw [stagesLeft_concludeDeep]
      decide
    · exact Nat.le_refl 7

theorem stagesLeft_leaveContracts_le (gate : Gate K) (now : Instant) (dossier : Dossier)
    (opinion : Option Opinion) : (gate.leaveContracts now dossier opinion).1.stagesLeft ≤ 7 := by
  unfold Gate.leaveContracts
  split
  · rw [stagesLeft_opine]
    decide
  · split
    · split
      · exact stagesLeft_askVerifier_le ..
      · rw [stagesLeft_refuse]
        decide
    · rw [stagesLeft_opine]
      decide

theorem stagesLeft_scanUnit_le (gate : Gate K) (now : Instant) (unit : CodeUnit) (stage : Stage)
    (coolingOff : Bool) : (gate.scanUnit now unit stage coolingOff).1.stagesLeft ≤ 8 := by
  unfold Gate.scanUnit
  dsimp only
  split
  · rw [stagesLeft_opine]
    decide
  · split
    · unfold Gate.askChecker
      dsimp only
      split
      · exact Nat.le_succ_of_le (stagesLeft_leaveContracts_le ..)
      · exact Nat.le_refl 8
    · rw [stagesLeft_refuse]
      decide

theorem stagesLeft_emit_le (gate : Gate K) (now : Instant) (dossier : Dossier)
    (verdict : Verdict) : (gate.emit now dossier verdict).1.stagesLeft ≤ 5 := by
  unfold Gate.emit
  split
  · exact Nat.zero_le 5
  · dsimp only
    split
    · exact Nat.zero_le 5
    · exact Nat.le_refl 5

theorem closer_of_step? {now : Instant} {gate later : Gate K} {review next : Review}
    (stepped : step? now gate review = some (next, later)) : next.Closer review := by
  have scanned := stagesLeft_scanUnit_le (K := K)
  have left := stagesLeft_leaveContracts_le (K := K)
  have emitted := stagesLeft_emit_le (K := K)
  cases review <;> simp only [step?] at stepped <;> unfold Closer <;>
    grind [stagesLeft, repeatsLeft, stagesLeft_concludeDeep, stagesLeft_refuse]

/-- Goes on until the review is finished or has to wait. -/
def run (now : Instant) (gate : Gate K) (review : Review) : Review × Gate K :=
  match _stepped : step? now gate review with
  | none => (review, gate)
  | some (next, gate) => run now gate next
termination_by (review.stagesLeft, review.repeatsLeft)
decreasing_by exact Prod.lex_def.mpr (closer_of_step? _stepped)

end Review

end ReviewGate
