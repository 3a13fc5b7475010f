import ReviewGate.Proofs.Gate.Blocking
import ReviewGate.Proofs.Gate.CoolingOff
import ReviewGate.Proofs.Gate.Requests

/-!
# Trails and verdicts

The trail of a unit and the verdict on it are kept apart, and each way out of a tier sets both.
They fit all the same: a tier decides about a unit that has passed through the states before it and
no others, so the verdict tells the whole trail, and no state is refused.
-/

namespace ReviewGate

variable {K : Type}

/-! ## What a verdict tells of the trail -/

/-- The states that a unit has passed through when a tier decides. -/
def Tier.passed : Tier → List ReviewState
  | .scan | .bypass => [.submitted, .tier1]
  | .contracts => [.submitted, .tier1, .tier2]
  | .deep => [.submitted, .tier1, .tier2, .tier3]
  | .approvalGate => [.submitted, .tier1, .tier2, .tier3, .pendingApproval]

/-- The tier of a state in which a unit is examined. -/
def ReviewState.tier? : ReviewState → Option Tier
  | .tier1 => some .scan
  | .tier2 => some .contracts
  | .tier3 => some .deep
  | _ => none

/-- A tier of a review can come to a status.  Only the deep tier holds, and where verification is
disabled nothing else accepts. -/
structure Tier.Reaches (mode : Mode) (tier : Tier) (status : VerdictStatus) : Prop where
  automatic : tier ≠ .approvalGate
  held : status = .held → tier = .deep
  bypass : tier = .bypass ↔ mode = .disabled ∧ status = .pass

/-- The trail of a unit on which there is a verdict. -/
def Verdict.trail (verdict : Verdict) : List ReviewState :=
  verdict.tier.passed ++ [verdict.status.state]

theorem Verdict.current_of_states (verdict : Verdict) {trail : Trail}
    (states : trail.states = verdict.trail) : trail.current = verdict.status.state := by
  rw [Trail.current, states, Verdict.trail, List.getLast?_concat, Option.getD_some]

namespace Tier

variable {mode : Mode} {tier : Tier} {status : VerdictStatus}

theorem reaches_of_enabled (enabled : mode ≠ .disabled) (automatic : tier ≠ .approvalGate)
    (unbypassed : tier ≠ .bypass) (held : status = .held → tier = .deep) :
    tier.Reaches mode status :=
  ⟨automatic, held, fun same => absurd same unbypassed, fun same => absurd same.1 enabled⟩

/-- What a tier can come to may follow its state. -/
theorem Reaches.canPassTo (reaches : tier.Reaches mode status) :
    (Trail.mk tier.passed).current.canPassTo status.state = true := by
  cases tier with
  | approvalGate => exact absurd rfl reaches.automatic
  | deep => cases status <;> rfl
  | scan | contracts | bypass =>
      cases status with
      | held => exact absurd (reaches.held rfl) (by decide)
      | pass | fail => rfl

end Tier

/-! ## What an outcome tells -/

namespace ReviewOutcome

/-- The trail goes step by step from the submission to the state of the outcome, and the verdict has
the status of that state. -/
structure Coherent (outcome : ReviewOutcome) : Prop where
  begins : outcome.trail.head? = some .submitted
  passes : outcome.trail.IsChain fun state next => state.canPassTo next = true
  once : outcome.trail.Nodup
  ends : outcome.trail.getLast? = some outcome.state
  accepted : outcome.verdict.status = .pass ↔ outcome.state = .accepted
  rejected : outcome.verdict.status = .fail ↔ outcome.state = .rejected
  held : outcome.verdict.status = .held ↔ outcome.state = .pendingApproval

/-- The tier that decides in a review: the last that the unit has come to, unless the unit was
accepted because verification is disabled. -/
def tier? (mode : Mode) (outcome : ReviewOutcome) : Option Tier :=
  if mode = .disabled ∧ outcome.state = .accepted then some .bypass
  else (outcome.trail.filterMap ReviewState.tier?).getLast?

/-- State and trail are those that the verdict tells. -/
structure Orderly (outcome : ReviewOutcome) : Prop where
  state : outcome.state = outcome.verdict.status.state
  trail : outcome.trail = outcome.verdict.trail

variable {outcome : ReviewOutcome}

theorem Orderly.coherent (orderly : outcome.Orderly)
    (follows : (Trail.mk outcome.verdict.tier.passed).current.canPassTo
      outcome.verdict.status.state = true) : outcome.Coherent := by
  obtain ⟨state, trail⟩ := orderly
  have passes : outcome.trail.head? = some .submitted ∧
      (outcome.trail.IsChain fun state next => state.canPassTo next = true) ∧
      outcome.trail.Nodup := by
    rw [trail, Verdict.trail]
    revert follows
    cases outcome.verdict.tier <;> cases outcome.verdict.status <;> decide
  refine ⟨passes.1, passes.2.1, passes.2.2, ?_, ?_, ?_, ?_⟩
  · rw [trail, state, Verdict.trail, List.getLast?_concat]
  all_goals
    rw [state]
    cases outcome.verdict.status <;> simp [VerdictStatus.state]

theorem Orderly.tier?_eq {mode : Mode} (orderly : outcome.Orderly)
    (reaches : outcome.verdict.tier.Reaches mode outcome.verdict.status) :
    outcome.tier? mode = some outcome.verdict.tier := by
  obtain ⟨automatic, -, bypass⟩ := reaches
  have accepted : outcome.state = .accepted ↔ outcome.verdict.status = .pass := by
    rw [orderly.state]
    cases outcome.verdict.status <;> simp [VerdictStatus.state]
  have bypassed : mode = .disabled ∧ outcome.state = .accepted ↔
      outcome.verdict.tier = .bypass := by
    rw [accepted, bypass]
  unfold tier?
  split
  · rename_i unverified
    rw [bypassed.mp unverified]
  · rename_i verified
    rw [orderly.trail, Verdict.trail]
    cases tier : outcome.verdict.tier with
    | approvalGate => exact absurd tier automatic
    | bypass => exact absurd (bypassed.mpr tier) verified
    | scan | contracts | deep => cases outcome.verdict.status <;> rfl

end ReviewOutcome

/-! ## Dossiers -/

/-- The error says that a state may not follow another. -/
def GateError.IsInvalidTransition (cause : GateError) : Prop :=
  ∃ source target, cause = .invalidTransition source target

theorem GateError.not_isInvalidTransition_trust (cause : TrustError) :
    ¬ (trust cause).IsInvalidTransition := by
  rintro ⟨source, target, same⟩
  contradiction

theorem Trail.advance_eq_ok {trail : Trail} {next : ReviewState}
    (follows : trail.current.canPassTo next = true) :
    trail.advance next = .ok ⟨trail.states ++ [next]⟩ := by
  simp only [Trail.advance, Trail.advance?, if_pos follows]

namespace Dossier

variable {dossier : Dossier}

theorem pass_eq_ok {states : List ReviewState} {next : ReviewState}
    (trail : dossier.trail.states = states)
    (follows : (Trail.mk states).current.canPassTo next = true) :
    dossier.pass next = .ok { dossier with trail := ⟨states ++ [next]⟩ } := by
  subst trail
  rw [pass, Trail.advance_eq_ok follows]
  rfl

theorem trail_foldl_warn {α : Type} (warning : α → String) (values : List α)
    (dossier : Dossier) :
    (values.foldl (fun dossier value => dossier.warn (warning value)) dossier).trail =
      dossier.trail := by
  induction values generalizing dossier with
  | nil => rfl
  | cons value rest inductionHypothesis => exact inductionHypothesis (dossier.warn (warning value))

theorem trail_afterScan (dossier : Dossier) (config : GateConfig) (report : ScanReport Float) :
    (dossier.afterScan config report).1.trail = dossier.trail := by
  have warned := trail_foldl_warn findingWarning report.findings dossier
  unfold afterScan
  split
  · rfl
  · dsimp only
    split
    · exact warned
    · split
      · exact warned
      · split <;> exact warned

theorem reaches_afterScan {config : GateConfig} {report : ScanReport Float} {opinion : Opinion}
    (formed : (dossier.afterScan config report).2 = some opinion) :
    opinion.tier.Reaches config.mode opinion.status ∧
      opinion.tier.passed = Tier.scan.passed := by
  unfold afterScan at formed
  split at formed
  · cases formed
    exact ⟨⟨nofun, nofun, nofun, nofun⟩, rfl⟩
  · dsimp only at formed
    split at formed
    · rename_i disabled
      cases formed
      exact ⟨⟨nofun, nofun, fun _ => ⟨disabled, rfl⟩, fun _ => rfl⟩, rfl⟩
    · rename_i enabled
      split at formed
      · contradiction
      · split at formed
        · cases formed
          exact ⟨Tier.reaches_of_enabled enabled nofun nofun nofun, rfl⟩
        · contradiction

/-- Where verification is disabled the scan decides. -/
theorem enabled_of_afterScan {config : GateConfig} {report : ScanReport Float}
    (undecided : (dossier.afterScan config report).2 = none) : config.mode ≠ .disabled := by
  intro disabled
  simp only [afterScan, if_pos disabled] at undecided
  split at undecided <;> contradiction

theorem trail_afterContracts (dossier : Dossier) (config : GateConfig)
    (answer : Option (Except ServiceError ContractReport)) :
    (dossier.afterContracts config answer).1.trail = dossier.trail := by
  unfold afterContracts withoutChecker
  split <;> split <;> rfl

/-- The contract tier rejects, or it leaves the unit to the next one. -/
theorem status_afterContracts {config : GateConfig}
    {answer : Option (Except ServiceError ContractReport)} {opinion : Opinion}
    (formed : (dossier.afterContracts config answer).2 = some opinion) :
    opinion.status = .fail := by
  unfold afterContracts withoutChecker at formed
  split at formed <;> split at formed <;> cases formed <;> rfl

theorem trail_afterDeep (dossier : Dossier) (result : DeepResult) :
    (dossier.afterDeep result).1.trail = dossier.trail := by
  cases result with
  | pass | fail violations => rfl
  | unavailable reason =>
      simp only [afterDeep, withoutDeep]
      split <;> rfl

end Dossier

/-! ## Reviews -/

/-- A verdict on its way into the ledger that tells the trail of its unit. -/
structure Emission.Orderly (mode : Mode) (emission : Emission) : Prop where
  reaches : emission.verdict.tier.Reaches mode emission.verdict.status
  trail : emission.dossier.trail.states = emission.verdict.trail
  request : ∀ request, emission.request = some request →
    request.trail = Tier.approvalGate.passed

/-- While a tier has the unit its trail ends with the state of that tier, and after that it is what
the verdict tells. -/
def Review.Orderly (mode : Mode) : Review → Prop
  | .submitted _ | .staged .. | .queued .. | .admitted .. => True
  | .checking dossier _ _ =>
      mode ≠ .disabled ∧ dossier.trail.states = Tier.contracts.passed
  | .deepening dossier _ _ => mode ≠ .disabled ∧ dossier.trail.states = Tier.deep.passed
  | .learning dossier verdict _ =>
      verdict.tier.Reaches mode verdict.status ∧ dossier.trail.states = verdict.tier.passed
  | .committing emission _ | .writing emission _ | .settling emission _ _ | .filing emission _
  | .publishing emission _ _ => emission.Orderly mode
  | .finished (.ok outcome) =>
      outcome.verdict.tier.Reaches mode outcome.verdict.status ∧ outcome.Orderly
  | .finished (.error cause) => ¬ cause.IsInvalidTransition

namespace Gate

variable {gate : Gate K} {dossier : Dossier}

theorem orderly_opine (now : Instant) {opinion : Opinion} (toLearn : List Violation)
    (reaches : opinion.tier.Reaches gate.config.mode opinion.status)
    (trail : dossier.trail.states = opinion.tier.passed) :
    (gate.opine now dossier opinion toLearn).1.Orderly gate.config.mode :=
  ⟨reaches, trail⟩

theorem orderly_concludeDeep (now : Instant) (result : Dossier.DeepResult)
    (enabled : gate.config.mode ≠ .disabled) (trail : dossier.trail.states = Tier.deep.passed) :
    (gate.concludeDeep now dossier result).1.Orderly gate.config.mode := by
  have tier := dossier.tier_afterDeep result
  have reaches : (dossier.afterDeep result).2.1.tier.Reaches gate.config.mode
      (dossier.afterDeep result).2.1.status := by
    rw [tier]
    exact Tier.reaches_of_enabled enabled nofun nofun fun _ => rfl
  have states : (dossier.afterDeep result).1.trail.states =
      (dossier.afterDeep result).2.1.tier.passed := by
    rw [tier, dossier.trail_afterDeep result]
    exact trail
  exact orderly_opine now _ reaches states

theorem orderly_askVerifier (now : Instant) (enabled : gate.config.mode ≠ .disabled)
    (trail : dossier.trail.states = Tier.deep.passed) :
    (gate.askVerifier now dossier).1.Orderly gate.config.mode := by
  unfold askVerifier
  split
  · exact orderly_concludeDeep now _ enabled trail
  · split
    · exact orderly_concludeDeep now _ enabled trail
    · exact ⟨enabled, trail⟩

theorem orderly_leaveContracts (now : Instant) {opinion : Option Opinion}
    (formed : ∀ reached, opinion = some reached →
      reached.tier = .contracts ∧ reached.status = .fail)
    (enabled : gate.config.mode ≠ .disabled)
    (trail : dossier.trail.states = Tier.contracts.passed) :
    (gate.leaveContracts now dossier opinion).1.Orderly gate.config.mode := by
  unfold leaveContracts
  split
  · rename_i reached
    obtain ⟨tier, status⟩ := formed reached rfl
    apply orderly_opine
    · rw [tier, status]
      exact Tier.reaches_of_enabled enabled nofun nofun nofun
    · rw [tier]
      exact trail
  · split
    · rw [Dossier.pass_eq_ok trail rfl]
      exact orderly_askVerifier now enabled rfl
    · exact orderly_opine now [] (Tier.reaches_of_enabled enabled nofun nofun nofun) trail

theorem orderly_askChecker (now : Instant) (enabled : gate.config.mode ≠ .disabled)
    (trail : dossier.trail.states = Tier.contracts.passed) :
    (gate.askChecker now dossier).1.Orderly gate.config.mode := by
  unfold askChecker
  dsimp only
  split
  · exact orderly_leaveContracts now (by simp) enabled trail
  · refine ⟨enabled, ?_⟩
    rw [Dossier.warnUnmodelled, Dossier.trail_foldl_warn]
    exact trail

theorem orderly_scanUnit (gate : Gate K) (now : Instant) (unit : CodeUnit) (stage : Stage)
    (coolingOff : Bool) :
    (gate.scanUnit now unit stage coolingOff).1.Orderly gate.config.mode := by
  unfold scanUnit
  dsimp only
  generalize gate.library.scan Float .low unit.source = report
  have opened : (Dossier.ofScan gate.config unit stage coolingOff report).trail.states =
      Tier.scan.passed := rfl
  rw [← Dossier.trail_afterScan _ gate.config report] at opened
  split
  · rename_i opinion formed
    obtain ⟨reaches, passed⟩ := Dossier.reaches_afterScan formed
    exact orderly_opine now [] reaches (opened.trans passed.symm)
  · rename_i undecided
    rw [Dossier.pass_eq_ok opened rfl]
    exact orderly_askChecker now (Dossier.enabled_of_afterScan undecided) rfl

theorem orderly_emit (now : Instant) {verdict : Verdict}
    (reaches : verdict.tier.Reaches gate.config.mode verdict.status)
    (trail : dossier.trail.states = verdict.tier.passed) :
    (gate.emit now dossier verdict).1.Orderly gate.config.mode := by
  unfold emit
  rw [Dossier.pass_eq_ok trail reaches.canPassTo]
  dsimp only
  split
  · exact GateError.not_isInvalidTransition_trust _
  · refine ⟨reaches, rfl, ?_⟩
    intro request filed
    unfold requestFor at filed
    split at filed
    · rename_i held
      cases filed
      -- Only the deep tier holds a unit, so the request begins with the states up to that tier.
      rw [reaches.held held, held]
      rfl
    · contradiction

end Gate

namespace Emission

variable {mode : Mode} {emission : Emission}

theorem Orderly.publish (orderly : emission.Orderly mode) (gate : Gate K) (proposal : Proposal) :
    (gate.publish emission proposal).1.Orderly mode := by
  rw [Gate.publish_eq]
  split
  · exact ⟨orderly.reaches, orderly.trail, orderly.request⟩
  · exact orderly

theorem Orderly.outcome (orderly : emission.Orderly mode) (score : Float) :
    (emission.outcome score).Orderly :=
  ⟨emission.verdict.current_of_states orderly.trail, orderly.trail⟩

end Emission

namespace Review

theorem not_isInvalidTransition_of_validate {unit : CodeUnit} {cause : GateError}
    (refused : unit.validate = .error cause) : ¬ cause.IsInvalidTransition := by
  rintro ⟨source, target, rfl⟩
  unfold CodeUnit.validate at refused
  split at refused
  · cases refused
  · split at refused <;> cases refused

theorem trail_learnFrom (gate : Gate K) (now : Instant) (dossier : Dossier) (verdict : Verdict)
    (violation : Violation) :
    (gate.learnFrom now dossier verdict violation).1.trail = dossier.trail := by
  unfold Gate.learnFrom
  dsimp only
  split <;> rfl

theorem Orderly.step {now : Instant} {gate later : Gate K} {review next : Review}
    (orderly : review.Orderly gate.config.mode)
    (stepped : step? now gate review = some (next, later)) : next.Orderly gate.config.mode := by
  cases step_of_step? stepped with
  | invalid refused => exact not_isInvalidTransition_of_validate refused
  | unknown | lost | unready | unwritten | unsettled =>
      exact GateError.not_isInvalidTransition_trust _
  | stage | queue | grant => trivial
  | @scan unit stage coolingOff next later scanned =>
      have scans := gate.orderly_scanUnit now unit stage coolingOff
      rwa [scanned] at scans
  | @check dossier due answer next later elapsed left =>
      obtain ⟨enabled, trail⟩ := orderly
      rw [← dossier.trail_afterContracts gate.config answer] at trail
      have formed : ∀ opinion, (dossier.afterContracts gate.config answer).2 = some opinion →
          opinion.tier = .contracts ∧ opinion.status = .fail := fun _ formed =>
        ⟨Dossier.tier_afterContracts formed, Dossier.status_afterContracts formed⟩
      have leaves := Gate.orderly_leaveContracts now formed enabled trail
      rwa [left] at leaves
  | @deepen dossier due answer next later elapsed concluded =>
      obtain ⟨enabled, trail⟩ := orderly
      have concludes := Gate.orderly_concludeDeep now
        (Dossier.deepResult gate.config answer) enabled trail
      rwa [concluded] at concludes
  | @learn dossier learned verdict violation left later told =>
      have kept := trail_learnFrom gate now dossier verdict violation
      rw [told] at kept
      refine ⟨orderly.1, ?_⟩
      rw [kept]
      exact orderly.2
  | emit emitted =>
      have emits := Gate.orderly_emit now orderly.1 orderly.2
      rwa [emitted] at emits
  | prepare | write | settle | file => exact orderly
  | @publish emission published score proposal left later applied =>
      have publishes := Emission.Orderly.publish orderly gate proposal
      rwa [applied] at publishes
  | @finish emission score =>
      exact ⟨Emission.Orderly.reaches orderly, Emission.Orderly.outcome orderly score⟩

/-- Whatever a review files goes on where the review has left its unit. -/
theorem Orderly.request {mode : Mode} {review : Review} (orderly : review.Orderly mode)
    {promise : Promise} {request : ApprovalRequest} (promised : review.promise? = some promise)
    (held : promise.request = some request) (unfiled : review.filed? = none) :
    request.trail = Tier.approvalGate.passed := by
  cases review with
  | committing | writing | settling | filing | publishing =>
      cases promised
      exact Emission.Orderly.request orderly request held
  | finished result =>
      cases result with
      | error cause => contradiction
      | ok outcome =>
          cases promised
          exact absurd (held.symm.trans unfiled) (by simp)
  | _ => contradiction

end Review

/-! ## Resolutions -/

/-- A decision on its way into the ledger that goes on from the trail of a held unit. -/
structure Settlement.Orderly (settlement : Settlement) : Prop where
  request : settlement.resolved.trail = Tier.approvalGate.passed
  tier : settlement.verdict.tier = .approvalGate
  decided : settlement.verdict.status ≠ .held
  trail : settlement.trail.states = settlement.verdict.trail

theorem Settlement.Orderly.outcome {settlement : Settlement} (orderly : settlement.Orderly)
    (score : Float) : (settlement.outcome score).Orderly :=
  ⟨settlement.verdict.current_of_states orderly.trail, orderly.trail⟩

/-- The requests of held units, with the states up to where they are held. -/
def ApprovalGate.Orderly (approvals : ApprovalGate) : Prop :=
  ∀ id request, approvals.get? id = some request → request.trail = Tier.approvalGate.passed

def Resolution.Orderly : Resolution → Prop
  | .submitted _ => True
  | .committing settlement _ | .writing settlement _ | .settling settlement _ _
  | .storing settlement _ => settlement.Orderly
  | .finished (.ok outcome) =>
      outcome.verdict.tier = .approvalGate ∧ outcome.verdict.status ≠ .held ∧ outcome.Orderly
  | .finished (.error cause) => ¬ cause.IsInvalidTransition

namespace ApprovalGate

variable {approvals later : ApprovalGate}

theorem Orderly.of_requests (orderly : approvals.Orderly)
    (same : later.requests = approvals.requests) : later.Orderly := by
  intro id request present
  rw [get?, same] at present
  exact orderly id request present

theorem Orderly.of_insert (orderly : approvals.Orderly) {request : ApprovalRequest}
    (trail : request.trail = Tier.approvalGate.passed)
    (inserted : later.requests = approvals.requests.insert request.id request) :
    later.Orderly := by
  intro id found present
  rw [get?, inserted, Table.get?_insert] at present
  split at present
  · cases present
    exact trail
  · exact orderly id found present

theorem not_isInvalidTransition_of_claim {now : Instant} {ruling : Ruling} {cause : GateError}
    (refused : approvals.claim now ruling = .error cause) : ¬ cause.IsInvalidTransition := by
  rintro ⟨source, target, rfl⟩
  cases claimable : approvals.claimable ruling with
  | ok request => simp [claim, claimable, bind, Except.bind, pure, Except.pure] at refused
  | error cause =>
      simp only [claim, claimable, bind, Except.bind] at refused
      cases refused
      unfold ApprovalGate.claimable at claimable
      grind

end ApprovalGate

namespace Resolution

theorem orderly_finalize (gate : Gate K) (now : Instant) {resolved : ApprovalRequest}
    (trail : resolved.trail = Tier.approvalGate.passed) :
    (gate.finalize now resolved).1.Orderly := by
  have decided : resolved.verdictStatus ≠ .held := by
    unfold ApprovalRequest.verdictStatus
    split <;> decide
  have follows : (Trail.resume resolved.trail).current.canPassTo
      resolved.verdictStatus.state = true := by
    rw [trail]
    revert decided
    cases resolved.verdictStatus <;> decide
  unfold Gate.finalize
  rw [Trail.advance_eq_ok follows, trail]
  dsimp only
  split
  · exact GateError.not_isInvalidTransition_trust _
  · exact ⟨trail, rfl, decided, rfl⟩

theorem Orderly.step {now : Instant} {gate later : Gate K} {resolution next : Resolution}
    (requests : gate.approvals.Orderly) (orderly : resolution.Orderly)
    (stepped : step? now gate resolution = some (next, later)) : next.Orderly := by
  cases step_of_step? stepped with
  | refuse refused => exact ApprovalGate.not_isInvalidTransition_of_claim refused
  | @claim ruling resolved approvals next later claimed finalized =>
      obtain ⟨request, claimable, made⟩ := bind_eq_ok_iff.mp claimed
      cases made
      have trail := requests _ request (ApprovalGate.get?_of_claimable claimable)
      have finalizes := orderly_finalize { gate with approvals := { gate.approvals with
        claims := ruling.requestId :: gate.approvals.claims } } now
        (show (request.resolve now ruling).trail = _ from trail)
      rwa [finalized] at finalizes
  | unready | unwritten | unsettled => exact GateError.not_isInvalidTransition_trust _
  | prepare | write | settle => exact orderly
  | @store settlement score =>
      exact ⟨Settlement.Orderly.tier orderly, Settlement.Orderly.decided orderly,
        Settlement.Orderly.outcome orderly score⟩

end Resolution

/-! ## Calls of a system -/

def Call.Orderly (mode : Mode) : Call → Prop
  | .review _ course => course.Orderly mode
  | .resolution _ course => course.Orderly

namespace Call

variable {mode : Mode} {call : Call}

theorem orderly_of_isFresh (fresh : call.IsFresh) : call.Orderly mode := by
  cases call with
  | review unit course =>
      have same : course = .submitted unit := fresh
      rw [same]
      trivial
  | resolution ruling course =>
      have same : course = .submitted ruling := fresh
      rw [same]
      trivial

/-- No call fails because a state may not follow another. -/
theorem Orderly.not_isInvalidTransition (orderly : call.Orderly mode) {cause : GateError}
    (failed : call.result? = some (.error cause)) : ¬ cause.IsInvalidTransition := by
  cases call with
  | review unit course =>
      cases course with
      | finished result =>
          cases failed
          exact orderly
      | _ => contradiction
  | resolution ruling course =>
      cases course with
      | finished result =>
          cases failed
          exact orderly
      | _ => contradiction

theorem Orderly.step {now : Instant} {gate later : Gate K} {next : Call}
    (requests : gate.approvals.Orderly) (orderly : call.Orderly gate.config.mode)
    (stepped : call.step? now gate = some (next, later)) :
    later.approvals.Orderly ∧ next.Orderly gate.config.mode := by
  rcases step?_cases stepped with
    ⟨unit, course, following, rfl, rfl, taken⟩ | ⟨ruling, course, following, rfl, rfl, taken⟩
  · refine ⟨?_, Review.Orderly.step orderly taken⟩
    rcases Review.filed_of_step? taken with
      ⟨same, -⟩ | ⟨promise, request, -, promised, held, unfiled, -, inserted⟩
    · rw [same]
      exact requests
    · rw [inserted]
      exact requests.of_insert (Review.Orderly.request orderly promised held unfiled) rfl
  · refine ⟨?_, Resolution.Orderly.step requests orderly taken⟩
    rcases Resolution.requests_of_step? taken with same | ⟨settlement, score, rfl, inserted⟩
    · exact requests.of_requests same
    · exact requests.of_insert (Settlement.Orderly.request orderly) inserted

end Call

namespace System

/-- The requests are those of held units, and every call is in order. -/
structure Orderly (system : System K) : Prop where
  requests : system.gate.approvals.Orderly
  calls : ∀ call ∈ system.calls, call.Orderly system.gate.config.mode

variable [KeyProvider K] {permitted : Gate.Operation → Prop} {system later : System K}

theorem Orderly.move (orderly : system.Orderly) (moves : Move permitted system later) :
    later.Orderly := by
  have mode : later.gate.config.mode = system.gate.config.mode :=
    congrArg GateConfig.mode moves.config
  refine ⟨?_, ?_⟩
  · cases moves with
    | submit | refuse | serve | wait => exact orderly.requests
    | step found stepped =>
        exact (Call.Orderly.step orderly.requests
          (orderly.calls _ (List.mem_of_getElem? found)) stepped).1
    | @operate operation now allowed free =>
        refine orderly.requests.of_requests ?_
        rcases Gate.perform_cases system.gate now operation with
          ⟨asked, -, same⟩ | ⟨records, change⟩
        · have kept : (system.gate.perform now operation).approvals = system.gate.approvals := by
            rw [same]
          exact congrArg ApprovalGate.requests kept
        · exact congrArg ApprovalGate.requests change.approvals
  · rw [mode]
    exact moves.forall_calls orderly.calls (fun _ fresh => Call.orderly_of_isFresh fresh)
      fun _ _ _ _ kept stepped => (Call.Orderly.step orderly.requests kept stepped).2

theorem orderly_of_reachable (reached : system.Reachable permitted) : system.Orderly := by
  induction reached with
  | start engineStarted gateStarted =>
      rw [Gate.eq_of_start gateStarted]
      exact ⟨by simp [ApprovalGate.Orderly, ApprovalGate.empty, ApprovalGate.get?], by simp⟩
  | move before moves orderly => exact orderly.move moves

end System

end ReviewGate
