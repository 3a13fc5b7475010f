import ReviewGate.Proofs.Gate.Steps
import ReviewGate.Proofs.Trust.Operation

/-!
# Steps of reviews and resolutions

Until its batch is written, a call changes nothing that others see but the record it holds and the
request it has claimed.  What its steps do to the engine depends only on how far its commit has
come.
-/

namespace ReviewGate

variable {K : Type}

/-! ## Fresh ids -/

namespace Ids

/-- The same supply, from which more may have been drawn. -/
structure Later (ids later : Ids) : Prop where
  text : later.text = ids.text
  drawn : ids.drawn ≤ later.drawn

theorem Later.refl (ids : Ids) : ids.Later ids := ⟨rfl, Nat.le_refl ids.drawn⟩

theorem Later.trans {ids middle last : Ids} (first : ids.Later middle)
    (second : middle.Later last) : ids.Later last :=
  ⟨second.text.trans first.text, Nat.le_trans first.drawn second.drawn⟩

theorem later_advance (ids : Ids) : ids.Later ids.advance := ⟨rfl, Nat.le_succ ids.drawn⟩

end Ids

theorem Learner.later_propose (learner : Learner) (now : Instant) (ids : Ids) (trace : Trace) :
    ids.Later (learner.propose now ids trace).2 :=
  ids.later_advance.trans ids.advance.later_advance

namespace Gate

/-! ## What others see -/

/-- Two states of a gate that differ at most in ids, permits, timer and the count of calls. -/
structure Alike (gate later : Gate K) : Prop where
  ids : gate.ids.Later later.ids
  config : later.config = gate.config
  engine : later.engine = gate.engine
  learner : later.learner = gate.learner
  approvals : later.approvals = gate.approvals
  checker : later.checker = gate.checker
  verifier : later.verifier = gate.verifier

namespace Alike

theorem refl (gate : Gate K) : gate.Alike gate := ⟨.refl gate.ids, rfl, rfl, rfl, rfl, rfl, rfl⟩

theorem trans {gate later last : Gate K} (first : gate.Alike later) (second : later.Alike last) :
    gate.Alike last where
  ids := first.ids.trans second.ids
  config := second.config.trans first.config
  engine := second.engine.trans first.engine
  learner := second.learner.trans first.learner
  approvals := second.approvals.trans first.approvals
  checker := second.checker.trans first.checker
  verifier := second.verifier.trans first.verifier

end Alike

end Gate

/-- How far a call has come with its commit. -/
inductive Phase where
  | before
  /-- It waits for the record. -/
  | asking (commit : Commit Float)
  /-- It holds the record. -/
  | writing (prepared : PreparedCommit Float)
  /-- The batch is in the ledger and has not taken effect yet. -/
  | settling (prepared : PreparedCommit Float)
  | after

/-- The identity whose record a phase holds. -/
def Phase.held? : Phase → Option String
  | .writing prepared | .settling prepared => some prepared.identity
  | _ => none

/-- A phase that does not need the record yet. -/
def Phase.IsEarly (phase : Phase) : Prop := phase = .before ∨ ∃ commit, phase = .asking commit

/-- A review that has failed has written nothing. -/
def Review.phase : Review → Phase
  | .committing _ commit => .asking commit
  | .writing _ prepared => .writing prepared
  | .settling _ prepared _ => .settling prepared
  | .filing .. | .publishing .. | .finished (.ok _) => .after
  | _ => .before

namespace Gate

/-- A review that goes on before its commit, in a gate that looks as it did. -/
structure Quiet (gate : Gate K) (answer : Review × Gate K) : Prop where
  alike : gate.Alike answer.2
  phase : answer.1.phase.IsEarly

theorem quiet_refuse (gate : Gate K) (cause : GateError) : gate.Quiet (gate.refuse cause) :=
  ⟨⟨.refl gate.ids, rfl, rfl, rfl, rfl, rfl, rfl⟩, .inl rfl⟩

theorem quiet_opine (gate : Gate K) (now : Instant) (dossier : Dossier) (opinion : Opinion)
    (toLearn : List Violation) : gate.Quiet (gate.opine now dossier opinion toLearn) :=
  ⟨⟨gate.ids.later_advance, rfl, rfl, rfl, rfl, rfl, rfl⟩, .inl rfl⟩

theorem quiet_concludeDeep (gate : Gate K) (now : Instant) (dossier : Dossier)
    (result : Dossier.DeepResult) : gate.Quiet (gate.concludeDeep now dossier result) :=
  quiet_opine ..

theorem quiet_askVerifier (gate : Gate K) (now : Instant) (dossier : Dossier) :
    gate.Quiet (gate.askVerifier now dossier) := by
  unfold askVerifier
  split
  · exact quiet_concludeDeep ..
  · split
    · exact quiet_concludeDeep ..
    · exact ⟨⟨.refl gate.ids, rfl, rfl, rfl, rfl, rfl, rfl⟩, .inl rfl⟩

theorem quiet_leaveContracts (gate : Gate K) (now : Instant) (dossier : Dossier)
    (opinion : Option Opinion) : gate.Quiet (gate.leaveContracts now dossier opinion) := by
  unfold leaveContracts
  split
  · exact quiet_opine ..
  · split
    · split
      · exact quiet_askVerifier ..
      · exact quiet_refuse ..
    · exact quiet_opine ..

theorem quiet_askChecker (gate : Gate K) (now : Instant) (dossier : Dossier) :
    gate.Quiet (gate.askChecker now dossier) := by
  unfold askChecker
  dsimp only
  split
  · exact quiet_leaveContracts ..
  · exact ⟨Alike.refl gate, .inl rfl⟩

theorem quiet_scanUnit (gate : Gate K) (now : Instant) (unit : CodeUnit) (stage : Stage)
    (coolingOff : Bool) : gate.Quiet (gate.scanUnit now unit stage coolingOff) := by
  unfold scanUnit
  dsimp only
  split
  · exact quiet_opine ..
  · split
    · exact quiet_askChecker ..
    · exact quiet_refuse ..

theorem alike_learnFrom (gate : Gate K) (now : Instant) (dossier : Dossier) (verdict : Verdict)
    (violation : Violation) : gate.Alike (gate.learnFrom now dossier verdict violation).2 := by
  have ids := gate.learner.later_propose now gate.ids
    (Trace.ofViolation dossier.unit.source violation verdict.id .deepVerification)
  unfold learnFrom
  dsimp only
  split <;> exact ⟨ids, rfl, rfl, rfl, rfl, rfl, rfl⟩

theorem alike_requestFor (gate : Gate K) (now : Instant) (dossier : Dossier) (verdict : Verdict) :
    gate.Alike (gate.requestFor now dossier verdict).2 := by
  unfold requestFor
  split
  · exact ⟨gate.ids.later_advance, rfl, rfl, rfl, rfl, rfl, rfl⟩
  · exact Alike.refl gate

theorem quiet_emit (gate : Gate K) (now : Instant) (dossier : Dossier) (verdict : Verdict) :
    gate.Quiet (gate.emit now dossier verdict) := by
  unfold emit
  split
  · exact quiet_refuse ..
  · rename_i passed _
    have requested := gate.alike_requestFor now passed verdict
    dsimp only
    split
    · exact ⟨requested.trans (quiet_refuse ..).alike, .inl rfl⟩
    · exact ⟨requested, .inr ⟨_, rfl⟩⟩

end Gate

/-! ## What a step does to the engine -/

/-- What one step of a call can do to the engine, by how far the call has come. -/
inductive Engine.Progress (engine : Engine Float K) : Phase → Phase → Engine Float K → Prop where
  | quiet {next : Phase} (early : next.IsEarly) : Progress engine .before next engine
  | unready {commit : Commit Float} : Progress engine (.asking commit) .before engine
  | prepared {now : Instant} {commit : Commit Float} {prepared : PreparedCommit Float}
      (free : engine.isHeld commit.identity = false)
      (ready : engine.prepare now commit = .ok prepared) :
      Progress engine (.asking commit) (.writing prepared) (engine.hold commit.identity)
  | refused {prepared : PreparedCommit Float} {cause : LedgerError}
      (refused : engine.refusal prepared.records = some cause) :
      Progress engine (.writing prepared) .before (engine.release prepared.identity)
  | written {prepared : PreparedCommit Float}
      (accepted : engine.refusal prepared.records = none) :
      Progress engine (.writing prepared) (.settling prepared)
        { engine with ledger := engine.ledger.append prepared.records }
  | lost {prepared : PreparedCommit Float}
      (missing : engine.record? prepared.identity = none) :
      Progress engine (.settling prepared) .before (engine.release prepared.identity)
  | settled {prepared : PreparedCommit Float} {record : IdentityRecord Float}
      (found : engine.record? prepared.identity = some record) :
      Progress engine (.settling prepared) .after
        ((engine.settled record prepared).release prepared.identity)
  | trailing : Progress engine .after .after engine

theorem Gate.Quiet.progress {gate later : Gate K} {answer : Review × Gate K} {next : Review}
    (quiet : gate.Quiet answer) (landed : answer = (next, later)) :
    gate.engine.Progress .before next.phase later.engine := by
  obtain ⟨alike, phase⟩ := quiet
  rw [landed] at alike phase
  rw [alike.engine]
  exact .quiet phase

/-- The engine after the record of a commit has been found and its batch been prepared or not. -/
theorem Review.progress_of_step? {now : Instant} {gate later : Gate K} {review next : Review}
    (stepped : step? now gate review = some (next, later)) :
    gate.engine.Progress review.phase next.phase later.engine := by
  cases step_of_step? stepped with
  | invalid | unknown | stage | lost | queue | grant => exact .quiet (.inl rfl)
  | scan scanned => exact (gate.quiet_scanUnit now _ _ _).progress scanned
  | check elapsed left => exact (gate.quiet_leaveContracts now _ _).progress left
  | deepen elapsed concluded => exact (gate.quiet_concludeDeep now _ _).progress concluded
  | @learn dossier learned verdict violation left later told =>
      have alike := gate.alike_learnFrom now dossier verdict violation
      rw [told] at alike
      have quiet : gate.Quiet (.learning learned verdict left, later) := ⟨alike, .inl rfl⟩
      exact quiet.progress rfl
  | emit emitted => exact (gate.quiet_emit now _ _).progress emitted
  | unready => exact .unready
  | prepare free ready => exact .prepared free ready
  | unwritten failed => exact .refused (Engine.write_eq_error_iff.mp failed)
  | write written =>
      obtain ⟨accepted, -, rfl⟩ := Engine.write_eq_ok_iff.mp written
      exact .written accepted
  | unsettled failed => exact .lost (Engine.missing_of_settle failed)
  | settle settled =>
      obtain ⟨record, found, -, rfl⟩ := Engine.settle_eq_ok_iff.mp settled
      exact .settled found
  | file | finish => exact .trailing
  | publish applied =>
      have kept : later.engine = gate.engine := by
        rw [Gate.publish_eq] at applied
        split at applied <;> cases applied <;> rfl
      rw [kept]
      exact .trailing

/-- A resolution that has failed has written nothing. -/
def Resolution.phase : Resolution → Phase
  | .committing _ commit => .asking commit
  | .writing _ prepared => .writing prepared
  | .settling _ prepared _ => .settling prepared
  | .storing .. | .finished (.ok _) => .after
  | _ => .before

theorem Gate.finalize_quiet (gate : Gate K) (now : Instant) (resolved : ApprovalRequest) :
    (gate.finalize now resolved).2.engine = gate.engine ∧
      (gate.finalize now resolved).1.phase.IsEarly := by
  unfold Gate.finalize
  split
  · exact ⟨rfl, .inl rfl⟩
  · dsimp only
    split
    · exact ⟨rfl, .inl rfl⟩
    · exact ⟨rfl, .inr ⟨_, rfl⟩⟩

theorem Resolution.progress_of_step? {now : Instant} {gate later : Gate K}
    {resolution next : Resolution} (stepped : step? now gate resolution = some (next, later)) :
    gate.engine.Progress resolution.phase next.phase later.engine := by
  cases step_of_step? stepped with
  | refuse => exact .quiet (.inl rfl)
  | @claim ruling resolved approvals next later claimed finalized =>
      obtain ⟨same, early⟩ := { gate with approvals }.finalize_quiet now resolved
      rw [finalized] at same early
      rw [same]
      exact .quiet early
  | unready => exact .unready
  | prepare free ready => exact .prepared free ready
  | unwritten failed => exact .refused (Engine.write_eq_error_iff.mp failed)
  | write written =>
      obtain ⟨accepted, -, rfl⟩ := Engine.write_eq_ok_iff.mp written
      exact .written accepted
  | unsettled failed => exact .lost (Engine.missing_of_settle failed)
  | settle settled =>
      obtain ⟨record, found, -, rfl⟩ := Engine.settle_eq_ok_iff.mp settled
      exact .settled found
  | store => exact .trailing

end ReviewGate
