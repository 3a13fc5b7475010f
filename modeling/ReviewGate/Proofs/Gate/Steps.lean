import ReviewGate.Gate.Resolution
import ReviewGate.Proofs.Pattern.Learning

/-!
# Single steps

Every step that a review or a resolution can take, with what has to hold for it and what it leaves.
What all steps keep is shown by one case for each.
-/

namespace ReviewGate

variable {K : Type}

/-- A rule that cannot be published is left out, and the gate is as it was. -/
theorem Gate.publish_eq (gate : Gate K) (emission : Emission) (proposal : Proposal) :
    gate.publish emission proposal =
      match gate.learner.apply proposal with
      | .ok (learned, learner) =>
          ({ emission with dossier :=
              { emission.dossier with learned := emission.dossier.learned ++ [learned] } },
            { gate with learner })
      | .error _ => (emission, gate) := by
  simp only [publish, Learner.applyInPlace_eq]
  rcases gate.learner.apply proposal with cause | ⟨learned, learner⟩ <;> rfl

/-! ## Reviews -/

/-- The steps of a review at a moment. -/
inductive Review.Step (now : Instant) (gate : Gate K) : Review → Review → Gate K → Prop where
  | invalid {unit : CodeUnit} {cause : GateError} (refused : unit.validate = .error cause) :
      Step now gate (.submitted unit) (.finished (.error cause)) gate
  | unknown {unit : CodeUnit} {cause : TrustError} (valid : unit.validate = .ok ())
      (free : gate.engine.isHeld unit.author = false)
      (missing : gate.engine.stage unit.author = .error cause) :
      Step now gate (.submitted unit) (.finished (.error (.trust cause))) gate
  | stage {unit : CodeUnit} {stage : Stage} (valid : unit.validate = .ok ())
      (free : gate.engine.isHeld unit.author = false)
      (staged : gate.engine.stage unit.author = .ok stage) :
      Step now gate (.submitted unit) (.staged unit stage) gate
  | lost {unit : CodeUnit} {stage : Stage} {cause : TrustError}
      (free : gate.engine.isHeld unit.author = false)
      (missing : gate.engine.isCoolingOff unit.author now = .error cause) :
      Step now gate (.staged unit stage) (.finished (.error (.trust cause))) gate
  | queue {unit : CodeUnit} {stage : Stage} {coolingOff : Bool}
      (free : gate.engine.isHeld unit.author = false)
      (answered : gate.engine.isCoolingOff unit.author now = .ok coolingOff) :
      Step now gate (.staged unit stage) (.queued unit stage coolingOff gate.permits.ticket)
        { gate with permits := gate.permits.draw }
  | grant {unit : CodeUnit} {stage : Stage} {coolingOff : Bool} {ticket : Nat}
      (granted : gate.permits.isGranted ticket = true) :
      Step now gate (.queued unit stage coolingOff ticket) (.admitted unit stage coolingOff) gate
  | scan {unit : CodeUnit} {stage : Stage} {coolingOff : Bool} {next : Review} {later : Gate K}
      (scanned : gate.scanUnit now unit stage coolingOff = (next, later)) :
      Step now gate (.admitted unit stage coolingOff) next later
  | check {dossier : Dossier} {due : Nat} {answer : Option (Except ServiceError ContractReport)}
      {next : Review} {later : Gate K} (elapsed : due ≤ gate.timer)
      (left : gate.leaveContracts now (dossier.afterContracts gate.config answer).1
        (dossier.afterContracts gate.config answer).2 = (next, later)) :
      Step now gate (.checking dossier due answer) next later
  | deepen {dossier : Dossier} {due : Nat} {answer : Option (Except ServiceError DeepReport)}
      {next : Review} {later : Gate K} (elapsed : due ≤ gate.timer)
      (concluded : gate.concludeDeep now dossier (Dossier.deepResult gate.config answer) =
        (next, later)) :
      Step now gate (.deepening dossier due answer) next later
  | learn {dossier learned : Dossier} {verdict : Verdict} {violation : Violation}
      {left : List Violation} {later : Gate K}
      (told : gate.learnFrom now dossier verdict violation = (learned, later)) :
      Step now gate (.learning dossier verdict (violation :: left)) (.learning learned verdict left)
        later
  | emit {dossier : Dossier} {verdict : Verdict} {next : Review} {later : Gate K}
      (emitted : gate.emit now dossier verdict = (next, later)) :
      Step now gate (.learning dossier verdict []) next later
  | unready {emission : Emission} {commit : Commit Float} {cause : TrustError}
      (free : gate.engine.isHeld commit.identity = false)
      (failed : gate.engine.prepare now commit = .error cause) :
      Step now gate (.committing emission commit) (.finished (.error (.trust cause)))
        { gate with permits := gate.permits.giveBack }
  | prepare {emission : Emission} {commit : Commit Float} {prepared : PreparedCommit Float}
      (free : gate.engine.isHeld commit.identity = false)
      (ready : gate.engine.prepare now commit = .ok prepared) :
      Step now gate (.committing emission commit) (.writing emission prepared)
        { gate with engine := gate.engine.hold commit.identity }
  | unwritten {emission : Emission} {prepared : PreparedCommit Float} {cause : LedgerError}
      (failed : gate.engine.write prepared.records = .error cause) :
      Step now gate (.writing emission prepared) (.finished (.error (.trust (.ledger cause))))
        { gate with
          engine := gate.engine.release prepared.identity
          permits := gate.permits.giveBack }
  | write {emission : Emission} {prepared : PreparedCommit Float} {hashes : List String}
      {engine : Engine Float K} (written : gate.engine.write prepared.records = .ok (hashes, engine)) :
      Step now gate (.writing emission prepared) (.settling emission prepared hashes)
        { gate with engine }
  | unsettled {emission : Emission} {prepared : PreparedCommit Float} {hashes : List String}
      {cause : TrustError} (failed : gate.engine.settle prepared hashes = .error cause) :
      Step now gate (.settling emission prepared hashes) (.finished (.error (.trust cause)))
        { gate with
          engine := gate.engine.release prepared.identity
          permits := gate.permits.giveBack }
  | settle {emission : Emission} {prepared : PreparedCommit Float} {hashes : List String}
      {receipt : Receipt Float} {engine : Engine Float K}
      (settled : gate.engine.settle prepared hashes = .ok (receipt, engine)) :
      Step now gate (.settling emission prepared hashes) (.filing emission receipt.score)
        { gate with engine := engine.release prepared.identity }
  | file {emission : Emission} {score : Float} :
      Step now gate (.filing emission score) (.publishing emission score emission.dossier.proposals)
        { gate with approvals := match emission.request with
          | some request => gate.approvals.insert request
          | none => gate.approvals }
  | publish {emission published : Emission} {score : Float} {proposal : Proposal}
      {left : List Proposal} {later : Gate K}
      (applied : gate.publish emission proposal = (published, later)) :
      Step now gate (.publishing emission score (proposal :: left)) (.publishing published score left)
        later
  | finish {emission : Emission} {score : Float} :
      Step now gate (.publishing emission score []) (.finished (.ok (emission.outcome score)))
        { gate with permits := gate.permits.giveBack }

namespace Review

variable {now : Instant} {gate later : Gate K} {review next : Review}

theorem step_of_step? (stepped : review.step? now gate = some (next, later)) :
    Step now gate review next later := by
  cases review with
  | submitted unit =>
      simp only [step?] at stepped
      split at stepped
      · rename_i cause refused
        cases stepped
        exact .invalid refused
      · rename_i valid
        split at stepped
        · contradiction
        · rename_i unheld
          have free := Bool.eq_false_iff.mpr unheld
          split at stepped <;> cases stepped
          · exact .unknown valid free ‹_›
          · exact .stage valid free ‹_›
  | staged unit stage =>
      simp only [step?] at stepped
      split at stepped
      · contradiction
      · rename_i unheld
        have free := Bool.eq_false_iff.mpr unheld
        split at stepped <;> cases stepped
        · exact .lost free ‹_›
        · exact .queue free ‹_›
  | queued unit stage coolingOff ticket =>
      simp only [step?] at stepped
      split at stepped
      · rename_i granted
        cases stepped
        exact .grant granted
      · contradiction
  | admitted unit stage coolingOff => exact .scan (Option.some.inj stepped)
  | checking dossier due answer =>
      simp only [step?] at stepped
      split at stepped
      · rename_i elapsed
        exact .check elapsed (Option.some.inj stepped)
      · contradiction
  | deepening dossier due answer =>
      simp only [step?] at stepped
      split at stepped
      · rename_i elapsed
        exact .deepen elapsed (Option.some.inj stepped)
      · contradiction
  | learning dossier verdict left =>
      cases left with
      | nil => exact .emit (Option.some.inj stepped)
      | cons violation left =>
          cases stepped
          exact .learn rfl
  | committing emission commit =>
      simp only [step?] at stepped
      split at stepped
      · contradiction
      · rename_i unheld
        have free := Bool.eq_false_iff.mpr unheld
        split at stepped <;> cases stepped
        · exact .unready free ‹_›
        · exact .prepare free ‹_›
  | writing emission prepared =>
      simp only [step?] at stepped
      split at stepped <;> cases stepped
      · exact .unwritten ‹_›
      · exact .write ‹_›
  | settling emission prepared hashes =>
      simp only [step?] at stepped
      split at stepped <;> cases stepped
      · exact .unsettled ‹_›
      · exact .settle ‹_›
  | filing emission score =>
      cases stepped
      exact .file
  | publishing emission score left =>
      cases left with
      | nil =>
          cases stepped
          exact .finish
      | cons proposal left =>
          simp only [step?, Option.some.injEq, Prod.mk.injEq] at stepped
          obtain ⟨rfl, rfl⟩ := stepped
          exact .publish rfl
  | finished result => contradiction

/-- These are all the steps of a review, and each of them is taken where it can be. -/
theorem step?_eq_some_iff :
    review.step? now gate = some (next, later) ↔ Step now gate review next later := by
  refine ⟨step_of_step?, fun step => ?_⟩
  cases step with
  | file => rfl
  | _ => simp [step?, Gate.refuse, *]

end Review

/-! ## Resolutions -/

/-- The steps of a resolution at a moment. -/
inductive Resolution.Step (now : Instant) (gate : Gate K) :
    Resolution → Resolution → Gate K → Prop where
  | refuse {ruling : Ruling} {cause : GateError}
      (refused : gate.approvals.claim now ruling = .error cause) :
      Step now gate (.submitted ruling) (.finished (.error cause)) gate
  | claim {ruling : Ruling} {resolved : ApprovalRequest} {approvals : ApprovalGate}
      {next : Resolution} {later : Gate K}
      (claimed : gate.approvals.claim now ruling = .ok (resolved, approvals))
      (finalized : { gate with approvals }.finalize now resolved = (next, later)) :
      Step now gate (.submitted ruling) next later
  | unready {settlement : Settlement} {commit : Commit Float} {cause : TrustError}
      (free : gate.engine.isHeld commit.identity = false)
      (failed : gate.engine.prepare now commit = .error cause) :
      Step now gate (.committing settlement commit) (.finished (.error (.trust cause)))
        { gate with approvals := gate.approvals.unclaim settlement.resolved.id }
  | prepare {settlement : Settlement} {commit : Commit Float} {prepared : PreparedCommit Float}
      (free : gate.engine.isHeld commit.identity = false)
      (ready : gate.engine.prepare now commit = .ok prepared) :
      Step now gate (.committing settlement commit) (.writing settlement prepared)
        { gate with engine := gate.engine.hold commit.identity }
  | unwritten {settlement : Settlement} {prepared : PreparedCommit Float} {cause : LedgerError}
      (failed : gate.engine.write prepared.records = .error cause) :
      Step now gate (.writing settlement prepared) (.finished (.error (.trust (.ledger cause))))
        { gate with
          engine := gate.engine.release prepared.identity
          approvals := gate.approvals.unclaim settlement.resolved.id }
  | write {settlement : Settlement} {prepared : PreparedCommit Float} {hashes : List String}
      {engine : Engine Float K} (written : gate.engine.write prepared.records = .ok (hashes, engine)) :
      Step now gate (.writing settlement prepared) (.settling settlement prepared hashes)
        { gate with engine }
  | unsettled {settlement : Settlement} {prepared : PreparedCommit Float} {hashes : List String}
      {cause : TrustError} (failed : gate.engine.settle prepared hashes = .error cause) :
      Step now gate (.settling settlement prepared hashes) (.finished (.error (.trust cause)))
        { gate with
          engine := gate.engine.release prepared.identity
          approvals := gate.approvals.unclaim settlement.resolved.id }
  | settle {settlement : Settlement} {prepared : PreparedCommit Float} {hashes : List String}
      {receipt : Receipt Float} {engine : Engine Float K}
      (settled : gate.engine.settle prepared hashes = .ok (receipt, engine)) :
      Step now gate (.settling settlement prepared hashes) (.storing settlement receipt.score)
        { gate with engine := engine.release prepared.identity }
  | store {settlement : Settlement} {score : Float} :
      Step now gate (.storing settlement score) (.finished (.ok (settlement.outcome score)))
        { gate with approvals := gate.approvals.settle settlement.resolved }

namespace Resolution

variable {now : Instant} {gate later : Gate K} {resolution next : Resolution}

theorem step_of_step? (stepped : resolution.step? now gate = some (next, later)) :
    Step now gate resolution next later := by
  cases resolution with
  | submitted ruling =>
      simp only [step?] at stepped
      split at stepped
      · cases stepped
        exact .refuse ‹_›
      · rename_i resolved approvals claimed
        exact .claim claimed (Option.some.inj stepped)
  | committing settlement commit =>
      simp only [step?] at stepped
      split at stepped
      · contradiction
      · rename_i unheld
        have free := Bool.eq_false_iff.mpr unheld
        split at stepped <;> cases stepped
        · exact .unready free ‹_›
        · exact .prepare free ‹_›
  | writing settlement prepared =>
      simp only [step?] at stepped
      split at stepped <;> cases stepped
      · exact .unwritten ‹_›
      · exact .write ‹_›
  | settling settlement prepared hashes =>
      simp only [step?] at stepped
      split at stepped <;> cases stepped
      · exact .unsettled ‹_›
      · exact .settle ‹_›
  | storing settlement score =>
      cases stepped
      exact .store
  | finished result => contradiction

/-- These are all the steps of a resolution, and each of them is taken where it can be. -/
theorem step?_eq_some_iff :
    resolution.step? now gate = some (next, later) ↔ Step now gate resolution next later := by
  refine ⟨step_of_step?, fun step => ?_⟩
  cases step <;> simp [step?, Gate.giveUp, *]

end Resolution

end ReviewGate
