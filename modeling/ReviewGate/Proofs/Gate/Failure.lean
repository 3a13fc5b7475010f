import ReviewGate.Proofs.Gate.System

/-!
# Calls that fail

A call that ends with an error leaves no trace: what it has prepared is dropped, the record it holds
is released, and the request it has claimed is free again.
-/

namespace ReviewGate

variable {K : Type}

/-! ## What a call leaves behind on the way -/

namespace Engine

/-- Two engines that differ at most in what the storage refuses. -/
def SameBut (first engine : Engine Float K) : Prop :=
  ∃ refusal, engine = { first with refusal }

/-- The engine on which one call has been at work, by how far it has come. -/
def Touched (first engine : Engine Float K) : Phase → Prop
  | .before | .asking _ => first.SameBut engine
  | .writing prepared =>
      (first.hold prepared.identity).SameBut engine ∧
        ∃ record, engine.record? prepared.identity = some record
  | .settling prepared => ∃ record, engine.record? prepared.identity = some record
  | .after => True

theorem touched_of_isEarly {first engine : Engine Float K} {phase : Phase}
    (same : first.SameBut engine) (early : phase.IsEarly) : first.Touched engine phase := by
  rcases early with rfl | ⟨commit, rfl⟩
  · exact same
  · exact same

theorem Touched.progress {first engine later : Engine Float K} {phase next : Phase}
    (touched : first.Touched engine phase) (progress : engine.Progress phase next later) :
    first.Touched later next := by
  cases progress with
  | quiet early => exact touched_of_isEarly touched early
  | unready => exact touched
  | @prepared _ commit prepared free ready =>
      obtain ⟨record, window, found, -, -, same, -⟩ := prepare_cases ready
      obtain ⟨refusal, rfl⟩ := touched
      rw [← same] at found ⊢
      exact ⟨⟨refusal, rfl⟩, record, found⟩
  | @refused prepared cause refused =>
      obtain ⟨⟨refusal, rfl⟩, -⟩ := touched
      refine ⟨refusal, ?_⟩
      simp [release, hold]
  | written accepted => exact touched.2
  | @lost prepared missing =>
      obtain ⟨record, found⟩ := touched
      rw [found] at missing
      contradiction
  | settled found => trivial
  | trailing => trivial

theorem Progress.after {engine later : Engine Float K} {next : Phase}
    (progress : engine.Progress .after next later) : next = .after := by
  generalize start : Phase.after = phase at progress
  cases progress with
  | quiet early =>
      rcases early with rfl | ⟨commit, rfl⟩
      · contradiction
      · contradiction
  | trailing => rfl
  | _ => contradiction

theorem Touched.refuse {first engine : Engine Float K} {phase : Phase}
    (touched : first.Touched engine phase) (refusal : Refusal) :
    first.Touched { engine with refusal } phase := by
  cases phase with
  | before =>
      obtain ⟨_, rfl⟩ := touched
      exact ⟨refusal, rfl⟩
  | asking commit =>
      obtain ⟨_, rfl⟩ := touched
      exact ⟨refusal, rfl⟩
  | writing prepared =>
      obtain ⟨⟨_, rfl⟩, found⟩ := touched
      exact ⟨⟨refusal, rfl⟩, found⟩
  | settling prepared => exact touched
  | after => trivial

end Engine

namespace Call

/-- What a call knows of the claims, which began as they were before it. -/
def Claims (first claims : List String) : Call → Prop
  | .review _ course => course.phase ≠ .after → claims = first
  | .resolution _ course => course.Claims first claims

/-- The gate on which one call has been at work: the record it holds and the request it has claimed
are all that others notice. -/
structure Touches (first gate : Gate K) (call : Call) : Prop where
  engine : first.engine.Touched gate.engine call.phase
  learner : call.phase ≠ .after → gate.learner = first.learner
  requests : call.phase ≠ .after → gate.approvals.requests = first.approvals.requests
  claims : call.Claims first.approvals.claims gate.approvals.claims
  keyed : gate.approvals.Keyed

theorem Touches.step {first gate later : Gate K} {call next : Call} {now : Instant}
    (touches : call.Touches first gate) (stepped : call.step? now gate = some (next, later)) :
    next.Touches first later := by
  have progress := progress_of_step? stepped
  have unfinished : next.phase ≠ .after → call.phase ≠ .after := by
    intro open_ after
    rw [after] at progress
    exact open_ progress.after
  obtain ⟨engine, learner, requests, claims, keyed⟩ := touches
  rcases step?_cases stepped with
    ⟨unit, course, following, rfl, rfl, taken⟩ | ⟨ruling, course, following, rfl, rfl, taken⟩
  · obtain ⟨frame, kept⟩ := Review.frame_of_step? taken
    refine ⟨engine.progress progress, ?_, ?_, ?_, keyed.of_requests frame.requests⟩
    · intro open_
      exact (kept open_).1.trans (learner (unfinished open_))
    · intro open_
      exact (congrArg ApprovalGate.requests (kept open_).2).trans (requests (unfinished open_))
    · intro open_
      exact (congrArg ApprovalGate.claims (kept open_).2).trans (claims (unfinished open_))
  · obtain ⟨frame, same, kept⟩ := Resolution.frame_of_step? taken
    refine ⟨engine.progress progress, ?_, ?_, Resolution.claims_of_step? keyed claims taken,
      keyed.of_requests frame.requests⟩
    · intro open_
      exact same.trans (learner (unfinished open_))
    · intro open_
      exact (kept open_).trans (requests (unfinished open_))

theorem touches_of_isFresh {gate : Gate K} (keyed : gate.approvals.Keyed) {call : Call}
    (fresh : call.IsFresh) : call.Touches gate gate := by
  have phase := phase_of_isFresh fresh
  refine ⟨?_, fun _ => rfl, fun _ => rfl, ?_, keyed⟩
  · rw [phase]
    exact ⟨gate.engine.refusal, rfl⟩
  · cases call with
    | review unit course => exact fun _ => rfl
    | resolution ruling course =>
        have same : course = .submitted ruling := fresh
        subst same
        rfl

end Call

/-! ## Requests of a system -/

namespace System

variable [KeyProvider K]

theorem keyed_of_reachable {permitted : Gate.Operation → Prop} {system : System K}
    (reached : system.Reachable permitted) : system.gate.approvals.Keyed := by
  induction reached with
  | start engineStarted gateStarted =>
      rw [Gate.eq_of_start gateStarted]
      exact nofun
  | @move system later before moves keyed =>
      cases moves with
      | submit | refuse | serve | wait => exact keyed
      | @step index call next now later found stepped =>
          rcases Call.step?_cases stepped with
            ⟨unit, course, following, rfl, rfl, taken⟩ |
            ⟨ruling, course, following, rfl, rfl, taken⟩
          · exact keyed.of_requests (Review.frame_of_step? taken).1.requests
          · exact keyed.of_requests (Resolution.frame_of_step? taken).1.requests
      | @operate operation now allowed free =>
          rcases Gate.perform_cases system.gate now operation with
            ⟨asked, rfl, same⟩ | ⟨records, change⟩
          · exact keyed
          · have approvals := change.approvals
            exact keyed.of_requests (.inl (congrArg ApprovalGate.requests approvals))

end System

/-! ## No trace -/

/-- All that can be seen of a gate from outside is as it was. -/
structure Gate.Untouched (gate later : Gate K) : Prop where
  ledger : later.engine.ledger = gate.engine.ledger
  identities : later.engine.identities = gate.engine.identities
  history : later.engine.history = gate.engine.history
  keys : later.engine.keys = gate.engine.keys
  held : later.engine.held = gate.engine.held
  library : later.library = gate.library
  reviews : later.learner.reviews = gate.learner.reviews
  knownGood : later.learner.knownGood = gate.learner.knownGood
  requests : later.approvals.requests = gate.approvals.requests
  claims : later.approvals.claims = gate.approvals.claims

theorem Call.Touches.untouched {first gate : Gate K} {call : Call} {cause : GateError}
    (touches : call.Touches first gate) (failed : call.result? = some (.error cause)) :
    first.Untouched gate := by
  have before := phase_of_error failed
  obtain ⟨engine, learner, requests, claims, -⟩ := touches
  have open_ : call.phase ≠ .after := by
    rw [before]
    nofun
  rw [before] at engine
  obtain ⟨refusal, same⟩ := engine
  have kept := learner open_
  refine ⟨?_, ?_, ?_, ?_, ?_, ?_, ?_, ?_, requests open_, ?_⟩
  · rw [same]
  · rw [same]
  · rw [same]
  · rw [same]
  · rw [same]
  · rw [Gate.library, kept]
    rfl
  · rw [kept]
  · rw [kept]
  · cases call with
    | review unit course => exact claims open_
    | resolution ruling course =>
        cases course with
        | finished result =>
            cases failed
            exact claims
        | _ => contradiction

namespace System

variable [KeyProvider K]

/-- Whatever has happened before, and whatever makes it fail, a call that ends with an error leaves
everything as it was. -/
theorem untouched_of_failure {system later : System K} {call failed : Call} {cause : GateError}
    (reached : system.Reachable fun _ => True) (fresh : call.IsFresh)
    (alone : Alone system.calls.length { system with calls := system.calls ++ [call] } later)
    (found : later.calls[system.calls.length]? = some failed)
    (failure : failed.result? = some (.error cause)) : system.gate.Untouched later.gate := by
  have touched : ∀ last : System K,
      Alone system.calls.length { system with calls := system.calls ++ [call] } last →
      ∃ reached : Call, last.calls[system.calls.length]? = some reached ∧
        reached.Touches system.gate last.gate := by
    intro last run
    induction run with
    | refl =>
        exact ⟨call, List.getElem?_concat_length, Call.touches_of_isFresh
          (keyed_of_reachable reached) fresh⟩
    | @step middle old next now gate before present stepped inductionHypothesis =>
        obtain ⟨known, same, touches⟩ := inductionHypothesis
        rw [same] at present
        cases present
        have below := (List.getElem?_eq_some_iff.mp same).1
        exact ⟨next, List.getElem?_set_self below, touches.step stepped⟩
    | refuse before refusal inductionHypothesis =>
        obtain ⟨known, same, touches⟩ := inductionHypothesis
        obtain ⟨engine, learner, requests, claims, keyed⟩ := touches
        exact ⟨known, same, engine.refuse refusal, learner, requests, claims, keyed⟩
    | serve _ _ _ inductionHypothesis | wait _ _ inductionHypothesis =>
        obtain ⟨known, same, touches⟩ := inductionHypothesis
        obtain ⟨engine, learner, requests, claims, keyed⟩ := touches
        exact ⟨known, same, engine, learner, requests, claims, keyed⟩
  obtain ⟨last, same, touches⟩ := touched later alone
  rw [same] at found
  cases found
  exact touches.untouched failure

/-- A review whose batch the ledger refuses fails, and nothing shows that it was there. -/
theorem untouched_refused_review :
    ∃ (system later : System LocalKeys) (failed : Call) (cause : GateError),
      system.Reachable (fun _ => True) ∧ later.Reachable (fun _ => True) ∧
      later.calls = [failed] ∧ failed.result? = some (.error cause) ∧
      system.gate.Untouched later.gate := by
  obtain ⟨log, reached⟩ : ∃ log, System.Reachable (fun _ => True)
      ⟨Small.gateOver Small.staffed, [], log⟩ := Small.reachable trivial
  let call : Call := .review Small.unit (.submitted Small.unit)
  have fresh : call.IsFresh := rfl
  let first : System LocalKeys := ⟨Small.gateOver Small.staffed, [call], log⟩
  let full : Gate LocalKeys :=
    Small.gateOver { Small.staffed with refusal := fun _ => some (.unavailable "full") }
  have refused : Alone 0 first { first with gate := full } := Alone.refl.refuse _
  have ends : ((call.advance? Small.now 7 full).bind fun answer =>
      answer.1.result?.map fun result => result.toOption.isSome) = some false := by decide +kernel
  obtain ⟨⟨next, last⟩, advanced, found⟩ := Option.bind_eq_some_iff.mp ends
  obtain ⟨result, finished, unsuccessful⟩ := Option.map_eq_some_iff.mp found
  obtain ⟨later, alone, -, calls⟩ := alone_of_advance? refused rfl advanced
  have present : later.calls[0]? = some next := by
    rw [calls]
    rfl
  have arrived : later.Reachable fun _ => True := (reached.move (.submit fresh)).alone alone
  cases result with
  | ok outcome => contradiction
  | error cause =>
      exact ⟨_, later, next, cause, reached, arrived, calls, finished,
        untouched_of_failure reached fresh alone present finished⟩

end System

end ReviewGate
