import ReviewGate.Gate.Rules
import ReviewGate.Proofs.Gate.Course

/-!
# A gate under many calls

Any number of reviews and resolutions on one gate.  A step of one call runs without interruption;
between two steps others may take theirs, callers may use the engine and the library, the storage
may change its mind, the services may answer otherwise, and time may pass.
-/

namespace ReviewGate

variable {K : Type}

/-- A call in progress, with what was asked. -/
inductive Call where
  | review (unit : CodeUnit) (course : Review)
  | resolution (ruling : Ruling) (course : Resolution)

namespace Call

/-- No step has been taken. -/
def IsFresh : Call → Prop
  | .review unit course => course = .submitted unit
  | .resolution ruling course => course = .submitted ruling

def step? (now : Instant) (gate : Gate K) : Call → Option (Call × Gate K)
  | .review unit course =>
      (course.step? now gate).map fun (next, later) => (.review unit next, later)
  | .resolution ruling course =>
      (course.step? now gate).map fun (next, later) => (.resolution ruling next, later)

/-- The result of a call, once there is one. -/
def result? : Call → Option (Except GateError ReviewOutcome)
  | .review _ (.finished result) => some result
  | .resolution _ (.finished result) => some result
  | _ => none

/-- What was reviewed and what came of it, once a review has succeeded. -/
def reviewed? : Call → Option (CodeUnit × ReviewOutcome)
  | .review unit (.finished (.ok outcome)) => some (unit, outcome)
  | _ => none

theorem eq_of_reviewed? {call : Call} {unit : CodeUnit} {outcome : ReviewOutcome}
    (reviewed : call.reviewed? = some (unit, outcome)) :
    call = .review unit (.finished (.ok outcome)) := by
  unfold reviewed? at reviewed
  split at reviewed
  · cases reviewed
    rfl
  · contradiction

/-- What was reviewed and the state in which its review has ended. -/
def ending? (call : Call) : Option (CodeUnit × ReviewState) :=
  call.reviewed?.map fun reviewed => (reviewed.1, reviewed.2.state)

theorem exists_of_ending? {call : Call} {unit : CodeUnit} {state : ReviewState}
    (ended : call.ending? = some (unit, state)) :
    ∃ outcome : ReviewOutcome, call = .review unit (.finished (.ok outcome)) ∧
      outcome.state = state := by
  obtain ⟨⟨asked, outcome⟩, reviewed, same⟩ := Option.map_eq_some_iff.mp ended
  injection same with about reached
  exact ⟨outcome, about ▸ eq_of_reviewed? reviewed, reached⟩

def phase : Call → Phase
  | .review _ course => course.phase
  | .resolution _ course => course.phase

theorem phase_of_isFresh {call : Call} (fresh : call.IsFresh) : call.phase = .before := by
  cases call with
  | review unit course =>
      have same : course = .submitted unit := fresh
      subst same
      rfl
  | resolution ruling course =>
      have same : course = .submitted ruling := fresh
      subst same
      rfl

theorem phase_of_error {call : Call} {cause : GateError}
    (failed : call.result? = some (.error cause)) : call.phase = .before := by
  cases call with
  | review unit course =>
      cases course with
      | finished result =>
          cases failed
          rfl
      | _ => contradiction
  | resolution ruling course =>
      cases course with
      | finished result =>
          cases failed
          rfl
      | _ => contradiction

/-- A step of a call is a step of its review or of its resolution. -/
theorem step?_cases {now : Instant} {gate later : Gate K} {call next : Call}
    (stepped : call.step? now gate = some (next, later)) :
    (∃ unit course following, call = .review unit course ∧ next = .review unit following ∧
      course.step? now gate = some (following, later)) ∨
    ∃ ruling course following, call = .resolution ruling course ∧
      next = .resolution ruling following ∧
      course.step? now gate = some (following, later) := by
  cases call with
  | review unit course =>
      obtain ⟨⟨following, reached⟩, taken, same⟩ := Option.map_eq_some_iff.mp stepped
      cases same
      exact .inl ⟨unit, course, following, rfl, rfl, taken⟩
  | resolution ruling course =>
      obtain ⟨⟨following, reached⟩, taken, same⟩ := Option.map_eq_some_iff.mp stepped
      cases same
      exact .inr ⟨ruling, course, following, rfl, rfl, taken⟩

theorem progress_of_step? {now : Instant} {gate later : Gate K} {call next : Call}
    (stepped : call.step? now gate = some (next, later)) :
    gate.engine.Progress call.phase next.phase later.engine := by
  rcases step?_cases stepped with
    ⟨unit, course, following, rfl, rfl, taken⟩ | ⟨ruling, course, following, rfl, rfl, taken⟩
  · exact Review.progress_of_step? taken
  · exact Resolution.progress_of_step? taken

end Call

namespace Gate

/-! ## Uses of the library by their results -/

theorem applyProposal_eq (gate : Gate K) (proposal : Proposal) :
    gate.applyProposal proposal =
      match gate.learner.apply proposal with
      | .ok (learned, learner) => (.ok learned, { gate with learner })
      | .error cause => (.error (.library cause), gate) := by
  simp only [applyProposal, Learner.applyInPlace_eq]
  rcases gate.learner.apply proposal with cause | ⟨learned, learner⟩ <;> rfl

/-! ## Other uses of a gate -/

/-- What callers ask of a gate or of its engine besides reviews and resolutions. -/
inductive Operation where
  | engine (operation : Engine.Operation Float)
  | addKnownGood (sample : String)
  | learn (fragment : String) (violation : Violation) (sourceVerdict : String)
  | activate (reviewId : String) (revised : Option Matcher)
  | discard (reviewId : String)
  | deactivate (ruleId : String) (successor : Option String)

/-- An operation on a record waits while the record is held. -/
def Operation.IsFree (engine : Engine Float K) : Operation → Prop
  | .engine operation => engine.isHeld operation.identity = false
  | _ => True

/-- The gate after an operation. -/
def perform [KeyProvider K] (now : Instant) (gate : Gate K) : Operation → Gate K
  | .engine operation => { gate with engine := gate.engine.perform now operation }
  | .addKnownGood sample => gate.addKnownGood sample
  | .learn fragment violation sourceVerdict =>
      (gate.learnFromProduction now fragment violation sourceVerdict).2
  | .activate reviewId revised => (gate.activateReview now reviewId revised).2
  | .discard reviewId => (gate.discardReviewInPlace reviewId).2
  | .deactivate ruleId successor => (gate.deactivateRule now ruleId successor).2

end Gate

namespace EventType

/-- The types of the events that concern the library. -/
def IsOfLibrary (eventType : EventType) : Prop :=
  eventType = .ruleActivated ∨ eventType = .ruleQueuedForReview ∨ eventType = .ruleDeactivated

end EventType

namespace Gate

/-- What a use of the library can do: it may write events that concern the library. -/
structure LibraryChange (gate later : Gate K) (records : List LedgerRecord) : Prop where
  ids : gate.ids.Later later.ids
  types : ∀ record ∈ records, record.eventType.IsOfLibrary
  engine : later.engine = { gate.engine with ledger := gate.engine.ledger.append records }
  config : later.config = gate.config
  approvals : later.approvals = gate.approvals
  checker : later.checker = gate.checker
  verifier : later.verifier = gate.verifier

theorem libraryChange_nil {gate later : Gate K} (ids : gate.ids.Later later.ids)
    (engine : later.engine = gate.engine) (config : later.config = gate.config)
    (approvals : later.approvals = gate.approvals)
    (checker : later.checker = gate.checker) (verifier : later.verifier = gate.verifier) :
    gate.LibraryChange later [] where
  ids := ids
  types := by simp
  engine := by rw [engine, Ledger.append_nil]
  config := config
  approvals := approvals
  checker := checker
  verifier := verifier

theorem libraryChange_refl (gate : Gate K) : gate.LibraryChange gate [] :=
  libraryChange_nil (.refl gate.ids) rfl rfl rfl rfl rfl

theorem writeEvents_eq_ok {gate later : Gate K} {records : List LedgerRecord}
    (written : gate.writeEvents records = .ok later) :
    later = { gate with
      engine := { gate.engine with ledger := gate.engine.ledger.append records } } := by
  unfold writeEvents at written
  split at written
  · rename_i hashes engine wrote
    obtain ⟨-, -, rfl⟩ := Engine.write_eq_ok_iff.mp wrote
    cases written
    rfl
  · contradiction

theorem writeEvents_eq_error {gate : Gate K} {records : List LedgerRecord} {cause : GateError}
    (refused : gate.writeEvents records = .error cause) : ∃ refusal, cause = .ledger refusal := by
  unfold writeEvents at refused
  split at refused
  · contradiction
  · cases refused
    exact ⟨_, rfl⟩

theorem proposalEvent?_type {gate : Gate K} {proposal : Proposal} {sourceVerdict : String}
    {now : Instant} {record : LedgerRecord}
    (event : gate.proposalEvent? proposal sourceVerdict now = some record) :
    record.eventType.IsOfLibrary := by
  cases proposal with
  | activate rule =>
      cases event
      exact .inl rfl
  | queue item =>
      cases event
      exact .inr (.inl rfl)
  | duplicate rule => contradiction

theorem libraryChange_applyProposal (gate : Gate K) (proposal : Proposal) :
    gate.LibraryChange (gate.applyProposal proposal).2 [] := by
  rw [applyProposal_eq]
  split <;> exact libraryChange_nil (.refl gate.ids) rfl rfl rfl rfl rfl

theorem learnFromProduction_cases (gate : Gate K) (now : Instant) (fragment : String)
    (violation : Violation) (sourceVerdict : String) :
    ∃ records, gate.LibraryChange
      (gate.learnFromProduction now fragment violation sourceVerdict).2 records := by
  have drawn := gate.learner.later_propose now gate.ids
    (Trace.ofViolation fragment violation sourceVerdict .production)
  unfold learnFromProduction
  dsimp only
  split
  · exact ⟨[], libraryChange_nil drawn rfl rfl rfl rfl rfl⟩
  · rename_i proposal _
    split
    · obtain ⟨ids, types, engine, config, approvals, checker, verifier⟩ :=
        libraryChange_applyProposal { gate with ids := _ } proposal
      exact ⟨[], drawn.trans ids, types, engine, config, approvals, checker, verifier⟩
    · rename_i record event
      split
      · exact ⟨[], libraryChange_nil drawn rfl rfl rfl rfl rfl⟩
      · rename_i wrote written
        have same := writeEvents_eq_ok written
        obtain ⟨ids, -, engine, config, approvals, checker, verifier⟩ :=
          libraryChange_applyProposal wrote proposal
        refine ⟨[record], ?_, ?_, ?_, ?_, ?_, ?_, ?_⟩
        · have kept : wrote.ids = (gate.learner.propose now gate.ids
              (Trace.ofViolation fragment violation sourceVerdict .production)).2 := by rw [same]
          rw [kept] at ids
          exact drawn.trans ids
        · intro other membership
          rw [List.mem_singleton.mp membership]
          exact proposalEvent?_type event
        · rw [engine, same, Ledger.append_nil]
        · rw [config, same]
        · rw [approvals, same]
        · rw [checker, same]
        · rw [verifier, same]

/-- What comes of a change of the library that is written down once it is made: it is refused, or it
is made and its entry is refused, or it is made and written. -/
inductive Tells (gate : Gate K) (type : EventType) (changes : Rule → Learner → Prop) :
    Except GateError Rule × Gate K → Prop where
  | refused {cause : GateError} (other : ∀ refusal, cause ≠ .ledger refusal) :
      Tells gate type changes (.error cause, gate)
  | unwritten {rule : Rule} {learner : Learner} (changed : changes rule learner)
      (refusal : LedgerError) :
      Tells gate type changes (.error (.ledger refusal), { gate with learner })
  | written {rule : Rule} {learner : Learner} {record : LedgerRecord}
      (changed : changes rule learner) (ofType : record.eventType = type)
      (named : record.payload.field? "rule_id" = some (.string rule.id)) :
      Tells gate type changes (.ok rule, { gate with
        learner
        engine := { gate.engine with ledger := gate.engine.ledger.append [record] } })

theorem tells_of_writeEvents {gate : Gate K} {type : EventType}
    {changes : Rule → Learner → Prop} {rule : Rule} {learner : Learner} {record : LedgerRecord}
    (changed : changes rule learner) (ofType : record.eventType = type)
    (named : record.payload.field? "rule_id" = some (.string rule.id)) :
    gate.Tells type changes
      (match { gate with learner }.writeEvents [record] with
      | .error cause => (.error cause, { gate with learner })
      | .ok gate => (.ok rule, gate)) := by
  split
  · rename_i cause refused
    obtain ⟨refusal, rfl⟩ := writeEvents_eq_error refused
    exact .unwritten changed refusal
  · rename_i wrote written
    rw [writeEvents_eq_ok written]
    exact .written changed ofType named

theorem tells_activateReview (gate : Gate K) (now : Instant) (reviewId : String)
    (revised : Option Matcher) :
    gate.Tells .ruleActivated
      (fun rule later => gate.learner.activateReview reviewId revised = .ok (rule, later))
      (gate.activateReview now reviewId revised) := by
  rw [activateReview, Learner.activateReviewInPlace_eq]
  rcases gate.learner.activateReview reviewId revised with cause | ⟨rule, learner⟩
  · exact .refused (by simp)
  · refine tells_of_writeEvents rfl rfl ?_
    simp [libraryEvent, Json.field?_ofFields]

theorem tells_deactivateRule (gate : Gate K) (now : Instant) (ruleId : String)
    (successor : Option String) :
    gate.Tells .ruleDeactivated
      (fun rule later => ∃ library, gate.library.deactivate ruleId successor = .ok (rule, library) ∧
        later = { gate.learner with library })
      (gate.deactivateRule now ruleId successor) := by
  rw [deactivateRule, (gate.library.spares_deactivateInPlace ruleId successor).eq_apart,
    ← Library.deactivate]
  rcases gate.library.deactivate ruleId successor with cause | ⟨rule, library⟩
  · refine .refused ?_
    unfold deactivationError
    split <;> simp
  · refine tells_of_writeEvents ?_ rfl ?_
    · exact ⟨library, rfl, rfl⟩
    · simp [libraryEvent, Json.field?_ofFields]

theorem Tells.libraryChange {gate : Gate K} {type : EventType} {changes : Rule → Learner → Prop}
    {answer : Except GateError Rule × Gate K} (tells : gate.Tells type changes answer)
    (ofLibrary : type.IsOfLibrary) : ∃ records, gate.LibraryChange answer.2 records := by
  cases tells with
  | refused other => exact ⟨[], libraryChange_refl gate⟩
  | unwritten changed refusal => exact ⟨[], libraryChange_nil (.refl gate.ids) rfl rfl rfl rfl rfl⟩
  | @written _ _ record changed ofType named =>
      refine ⟨[record], .refl gate.ids, ?_, rfl, rfl, rfl, rfl, rfl⟩
      intro other membership
      rw [List.mem_singleton.mp membership, ofType]
      exact ofLibrary

/-- An operation is one of the engine, or it concerns the library. -/
theorem perform_cases [KeyProvider K] (gate : Gate K) (now : Instant) (operation : Operation) :
    (∃ asked, operation = .engine asked ∧
      gate.perform now operation = { gate with engine := gate.engine.perform now asked }) ∨
    ∃ records, gate.LibraryChange (gate.perform now operation) records := by
  cases operation with
  | engine asked => exact .inl ⟨asked, rfl, rfl⟩
  | addKnownGood sample => exact .inr ⟨[], libraryChange_nil (.refl gate.ids) rfl rfl rfl rfl rfl⟩
  | learn fragment violation sourceVerdict =>
      exact .inr (gate.learnFromProduction_cases now fragment violation sourceVerdict)
  | activate reviewId revised =>
      exact .inr ((gate.tells_activateReview now reviewId revised).libraryChange (.inl rfl))
  | discard reviewId =>
      exact .inr ⟨[], libraryChange_nil (.refl gate.ids) rfl rfl rfl rfl rfl⟩
  | deactivate ruleId successor =>
      exact .inr ((gate.tells_deactivateRule now ruleId successor).libraryChange
        (.inr (.inr rfl)))

end Gate

theorem Gate.eq_of_start {config : GateConfig} {engine : Engine Float K} {library : Library}
    {checker : ContractChecker} {verifier : Option DeepVerifier} {ids : Ids} {gate : Gate K}
    (started : Gate.start config engine library checker verifier ids = .ok gate) :
    gate = {
      config
      engine
      learner := .start config.learning library
      approvals := .empty
      checker
      verifier
      verifierCalls := 0
      permits := .start config.pipeline.capacity
      ids
      timer := 0 } := by
  unfold Gate.start at started
  obtain ⟨_, -, continued⟩ := bind_eq_ok_iff.mp started
  dsimp only at continued
  split at continued
  · contradiction
  · injection continued with same
    exact same.symm

/-! ## Systems and their moves -/

/-- A gate, the calls on it, and the ledger with the call that wrote each entry. -/
structure System (K : Type) where
  gate : Gate K
  calls : List Call
  /-- Entries that no call wrote have no index. -/
  log : List (Option Nat × LedgerEntry)

namespace System

/-- A later state of the gate; what its ledger has more was written by one writer. -/
def moved (system : System K) (writer : Option Nat) (later : Gate K) : System K :=
  { system with
    gate := later
    log := system.log ++
      (later.engine.ledger.drop system.gate.engine.ledger.length).map fun entry => (writer, entry) }

/-- What one writer has written. -/
def written (system : System K) (writer : Option Nat) : List LedgerRecord :=
  (system.log.filter fun entry => entry.1 = writer).map fun entry => entry.2.toLedgerRecord

variable [KeyProvider K]

/-- One move: a new call, a step of a call at any time, another operation where no record is in its
way, a storage that changes its mind, services that answer otherwise from now on, or time that
passes. -/
inductive Move (permitted : Gate.Operation → Prop) : System K → System K → Prop where
  | submit {system : System K} {call : Call} (fresh : call.IsFresh) :
      Move permitted system { system with calls := system.calls ++ [call] }
  | step {system : System K} {index : Nat} {call next : Call} {now : Instant} {later : Gate K}
      (found : system.calls[index]? = some call)
      (stepped : call.step? now system.gate = some (next, later)) :
      Move permitted system
        { system.moved (some index) later with calls := system.calls.set index next }
  | operate {system : System K} {operation : Gate.Operation} (now : Instant)
      (allowed : permitted operation) (free : operation.IsFree system.gate.engine) :
      Move permitted system (system.moved none (system.gate.perform now operation))
  | refuse {system : System K} (refusal : Refusal) :
      Move permitted system { system with
        gate := { system.gate with engine := { system.gate.engine with refusal } } }
  | serve {system : System K} (checker : ContractChecker) (verifier : DeepVerifier) :
      Move permitted system { system with
        gate := { system.gate with
          checker
          verifier := system.gate.verifier.map fun _ => verifier } }
  | wait {system : System K} {timer : Nat} (forward : system.gate.timer ≤ timer) :
      Move permitted system { system with gate := { system.gate with timer } }

/-- A gate that has been started over a new engine, after any number of moves. -/
inductive Reachable (permitted : Gate.Operation → Prop) : System K → Prop where
  | start {trust : TrustConfig Float} {keys : K} {engine : Engine Float K} {config : GateConfig}
      {library : Library} {checker : ContractChecker} {verifier : Option DeepVerifier} {ids : Ids}
      {gate : Gate K} (engineStarted : Engine.start trust keys = .ok engine)
      (gateStarted : Gate.start config engine library checker verifier ids = .ok gate) :
      Reachable permitted ⟨gate, [], []⟩
  | move {system later : System K} (reached : Reachable permitted system)
      (moves : Move permitted system later) : Reachable permitted later

/-- What holds of new calls and is kept by the step of a move holds of all calls after it. -/
theorem Move.forall_calls {permitted : Gate.Operation → Prop} {system later : System K}
    (moves : Move permitted system later) {property : Call → Prop}
    (holds : ∀ call ∈ system.calls, property call) (fresh : ∀ call, call.IsFresh → property call)
    (kept : ∀ (now : Instant) (call next : Call), call ∈ system.calls → property call →
      call.step? now system.gate = some (next, later.gate) → property next) :
    ∀ call ∈ later.calls, property call := by
  cases moves with
  | @submit call new =>
      intro other membership
      rcases List.mem_append.mp membership with old | last
      · exact holds other old
      · rw [List.mem_singleton.mp last]
        exact fresh call new
  | @step index call next now gate found stepped =>
      have present := List.mem_of_getElem? found
      intro other membership
      rcases List.mem_or_eq_of_mem_set membership with old | rfl
      · exact holds other old
      · exact kept now call _ present (holds call present) stepped
  | operate | refuse | serve | wait => exact holds

/-- What holds of new calls and is kept by their steps holds of all calls. -/
theorem Reachable.forall_calls {permitted : Gate.Operation → Prop} {system : System K}
    (reached : system.Reachable permitted) {property : Call → Prop}
    (fresh : ∀ call, call.IsFresh → property call)
    (kept : ∀ (now : Instant) (gate later : Gate K) (call next : Call), property call →
      call.step? now gate = some (next, later) → property next) :
    ∀ call ∈ system.calls, property call := by
  induction reached with
  | start engineStarted gateStarted => simp
  | @move system later before moves holds =>
      exact moves.forall_calls holds fresh fun now call next _ =>
        kept now system.gate later.gate call next

/-- A review that is in a system after a move is new, is where it was, or has taken a step. -/
theorem Move.review_cases {permitted : Gate.Operation → Prop} {system later : System K}
    (moves : Move permitted system later) {index : Nat} {unit : CodeUnit} {review : Review}
    (present : later.calls[index]? = some (.review unit review)) :
    review = .submitted unit ∨ system.calls[index]? = some (.review unit review) ∨
    ∃ before now, system.calls[index]? = some (.review unit before) ∧
      before.step? now system.gate = some (review, later.gate) := by
  cases moves with
  | @submit call fresh =>
      rcases Nat.lt_or_ge index system.calls.length with old | new
      · rw [List.getElem?_append_left old] at present
        exact .inr (.inl present)
      · rw [List.getElem?_append_right new] at present
        have same := List.mem_singleton.mp (List.mem_of_getElem? present)
        rw [← same] at fresh
        exact .inl fresh
  | @step other call next now gate found stepped =>
      by_cases here : other = index
      · subst here
        have below := (List.getElem?_eq_some_iff.mp found).1
        rw [List.getElem?_set_self below] at present
        cases present
        rcases Call.step?_cases stepped with
          ⟨asked, before, following, rfl, same, taken⟩ | ⟨ruling, before, following, -, same, -⟩
        · cases same
          exact .inr (.inr ⟨before, now, found, taken⟩)
        · contradiction
      · rw [List.getElem?_set_ne here] at present
        exact .inr (.inl present)
  | operate | refuse | serve | wait => exact .inr (.inl present)

/-! ## A call that nobody interrupts -/

omit [KeyProvider K] in
/-- Only one call takes steps; meanwhile the storage may change its mind, the services may answer
otherwise and time may pass. -/
inductive Alone (index : Nat) (system : System K) : System K → Prop where
  | refl : Alone index system system
  | step {middle : System K} {call next : Call} {now : Instant} {later : Gate K}
      (before : Alone index system middle) (found : middle.calls[index]? = some call)
      (stepped : call.step? now middle.gate = some (next, later)) :
      Alone index system
        { middle.moved (some index) later with calls := middle.calls.set index next }
  | refuse {middle : System K} (before : Alone index system middle) (refusal : Refusal) :
      Alone index system { middle with
        gate := { middle.gate with engine := { middle.gate.engine with refusal } } }
  | serve {middle : System K} (before : Alone index system middle) (checker : ContractChecker)
      (verifier : DeepVerifier) :
      Alone index system { middle with
        gate := { middle.gate with
          checker
          verifier := middle.gate.verifier.map fun _ => verifier } }
  | wait {middle : System K} {timer : Nat} (before : Alone index system middle)
      (forward : middle.gate.timer ≤ timer) :
      Alone index system { middle with gate := { middle.gate with timer } }

theorem Reachable.alone {permitted : Gate.Operation → Prop} {index : Nat}
    {system later : System K} (reached : system.Reachable permitted)
    (alone : Alone index system later) : later.Reachable permitted := by
  induction alone with
  | refl => exact reached
  | step before found stepped reachedBefore => exact .move reachedBefore (.step found stepped)
  | refuse before refusal reachedBefore => exact .move reachedBefore (.refuse refusal)
  | serve before checker verifier reachedBefore =>
      exact .move reachedBefore (.serve checker verifier)
  | wait before forward reachedBefore => exact .move reachedBefore (.wait forward)

end System

/-- A call after so many steps at one time, if it gets that far without waiting. -/
def Call.advance? (now : Instant) : Nat → Gate K → Call → Option (Call × Gate K)
  | 0, gate, call => some (call, gate)
  | count + 1, gate, call =>
      (call.step? now gate).bind fun (next, later) => advance? now count later next

theorem System.alone_of_advance? {now : Instant} {index count : Nat} {system middle : System K}
    {call next : Call} {later : Gate K} (before : Alone index system middle)
    (found : middle.calls[index]? = some call)
    (advanced : call.advance? now count middle.gate = some (next, later)) :
    ∃ last : System K, Alone index system last ∧ last.gate = later ∧
      last.calls = middle.calls.set index next := by
  induction count generalizing middle call with
  | zero =>
      cases advanced
      refine ⟨middle, before, rfl, ?_⟩
      obtain ⟨below, same⟩ := List.getElem?_eq_some_iff.mp found
      rw [← same, List.set_getElem_self]
  | succ count inductionHypothesis =>
      obtain ⟨⟨following, reached⟩, stepped, continued⟩ := Option.bind_eq_some_iff.mp advanced
      have below := (List.getElem?_eq_some_iff.mp found).1
      obtain ⟨last, alone, gate, calls⟩ := inductionHypothesis (.step before found stepped)
        (List.getElem?_set_self below) continued
      refine ⟨last, alone, gate, ?_⟩
      rw [calls, List.set_set]

/-- A system whose only call goes on without waiting. -/
theorem System.reachable_of_advance? [KeyProvider K] {permitted : Gate.Operation → Prop}
    {now : Instant} {count : Nat} {system : System K} {call next : Call} {later : Gate K}
    (reached : system.Reachable permitted) (calls : system.calls = [call])
    (advanced : call.advance? now count system.gate = some (next, later)) :
    ∃ last : System K, last.Reachable permitted ∧ last.gate = later ∧ last.calls = [next] := by
  have begun : Alone 0 system system := .refl
  have found : system.calls[0]? = some call := by rw [calls]; rfl
  obtain ⟨last, alone, gate, changed⟩ := alone_of_advance? begun found advanced
  refine ⟨last, reached.alone alone, gate, ?_⟩
  rw [changed, calls]
  rfl

/-! ## Calls that take turns -/

namespace System

/-- A call takes a step, unless it has to wait. -/
def turn (now : Instant) (system : System K) (index : Nat) : System K :=
  match system.calls[index]?.bind (·.step? now system.gate) with
  | some (next, later) =>
      { system.moved (some index) later with calls := system.calls.set index next }
  | none => system

/-- What becomes of a system whose calls take turns. -/
def play (now : Instant) (turns : Nat → Nat) (system : System K) : Nat → System K
  | 0 => system
  | moment + 1 => (play now turns system moment).turn now (turns moment)

variable [KeyProvider K] (permitted : Gate.Operation → Prop)

theorem move_turn (now : Instant) (system : System K) (index : Nat) :
    Move permitted system (system.turn now index) := by
  rw [turn]
  split
  · rename_i next later taken
    obtain ⟨call, found, stepped⟩ := Option.bind_eq_some_iff.mp taken
    exact .step found stepped
  · -- A turn that is passed over is a wait of no time.
    exact .wait (Nat.le_refl _)

variable {permitted}

theorem Reachable.play {system : System K} (reached : system.Reachable permitted) (now : Instant)
    (turns : Nat → Nat) (moment : Nat) : (system.play now turns moment).Reachable permitted := by
  induction moment with
  | zero => exact reached
  | succ moment inductionHypothesis =>
      exact inductionHypothesis.move (move_turn permitted now _ _)

end System

/-! ## A small system -/

namespace Small

/-- A gate under the default policy, with no rules and no deep verifier. -/
def gateOver (engine : Engine Float LocalKeys) : Gate LocalKeys where
  config := .default
  engine
  learner := .start .default .empty
  approvals := .empty
  checker := intervalChecker
  verifier := none
  verifierCalls := 0
  permits := .start 16
  ids := ⟨fun number => toString number, 0⟩
  timer := 0

/-- A unit of the author that does nothing. -/
def unit : CodeUnit := ⟨"empty", "ann", "", "", [], some false⟩

/-- A gate under another policy, with rules and perhaps a deep verifier. -/
def gateWith (config : GateConfig) (library : Library) (verifier : Option DeepVerifier)
    (engine : Engine Float LocalKeys) : Gate LocalKeys :=
  { gateOver engine with
    config
    learner := .start config.learning library
    verifier
    permits := .start config.pipeline.capacity }

/-- A policy under which every unit is verified deeply. -/
def strict : GateConfig :=
  { GateConfig.default with
    pipeline := { PipelineConfig.default with acceptance := ⟨0.0, 0.0, 0.0⟩, elevatedRisk := 0.0 } }

/-- The log of a system whose author has been registered. -/
def registered : List (Option Nat × LedgerEntry) := staffed.ledger.map fun entry => (none, entry)

/-- A system with one author is reachable wherever registrations are permitted. -/
theorem reachable_with {permitted : Gate.Operation → Prop} {config : GateConfig}
    (valid : config.validate = .ok ()) (counted : config.pipeline.capacity ≤ Gate.maxCapacity)
    (library : Library) (verifier : Option DeepVerifier)
    (registers : permitted (.engine (.register "ann" .judge 0.4))) :
    System.Reachable permitted ⟨gateWith config library verifier staffed, [], registered⟩ := by
  have engineStarted : Engine.start .default keys = .ok engine := by rfl
  have gateStarted : Gate.start config engine library intervalChecker verifier
      ⟨fun number => toString number, 0⟩ = .ok (gateWith config library verifier engine) := by
    simp [Gate.start, valid, Nat.not_lt.mpr counted, gateWith, gateOver, bind, Except.bind, pure,
      Except.pure]
  have performed : engine.perform now (.register "ann" .judge 0.4) = staffed := by
    have admissible : engine.requireAdmissible "ann" 0.4 = .ok () := by rfl
    exact congrArg Prod.snd (Engine.register_of_accepted rfl admissible rfl rfl)
  have moved := System.Reachable.move (.start engineStarted gateStarted)
    (.operate now registers rfl)
  simp only [Gate.perform, System.moved, gateWith, gateOver, performed] at moved
  exact moved

/-- The system with one author is reachable wherever registrations are permitted. -/
theorem reachable {permitted : Gate.Operation → Prop}
    (registers : permitted (.engine (.register "ann" .judge 0.4))) :
    ∃ log, System.Reachable permitted ⟨gateOver staffed, [], log⟩ := by
  have valid : GateConfig.default.validate = .ok () := by rfl
  exact ⟨registered, reachable_with valid (by decide) .empty none registers⟩

end Small

end ReviewGate
