import ReviewGate.Proofs.Gate.Approval
import ReviewGate.Proofs.Gate.FailClosed
import ReviewGate.Proofs.Gate.Promises
import ReviewGate.Proofs.Gate.Records

/-!
# Requests under many calls

A review that holds its unit issues a request under a fresh id, and files it when its commit has
taken effect.  No id is drawn twice, so whatever is filed is new at the gate; and the resolutions of
a system are attempts side by side.
-/

namespace ReviewGate

variable {K : Type}

/-! ## Issued requests -/

/-- A new request under one of the ids of a supply, numbered from `first` on and below `last`. -/
structure ApprovalRequest.Drawn (text : Nat → String) (first last : Nat)
    (request : ApprovalRequest) : Prop where
  opened : ∃ now verdict critical trail,
    request = .ofVerdict request.id now verdict critical trail
  number : ∃ number, first ≤ number ∧ number < last ∧ request.id = "approval-" ++ text number

namespace ApprovalRequest.Drawn

variable {text : Nat → String} {first middle last : Nat} {request other : ApprovalRequest}

theorem mono (drawn : request.Drawn text first middle) {start : Nat} (earlier : start ≤ first)
    (later : middle ≤ last) : request.Drawn text start last := by
  obtain ⟨opened, number, above, below, named⟩ := drawn
  exact ⟨opened, number, Nat.le_trans earlier above, Nat.lt_of_lt_of_le below later, named⟩

/-- Requests from two stretches of one supply have different ids. -/
theorem id_ne (distinct : Function.Injective text) (drawn : request.Drawn text first middle)
    (after : other.Drawn text middle last) : other.id ≠ request.id := by
  obtain ⟨-, number, -, below, named⟩ := drawn
  obtain ⟨-, next, above, -, called⟩ := after
  intro same
  rw [called, named] at same
  have equal := distinct (String.append_right_inj _ |>.mp same)
  omega

end ApprovalRequest.Drawn

namespace Gate

theorem drawn_requestFor (gate : Gate K) (now : Instant) (dossier : Dossier) (verdict : Verdict)
    {request : ApprovalRequest}
    (made : (gate.requestFor now dossier verdict).1 = some request) :
    request.Drawn gate.ids.text gate.ids.drawn
      (gate.requestFor now dossier verdict).2.ids.drawn := by
  unfold requestFor at made ⊢
  split
  · rename_i held
    rw [if_pos held] at made
    cases made
    exact ⟨⟨now, verdict, dossier.critical, dossier.trail.states, rfl⟩, gate.ids.drawn,
      Nat.le_refl _, Nat.lt_succ_self _, rfl⟩
  · rename_i decided
    rw [if_neg decided] at made
    contradiction

theorem drawn_emit (gate : Gate K) (now : Instant) (dossier : Dossier) (verdict : Verdict)
    {promise : Promise} {request : ApprovalRequest}
    (promised : (gate.emit now dossier verdict).1.promise? = some promise)
    (held : promise.request = some request) :
    request.Drawn gate.ids.text gate.ids.drawn (gate.emit now dossier verdict).2.ids.drawn := by
  unfold emit at promised ⊢
  split at promised
  · contradiction
  · rename_i passed _
    dsimp only at promised ⊢
    split at promised
    · contradiction
    · cases promised
      exact gate.drawn_requestFor now passed verdict held

theorem promise?_askVerifier (gate : Gate K) (now : Instant) (dossier : Dossier) :
    (gate.askVerifier now dossier).1.promise? = none := by
  unfold askVerifier
  split
  · rfl
  · split <;> rfl

theorem promise?_leaveContracts (gate : Gate K) (now : Instant) (dossier : Dossier)
    (opinion : Option Opinion) : (gate.leaveContracts now dossier opinion).1.promise? = none := by
  unfold leaveContracts
  split
  · rfl
  · split
    · split
      · exact promise?_askVerifier ..
      · rfl
    · rfl

theorem promise?_scanUnit (gate : Gate K) (now : Instant) (unit : CodeUnit) (stage : Stage)
    (coolingOff : Bool) : (gate.scanUnit now unit stage coolingOff).1.promise? = none := by
  unfold scanUnit
  dsimp only
  split
  · rfl
  · split
    · unfold askChecker
      dsimp only
      split
      · exact promise?_leaveContracts ..
      · rfl
    · rfl

end Gate

namespace Review

theorem promise?_eq_none_iff {review : Review} :
    review.promise? = none ↔ review.phase = .before := by
  cases review with
  | finished result => cases result <;> simp [promise?, phase]
  | _ => simp [promise?, phase]

/-- A review begins to promise something when it leaves its last tier. -/
theorem emits_of_step? {now : Instant} {gate later : Gate K} {review next : Review}
    {promise : Promise} (unpromised : review.promise? = none)
    (promised : next.promise? = some promise)
    (stepped : step? now gate review = some (next, later)) :
    ∃ dossier verdict, gate.emit now dossier verdict = (next, later) := by
  have without : ∀ answer : Review × Gate K, answer.1.promise? = none →
      answer ≠ (next, later) := by
    rintro answer nothing rfl
    rw [nothing] at promised
    contradiction
  cases step_of_step? stepped with
  | emit emitted => exact ⟨_, _, emitted⟩
  | scan scanned => exact absurd scanned (without _ (gate.promise?_scanUnit ..))
  | check elapsed left => exact absurd left (without _ (gate.promise?_leaveContracts ..))
  | deepen elapsed concluded => exact absurd concluded (without _ rfl)
  | invalid | unknown | stage | lost | queue | grant | learn | unready | prepare | unwritten | write
  | unsettled | settle | file | publish | finish => contradiction

end Review

namespace Resolution

theorem promise?_eq_none_iff {resolution : Resolution} :
    resolution.promise? = none ↔ resolution.phase = .before := by
  cases resolution with
  | finished result => cases result <;> simp [promise?, phase]
  | _ => simp [promise?, phase]

/-- A resolution issues no request. -/
theorem request_eq_none {resolution : Resolution} {promise : Promise}
    (promised : resolution.promise? = some promise) : promise.request = none := by
  cases resolution with
  | submitted => contradiction
  | committing | writing | settling | storing =>
      cases promised
      rfl
  | finished result =>
      cases result with
      | error cause => contradiction
      | ok outcome =>
          cases promised
          rfl

end Resolution

namespace Call

/-- The request that a call has issued. -/
def issued? (call : Call) : Option ApprovalRequest := call.promise?.bind (·.request)

def issuedId? (call : Call) : Option String := call.issued?.map (·.id)

/-- A call promises something from when it asks for its commit. -/
theorem promise?_eq_none_iff {call : Call} : call.promise? = none ↔ call.phase = .before := by
  cases call with
  | review unit course => exact Review.promise?_eq_none_iff
  | resolution ruling course => exact Resolution.promise?_eq_none_iff

theorem issued?_of_isFresh {call : Call} (fresh : call.IsFresh) : call.issued? = none := by
  rw [issued?, promise?_eq_none_iff.mpr (phase_of_isFresh fresh), Option.bind_none]

/-- A step keeps the request that has been issued, or it draws an id for a new one. -/
theorem issued_of_step? {now : Instant} {gate later : Gate K} {call next : Call}
    {request : ApprovalRequest} (stepped : call.step? now gate = some (next, later))
    (issued : next.issued? = some request) :
    call.issued? = some request ∨ call.issued? = none ∧
      request.Drawn gate.ids.text gate.ids.drawn later.ids.drawn := by
  obtain ⟨promise, promised, held⟩ := Option.bind_eq_some_iff.mp issued
  cases known : call.promise? with
  | some earlier =>
      have unfailed : next.phase ≠ .before := by
        rw [ne_eq, ← promise?_eq_none_iff, promised]
        simp
      have kept := promise?_of_step? known stepped unfailed
      rw [promised] at kept
      cases kept
      left
      rw [issued?, known]
      exact held
  | none =>
      right
      refine ⟨by rw [issued?, known, Option.bind_none], ?_⟩
      rcases step?_cases stepped with
        ⟨unit, course, following, rfl, rfl, taken⟩ | ⟨ruling, course, following, -, rfl, -⟩
      · obtain ⟨dossier, verdict, emitted⟩ := Review.emits_of_step? known promised taken
        have landed : (gate.emit now dossier verdict).1.promise? = some promise := by
          rw [emitted]
          exact promised
        have drawn := gate.drawn_emit now dossier verdict landed held
        rw [emitted] at drawn
        exact drawn
      · rw [Resolution.request_eq_none promised] at held
        contradiction

end Call

/-! ## Moves -/

namespace EventType

/-- Whether an event tells of requests for approval. -/
def isOfRequests : EventType → Bool
  | .approvalRequested | .approvalResolved => true
  | _ => false

theorem isOfRequests_of_isOwn {eventType : EventType} (own : eventType.isOwn = true) :
    eventType.isOfRequests = false := by
  cases eventType <;> first | rfl | contradiction

theorem IsOfLibrary.isOfRequests {eventType : EventType} (library : eventType.IsOfLibrary) :
    eventType.isOfRequests = false := by
  rcases library with rfl | rfl | rfl <;> rfl

end EventType

/-- An operation whose caller writes no event of requests. -/
def Gate.Operation.LeavesRequests : Gate.Operation → Prop
  | .engine (.commit commit) =>
      ∀ record ∈ commit.events, record.eventType.isOfRequests = false
  | _ => True

/-- What is no step of a call: no request changes, and no entry tells of one. -/
structure Gate.Aside (gate later : Gate K) : Prop where
  ids : gate.ids.Later later.ids
  approvals : later.approvals = gate.approvals
  ledger : ∃ records, later.engine.ledger = gate.engine.ledger.append records ∧
    ∀ record ∈ records, record.eventType.isOfRequests = false

namespace System

/-- What a move does to calls and requests: it adds a call, one call takes a step, or neither. -/
inductive Turn (system later : System K) : Prop where
  | fresh {call : Call} (fresh : call.IsFresh) (calls : later.calls = system.calls ++ [call])
      (gate : later.gate = system.gate)
  | step {before after : List Call} {call next : Call} {now : Instant}
      (calls : system.calls = before ++ call :: after)
      (changed : later.calls = before ++ next :: after)
      (stepped : call.step? now system.gate = some (next, later.gate))
  | aside (calls : later.calls = system.calls) (gate : system.gate.Aside later.gate)

theorem mem_calls_of_step {system later : System K} {before after : List Call}
    {call next other : Call} (calls : system.calls = before ++ call :: after)
    (changed : later.calls = before ++ next :: after) (membership : other ∈ later.calls) :
    other ∈ system.calls ∨ other = next := by
  rw [changed, List.mem_append, List.mem_cons] at membership
  rw [calls, List.mem_append, List.mem_cons]
  rcases membership with old | same | old
  · exact .inl (.inl old)
  · exact .inr same
  · exact .inl (.inr (.inr old))

variable [KeyProvider K]

theorem aside_perform {system : System K} (recorded : system.Recorded) (now : Instant)
    {operation : Gate.Operation} (leaves : operation.LeavesRequests)
    (free : operation.IsFree system.gate.engine) :
    system.gate.Aside (system.gate.perform now operation) := by
  rcases Gate.perform_cases system.gate now operation with ⟨asked, rfl, same⟩ | ⟨records, change⟩
  · obtain ⟨records, written, kinds⟩ := Engine.written_perform recorded.keyed now free
    rw [same]
    refine ⟨.refl _, rfl, records, written.ledger, ?_⟩
    intro record membership
    rcases kinds record membership with own | ⟨commit, rfl, given⟩
    · exact EventType.isOfRequests_of_isOwn own
    · exact leaves record given
  · refine ⟨change.ids, change.approvals, records, ?_, fun record membership =>
      (change.types record membership).isOfRequests⟩
    rw [change.engine]

theorem Move.turn {system later : System K} (recorded : system.Recorded)
    (moves : Move Gate.Operation.LeavesRequests system later) : system.Turn later := by
  have nothing : ∃ records, system.gate.engine.ledger =
      system.gate.engine.ledger.append records ∧
      ∀ record ∈ records, record.eventType.isOfRequests = false :=
    ⟨[], (Ledger.append_nil _).symm, by simp⟩
  cases moves with
  | submit fresh => exact .fresh fresh rfl rfl
  | @step index call next now gate found stepped =>
      obtain ⟨before, after, split, changed⟩ := exists_split_of_getElem? found next
      exact .step split changed stepped
  | operate now leaves free => exact .aside rfl (aside_perform recorded now leaves free)
  | refuse | serve | wait => exact .aside rfl ⟨.refl _, rfl, nothing⟩

/-- What holds at the start and is kept by every turn holds always. -/
@[elab_as_elim]
theorem Reachable.turns {motive : System K → Prop} {system : System K}
    (reached : system.Reachable Gate.Operation.LeavesRequests)
    (start : ∀ gate : Gate K, gate.approvals = .empty → gate.engine.ledger = [] →
      motive ⟨gate, [], []⟩)
    (kept : ∀ earlier later : System K, earlier.Reachable Gate.Operation.LeavesRequests →
      earlier.Turn later → motive earlier → motive later) : motive system := by
  induction reached with
  | start engineStarted gateStarted =>
      apply start
      · rw [Gate.eq_of_start gateStarted]
      · rw [Gate.eq_of_start gateStarted, (Engine.start_eq_ok engineStarted).2]
  | move before moves holds =>
      exact kept _ _ before (moves.turn (recorded_of_reachable before)) holds

end System

/-! ## The ids of a system -/

theorem Call.ids_of_step? {now : Instant} {gate later : Gate K} {call next : Call}
    (stepped : call.step? now gate = some (next, later)) : gate.ids.Later later.ids := by
  rcases step?_cases stepped with
    ⟨unit, course, following, rfl, rfl, taken⟩ | ⟨ruling, course, following, rfl, rfl, taken⟩
  · exact (Review.frame_of_step? taken).1.ids
  · exact (Resolution.frame_of_step? taken).1.ids

namespace System

/-- Every request of a call has an id that has been drawn, and no two have the same. -/
structure Issued (system : System K) : Prop where
  drawn : ∀ call ∈ system.calls, ∀ request, call.issued? = some request →
    request.Drawn system.gate.ids.text 0 system.gate.ids.drawn
  distinct : (system.calls.filterMap Call.issuedId?).Nodup

namespace Issued

variable {system later : System K}

/-- The ids of the other calls and of one that has taken a step. -/
theorem step (issued : system.Issued) (injective : Function.Injective system.gate.ids.text)
    {before after : List Call} {call next : Call} {now : Instant}
    (calls : system.calls = before ++ call :: after)
    (changed : later.calls = before ++ next :: after)
    (stepped : call.step? now system.gate = some (next, later.gate)) : later.Issued := by
  have ids := Call.ids_of_step? stepped
  have known : ∀ other ∈ system.calls, ∀ request, other.issued? = some request →
      request.Drawn system.gate.ids.text 0 later.gate.ids.drawn := by
    intro other membership request holds
    exact (issued.drawn other membership request holds).mono (Nat.le_refl 0) ids.drawn
  have distinct := issued.distinct
  rw [calls, (filterMap_middle _ _ _ _).nodup_iff] at distinct
  constructor
  · intro other membership request holds
    rw [ids.text]
    rcases mem_calls_of_step calls changed membership with old | rfl
    · exact known other old request holds
    · rcases Call.issued_of_step? stepped holds with had | ⟨-, drawn⟩
      · exact known call (by simp [calls]) request had
      · exact drawn.mono (Nat.zero_le _) (Nat.le_refl _)
  · rw [changed, (filterMap_middle _ _ _ _).nodup_iff]
    have rest := distinct.sublist (List.sublist_append_right _ _)
    cases holds : next.issued? with
    | none => simpa [Call.issuedId?, holds] using rest
    | some request =>
        have named : next.issuedId? = some request.id := by
          rw [Call.issuedId?, holds, Option.map_some]
        rw [named, Option.toList_some, List.singleton_append]
        rcases Call.issued_of_step? stepped holds with had | ⟨-, drawn⟩
        · have same : call.issuedId? = some request.id := by
            rw [Call.issuedId?, had, Option.map_some]
          rw [same] at distinct
          exact distinct
        · refine List.nodup_cons.mpr ⟨?_, rest⟩
          intro repeated
          obtain ⟨other, membership, named⟩ := List.mem_filterMap.mp repeated
          obtain ⟨earlier, held, same⟩ := Option.map_eq_some_iff.mp named
          have present : other ∈ system.calls := by
            rw [calls]
            rcases List.mem_append.mp membership with old | old <;> simp [old]
          have before := issued.drawn other present earlier held
          exact before.id_ne injective drawn same.symm

theorem turn (issued : system.Issued) (injective : Function.Injective system.gate.ids.text)
    (turn : system.Turn later) : later.Issued := by
  cases turn with
  | @fresh call fresh calls gate =>
      have nothing := Call.issued?_of_isFresh fresh
      have unnamed : call.issuedId? = none := by rw [Call.issuedId?, nothing, Option.map_none]
      constructor
      · intro other membership request holds
        rw [gate]
        rw [calls] at membership
        rcases List.mem_append.mp membership with old | new
        · exact issued.drawn other old request holds
        · rw [List.mem_singleton.mp new, nothing] at holds
          contradiction
      · rw [calls]
        simpa [unnamed] using issued.distinct
  | step calls changed stepped => exact issued.step injective calls changed stepped
  | aside calls gate =>
      constructor
      · intro call membership request holds
        rw [calls] at membership
        rw [gate.ids.text]
        exact (issued.drawn call membership request holds).mono (Nat.le_refl 0) gate.ids.drawn
      · rw [calls]
        exact issued.distinct

end Issued

theorem Turn.ids {system later : System K} (turn : system.Turn later) :
    system.gate.ids.Later later.gate.ids := by
  cases turn with
  | fresh fresh calls gate =>
      rw [gate]
      exact .refl _
  | step calls changed stepped => exact Call.ids_of_step? stepped
  | aside calls gate => exact gate.ids

theorem issued_of_reachable [KeyProvider K] {system : System K}
    (reached : system.Reachable Gate.Operation.LeavesRequests)
    (injective : Function.Injective system.gate.ids.text) : system.Issued := by
  revert injective
  refine reached.turns ?_ ?_
  · intro gate _ _ _
    exact ⟨by simp, by simp⟩
  · intro earlier later _ turn issued injective
    rw [turn.ids.text] at injective
    exact (issued injective).turn injective turn

end System

/-! ## The desk of a system -/

namespace Resolution

/-- The attempt that a resolution makes. -/
def attempt : Resolution → Attempt.Course Float
  | .submitted _ => .submitted
  | .committing settlement _ | .writing settlement _ | .settling settlement _ _ =>
      .finalizing settlement.resolved
  | .storing settlement score => .storing settlement.resolved score
  | .finished (.error cause) => .finished (.error cause)
  | .finished (.ok outcome) =>
      match outcome.approval, outcome.trustScore with
      | some resolved, some score => .finished (.ok (resolved, score))
      | _, _ => .dropped

theorem follows_attempt {ruling : Ruling} {resolution : Resolution}
    (belongs : resolution.Of ruling) : resolution.Follows ruling resolution.attempt := by
  cases resolution with
  | submitted asked =>
      have same : asked = ruling := belongs
      subst same
      exact .submitted
  | committing settlement commit => exact .committing
  | writing settlement prepared => exact .writing
  | settling settlement prepared hashes => exact .settling
  | storing settlement score => exact .storing
  | finished result =>
      cases result with
      | error cause => exact .failed
      | ok outcome =>
          obtain ⟨settlement, score, -, rfl⟩ := belongs
          exact .succeeded

theorem Follows.attempt_eq {ruling : Ruling} {resolution : Resolution}
    {course : Attempt.Course Float} (follows : resolution.Follows ruling course) :
    resolution.attempt = course := by
  cases follows <;> rfl

theorem attempt_ne_looking (resolution : Resolution) (request : ApprovalRequest) :
    resolution.attempt ≠ .looking request := by
  unfold attempt
  split
  case h_7 => split <;> simp
  all_goals simp

/-- Only storing a request changes what is stored. -/
theorem requests_of_step? {now : Instant} {gate later : Gate K} {resolution next : Resolution}
    (stepped : step? now gate resolution = some (next, later)) :
    later.approvals.requests = gate.approvals.requests ∨
    ∃ settlement score, resolution = .storing settlement score ∧
      later.approvals.requests =
        gate.approvals.requests.insert settlement.resolved.id settlement.resolved := by
  cases step_of_step? stepped with
  | claim =>
      have unfinished := (progress_of_step? stepped).ne_after (by simp [phase]) (by simp [phase])
      exact .inl ((frame_of_step? stepped).2.2 unfinished)
  | refuse | unready | prepare | unwritten | write | unsettled | settle => exact .inl rfl
  | @store settlement score => exact .inr ⟨settlement, score, rfl, rfl⟩

end Resolution

/-- The request that a review has filed. -/
def Review.filed? : Review → Option ApprovalRequest
  | .publishing emission _ _ => emission.request
  | .finished (.ok outcome) => outcome.approval
  | _ => none

/-- A step of a review files the request that it has issued, or it leaves all requests alone. -/
theorem Review.filed_of_step? {now : Instant} {gate later : Gate K} {review next : Review}
    (stepped : step? now gate review = some (next, later)) :
    later.approvals = gate.approvals ∧ next.filed? = review.filed? ∨
    ∃ promise request, review.phase = .after ∧ review.promise? = some promise ∧
      promise.request = some request ∧ review.filed? = none ∧ next.filed? = some request ∧
      later.approvals = gate.approvals.insert request := by
  have frame := (frame_of_step? stepped).2
  have early : (∀ prepared, review.phase ≠ .settling prepared) → review.phase ≠ .after →
      later.approvals = gate.approvals ∧ next.phase ≠ .after := fun unsettled unfinished =>
    have behind := (progress_of_step? stepped).ne_after unsettled unfinished
    ⟨(frame behind).2, behind⟩
  have unfiled : next.phase ≠ .after → next.filed? = none := by
    intro behind
    cases next with
    | publishing => exact absurd rfl behind
    | finished result =>
        cases result with
        | error cause => rfl
        | ok outcome => exact absurd rfl behind
    | _ => rfl
  cases step_of_step? stepped with
  | @file emission score =>
      cases held : emission.request with
      | none => exact .inl ⟨rfl, held⟩
      | some request => exact .inr ⟨_, request, rfl, rfl, held, rfl, held, rfl⟩
  | publish applied =>
      rw [Gate.publish_eq] at applied
      split at applied <;> cases applied <;> exact .inl ⟨rfl, rfl⟩
  | unsettled | settle | finish => exact .inl ⟨rfl, rfl⟩
  | _ =>
      obtain ⟨kept, behind⟩ := early (by simp [phase]) (by simp [phase])
      exact .inl ⟨kept, unfiled behind⟩

namespace Call

/-- The attempt that a call makes at a request. -/
def attempt? : Call → Option (Attempt Float)
  | .review .. => none
  | .resolution ruling course => some ⟨ruling, course.attempt⟩

/-- The request that a call has filed. -/
def filed? : Call → Option ApprovalRequest
  | .review _ course => course.filed?
  | .resolution .. => none

def filedId? (call : Call) : Option String := call.filed?.map (·.id)

theorem issued?_of_filed? {call : Call} {request : ApprovalRequest}
    (filed : call.filed? = some request) : call.issued? = some request := by
  cases call with
  | resolution ruling course => contradiction
  | review unit course =>
      cases course with
      | publishing emission score left => exact filed
      | finished result =>
          cases result with
          | error cause => contradiction
          | ok outcome => exact filed
      | _ => contradiction

theorem filed?_of_isFresh {call : Call} (fresh : call.IsFresh) : call.filed? = none := by
  cases call with
  | review unit course =>
      have same : course = .submitted unit := fresh
      rw [same]
      rfl
  | resolution ruling course => rfl

end Call

namespace System

/-- The approval gate of a system with the attempts at its requests. -/
def desk (system : System K) : Desk Float :=
  ⟨system.gate.approvals, system.calls.filterMap Call.attempt?⟩

/-- The attempts agree with the gate, and its requests are those that have been filed. -/
structure Filed (system : System K) : Prop where
  desk : system.desk.Sound
  filed : ∀ id, (system.gate.approvals.get? id).isSome = true ↔
    id ∈ system.calls.filterMap Call.filedId?

variable {system later : System K}

theorem Filed.review (filed : system.Filed) (issued : system.Issued) {before after : List Call}
    {unit : CodeUnit} {review next : Review} {now : Instant}
    (calls : system.calls = before ++ .review unit review :: after)
    (changed : later.calls = before ++ .review unit next :: after)
    (stepped : review.step? now system.gate = some (next, later.gate)) : later.Filed := by
  have attempts : later.calls.filterMap Call.attempt? = system.calls.filterMap Call.attempt? := by
    simp [calls, changed, List.filterMap_cons, Call.attempt?]
  have desk := filed.desk
  have tracked := filed.filed
  have filers : ∀ (course : Review) (id : String),
      id ∈ (before ++ Call.review unit course :: after).filterMap Call.filedId? ↔
        id ∈ (course.filed?.map (·.id)).toList ++
          (before ++ after).filterMap Call.filedId? := fun course id =>
    (filterMap_middle Call.filedId? before after (.review unit course)).mem_iff
  rcases Review.filed_of_step? stepped with
    ⟨approvals, same⟩ | ⟨promise, request, -, promised, held, unfiled, files, approvals⟩
  · constructor
    · rw [System.desk, approvals, attempts]
      exact desk
    · intro id
      rw [approvals, tracked, calls, changed, filers, filers, same]
  · have issues : (Call.review unit review).issued? = some request := by
      rw [Call.issued?, Call.promise?, promised]
      exact held
    have present : Call.review unit review ∈ system.calls := by simp [calls]
    obtain ⟨⟨now, verdict, critical, trail, made⟩, -⟩ := issued.drawn _ present request issues
    -- Whoever had filed a request under this id would have issued it as well.
    have fresh : system.gate.approvals.get? request.id = none := by
      rw [← Option.not_isSome_iff_eq_none, tracked]
      intro taken
      obtain ⟨other, membership, named⟩ := List.mem_filterMap.mp taken
      obtain ⟨earlier, filedBefore, same⟩ := Option.map_eq_some_iff.mp named
      obtain ⟨i, here⟩ := List.mem_iff_getElem?.mp present
      obtain ⟨j, there⟩ := List.mem_iff_getElem?.mp membership
      have ofReview : (Call.review unit review).issuedId? = some request.id := by
        rw [Call.issuedId?, issues, Option.map_some]
      have ofOther : other.issuedId? = some request.id := by
        rw [Call.issuedId?, Call.issued?_of_filed? filedBefore, Option.map_some, same]
      have equal := eq_of_nodup_filterMap issued.distinct here there ofReview ofOther
      subst equal
      rw [here] at there
      cases there
      have nothing : review.filed? = some earlier := filedBefore
      rw [unfiled] at nothing
      contradiction
    constructor
    · have received := desk.receive fresh now verdict critical trail
      rw [← made] at received
      rw [System.desk, approvals, attempts]
      exact received
    · intro id
      have inserted : later.gate.approvals.get? id =
          if request.id = id then some request else system.gate.approvals.get? id := by
        rw [approvals]
        exact Table.get?_insert request.id id request system.gate.approvals.requests
      have before := tracked id
      rw [calls, filers, unfiled, Option.map_none, Option.toList_none, List.nil_append] at before
      rw [inserted, changed, filers, files, Option.map_some, Option.toList_some,
        List.singleton_append, List.mem_cons, ← before]
      by_cases same : request.id = id
      · simp [same]
      · simp [same, Ne.symm same]

theorem Filed.resolution (filed : system.Filed) {before after : List Call} {ruling : Ruling}
    {resolution next : Resolution} {now : Instant}
    (calls : system.calls = before ++ .resolution ruling resolution :: after)
    (changed : later.calls = before ++ .resolution ruling next :: after)
    (belongs : resolution.Of ruling)
    (stepped : resolution.step? now system.gate = some (next, later.gate)) : later.Filed := by
  have split : ∀ (gate : ApprovalGate) (course : Resolution), Desk.mk gate
      ((before ++ Call.resolution ruling course :: after).filterMap Call.attempt?) =
      ⟨gate, before.filterMap Call.attempt? ++
        ⟨ruling, course.attempt⟩ :: after.filterMap Call.attempt?⟩ := by
    intro gate course
    simp [Call.attempt?]
  have desk := filed.desk
  rw [System.desk, calls, split] at desk
  have unread : ∀ attempt ∈ before.filterMap Call.attempt? ++ after.filterMap Call.attempt?,
      ∀ request, attempt.course ≠ .looking request := by
    intro attempt membership request
    rw [← List.filterMap_append] at membership
    obtain ⟨call, -, made⟩ := List.mem_filterMap.mp membership
    cases call with
    | review unit course => contradiction
    | resolution ruling course =>
        cases made
        exact course.attempt_ne_looking request
  obtain ⟨course, follows, run⟩ := Resolution.run_of_step?
    (Resolution.follows_attempt belongs) desk unread stepped
  constructor
  · rw [System.desk, changed, split, follows.attempt_eq]
    exact desk.run run
  · intro id
    have filers : later.calls.filterMap Call.filedId? = system.calls.filterMap Call.filedId? := by
      simp [calls, changed, List.filterMap_cons, Call.filedId?, Call.filed?]
    rw [filers, ← filed.filed]
    unfold ApprovalGate.get?
    rcases Resolution.requests_of_step? stepped with same | ⟨settlement, score, rfl, inserted⟩
    · rw [same]
    · -- The request that is stored has been found there before.
      have knows : system.gate.approvals.Resolves ruling settlement.resolved :=
        desk.knows ⟨ruling, .storing settlement.resolved score⟩ (by simp [Resolution.attempt])
      have named := knows.id_eq desk.keyed
      obtain ⟨request, _, looked, -⟩ := knows
      obtain ⟨-, found, -, -⟩ := ApprovalGate.resolvable_eq_ok_iff.mp looked
      unfold ApprovalGate.get? at found
      rw [inserted, Table.get?_insert]
      by_cases same : settlement.resolved.id = id
      · rw [if_pos same, ← same, named, found]
        rfl
      · rw [if_neg same]

theorem belongs_of_reachable [KeyProvider K] {permitted : Gate.Operation → Prop}
    (reached : system.Reachable permitted) :
    ∀ call ∈ system.calls, call.Of system.gate.config := by
  induction reached with
  | start engineStarted gateStarted => simp
  | move before moves belongs =>
      rw [moves.config]
      exact moves.forall_calls belongs (fun _ fresh => Call.of_isFresh fresh _)
        fun _ _ _ _ belonging => Call.of_step? belonging

theorem Filed.turn (filed : system.Filed) (issued : system.Issued)
    (belongs : ∀ call ∈ system.calls, call.Of system.gate.config) (turn : system.Turn later) :
    later.Filed := by
  cases turn with
  | @fresh call fresh calls gate =>
      have nothing : call.filedId? = none := by
        rw [Call.filedId?, Call.filed?_of_isFresh fresh, Option.map_none]
      constructor
      · rw [System.desk, calls, gate, List.filterMap_append]
        cases call with
        | review unit course =>
            have none : [Call.review unit course].filterMap Call.attempt? = [] := rfl
            rw [none, List.append_nil]
            exact filed.desk
        | resolution ruling course =>
            have same : course = .submitted ruling := fresh
            subst same
            exact filed.desk.submit ruling
      · intro id
        rw [gate, filed.filed, calls]
        simp [nothing]
  | @step before after call next now calls changed stepped =>
      rcases Call.step?_cases stepped with
        ⟨unit, course, following, rfl, rfl, taken⟩ | ⟨ruling, course, following, rfl, rfl, taken⟩
      · exact filed.review issued calls changed taken
      · have present : Call.resolution ruling course ∈ system.calls := by simp [calls]
        exact filed.resolution calls changed (belongs _ present) taken
  | aside calls gate =>
      constructor
      · rw [System.desk, calls, gate.approvals]
        exact filed.desk
      · intro id
        rw [gate.approvals, filed.filed, calls]

theorem filed_of_reachable [KeyProvider K]
    (reached : system.Reachable Gate.Operation.LeavesRequests)
    (injective : Function.Injective system.gate.ids.text) : system.Filed := by
  revert injective
  refine reached.turns ?_ ?_
  · intro gate approvals _ _
    constructor
    · have empty : System.desk ⟨gate, [], []⟩ = Desk.empty := by
        rw [System.desk, approvals]
        rfl
      rw [empty]
      exact Desk.sound_empty
    · intro id
      rw [approvals]
      simp [ApprovalGate.empty, ApprovalGate.get?]
  · intro earlier later before turn filed injective
    rw [turn.ids.text] at injective
    exact (filed injective).turn (issued_of_reachable before injective)
      (belongs_of_reachable before) turn

end System

end ReviewGate
