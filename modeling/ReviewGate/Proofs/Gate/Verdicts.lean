import ReviewGate.Proofs.Gate.Agreement
import ReviewGate.Proofs.Gate.Audit

/-!
# What verdicts rest on

A tier that does not accept says why, and one that accepts has nothing against the unit.  Only the
verdict on a resolved request is no opinion of a tier: whichever way the request is decided, it
repeats the violations with which the unit was held, and that can be read before it in the ledger.
-/

namespace ReviewGate

open LedgerRecord

variable {K : Type}

/-! ## Opinions -/

/-- An opinion of a tier, which accepts without violations and says why it does anything else. -/
structure Opinion.Reasoned (opinion : Opinion) : Prop where
  automatic : opinion.tier ≠ .approvalGate
  clean : opinion.status = .pass → opinion.violations = []
  reasoned : opinion.status ≠ .pass → opinion.rationale ≠ ""

namespace Dossier

variable {dossier : Dossier}

theorem reasoned_afterScan {config : GateConfig} {report : ScanReport Float} {opinion : Opinion}
    (formed : (dossier.afterScan config report).2 = some opinion) : opinion.Reasoned := by
  unfold afterScan at formed
  split at formed
  · cases formed
    exact ⟨nofun, nofun, fun _ => by simp [hardBlockOpinion]⟩
  · dsimp only at formed
    split at formed
    · cases formed
      exact ⟨nofun, fun _ => rfl, fun refused => absurd rfl refused⟩
    · split at formed
      · contradiction
      · split at formed
        · cases formed
          exact ⟨nofun, fun _ => rfl, fun refused => absurd rfl refused⟩
        · contradiction

theorem reasoned_withoutChecker {failure : GateError} {opinion : Opinion}
    (formed : (dossier.withoutChecker failure).2 = some opinion) : opinion.Reasoned := by
  unfold withoutChecker at formed
  split at formed
  · cases formed
    exact ⟨nofun, nofun, fun _ => by simp⟩
  · contradiction

theorem reasoned_afterContracts {config : GateConfig}
    {answer : Option (Except ServiceError ContractReport)} {opinion : Opinion}
    (formed : (dossier.afterContracts config answer).2 = some opinion) : opinion.Reasoned := by
  unfold afterContracts at formed
  split at formed
  · split at formed
    · contradiction
    · cases formed
      exact ⟨nofun, nofun, fun _ => by simp [contradictionOpinion]⟩
  · exact reasoned_withoutChecker formed
  · exact reasoned_withoutChecker formed

theorem reasoned_contractsHoldOpinion (dossier : Dossier) :
    dossier.contractsHoldOpinion.Reasoned :=
  ⟨nofun, fun _ => rfl, fun refused => absurd rfl refused⟩

theorem reasoned_afterDeep (dossier : Dossier) (result : DeepResult) :
    (dossier.afterDeep result).2.1.Reasoned := by
  cases result with
  | pass => exact ⟨by simp [afterDeep], fun _ => rfl, by simp [afterDeep]⟩
  | fail violations =>
      simp only [afterDeep, deepFailureOpinion]
      split <;> exact ⟨by simp, by simp, by simp⟩
  | unavailable reason =>
      simp only [afterDeep, withoutDeep]
      split <;> exact ⟨by simp, by simp, by simp⟩

end Dossier

/-! ## Promised verdicts -/

/-- The opinion that a verdict states. -/
def Verdict.opinion (verdict : Verdict) : Opinion :=
  ⟨verdict.status, verdict.tier, verdict.rationale, verdict.violations⟩

/-- The request repeats what the verdict says that holds its unit. -/
structure ApprovalRequest.Cites (request : ApprovalRequest) (verdict : Verdict) : Prop where
  held : verdict.status = .held
  id : request.verdictId = verdict.id
  unit : request.unitId = verdict.unitId
  author : request.requester = verdict.identity
  violations : request.violations = verdict.violations

theorem ApprovalRequest.Cites.resolve {request : ApprovalRequest} {verdict : Verdict}
    (cites : request.Cites verdict) (now : Instant) (ruling : Ruling) :
    (request.resolve now ruling).Cites verdict :=
  ⟨cites.held, cites.id, cites.unit, cites.author, cites.violations⟩

/-- What a promised verdict rests on: the opinion of a tier, or the decision on a request. -/
inductive Promise.Grounded : Promise → Prop
  | opinion {verdict : Verdict} {request : Option ApprovalRequest}
      (reasoned : verdict.opinion.Reasoned)
      (cites : ∀ filed, request = some filed → filed.Cites verdict) :
      Grounded ⟨verdict, request, none⟩
  | decision {resolved : ApprovalRequest} {id : String} {now : Instant} :
      Grounded ⟨resolved.finalVerdict id now, none, some resolved⟩

/-! ## Reviews -/

/-- The verdict of a review is the opinion of a tier. -/
def Review.Reasoned : Review → Prop
  | .learning _ verdict _ => verdict.opinion.Reasoned
  | .committing emission _ | .writing emission _ | .settling emission _ _ | .filing emission _
  | .publishing emission _ _ => (Promise.ofEmission emission).Grounded
  | .finished (.ok outcome) => Promise.Grounded ⟨outcome.verdict, outcome.approval, none⟩
  | _ => True

namespace Gate

variable (gate : Gate K) (now : Instant) (dossier : Dossier)

theorem reasoned_opine {opinion : Opinion} (reasoned : opinion.Reasoned)
    (toLearn : List Violation) : (gate.opine now dossier opinion toLearn).1.Reasoned := reasoned

theorem reasoned_concludeDeep (result : Dossier.DeepResult) :
    (gate.concludeDeep now dossier result).1.Reasoned :=
  gate.reasoned_opine now _ (dossier.reasoned_afterDeep result) _

theorem reasoned_askVerifier : (gate.askVerifier now dossier).1.Reasoned := by
  unfold askVerifier
  split
  · exact gate.reasoned_concludeDeep now dossier _
  · split
    · exact gate.reasoned_concludeDeep now dossier _
    · trivial

theorem reasoned_leaveContracts {opinion : Option Opinion}
    (formed : ∀ reached, opinion = some reached → reached.Reasoned) :
    (gate.leaveContracts now dossier opinion).1.Reasoned := by
  unfold leaveContracts
  split
  · exact gate.reasoned_opine now dossier (formed _ rfl) []
  · split
    · split
      · exact gate.reasoned_askVerifier now _
      · trivial
    · exact gate.reasoned_opine now dossier dossier.reasoned_contractsHoldOpinion []

theorem reasoned_askChecker : (gate.askChecker now dossier).1.Reasoned := by
  unfold askChecker
  dsimp only
  split
  · exact gate.reasoned_leaveContracts now dossier (by simp)
  · trivial

theorem reasoned_scanUnit (unit : CodeUnit) (stage : Stage) (coolingOff : Bool) :
    (gate.scanUnit now unit stage coolingOff).1.Reasoned := by
  unfold scanUnit
  dsimp only
  split
  · rename_i formed
    exact gate.reasoned_opine now _ (Dossier.reasoned_afterScan formed) []
  · split
    · exact gate.reasoned_askChecker now _
    · trivial

theorem reasoned_emit {verdict : Verdict} (reasoned : verdict.opinion.Reasoned) :
    (gate.emit now dossier verdict).1.Reasoned := by
  unfold emit
  split
  · trivial
  · dsimp only
    split
    · trivial
    · refine .opinion reasoned ?_
      intro request filed
      unfold requestFor at filed
      split at filed
      · rename_i held
        cases filed
        exact ⟨held, rfl, rfl, rfl, rfl⟩
      · contradiction

end Gate

namespace Review

theorem Reasoned.step {now : Instant} {gate later : Gate K} {review next : Review}
    (reasoned : review.Reasoned) (stepped : step? now gate review = some (next, later)) :
    next.Reasoned := by
  cases step_of_step? stepped with
  | invalid | unknown | stage | lost | queue | grant | unready | unwritten | unsettled => trivial
  | @scan unit stage coolingOff next later scanned =>
      have scans := gate.reasoned_scanUnit now unit stage coolingOff
      rwa [scanned] at scans
  | @check dossier due answer next later elapsed left =>
      have formed : ∀ opinion, (dossier.afterContracts gate.config answer).2 = some opinion →
          opinion.Reasoned := fun _ => Dossier.reasoned_afterContracts
      have leaves := gate.reasoned_leaveContracts now
        (dossier.afterContracts gate.config answer).1 formed
      rwa [left] at leaves
  | @deepen dossier due answer next later elapsed concluded =>
      have concludes := gate.reasoned_concludeDeep now dossier
        (Dossier.deepResult gate.config answer)
      rwa [concluded] at concludes
  | learn => exact reasoned
  | @emit dossier verdict next later emitted =>
      have emits := gate.reasoned_emit now dossier reasoned
      rwa [emitted] at emits
  | prepare | write | settle | file | finish => exact reasoned
  | @publish emission published score proposal left later applied =>
      have promised : (publishing emission score (proposal :: left)).promise? =
          some (.ofEmission emission) := rfl
      have same : Promise.ofEmission published = .ofEmission emission :=
        Option.some.inj (promise?_of_step? promised stepped nofun)
      change (Promise.ofEmission published).Grounded
      rw [same]
      exact reasoned

theorem Reasoned.grounded {review : Review} (reasoned : review.Reasoned) {promise : Promise}
    (promised : review.promise? = some promise) : promise.Grounded := by
  cases review with
  | committing | writing | settling | filing | publishing =>
      cases promised
      exact reasoned
  | finished result =>
      cases result with
      | error cause => contradiction
      | ok outcome =>
          cases promised
          exact reasoned
  | _ => contradiction

/-- A review resolves no request. -/
theorem resolved_eq_none {review : Review} {promise : Promise}
    (promised : review.promise? = some promise) : promise.resolved = none := by
  cases review with
  | committing | writing | settling | filing | publishing =>
      cases promised
      rfl
  | finished result =>
      cases result with
      | error cause => contradiction
      | ok outcome =>
          cases promised
          rfl
  | _ => contradiction

end Review

/-! ## Resolutions -/

namespace Resolution

/-- What a resolution sets out to write is the decision on a request that is stored. -/
theorem claimed_of_step? {now : Instant} {gate later : Gate K} {resolution next : Resolution}
    {promise : Promise} (unpromised : resolution.promise? = none)
    (promised : next.promise? = some promise)
    (stepped : step? now gate resolution = some (next, later)) :
    ∃ (ruling : Ruling) (request : ApprovalRequest),
      gate.approvals.get? ruling.requestId = some request ∧
        promise.resolved = some (request.resolve now ruling) := by
  cases step_of_step? stepped with
  | @claim ruling resolved approvals next later claimed finalized =>
      obtain ⟨request, claimable, made⟩ := bind_eq_ok_iff.mp claimed
      cases made
      refine ⟨ruling, request, ApprovalGate.get?_of_claimable claimable, ?_⟩
      unfold Gate.finalize at finalized
      split at finalized
      · cases finalized
        contradiction
      · dsimp only at finalized
        split at finalized
        · cases finalized
          contradiction
        · cases finalized
          cases promised
          rfl
  | refuse | unready | prepare | unwritten | write | unsettled | settle | store => contradiction

theorem grounded_of_promise? {ruling : Ruling} {resolution : Resolution} {promise : Promise}
    (belongs : resolution.Of ruling) (promised : resolution.promise? = some promise) :
    promise.Grounded := by
  have decided : ∀ {settlement : Settlement}, settlement.Of ruling →
      (Promise.ofSettlement settlement).Grounded := by
    intro settlement follows
    obtain ⟨id, moment, made⟩ := follows.verdict
    rw [Promise.ofSettlement, made]
    exact .decision
  cases resolution with
  | submitted => contradiction
  | committing settlement commit =>
      cases promised
      exact decided belongs.1
  | writing settlement | settling settlement | storing settlement =>
      cases promised
      exact decided belongs
  | finished result =>
      cases result with
      | error cause => contradiction
      | ok outcome =>
          obtain ⟨settlement, score, follows, rfl⟩ := belongs
          cases promised
          exact decided follows

end Resolution

/-! ## Calls -/

namespace Call

variable {now : Instant} {gate later : Gate K} {call next : Call}

/-- The request that a call resolves was stored when the call set out to write about it. -/
theorem resolved_of_step? {promise : Promise} {resolved : ApprovalRequest}
    (promised : next.promise? = some promise) (resolves : promise.resolved = some resolved)
    (stepped : call.step? now gate = some (next, later)) :
    call.promise? = some promise ∨ ∃ (ruling : Ruling) (request : ApprovalRequest),
      gate.approvals.get? ruling.requestId = some request ∧
        resolved = request.resolve now ruling := by
  cases known : call.promise? with
  | some earlier =>
      have unfailed : next.phase ≠ .before := by
        rw [ne_eq, ← promise?_eq_none_iff, promised]
        simp
      have kept := promise?_of_step? known stepped unfailed
      exact .inl (kept.symm.trans promised)
  | none =>
      rcases step?_cases stepped with
        ⟨unit, course, following, rfl, rfl, taken⟩ | ⟨asked, course, following, rfl, rfl, taken⟩
      · rw [Review.resolved_eq_none promised] at resolves
        contradiction
      · obtain ⟨ruling, request, found, made⟩ := Resolution.claimed_of_step? known promised taken
        rw [made] at resolves
        exact .inr ⟨ruling, request, found, (Option.some.inj resolves).symm⟩

/-- A step stores the request that a call has written about, or it leaves all requests alone. -/
theorem requests_of_step? (stepped : call.step? now gate = some (next, later)) :
    later.approvals.requests = gate.approvals.requests ∨
    ∃ promise request, call.kept? = some promise ∧
      (promise.request = some request ∨ promise.resolved = some request) ∧
      later.approvals.requests = gate.approvals.requests.insert request.id request := by
  rcases step?_cases stepped with
    ⟨unit, course, following, rfl, rfl, taken⟩ | ⟨ruling, course, following, rfl, rfl, taken⟩
  · rcases Review.filed_of_step? taken with
      ⟨same, -⟩ | ⟨promise, request, settled, promised, held, -, -, inserted⟩
    · exact .inl (congrArg ApprovalGate.requests same)
    · refine .inr ⟨promise, request, ?_, .inl held, congrArg ApprovalGate.requests inserted⟩
      have after : (Call.review unit course).phase = .after := settled
      rw [kept?, after]
      exact promised
  · rcases Resolution.requests_of_step? taken with same | ⟨settlement, score, rfl, inserted⟩
    · exact .inl same
    · exact .inr ⟨_, settlement.resolved, rfl, .inr rfl, inserted⟩

/-- What a step adds to the ledger: the batch that the call has promised, or nothing. -/
theorem adds_of_step? (drafts : call.Drafts)
    (recorded : ∀ prepared, call.phase = .settling prepared →
      (gate.engine.record? prepared.identity).isSome = true)
    (stepped : call.step? now gate = some (next, later)) :
    ∃ added, later.engine.ledger = gate.engine.ledger.append added ∧
      (added = [] ∧ next.kept? = call.kept? ∨
        ∃ promise, call.kept? = none ∧ next.kept? = some promise ∧ promise.WrittenAs added) := by
  rcases kept_of_step? drafts recorded stepped with
    ⟨ledger, same⟩ | ⟨promise, batch, unkept, keeps, written, ledger⟩
  · exact ⟨[], ledger.trans (Ledger.append_nil _).symm, .inl ⟨rfl, same⟩⟩
  · exact ⟨batch, ledger, .inr ⟨promise, unkept, keeps, written⟩⟩

/-- The verdict of a review is the opinion of a tier. -/
def Reasoned : Call → Prop
  | .review _ course => course.Reasoned
  | .resolution .. => True

theorem reasoned_of_isFresh (fresh : call.IsFresh) : call.Reasoned := by
  cases call with
  | review unit course =>
      have same : course = .submitted unit := fresh
      rw [same]
      trivial
  | resolution => trivial

theorem Reasoned.step (reasoned : call.Reasoned)
    (stepped : call.step? now gate = some (next, later)) : next.Reasoned := by
  rcases step?_cases stepped with
    ⟨unit, course, following, rfl, rfl, taken⟩ | ⟨ruling, course, following, rfl, rfl, taken⟩
  · exact Review.Reasoned.step reasoned taken
  · trivial

theorem grounded {config : GateConfig} {promise : Promise} (belongs : call.Of config)
    (reasoned : call.Reasoned) (promised : call.promise? = some promise) :
    promise.Grounded := by
  cases call with
  | review unit course => exact Review.Reasoned.grounded reasoned promised
  | resolution ruling course => exact Resolution.grounded_of_promise? belongs promised

theorem promise?_of_kept? {promise : Promise} (kept : call.kept? = some promise) :
    call.promise? = some promise := by
  unfold kept? at kept
  split at kept
  · exact kept
  · exact kept
  · contradiction

/-- A call that has succeeded has written the verdict that it gives. -/
theorem kept?_of_success {outcome : ReviewOutcome} (succeeds : call.result? = some (.ok outcome)) :
    ∃ promise, call.kept? = some promise ∧ promise.verdict = outcome.verdict := by
  cases call with
  | review unit course =>
      cases course with
      | finished result =>
          cases succeeds
          exact ⟨_, rfl, rfl⟩
      | _ => contradiction
  | resolution ruling course =>
      cases course with
      | finished result =>
          cases succeeds
          exact ⟨_, rfl, rfl⟩
      | _ => contradiction

end Call

/-! ## The log -/

/-- A call has written the event of the verdict. -/
def Verdict.WrittenIn (entries : List (Option Nat × LedgerEntry)) (verdict : Verdict) : Prop :=
  ∃ index entry, (some index, entry) ∈ entries ∧ entry.toLedgerRecord = verdict.event

/-- A call has written the verdict that holds the unit of the request. -/
def ApprovalRequest.HeldIn (entries : List (Option Nat × LedgerEntry))
    (request : ApprovalRequest) : Prop :=
  ∃ verdict, request.Cites verdict ∧ verdict.WrittenIn entries

section Growth

variable {entries more : List (Option Nat × LedgerEntry)}

theorem Verdict.WrittenIn.mono {verdict : Verdict} (written : verdict.WrittenIn entries)
    (grown : entries ⊆ more) : verdict.WrittenIn more := by
  obtain ⟨index, entry, present, told⟩ := written
  exact ⟨index, entry, grown present, told⟩

theorem ApprovalRequest.HeldIn.mono {request : ApprovalRequest} (held : request.HeldIn entries)
    (grown : entries ⊆ more) : request.HeldIn more := by
  obtain ⟨verdict, cites, written⟩ := held
  exact ⟨verdict, cites, written.mono grown⟩

end Growth

namespace System

/-- What stands at a position after a move stood there before it, behind the same entries, or it is
new and stands behind all that was there. -/
theorem getElem?_log_moved {system : System K} {later : Gate K} {added : List LedgerRecord}
    (ledger : later.engine.ledger = system.gate.engine.ledger.append added)
    {writer other : Option Nat} {position : Nat} {entry : LedgerEntry}
    (here : (system.moved writer later).log[position]? = some (other, entry)) :
    system.log[position]? = some (other, entry) ∧
      (system.moved writer later).log.take position = system.log.take position ∨
    writer = other ∧ entry ∈ system.gate.engine.ledger.staged added ∧
      system.log ⊆ (system.moved writer later).log.take position := by
  rw [log_moved ledger] at here ⊢
  rcases Nat.lt_or_ge position system.log.length with old | new
  · rw [List.getElem?_append_left old] at here
    exact .inl ⟨here, List.take_append_of_le_length (Nat.le_of_lt old)⟩
  · rw [List.getElem?_append_right new] at here
    obtain ⟨staged, inside, same⟩ := List.mem_map.mp (List.mem_of_getElem? here)
    cases same
    rw [List.take_append, List.take_of_length_le new]
    exact .inr ⟨rfl, inside, List.subset_append_left _ _⟩

/-- Every verdict of a call is in the log once it is written, and that of a decision on a request
stands behind the verdict that holds the unit. -/
structure Traces (system : System K) : Prop where
  log : system.log.map Prod.snd = system.gate.engine.ledger
  kept : ∀ call ∈ system.calls, ∀ promise, call.kept? = some promise →
    promise.verdict.WrittenIn system.log
  stored : ∀ id request, system.gate.approvals.get? id = some request →
    request.HeldIn system.log
  resolved : ∀ call ∈ system.calls, ∀ promise resolved, call.promise? = some promise →
    promise.resolved = some resolved → resolved.HeldIn system.log
  emitted : ∀ (position index : Nat) (entry : LedgerEntry),
    system.log[position]? = some (some index, entry) → entry.eventType = .verdictEmitted →
    ∃ call promise, system.calls[index]? = some call ∧ call.kept? = some promise ∧
      entry.toLedgerRecord = promise.verdict.event ∧
      ∀ resolved, promise.resolved = some resolved →
        resolved.HeldIn (system.log.take position)

namespace Traces

variable {system : System K} {index : Nat} {call next : Call} {now : Instant} {later : Gate K}

theorem resolved_step (traces : system.Traces) (present : call ∈ system.calls)
    (stepped : call.step? now system.gate = some (next, later)) {promise : Promise}
    {resolved : ApprovalRequest} (promised : next.promise? = some promise)
    (resolves : promise.resolved = some resolved) : resolved.HeldIn system.log := by
  rcases Call.resolved_of_step? promised resolves stepped with
    same | ⟨ruling, request, found, rfl⟩
  · exact traces.resolved call present promise resolved same resolves
  · obtain ⟨verdict, cites, written⟩ := traces.stored _ request found
    exact ⟨verdict, cites.resolve now ruling, written⟩

theorem stored_step (traces : system.Traces) (present : call ∈ system.calls)
    (grounded : ∀ promise, call.promise? = some promise → promise.Grounded)
    (stepped : call.step? now system.gate = some (next, later)) {id : String}
    {request : ApprovalRequest} (found : later.approvals.get? id = some request) :
    request.HeldIn system.log := by
  rcases Call.requests_of_step? stepped with
    same | ⟨promise, filed, kept, ofCall, inserted⟩
  · rw [ApprovalGate.get?, same] at found
    exact traces.stored id request found
  · rw [ApprovalGate.get?, inserted, Table.get?_insert] at found
    split at found
    · cases found
      have promised := Call.promise?_of_kept? kept
      rcases ofCall with held | resolves
      · have written := traces.kept call present promise kept
        cases grounded promise promised with
        | opinion reasoned cites => exact ⟨_, cites request held, written⟩
        | decision => contradiction
      · exact traces.resolved call present promise request promised resolves
    · exact traces.stored id request found

/-- The verdict of a batch that a call adds is in the log after that. -/
theorem kept_step {added : List LedgerRecord} {promise : Promise}
    (ledger : later.engine.ledger = system.gate.engine.ledger.append added)
    (written : promise.WrittenAs added) :
    promise.verdict.WrittenIn (system.moved (some index) later).log := by
  have told : promise.verdict.event ∈ added := by
    have single := written.kept.verdicts
    have present : promise.verdict.event ∈ ofType .verdictEmitted added := by simp [single]
    exact List.mem_of_mem_filter present
  rw [← system.gate.engine.ledger.records_staged added] at told
  obtain ⟨entry, staged, same⟩ := List.mem_map.mp told
  refine ⟨index, entry, ?_, same⟩
  rw [log_moved ledger, List.mem_append]
  exact .inr (List.mem_map_of_mem staged)

/-- A call that adds its batch has written nothing before, so its one verdict is new, and all that
was written before stands in front of it. -/
theorem emitted_step (traces : system.Traces) (found : system.calls[index]? = some call)
    (stepped : call.step? now system.gate = some (next, later)) {added : List LedgerRecord}
    (ledger : later.engine.ledger = system.gate.engine.ledger.append added)
    (adds : added = [] ∧ next.kept? = call.kept? ∨
      ∃ promise, call.kept? = none ∧ next.kept? = some promise ∧ promise.WrittenAs added)
    {position writer : Nat} {entry : LedgerEntry}
    (here : (system.moved (some index) later).log[position]? = some (some writer, entry))
    (emits : entry.eventType = .verdictEmitted) :
    ∃ call promise, (system.calls.set index next)[writer]? = some call ∧
      call.kept? = some promise ∧ entry.toLedgerRecord = promise.verdict.event ∧
      ∀ resolved, promise.resolved = some resolved →
        resolved.HeldIn ((system.moved (some index) later).log.take position) := by
  have below := (List.getElem?_eq_some_iff.mp found).1
  rcases getElem?_log_moved ledger here with ⟨old, same⟩ | ⟨⟨⟩, staged, grown⟩
  · rw [same]
    obtain ⟨other, promise, present, kept, told, held⟩ :=
      traces.emitted position writer entry old emits
    by_cases same : index = writer
    · subst same
      rw [found] at present
      cases present
      rcases adds with ⟨-, view⟩ | ⟨_, unkept, -⟩
      · exact ⟨next, promise, List.getElem?_set_self below, view.trans kept, told, held⟩
      · rw [unkept] at kept
        contradiction
    · refine ⟨other, promise, ?_, kept, told, held⟩
      rw [List.getElem?_set_ne same]
      exact present
  · rcases adds with ⟨rfl, -⟩ | ⟨promise, -, keeps, written⟩
    · contradiction
    · have told : entry.toLedgerRecord ∈ ofType .verdictEmitted added := by
        refine List.mem_filter.mpr ⟨?_, decide_eq_true emits⟩
        rw [← system.gate.engine.ledger.records_staged added]
        exact List.mem_map_of_mem staged
      rw [written.kept.verdicts, List.mem_singleton] at told
      refine ⟨next, promise, List.getElem?_set_self below, keeps, told, ?_⟩
      intro resolved resolves
      exact (traces.resolved_step (List.mem_of_getElem? found) stepped
        (Call.promise?_of_kept? keeps) resolves).mono grown

theorem step (traces : system.Traces) (found : system.calls[index]? = some call)
    (stepped : call.step? now system.gate = some (next, later)) (drafts : call.Drafts)
    (recorded : ∀ prepared, call.phase = .settling prepared →
      (system.gate.engine.record? prepared.identity).isSome = true)
    (grounded : ∀ promise, call.promise? = some promise → promise.Grounded) :
    Traces { system.moved (some index) later with calls := system.calls.set index next } := by
  have present := List.mem_of_getElem? found
  obtain ⟨added, ledger, adds⟩ := Call.adds_of_step? drafts recorded stepped
  have grown : system.log ⊆ (system.moved (some index) later).log := by
    rw [log_moved ledger]
    exact List.subset_append_left _ _
  refine ⟨map_log_moved traces.log ledger (some index), ?_, ?_, ?_, ?_⟩
  · intro other membership promise kept
    rcases List.mem_or_eq_of_mem_set membership with old | rfl
    · exact (traces.kept other old promise kept).mono grown
    · rcases adds with ⟨-, view⟩ | ⟨written, -, keeps, fulfils⟩
      · exact (traces.kept call present promise (view.symm.trans kept)).mono grown
      · rw [keeps] at kept
        cases kept
        exact kept_step ledger fulfils
  · intro id request stored
    exact (traces.stored_step present grounded stepped stored).mono grown
  · intro other membership promise resolved promised resolves
    rcases List.mem_or_eq_of_mem_set membership with old | rfl
    · exact (traces.resolved other old promise resolved promised resolves).mono grown
    · exact (traces.resolved_step present stepped promised resolves).mono grown
  · intro position writer entry here emits
    exact traces.emitted_step found stepped ledger adds here emits

theorem submit (traces : system.Traces) {call : Call} (fresh : call.IsFresh) :
    Traces { system with calls := system.calls ++ [call] } := by
  have unpromised : call.promise? = none :=
    Call.promise?_eq_none_iff.mpr (Call.phase_of_isFresh fresh)
  refine ⟨traces.log, ?_, traces.stored, ?_, ?_⟩
  · intro other membership promise kept
    rcases List.mem_append.mp membership with old | new
    · exact traces.kept other old promise kept
    · rw [List.mem_singleton.mp new, Call.kept?_of_isFresh fresh] at kept
      contradiction
  · intro other membership promise resolved promised
    rcases List.mem_append.mp membership with old | new
    · exact traces.resolved other old promise resolved promised
    · rw [List.mem_singleton.mp new, unpromised] at promised
      contradiction
  · intro position writer entry here emits
    obtain ⟨other, promise, present, rest⟩ := traces.emitted position writer entry here emits
    refine ⟨other, promise, ?_, rest⟩
    rw [List.getElem?_append_left (List.getElem?_eq_some_iff.mp present).1]
    exact present

/-- What no call writes is no verdict of a call, and it stores no request. -/
theorem operate (traces : system.Traces) {added : List LedgerRecord}
    (ledger : later.engine.ledger = system.gate.engine.ledger.append added)
    (approvals : later.approvals.requests = system.gate.approvals.requests) :
    (system.moved none later).Traces := by
  have grown : system.log ⊆ (system.moved none later).log := by
    rw [log_moved ledger]
    exact List.subset_append_left _ _
  refine ⟨map_log_moved traces.log ledger none, ?_, ?_, ?_, ?_⟩
  · intro call membership promise kept
    exact (traces.kept call membership promise kept).mono grown
  · intro id request stored
    have found : system.gate.approvals.get? id = some request := by
      rw [ApprovalGate.get?, ← approvals]
      exact stored
    exact (traces.stored id request found).mono grown
  · intro call membership promise resolved promised resolves
    exact (traces.resolved call membership promise resolved promised resolves).mono grown
  · intro position writer entry here emits
    rcases getElem?_log_moved ledger here with ⟨old, same⟩ | ⟨⟨⟩, -, -⟩
    rw [same]
    exact traces.emitted position writer entry old emits

end Traces

variable [KeyProvider K] {permitted : Gate.Operation → Prop} {system later : System K}

/-- What an operation adds to the ledger; the requests it leaves alone. -/
theorem adds_of_perform (recorded : system.Recorded) (now : Instant)
    {operation : Gate.Operation} (free : operation.IsFree system.gate.engine) :
    ∃ added, (system.gate.perform now operation).engine.ledger =
        system.gate.engine.ledger.append added ∧
      (system.gate.perform now operation).approvals = system.gate.approvals := by
  rcases Gate.perform_cases system.gate now operation with ⟨asked, rfl, same⟩ | ⟨records, change⟩
  · obtain ⟨records, written, -⟩ := Engine.written_perform recorded.keyed now free
    rw [same]
    exact ⟨records, written.ledger, rfl⟩
  · refine ⟨records, ?_, change.approvals⟩
    rw [change.engine]

theorem grounded_of_reachable (reached : system.Reachable permitted) :
    ∀ call ∈ system.calls, ∀ promise, call.promise? = some promise → promise.Grounded := by
  have reasoned : ∀ call ∈ system.calls, call.Reasoned :=
    reached.forall_calls (fun _ fresh => Call.reasoned_of_isFresh fresh)
      fun _ _ _ _ _ kept stepped => kept.step stepped
  intro call membership promise promised
  exact Call.grounded (belongs_of_reachable reached call membership) (reasoned call membership)
    promised

theorem traces_of_reachable (reached : system.Reachable permitted) : system.Traces := by
  induction reached with
  | start engineStarted gateStarted =>
      have empty := (Engine.start_eq_ok engineStarted).2
      rw [Gate.eq_of_start gateStarted, empty]
      exact ⟨rfl, by simp, by simp [ApprovalGate.empty, ApprovalGate.get?], by simp, by simp⟩
  | @move system later before moves traces =>
      have recorded := recorded_of_reachable before
      cases moves with
      | submit fresh => exact traces.submit fresh
      | @step index call next now gate found stepped =>
          have present := List.mem_of_getElem? found
          refine traces.step found stepped (drafts_of_reachable before call present) ?_
            (grounded_of_reachable before call present)
          intro prepared settling
          exact recorded.held call present prepared.identity (by rw [settling]; rfl)
      | operate now allowed free =>
          obtain ⟨added, ledger, approvals⟩ := adds_of_perform recorded now free
          exact traces.operate ledger (congrArg ApprovalGate.requests approvals)
      | refuse | serve | wait =>
          exact ⟨traces.log, traces.kept, traces.stored, traces.resolved, traces.emitted⟩

end System

/-! ## What verdicts rest on -/

/-- A verdict says why unless it accepts, and it accepts without violations; but the verdict on a
request repeats the violations with which a call has held the unit before. -/
structure Verdict.Founded (before : List (Option Nat × LedgerEntry)) (verdict : Verdict) :
    Prop where
  reasoned : verdict.status ≠ .pass → verdict.rationale ≠ ""
  clean : verdict.status = .pass → verdict.tier ≠ .approvalGate → verdict.violations = []
  repeated : verdict.tier = .approvalGate → ∃ held : Verdict, held.WrittenIn before ∧
    held.status = .held ∧ held.unitId = verdict.unitId ∧ held.identity = verdict.identity ∧
    held.violations = verdict.violations

theorem Promise.Grounded.founded {promise : Promise} (grounded : promise.Grounded)
    {before : List (Option Nat × LedgerEntry)}
    (held : ∀ resolved, promise.resolved = some resolved → resolved.HeldIn before) :
    promise.verdict.Founded before := by
  cases grounded with
  | opinion reasoned cites =>
      exact ⟨reasoned.reasoned, fun passes _ => reasoned.clean passes,
        fun asked => absurd asked reasoned.automatic⟩
  | @decision resolved id now =>
      refine ⟨fun _ => ?_, fun _ automatic => absurd rfl automatic, fun _ => ?_⟩
      · simp [ApprovalRequest.finalVerdict]
      · obtain ⟨verdict, cites, written⟩ := held resolved rfl
        exact ⟨verdict, written, cites.held, cites.unit.symm, cites.author.symm,
          cites.violations.symm⟩

namespace System

/-- Every verdict in the ledger that a call has written is the one to which the call has come, and
rests on what was written before. -/
structure Justified (system : System K) : Prop where
  log : system.log.map Prod.snd = system.gate.engine.ledger
  verdicts : ∀ (position index : Nat) (entry : LedgerEntry),
    system.log[position]? = some (some index, entry) → entry.eventType = .verdictEmitted →
    ∃ call promise, system.calls[index]? = some call ∧ call.promise? = some promise ∧
      entry.toLedgerRecord = promise.verdict.event ∧
      promise.verdict.Founded (system.log.take position)

/-- Whatever the checker and the verifier answer and however calls are interleaved, every verdict
that does not accept says why; and one that accepts has no violations, unless somebody approves a
held unit by it, when it has those with which the unit was held. -/
theorem justified_of_reachable [KeyProvider K] {permitted : Gate.Operation → Prop}
    {system : System K} (reached : system.Reachable permitted) : system.Justified := by
  have traces := traces_of_reachable reached
  refine ⟨traces.log, ?_⟩
  intro position index entry here emits
  obtain ⟨call, promise, present, kept, told, held⟩ :=
    traces.emitted position index entry here emits
  have promised := Call.promise?_of_kept? kept
  have grounded := grounded_of_reachable reached call (List.mem_of_getElem? present) promise
    promised
  exact ⟨call, promise, present, promised, told, grounded.founded held⟩

/-! ## An approval -/

open ReviewGate.Small

/-- The verifier fails a critical unit with a violation, and somebody else approves the unit. -/
theorem exists_approved : ∃ (system : System LocalKeys) (call : Call) (outcome : ReviewOutcome),
    system.Reachable Gate.Operation.LeavesRequests ∧ call ∈ system.calls ∧
      call.result? = some (.ok outcome) ∧ outcome.verdict.status = .pass ∧
      outcome.verdict.violations = [⟨some 1, .injection, "unsafe call"⟩] := by
  let critical : CodeUnit := { Small.unit with critical := some true }
  let failing : DeepVerifier := fun _ _ =>
    .after 0 (.ok ⟨.fail, [⟨some 1, .injection, "unsafe call"⟩]⟩)
  let review : Call := .review critical (.submitted critical)
  let ruling : Ruling := ⟨"approval-3", "bob", .approve, "reviewed by hand"⟩
  let resolution : Call := .resolution ruling (.submitted ruling)
  let gate : Gate LocalKeys := gateWith strict .empty (some failing) staffed
  have valid : strict.validate = .ok () := by rfl
  have started := reachable_with valid (by decide) .empty (some failing)
    (show Gate.Operation.LeavesRequests _ from trivial)
  have submitted := started.move (.submit (show review.IsFresh from rfl))
  have ends : ((review.advance? now 12 gate).bind fun held =>
      (resolution.advance? now 5 held.2).bind fun answer =>
        (answer.1.result?.bind Except.toOption).map fun outcome =>
          (outcome.verdict.status, outcome.verdict.violations)) =
      some (.pass, [⟨some 1, .injection, "unsafe call"⟩]) := by decide +kernel
  obtain ⟨⟨reviewed, middle⟩, advanced, rest⟩ := Option.bind_eq_some_iff.mp ends
  obtain ⟨⟨resolved, later⟩, continued, rest⟩ := Option.bind_eq_some_iff.mp rest
  obtain ⟨outcome, concluded, same⟩ := Option.map_eq_some_iff.mp rest
  obtain ⟨result, finished, succeeds⟩ := Option.bind_eq_some_iff.mp concluded
  obtain ⟨holding, reached, rfl, calls⟩ := reachable_of_advance? submitted rfl advanced
  let asking : System LocalKeys := { holding with calls := holding.calls ++ [resolution] }
  have asked : asking.Reachable Gate.Operation.LeavesRequests :=
    reached.move (.submit (show resolution.IsFresh from rfl))
  have second : asking.calls[1]? = some resolution := by simp [asking, calls]
  have begun : Alone 1 asking asking := .refl
  obtain ⟨last, alone, rfl, changed⟩ := alone_of_advance? begun second continued
  refine ⟨last, resolved, outcome, asked.alone alone, ?_, ?_, congrArg Prod.fst same,
    congrArg Prod.snd same⟩
  · simp [changed, asking, calls]
  · cases result with
    | error cause => contradiction
    | ok answer =>
        cases succeeds
        exact finished

theorem justified_approved : ∃ (system : System LocalKeys) (call : Call)
    (outcome : ReviewOutcome), system.Reachable Gate.Operation.LeavesRequests ∧
      call ∈ system.calls ∧ call.result? = some (.ok outcome) ∧
      outcome.verdict.status = .pass ∧ outcome.verdict.violations ≠ [] ∧ system.Justified := by
  obtain ⟨system, call, outcome, reached, present, result, passes, violations⟩ := exists_approved
  exact ⟨system, call, outcome, reached, present, result, passes, by simp [violations],
    justified_of_reachable reached⟩

/-- The ledger tells of a verdict that accepts with a violation. -/
theorem exists_accepted_with_violations : ∃ (system : System LocalKeys) (index : Nat)
    (entry : LedgerEntry) (verdict : Verdict), system.Reachable Gate.Operation.LeavesRequests ∧
      (some index, entry) ∈ system.log ∧ entry.toLedgerRecord = verdict.event ∧
      verdict.status = .pass ∧ verdict.violations ≠ [] := by
  obtain ⟨system, call, outcome, reached, present, result, passes, violations⟩ := exists_approved
  obtain ⟨promise, kept, same⟩ : ∃ promise, call.kept? = some promise ∧
      promise.verdict = outcome.verdict := Call.kept?_of_success result
  obtain ⟨index, entry, logged, told⟩ :=
    (traces_of_reachable reached).kept call present promise kept
  rw [same] at told
  exact ⟨system, index, entry, outcome.verdict, reached, logged, told, passes,
    by simp [violations]⟩

end System

end ReviewGate
