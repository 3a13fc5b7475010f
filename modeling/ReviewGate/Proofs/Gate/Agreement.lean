import Mathlib.Data.List.Nodup
import ReviewGate.Proofs.Data.Laws
import ReviewGate.Proofs.Gate.Requests

/-!
# The gate and the ledger agree

A request is filed after it has been written down, and stored as resolved after its resolution has
been.  So between calls the requests at the gate are those of which the ledger tells, each once.
One is pending while no entry tells of its resolution; otherwise exactly one does, and the final
verdict and the outcome for the author follow it.
-/

namespace ReviewGate

open LedgerRecord

variable {K : Type}

/-! ## What entries tell -/

/-- The request that an entry names. -/
def LedgerRecord.requestId? (record : LedgerRecord) : Option String :=
  match record.payload.field? "request_id" with
  | some (.string id) => some id
  | _ => none

@[simp]
theorem Gate.requestId?_requestEvent (now : Instant) (request : ApprovalRequest) :
    (requestEvent now request).requestId? = some request.id := by
  simp [requestId?, requestEvent, Json.field?_ofFields]

namespace ApprovalRequest

@[simp]
theorem requestId?_resolutionEvent (request : ApprovalRequest) (now : Instant) :
    (request.resolutionEvent now).requestId? = some request.id := by
  simp [requestId?, resolutionEvent, Json.field?_ofFields]

/-- An entry tells how a request has been resolved. -/
structure ToldBy (request : ApprovalRequest) (record : LedgerRecord) : Prop where
  kind : record.eventType = .approvalResolved
  id : record.requestId? = some request.id
  status : record.payload.field? "status" = some (Named.toJson request.status)
  resolver : ∃ name, request.resolver = some name ∧
    record.payload.field? "resolver" = some (.string name)
  rationale : ∃ text, request.resolution = some text ∧
    record.payload.field? "rationale" = some (.string text)

theorem toldBy_resolutionEvent (request : ApprovalRequest) (claimedAt now : Instant)
    (ruling : Ruling) :
    (request.resolve claimedAt ruling).ToldBy
      ((request.resolve claimedAt ruling).resolutionEvent now) where
  kind := rfl
  id := requestId?_resolutionEvent _ now
  status := by simp [resolutionEvent, Json.field?_ofFields]
  resolver := ⟨ruling.resolver, rfl, by simp [resolutionEvent, resolve, Json.field?_ofFields]⟩
  rationale := ⟨ruling.rationale, rfl, by simp [resolutionEvent, resolve, Json.field?_ofFields]⟩

end ApprovalRequest

/-! ## Batches -/

namespace Promise

/-- The request that is named, where a promise is kept, by an entry of a type. -/
def named? (promise : Promise) : EventType → Option String
  | .approvalRequested => promise.request.map (·.id)
  | .approvalResolved => promise.resolved.map (·.id)
  | _ => none

theorem KeptBy.named {promise : Promise} {records : List LedgerRecord}
    (kept : promise.KeptBy records) {eventType : EventType}
    (ofRequests : eventType.isOfRequests = true) :
    (ofType eventType records).map requestId? = (promise.named? eventType).toList.map some := by
  cases eventType with
  | approvalRequested =>
      obtain ⟨now, requests⟩ := kept.requests
      rw [requests, named?]
      cases promise.request <;> simp
  | approvalResolved =>
      obtain ⟨now, resolutions⟩ := kept.resolutions
      rw [resolutions, named?]
      cases promise.resolved <;> simp
  | _ => contradiction

/-- A batch that tells of a resolution, of the final verdict, and of the outcome for the author. -/
def Decides (resolved : ApprovalRequest) (verdict : Verdict) (batch : List LedgerRecord) : Prop :=
  ∃ (now : Instant) (update : ScoreUpdate Float),
    batch = [resolved.resolutionEvent now, verdict.event, update.event] ∧
      (∃ id moment, verdict = resolved.finalVerdict id moment) ∧
      update.identity = resolved.requester ∧ update.reference = some verdict.id

/-- A batch with all that is promised, in the order in which it is told. -/
structure WrittenAs (promise : Promise) (batch : List LedgerRecord) : Prop where
  kept : promise.KeptBy batch
  decides : ∀ resolved, promise.resolved = some resolved →
    Decides resolved promise.verdict batch

/-- The batch of a resolution has three records, of which the engine adds the last. -/
theorem decides_of_prepare {engine : Engine Float K} {now : Instant} {settlement : Settlement}
    {ruling : Ruling} {prepared : PreparedCommit Float} {L : Type} {gate : Gate L}
    {askedAt : Instant} (belongs : settlement.Of ruling) (keyed : engine.Keyed)
    (ready : engine.prepare now (gate.resolutionCommit askedAt settlement) = .ok prepared) :
    Decides settlement.resolved settlement.verdict prepared.records := by
  obtain ⟨record, window, found, noWindow, -, -, -, changed, written⟩ :=
    Engine.prepare_cases ready
  have windowless : window = none := by simpa [Gate.resolutionCommit] using noWindow
  have owned : record.id = settlement.resolved.requester := keyed _ _ found
  obtain ⟨update, made, about, reference⟩ : ∃ update, prepared.update = some update ∧
      update.identity = record.id ∧ update.reference = some settlement.verdict.id :=
    ⟨_, changed, rfl, rfl⟩
  refine ⟨askedAt, update, ?_, belongs.verdict, about.trans owned, reference⟩
  rw [written, made, windowless]
  rfl

end Promise

namespace Call

/-- A call that holds its record has prepared the batch that it has promised. -/
def Drafts (call : Call) : Prop :=
  ∀ prepared, call.phase = .writing prepared →
    ∃ promise, call.promise? = some promise ∧ promise.WrittenAs prepared.records

theorem writtenAs_of_prepare {engine : Engine Float K} {now : Instant} {config : GateConfig}
    {call : Call} {commit : Commit Float} {prepared : PreparedCommit Float}
    (belongs : call.Of config) (asking : call.phase = .asking commit) (keyed : engine.Keyed)
    (ready : engine.prepare now commit = .ok prepared) :
    ∃ promise, call.promise? = some promise ∧ promise.WrittenAs prepared.records := by
  obtain ⟨promise, promised, asked⟩ := asks_of_phase belongs asking
  refine ⟨promise, promised, (asked.kept keyed ready).2, ?_⟩
  intro resolved settles
  cases call with
  | review unit course =>
      cases course with
      | committing emission commit =>
          cases promised
          contradiction
      | finished result => cases result <;> contradiction
      | _ => contradiction
  | resolution ruling course =>
      cases course with
      | committing settlement asked =>
          cases asking
          cases promised
          cases settles
          obtain ⟨kept, _, gate, askedAt, rfl⟩ := belongs
          exact Promise.decides_of_prepare kept keyed ready
      | finished result => cases result <;> contradiction
      | _ => contradiction

theorem drafts_of_step? {now : Instant} {gate later : Gate K} {call next : Call}
    (belongs : call.Of gate.config) (keyed : gate.engine.Keyed)
    (stepped : call.step? now gate = some (next, later)) : next.Drafts := by
  intro prepared writing
  have progress := progress_of_step? stepped
  generalize origin : call.phase = phase at progress
  generalize later.engine = engine at progress
  rw [writing] at progress
  cases progress with
  | quiet early => rcases early with before | ⟨commit, asking⟩ <;> contradiction
  | prepared free ready =>
      obtain ⟨promise, promised, written⟩ := writtenAs_of_prepare belongs origin keyed ready
      exact ⟨promise, promise?_of_step? promised stepped (by rw [writing]; simp), written⟩

/-- What a call has promised, once it is written. -/
def kept? (call : Call) : Option Promise :=
  match call.phase with
  | .settling _ | .after => call.promise?
  | _ => none

/-- The request that a call has named in an entry of a type. -/
def named? (eventType : EventType) (call : Call) : Option String :=
  call.kept?.bind (·.named? eventType)

theorem kept?_of_isFresh {call : Call} (fresh : call.IsFresh) : call.kept? = none := by
  rw [kept?, phase_of_isFresh fresh]

/-- A step writes the batch that a call has promised, or nothing. -/
theorem kept_of_step? {now : Instant} {gate later : Gate K} {call next : Call}
    (drafts : call.Drafts)
    (recorded : ∀ prepared, call.phase = .settling prepared →
      (gate.engine.record? prepared.identity).isSome = true)
    (stepped : call.step? now gate = some (next, later)) :
    later.engine.ledger = gate.engine.ledger ∧ next.kept? = call.kept? ∨
    ∃ promise batch, call.kept? = none ∧ next.kept? = some promise ∧ promise.WrittenAs batch ∧
      later.engine.ledger = gate.engine.ledger.append batch := by
  have progress := progress_of_step? stepped
  have promises : call.phase ≠ .before → next.phase ≠ .before →
      next.promise? = call.promise? := by
    intro begun unfailed
    obtain ⟨promise, promised⟩ := Option.ne_none_iff_exists'.mp
      (promise?_eq_none_iff.not.mpr begun)
    rw [promised]
    exact promise?_of_step? promised stepped unfailed
  unfold kept?
  generalize origin : call.phase = phase at progress promises ⊢
  generalize target : next.phase = following at progress promises ⊢
  generalize reached : later.engine = engine at progress
  cases progress with
  | quiet early => rcases early with rfl | ⟨commit, rfl⟩ <;> exact .inl ⟨rfl, rfl⟩
  | unready | prepared | refused => exact .inl ⟨rfl, rfl⟩
  | @written prepared accepted =>
      obtain ⟨promise, promised, written⟩ := drafts prepared origin
      exact .inr ⟨promise, prepared.records, rfl, (promises (by simp) (by simp)).trans promised,
        written, rfl⟩
  | @lost prepared missing =>
      have present := recorded prepared origin
      rw [missing] at present
      contradiction
  | settled found => exact .inl ⟨Engine.ledger_settled .., promises (by simp) (by simp)⟩
  | trailing => exact .inl ⟨rfl, promises (by simp) (by simp)⟩

end Call

/-! ## What a ledger tells of requests -/

namespace System

/-- The ledger tells of requests what calls have written, every batch of theirs in one piece. -/
structure Recounts (system : System K) : Prop where
  named : ∀ eventType : EventType, eventType.isOfRequests = true →
    ((ofType eventType system.gate.engine.ledger.records).map requestId?).Perm
      ((system.calls.filterMap (Call.named? eventType)).map some)
  written : ∀ call ∈ system.calls, ∀ promise, call.kept? = some promise →
    ∃ batch, batch <:+: system.gate.engine.ledger.records ∧ promise.WrittenAs batch

variable {system later : System K}

theorem Recounts.step (recounts : system.Recounts) {before after : List Call} {call next : Call}
    {now : Instant} (calls : system.calls = before ++ call :: after)
    (changed : later.calls = before ++ next :: after) (drafts : call.Drafts)
    (recorded : ∀ prepared, call.phase = .settling prepared →
      (system.gate.engine.record? prepared.identity).isSome = true)
    (stepped : call.step? now system.gate = some (next, later.gate)) : later.Recounts := by
  obtain ⟨named, written⟩ := recounts
  rw [calls] at named
  rcases Call.kept_of_step? drafts recorded stepped with
    ⟨ledger, same⟩ | ⟨promise, batch, unkept, keeps, fulfils, ledger⟩
  · have view : ∀ eventType, next.named? eventType = call.named? eventType := by
      intro eventType
      rw [Call.named?, same, Call.named?]
    constructor
    · intro eventType ofRequests
      have before := named eventType ofRequests
      rw [ledger, changed]
      simpa only [List.filterMap_append, List.filterMap_cons, view] using before
    · intro other membership promise kept
      rw [ledger]
      rcases mem_calls_of_step calls changed membership with old | rfl
      · exact written other old promise kept
      · exact written call (by simp [calls]) promise (same.symm.trans kept)
  · constructor
    · intro eventType ofRequests
      have unnamed : call.named? eventType = none := by
        rw [Call.named?, unkept, Option.bind_none]
      have names : next.named? eventType = promise.named? eventType := by
        rw [Call.named?, keeps, Option.bind_some]
      have held := (named eventType ofRequests).trans
        ((filterMap_middle (Call.named? eventType) before after call).map some)
      rw [unnamed, Option.toList_none, List.nil_append] at held
      rw [ledger, changed, Ledger.records_append, ofType_append, List.map_append,
        fulfils.kept.named ofRequests]
      refine List.Perm.trans ?_
        ((filterMap_middle (Call.named? eventType) before after next).map some).symm
      rw [names, List.map_append]
      exact (held.append_right _).trans List.perm_append_comm
    · intro other membership earlier kept
      rw [ledger, Ledger.records_append]
      rcases mem_calls_of_step calls changed membership with old | rfl
      · obtain ⟨piece, inside, same⟩ := written other old earlier kept
        exact ⟨piece, inside.trans (List.prefix_append _ _).isInfix, same⟩
      · rw [keeps] at kept
        cases kept
        exact ⟨batch, (List.suffix_append _ _).isInfix, fulfils⟩

theorem Recounts.turn (recounts : system.Recounts) (drafts : ∀ call ∈ system.calls, call.Drafts)
    (recorded : system.Recorded) (turn : system.Turn later) : later.Recounts := by
  cases turn with
  | @fresh call fresh calls gate =>
      have unkept := Call.kept?_of_isFresh fresh
      constructor
      · intro eventType ofRequests
        have unnamed : call.named? eventType = none := by
          rw [Call.named?, unkept, Option.bind_none]
        rw [gate, calls]
        simpa [unnamed] using recounts.named eventType ofRequests
      · intro other membership promise kept
        rw [gate]
        rw [calls] at membership
        rcases List.mem_append.mp membership with old | new
        · exact recounts.written other old promise kept
        · rw [List.mem_singleton.mp new, unkept] at kept
          contradiction
  | @step before after call next now calls changed stepped =>
      have present : call ∈ system.calls := by simp [calls]
      refine recounts.step calls changed (drafts call present) ?_ stepped
      intro prepared settling
      exact recorded.held call present prepared.identity (by rw [settling]; rfl)
  | aside calls gate =>
      obtain ⟨records, ledger, silent⟩ := gate.ledger
      constructor
      · intro eventType ofRequests
        have nothing : ofType eventType records = [] := by
          rw [ofType_eq_nil_iff]
          intro record membership same
          have quiet := silent record membership
          rw [same, ofRequests] at quiet
          contradiction
        rw [ledger, calls, Ledger.records_append, ofType_append, nothing, List.append_nil]
        exact recounts.named eventType ofRequests
      · intro call membership promise kept
        rw [calls] at membership
        obtain ⟨batch, inside, same⟩ := recounts.written call membership promise kept
        rw [ledger, Ledger.records_append]
        exact ⟨batch, inside.trans (List.prefix_append _ _).isInfix, same⟩

theorem drafts_of_reachable [KeyProvider K] {permitted : Gate.Operation → Prop}
    (reached : system.Reachable permitted) : ∀ call ∈ system.calls, call.Drafts := by
  induction reached with
  | start engineStarted gateStarted => simp
  | @move system later before moves drafts =>
      refine moves.forall_calls drafts ?_ ?_
      · intro call fresh prepared writing
        rw [Call.phase_of_isFresh fresh] at writing
        contradiction
      · intro now call next present _ stepped
        exact Call.drafts_of_step? (belongs_of_reachable before call present)
          (recorded_of_reachable before).keyed stepped

theorem recounts_of_reachable [KeyProvider K]
    (reached : system.Reachable Gate.Operation.LeavesRequests) : system.Recounts := by
  refine reached.turns ?_ ?_
  · intro gate _ empty
    constructor
    · intro eventType _
      simp [empty, Ledger.records]
    · simp
  · intro earlier later before turn recounts
    exact recounts.turn (drafts_of_reachable before) (recorded_of_reachable before) turn

end System

/-! ## Between calls -/

namespace Call

variable {call : Call} (finished : call.result?.isSome = true)

include finished

/-- A finished call has written down the request that it has filed. -/
theorem named?_approvalRequested : call.named? .approvalRequested = call.filedId? := by
  cases call with
  | review unit course =>
      cases course with
      | finished result => cases result <;> rfl
      | _ => contradiction
  | resolution ruling course =>
      cases course with
      | finished result => cases result <;> rfl
      | _ => contradiction

/-- A finished call has written down the request that it has resolved. -/
theorem named?_approvalResolved {config : GateConfig} (belongs : call.Of config) :
    call.named? .approvalResolved =
      (call.attempt?.bind (·.stored?)).map (·.id) := by
  cases call with
  | review unit course =>
      cases course with
      | finished result => cases result <;> rfl
      | _ => contradiction
  | resolution ruling course =>
      cases course with
      | finished result =>
          cases result with
          | error cause => rfl
          | ok outcome =>
              obtain ⟨settlement, score, -, rfl⟩ := belongs
              rfl
      | _ => contradiction

end Call

namespace System

/-- The approval gate and the ledger agree on the requests and on what has become of them. -/
structure Agrees (system : System K) : Prop where
  opened : ∃ ids : List String,
    ((ofType .approvalRequested system.gate.engine.ledger.records).map requestId?).Perm
      (ids.map some) ∧
      ids.Nodup ∧ ∀ id, id ∈ ids ↔ (system.gate.approvals.get? id).isSome = true
  known : ∀ record ∈ ofType .approvalResolved system.gate.engine.ledger.records,
    ∃ id, record.requestId? = some id ∧ (system.gate.approvals.get? id).isSome = true
  pending : ∀ id request, system.gate.approvals.get? id = some request →
    (request.isPending = true ↔
      ∀ record ∈ ofType .approvalResolved system.gate.engine.ledger.records,
        record.requestId? ≠ some id)
  decided : ∀ id request, system.gate.approvals.get? id = some request →
    request.isPending = false →
    ∃ (before after : List LedgerRecord) (entry : LedgerRecord) (verdict : Verdict)
      (update : ScoreUpdate Float),
      system.gate.engine.ledger.records =
        before ++ [entry, verdict.event, update.event] ++ after ∧
      request.ToldBy entry ∧ (∃ fresh moment, verdict = request.finalVerdict fresh moment) ∧
      update.identity = request.requester ∧ update.reference = some verdict.id ∧
      ∀ record ∈ ofType .approvalResolved (before ++ after), record.requestId? ≠ some id

/-- No two calls have filed the same request. -/
theorem Issued.filed {system : System K} (issued : system.Issued) :
    (system.calls.filterMap Call.filedId?).Nodup := by
  have earlier : ∀ (call : Call) (id : String), call.filedId? = some id →
      call.issuedId? = some id := by
    intro call id filed
    obtain ⟨request, files, named⟩ := Option.map_eq_some_iff.mp filed
    rw [Call.issuedId?, Call.issued?_of_filed? files, Option.map_some, named]
  refine List.pairwise_filterMap.mpr ((List.pairwise_filterMap.mp issued.distinct).imp ?_)
  intro first second apart id filedFirst other filedSecond
  exact apart id (earlier first id filedFirst) other (earlier second other filedSecond)

namespace Recounts

variable {system : System K} (recounts : system.Recounts)
  (idle : ∀ call ∈ system.calls, call.result?.isSome = true)
  (belongs : ∀ call ∈ system.calls, call.Of system.gate.config)

include recounts idle in
/-- Between calls the requests that have been written down are those that have been filed. -/
theorem opened : ((ofType .approvalRequested system.gate.engine.ledger.records).map
    requestId?).Perm ((system.calls.filterMap Call.filedId?).map some) := by
  have named := recounts.named .approvalRequested rfl
  rwa [List.filterMap_congr fun call membership =>
    Call.named?_approvalRequested (idle call membership)] at named

include recounts idle belongs in
/-- Between calls the resolutions that have been written down are those that have been stored. -/
theorem closed (sound : system.desk.Sound) :
    ((ofType .approvalResolved system.gate.engine.ledger.records).map requestId?).Perm
      ((system.desk.attempts.filterMap Attempt.won?).map some) := by
  have named := recounts.named .approvalResolved rfl
  have same : system.calls.filterMap (Call.named? .approvalResolved) =
      system.desk.attempts.filterMap Attempt.won? := by
    rw [desk, List.filterMap_filterMap]
    apply List.filterMap_congr
    intro call membership
    rw [Call.named?_approvalResolved (idle call membership) (belongs call membership)]
    cases attempted : call.attempt? with
    | none => rfl
    | some attempt =>
        have present : attempt ∈ system.desk.attempts :=
          List.mem_filterMap.mpr ⟨call, membership, attempted⟩
        rw [Option.bind_some, Option.bind_some, Attempt.won?]
        cases stored : attempt.stored? with
        | none => rfl
        | some resolved =>
            obtain ⟨found, -⟩ := (sound.knows attempt present).of_stored? stored
            rw [Option.map_some, Option.map_some, sound.keyed _ _ found]
  rwa [same] at named

include recounts idle belongs in
/-- Between calls the batch of every resolution that has been stored is in the ledger. -/
theorem decides {attempt : Attempt Float} {resolved : ApprovalRequest}
    (present : attempt ∈ system.desk.attempts) (stored : attempt.stored? = some resolved) :
    ∃ verdict batch, batch <:+: system.gate.engine.ledger.records ∧
      Promise.Decides resolved verdict batch := by
  obtain ⟨call, membership, attempted⟩ := List.mem_filterMap.mp present
  have finished := idle call membership
  have belonging := belongs call membership
  cases call with
  | review unit course => contradiction
  | resolution ruling course =>
      cases attempted
      cases course with
      | finished result =>
          cases result with
          | error cause => contradiction
          | ok outcome =>
              obtain ⟨settlement, score, -, rfl⟩ := belonging
              cases stored
              obtain ⟨batch, inside, written⟩ := recounts.written _ membership
                ⟨settlement.verdict, none, some settlement.resolved⟩ rfl
              exact ⟨settlement.verdict, batch, inside, written.decides _ rfl⟩
      | _ => contradiction

include recounts idle belongs in
/-- Whoever has stored a resolution has written it down. -/
theorem told (sound : system.desk.Sound) {attempt : Attempt Float} {resolved : ApprovalRequest}
    (present : attempt ∈ system.desk.attempts) (stored : attempt.stored? = some resolved) :
    ∃ record ∈ ofType .approvalResolved system.gate.engine.ledger.records,
      record.requestId? = some attempt.ruling.requestId := by
  have won : attempt.won? = some attempt.ruling.requestId := by
    rw [Attempt.won?, stored, Option.map_some]
  exact List.mem_map.mp ((recounts.closed idle belongs sound).mem_iff.mpr
    (List.mem_map_of_mem (List.mem_filterMap.mpr ⟨attempt, present, won⟩)))

include recounts idle belongs in
/-- The request of a resolution that has been written down is stored, and it is not pending. -/
theorem stored (sound : system.desk.Sound) {record : LedgerRecord}
    (written : record ∈ ofType .approvalResolved system.gate.engine.ledger.records) :
    ∃ id resolved, record.requestId? = some id ∧
      system.gate.approvals.get? id = some resolved ∧ resolved.isPending = false := by
  obtain ⟨id, won, named⟩ := List.mem_map.mp
    ((recounts.closed idle belongs sound).mem_iff.mp (List.mem_map_of_mem written))
  obtain ⟨attempt, present, wins⟩ := List.mem_filterMap.mp won
  obtain ⟨resolved, kept, rfl⟩ := Option.map_eq_some_iff.mp wins
  obtain ⟨found, settles⟩ := (sound.knows attempt present).of_stored? kept
  exact ⟨_, resolved, named.symm, found, settles.isPending⟩

include recounts idle belongs in
/-- No other entry tells of a resolution that has been written down. -/
theorem once (sound : system.desk.Sound) {before after : List LedgerRecord} {entry : LedgerRecord}
    (split : system.gate.engine.ledger.records = before ++ entry :: after)
    (resolves : entry.eventType = .approvalResolved) :
    ∀ record ∈ ofType .approvalResolved (before ++ after),
      record.requestId? ≠ entry.requestId? := by
  have distinct : ((ofType .approvalResolved
      system.gate.engine.ledger.records).map requestId?).Nodup :=
    (recounts.closed idle belongs sound).nodup_iff.mpr
      (List.Nodup.map (fun _ _ => Option.some.inj) sound.winners)
  rw [split, ofType_append, ofType_cons, if_pos resolves, List.map_append, List.map_cons,
    List.nodup_middle, ← List.map_append, ← ofType_append] at distinct
  intro record membership same
  exact (List.nodup_cons.mp distinct).1 (List.mem_map.mpr ⟨record, membership, same⟩)

end Recounts

/-- Whatever calls have been made and whatever batches have been refused, the gate and the ledger
agree between calls. -/
theorem agrees_of_reachable [KeyProvider K] {system : System K}
    (reached : system.Reachable Gate.Operation.LeavesRequests)
    (injective : Function.Injective system.gate.ids.text)
    (idle : ∀ call ∈ system.calls, call.result?.isSome = true) : system.Agrees := by
  have recounts := recounts_of_reachable reached
  have belongs := belongs_of_reachable reached
  have issued := issued_of_reachable reached injective
  obtain ⟨sound, filed⟩ := filed_of_reachable reached injective
  refine ⟨⟨_, recounts.opened idle, issued.filed, fun id => (filed id).symm⟩, ?_, ?_, ?_⟩
  · intro record written
    obtain ⟨id, resolved, named, found, -⟩ := recounts.stored idle belongs sound written
    exact ⟨id, named, Option.isSome_iff_exists.mpr ⟨resolved, found⟩⟩
  · intro id request found
    constructor
    · intro pending record written named
      obtain ⟨other, resolved, called, there, closed⟩ :=
        recounts.stored idle belongs sound written
      rw [named] at called
      cases called
      rw [found] at there
      cases there
      rw [pending] at closed
      contradiction
    · intro silent
      by_contra closed
      obtain ⟨attempt, present, named, kept⟩ :=
        sound.decided id request found (Bool.eq_false_iff.mpr closed)
      obtain ⟨record, written, called⟩ := recounts.told idle belongs sound present kept
      exact silent record written (by rw [called, named])
  · intro id request found closed
    obtain ⟨attempt, present, -, kept⟩ := sound.decided id request found closed
    obtain ⟨-, first, claimedAt, -, -, made⟩ := (sound.knows attempt present).of_stored? kept
    obtain ⟨verdict, batch, ⟨before, after, split⟩, now, update, rfl, final, about, reference⟩ :=
      recounts.decides idle belongs present kept
    have owned : request.id = id := sound.keyed id request found
    refine ⟨before, after, request.resolutionEvent now, verdict, update, split.symm, ?_, final,
      about, reference, ?_⟩
    · rw [made]
      exact first.toldBy_resolutionEvent claimedAt now attempt.ruling
    · have follows : system.gate.engine.ledger.records = before ++
          request.resolutionEvent now :: ([verdict.event, update.event] ++ after) := by
        simp [← split]
      intro record membership named
      rw [← owned, ← request.requestId?_resolutionEvent now] at named
      refine recounts.once idle belongs sound follows rfl record ?_ named
      rw [ofType_append, List.mem_append] at membership
      rw [ofType_append, ofType_append, List.mem_append, List.mem_append]
      exact membership.imp_right .inr

end System

/-! ## A held unit -/

theorem Call.ids_of_advance? {now : Instant} {count : Nat} {gate later : Gate K} {call next : Call}
    (advanced : call.advance? now count gate = some (next, later)) :
    gate.ids.Later later.ids := by
  induction count generalizing gate call with
  | zero =>
      cases advanced
      exact .refl _
  | succ count inductionHypothesis =>
      obtain ⟨⟨following, middle⟩, stepped, continued⟩ := Option.bind_eq_some_iff.mp advanced
      exact (Call.ids_of_step? stepped).trans (inductionHypothesis continued)

namespace System

open ReviewGate.Small

/-- A critical unit that nobody can verify is held, and somebody else approves it. -/
theorem agrees_approved : ∃ (system : System LocalKeys) (request : ApprovalRequest),
    system.Reachable Gate.Operation.LeavesRequests ∧
      Function.Injective system.gate.ids.text ∧
      (∀ call ∈ system.calls, call.result?.isSome = true) ∧
      system.gate.approvals.get? "approval-1" = some request ∧ request.status = .approved ∧
      system.Agrees := by
  let critical : CodeUnit := { Small.unit with critical := some true }
  let review : Call := .review critical (.submitted critical)
  let ruling : Ruling := ⟨"approval-1", "bob", .approve, "reviewed by hand"⟩
  let resolution : Call := .resolution ruling (.submitted ruling)
  let gate : Gate LocalKeys := gateWith strict .empty none staffed
  have valid : strict.validate = .ok () := by rfl
  have started := reachable_with valid (by decide) .empty none
    (show Gate.Operation.LeavesRequests _ from trivial)
  have submitted := started.move (.submit (show review.IsFresh from rfl))
  have ends : ((review.advance? now 10 gate).bind fun held =>
      (resolution.advance? now 5 held.2).bind fun answer =>
        (answer.2.approvals.get? "approval-1").map fun request =>
          (held.1.result?.isSome, answer.1.result?.isSome, request.status)) =
      some (true, true, .approved) := by decide +kernel
  obtain ⟨⟨reviewed, middle⟩, advanced, rest⟩ := Option.bind_eq_some_iff.mp ends
  obtain ⟨⟨resolved, later⟩, continued, rest⟩ := Option.bind_eq_some_iff.mp rest
  obtain ⟨request, found, same⟩ := Option.map_eq_some_iff.mp rest
  injection same with ofReview same
  injection same with ofResolution approved
  obtain ⟨holding, reached, rfl, calls⟩ := reachable_of_advance? submitted rfl advanced
  let asking : System LocalKeys := { holding with calls := holding.calls ++ [resolution] }
  have asked : asking.Reachable Gate.Operation.LeavesRequests :=
    reached.move (.submit (show resolution.IsFresh from rfl))
  have second : asking.calls[1]? = some resolution := by simp [asking, calls]
  have begun : Alone 1 asking asking := .refl
  obtain ⟨last, alone, rfl, changed⟩ := alone_of_advance? begun second continued
  have arrived := asked.alone alone
  have injective : Function.Injective last.gate.ids.text := by
    rw [(Call.ids_of_advance? continued).text, (Call.ids_of_advance? advanced).text]
    intro first second equal
    have digits := congrArg String.toList equal
    simp only [gate, gateWith, gateOver, Nat.toString_eq_ofList_toDigits, String.toList_ofList]
      at digits
    have values := congrArg (Nat.ofDigitChars 10 · 0) digits
    simpa only [Nat.ofDigitChars_ten_toDigits] using values
  have idle : ∀ call ∈ last.calls, call.result?.isSome = true := by
    have both : last.calls = [reviewed, resolved] := by simp [changed, asking, calls]
    rw [both]
    intro call membership
    rcases List.mem_pair.mp membership with rfl | rfl
    · exact ofReview
    · exact ofResolution
  exact ⟨last, request, arrived, injective, idle, found, approved,
    agrees_of_reachable arrived injective idle⟩

end System

end ReviewGate
