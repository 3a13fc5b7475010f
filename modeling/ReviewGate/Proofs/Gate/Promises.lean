import ReviewGate.Proofs.Gate.Scores
import ReviewGate.Proofs.Gate.System

/-!
# What calls promise to write

From the moment it asks for its commit a call knows its verdict.  What it has written, by how far it
has come, is nothing or exactly what the verdict promises.
-/

namespace ReviewGate

open LedgerRecord

variable {K : Type}

/-! ## Promises -/

/-- The event of a verdict. -/
def Verdict.event (verdict : Verdict) : LedgerRecord :=
  ⟨verdict.identity, .verdictEmitted, verdict.toJson, verdict.timestamp⟩

/-- One update, of the author's score and by reference to the verdict. -/
def Verdict.UpdatesOnce (verdict : Verdict) (records : List LedgerRecord) : Prop :=
  ∃ update : ScoreUpdate Float, ofType .trustUpdated records = [update.event] ∧
    update.identity = verdict.identity ∧ update.reference = some verdict.id

/-- What a call will have written when it succeeds. -/
structure Promise where
  verdict : Verdict
  /-- The request of a unit that is held. -/
  request : Option ApprovalRequest
  /-- The request that is resolved. -/
  resolved : Option ApprovalRequest

namespace Promise

/-- A batch with all that is promised and no more. -/
structure KeptBy (promise : Promise) (records : List LedgerRecord) : Prop where
  verdicts : ofType .verdictEmitted records = [promise.verdict.event]
  held : promise.verdict.status = .held → ofType .trustUpdated records = []
  updates : promise.verdict.status ≠ .held → promise.verdict.UpdatesOnce records
  requests : ∃ now,
    ofType .approvalRequested records = (promise.request.map (Gate.requestEvent now)).toList
  resolutions : ∃ now, ofType .approvalResolved records =
    (promise.resolved.map fun request => request.resolutionEvent now).toList

/-- A commit that asks for all that is promised. -/
structure AskedBy (promise : Promise) (commit : Commit Float) : Prop where
  identity : commit.identity = promise.verdict.identity
  verdicts : ofType .verdictEmitted commit.events = [promise.verdict.event]
  updates : ofType .trustUpdated commit.events = []
  registrations : ofType .identityRegistered commit.events = []
  held : promise.verdict.status = .held → commit.update = none
  decided : promise.verdict.status ≠ .held →
    commit.update.isSome = true ∧ commit.reference = some promise.verdict.id
  requests : ∃ now, ofType .approvalRequested commit.events =
    (promise.request.map (Gate.requestEvent now)).toList
  resolutions : ∃ now, ofType .approvalResolved commit.events =
    (promise.resolved.map fun request => request.resolutionEvent now).toList

/-- Besides the events of the caller a commit writes a window and an update. -/
theorem ofType_effectEvents (eventType : EventType) (identity : String)
    (window : Option (Honesty × Instant)) (update : Option (ScoreUpdate Float)) (now : Instant)
    (noWindow : eventType ≠ .coolingOffEntered) :
    ofType eventType (Engine.effectEvents identity window update now) =
      if eventType = .trustUpdated then (update.map (·.event)).toList else [] := by
  have windows : ofType eventType
      (window.map fun entered =>
        Engine.coolingOffEvent identity entered.1 entered.2 now).toList = [] := by
    rw [ofType_eq_nil_iff]
    intro record membership
    obtain ⟨⟨honesty, deadline⟩, -, rfl⟩ := Option.map_eq_some_iff.mp
      (Option.mem_toList.mp membership)
    exact noWindow.symm
  have updates : ofType eventType (update.map (·.event)).toList =
      if eventType = .trustUpdated then (update.map (·.event)).toList else [] := by
    cases update with
    | none => simp
    | some update =>
        have kind : update.event.eventType = .trustUpdated := rfl
        by_cases same : eventType = .trustUpdated
        · simp [ofType_cons, kind, same]
        · simp [ofType_cons, kind, same, Ne.symm same]
  unfold Engine.effectEvents
  rw [ofType_append]
  exact (congrArg (· ++ _) windows).trans updates

theorem AskedBy.kept {promise : Promise} {engine : Engine Float K} {now : Instant}
    {commit : Commit Float} {prepared : PreparedCommit Float} (asked : promise.AskedBy commit)
    (keyed : engine.Keyed) (ready : engine.prepare now commit = .ok prepared) :
    prepared.Plain ∧ promise.KeptBy prepared.records := by
  obtain ⟨record, window, found, -, -, -, -, changed, written⟩ := Engine.prepare_cases ready
  have others : ∀ eventType, eventType ≠ .coolingOffEntered → eventType ≠ .trustUpdated →
      ofType eventType prepared.records = ofType eventType commit.events := by
    intro eventType noWindow noUpdate
    rw [written, ofType_append, ofType_effectEvents _ _ _ _ _ noWindow, if_neg noUpdate,
      List.append_nil]
  have updates : ofType .trustUpdated prepared.records =
      (prepared.update.map (·.event)).toList := by
    rw [written, ofType_append, asked.updates,
      ofType_effectEvents .trustUpdated _ _ _ _ (by decide), if_pos rfl, List.nil_append]
  refine ⟨⟨updates, ?_⟩, ⟨?_, ?_, ?_, ?_, ?_⟩⟩
  · rw [others .identityRegistered (by decide) (by decide)]
    exact asked.registrations
  · rw [others .verdictEmitted (by decide) (by decide)]
    exact asked.verdicts
  · intro held
    rw [updates, changed, asked.held held]
    rfl
  · intro decided
    obtain ⟨some, reference⟩ := asked.decided decided
    obtain ⟨⟨outcome, context⟩, outcomeGiven⟩ := Option.isSome_iff_exists.mp some
    refine ⟨engine.scoreUpdate record outcome context commit.reference now, ?_, ?_, reference⟩
    · rw [updates, changed, outcomeGiven]
      rfl
    · rw [← asked.identity]
      exact keyed _ _ found
  · rw [others .approvalRequested (by decide) (by decide)]
    exact asked.requests
  · rw [others .approvalResolved (by decide) (by decide)]
    exact asked.resolutions

/-- The promise of a verdict on its way into the ledger. -/
def ofEmission (emission : Emission) : Promise := ⟨emission.verdict, emission.request, none⟩

/-- The promise of a decision on its way into the ledger. -/
def ofSettlement (settlement : Settlement) : Promise :=
  ⟨settlement.verdict, none, some settlement.resolved⟩

theorem ofType_verdictEvents (gate : Gate K) (now : Instant) (dossier : Dossier)
    (verdict : Verdict) (eventType : EventType) (ordinary : ¬ eventType.IsOfLibrary) :
    ofType eventType (gate.verdictEvents now dossier verdict) =
      ofType eventType [verdict.event] := by
  have proposed : ofType eventType (dossier.proposals.filterMap fun proposal =>
      gate.proposalEvent? proposal verdict.id now) = [] := by
    rw [ofType_eq_nil_iff]
    intro record membership
    obtain ⟨proposal, -, event⟩ := List.mem_filterMap.mp membership
    have types := Gate.proposalEvent?_type event
    rintro rfl
    exact ordinary types
  have split : gate.verdictEvents now dossier verdict = [verdict.event] ++
      dossier.proposals.filterMap fun proposal => gate.proposalEvent? proposal verdict.id now :=
    rfl
  rw [split, ofType_append, proposed, List.append_nil]

/-- Besides the events of the library a review asks for its verdict and its request. -/
theorem ofType_verdictCommit (gate : Gate K) (now : Instant) (emission : Emission)
    (eventType : EventType) (ordinary : ¬ eventType.IsOfLibrary) :
    ofType eventType (gate.verdictCommit now emission).events =
      ofType eventType [emission.verdict.event] ++
        ofType eventType (emission.request.map (Gate.requestEvent now)).toList := by
  rw [← ofType_verdictEvents gate now emission.dossier emission.verdict eventType ordinary]
  exact ofType_append ..

theorem asked_verdictCommit {setting : Setting} {case : Case} {emission : Emission}
    (belongs : emission.Of setting case) (gate : Gate K) (now : Instant) :
    (ofEmission emission).AskedBy (gate.verdictCommit now emission) := by
  have events := ofType_verdictCommit gate now emission
  have none : ∀ eventType, eventType ≠ .approvalRequested →
      ofType eventType (emission.request.map (Gate.requestEvent now)).toList = [] := by
    intro eventType different
    rw [ofType_eq_nil_iff]
    intro record membership
    obtain ⟨request, -, rfl⟩ := Option.map_eq_some_iff.mp (Option.mem_toList.mp membership)
    exact different.symm
  have all : ofType .approvalRequested (emission.request.map (Gate.requestEvent now)).toList =
      (emission.request.map (Gate.requestEvent now)).toList := by
    cases emission.request <;> rfl
  constructor
  · have author := congrArg CodeUnit.author belongs.dossier.unit
    exact author.trans belongs.verdict.author.symm
  · rw [events .verdictEmitted (by simp [EventType.IsOfLibrary]), none _ (by decide)]
    rfl
  · rw [events .trustUpdated (by simp [EventType.IsOfLibrary]), none _ (by decide)]
    rfl
  · rw [events .identityRegistered (by simp [EventType.IsOfLibrary]), none _ (by decide)]
    rfl
  · intro held
    exact if_pos held
  · intro decided
    have unheld : emission.verdict.status ≠ .held := decided
    simp only [Gate.verdictCommit, if_neg unheld]
    exact ⟨rfl, rfl⟩
  · refine ⟨now, ?_⟩
    rw [events .approvalRequested (by simp [EventType.IsOfLibrary]), all]
    rfl
  · refine ⟨now, ?_⟩
    rw [events .approvalResolved (by simp [EventType.IsOfLibrary]), none _ (by decide)]
    rfl

theorem asked_resolutionCommit {ruling : Ruling} {settlement : Settlement}
    (belongs : settlement.Of ruling) (gate : Gate K) (now : Instant) :
    (ofSettlement settlement).AskedBy (gate.resolutionCommit now settlement) := by
  obtain ⟨id, moment, made⟩ := belongs.verdict
  have decided : settlement.verdict.status ≠ .held := by
    rw [made]
    unfold ApprovalRequest.finalVerdict ApprovalRequest.verdictStatus
    dsimp only
    split <;> decide
  constructor
  · rw [ofSettlement, made]
    rfl
  · rfl
  · rfl
  · rfl
  · intro held
    exact absurd held decided
  · intro _
    exact ⟨rfl, rfl⟩
  · exact ⟨now, rfl⟩
  · exact ⟨now, rfl⟩

end Promise

/-! ## Calls -/

namespace Review

/-- What a review has set out to write. -/
def promise? : Review → Option Promise
  | .committing emission _ | .writing emission _ | .settling emission _ _ | .filing emission _
  | .publishing emission _ _ => some (.ofEmission emission)
  | .finished (.ok outcome) => some ⟨outcome.verdict, outcome.approval, none⟩
  | _ => none

theorem promise?_of_step? {now : Instant} {gate later : Gate K} {review next : Review}
    {promise : Promise} (promised : review.promise? = some promise)
    (stepped : step? now gate review = some (next, later)) (unfailed : next.phase ≠ .before) :
    next.promise? = some promise := by
  cases step_of_step? stepped with
  | invalid | unknown | stage | lost | queue | grant | scan | check | deepen | learn | emit =>
      contradiction
  | unready | unwritten | unsettled => exact absurd rfl unfailed
  | prepare | write | settle | file | finish => exact promised
  | @publish emission published score proposal left later applied =>
      have same : Promise.ofEmission published = Promise.ofEmission emission := by
        rw [Gate.publish_eq] at applied
        split at applied <;> cases applied <;> rfl
      rw [promise?, same]
      exact promised

end Review

namespace Resolution

/-- What a resolution has set out to write. -/
def promise? : Resolution → Option Promise
  | .committing settlement _ | .writing settlement _ | .settling settlement _ _
  | .storing settlement _ => some (.ofSettlement settlement)
  | .finished (.ok outcome) => some ⟨outcome.verdict, none, outcome.approval⟩
  | _ => none

theorem promise?_of_step? {now : Instant} {gate later : Gate K} {resolution next : Resolution}
    {promise : Promise} (promised : resolution.promise? = some promise)
    (stepped : step? now gate resolution = some (next, later)) (unfailed : next.phase ≠ .before) :
    next.promise? = some promise := by
  cases step_of_step? stepped with
  | refuse | claim => contradiction
  | unready | unwritten | unsettled => exact absurd rfl unfailed
  | prepare | write | settle | store => exact promised

end Resolution

namespace Call

def promise? : Call → Option Promise
  | .review _ course => course.promise?
  | .resolution _ course => course.promise?

/-- A call is about its unit, under the policy, or carries out its ruling. -/
def Of (config : GateConfig) : Call → Prop
  | .review unit course => ∃ setting : Setting, setting.config = config ∧ course.About setting unit
  | .resolution ruling course => course.Of ruling

theorem of_isFresh {call : Call} (fresh : call.IsFresh) (config : GateConfig) : call.Of config := by
  cases call with
  | review unit course =>
      have same : course = .submitted unit := fresh
      rw [same]
      exact ⟨⟨config, fun _ => .never, none⟩, rfl, rfl⟩
  | resolution ruling course =>
      have same : course = .submitted ruling := fresh
      rw [same]
      rfl

theorem config_of_step? {now : Instant} {gate later : Gate K} {call next : Call}
    (stepped : call.step? now gate = some (next, later)) : later.config = gate.config := by
  rcases step?_cases stepped with
    ⟨unit, course, following, rfl, rfl, taken⟩ | ⟨ruling, course, following, rfl, rfl, taken⟩
  · exact congrArg Setting.config (Review.frame_of_step? taken).1.setting
  · exact congrArg Setting.config (Resolution.frame_of_step? taken).1.setting

theorem of_step? {now : Instant} {gate later : Gate K} {call next : Call}
    (belongs : call.Of gate.config) (stepped : call.step? now gate = some (next, later)) :
    next.Of gate.config := by
  rcases step?_cases stepped with
    ⟨unit, course, following, rfl, rfl, taken⟩ | ⟨ruling, course, following, rfl, rfl, taken⟩
  · obtain ⟨setting, config, concerns⟩ := belongs
    obtain ⟨other, same, concerns, meets⟩ := concerns.exists_meets config.symm
    exact ⟨other, same.trans config, Review.about_of_step? concerns meets taken⟩
  · exact Resolution.of_step? belongs taken

theorem promise?_of_step? {now : Instant} {gate later : Gate K} {call next : Call}
    {promise : Promise} (promised : call.promise? = some promise)
    (stepped : call.step? now gate = some (next, later)) (unfailed : next.phase ≠ .before) :
    next.promise? = some promise := by
  rcases step?_cases stepped with
    ⟨unit, course, following, rfl, rfl, taken⟩ | ⟨ruling, course, following, rfl, rfl, taken⟩
  · exact Review.promise?_of_step? promised taken unfailed
  · exact Resolution.promise?_of_step? promised taken unfailed

/-- Who asks for a commit asks for what has been promised. -/
theorem asks_of_phase {config : GateConfig} {call : Call} {commit : Commit Float}
    (belongs : call.Of config) (asking : call.phase = .asking commit) :
    ∃ promise, call.promise? = some promise ∧ promise.AskedBy commit := by
  cases call with
  | review unit course =>
      cases course with
      | committing emission asked =>
          cases asking
          obtain ⟨setting, -, case, -, kept, K, gate, now, made⟩ := belongs
          refine ⟨.ofEmission emission, rfl, ?_⟩
          rw [made]
          exact Promise.asked_verdictCommit kept gate now
      | finished result => cases result <;> contradiction
      | submitted | staged | queued | admitted | checking | deepening | learning | writing
      | settling | filing | publishing => contradiction
  | resolution ruling course =>
      cases course with
      | committing settlement asked =>
          cases asking
          obtain ⟨kept, K, gate, now, made⟩ := belongs
          refine ⟨.ofSettlement settlement, rfl, ?_⟩
          rw [made]
          exact Promise.asked_resolutionCommit kept gate now
      | finished result => cases result <;> contradiction
      | submitted | writing | settling | storing => contradiction

/-- The records keep what the call has promised. -/
def Keeps (call : Call) (records : List LedgerRecord) : Prop :=
  ∃ promise, call.promise? = some promise ∧ promise.KeptBy records

/-- What a call has written, by how far it has come. -/
def Accounts (call : Call) (records : List LedgerRecord) : Prop :=
  match call.phase with
  | .before => records = []
  | .asking _ => records = []
  | .writing prepared => records = [] ∧ prepared.Plain ∧ call.Keeps prepared.records
  | .settling prepared => records = prepared.records ∧ call.Keeps prepared.records
  | .after => call.Keeps records

theorem Keeps.of_step? {now : Instant} {gate later : Gate K} {call next : Call}
    {records : List LedgerRecord} (keeps : call.Keeps records)
    (stepped : call.step? now gate = some (next, later)) (unfailed : next.phase ≠ .before) :
    next.Keeps records := by
  obtain ⟨promise, promised, kept⟩ := keeps
  exact ⟨promise, promise?_of_step? promised stepped unfailed, kept⟩

theorem accounts_of_isEarly {call : Call} (early : call.phase.IsEarly) : call.Accounts [] := by
  unfold Accounts
  rcases early with before | ⟨commit, asking⟩
  · rw [before]
  · rw [asking]

/-- A step of a call adds what the call then has to account for. -/
theorem accounts_of_step? {now : Instant} {gate later : Gate K} {call next : Call}
    {records : List LedgerRecord} (keyed : gate.engine.Keyed)
    (recorded : ∀ prepared, call.phase = .settling prepared →
      ∃ record, gate.engine.record? prepared.identity = some record)
    (belongs : call.Of gate.config) (accounts : call.Accounts records)
    (stepped : call.step? now gate = some (next, later)) :
    ∃ added, later.engine.ledger = gate.engine.ledger.append added ∧
      next.Accounts (records ++ added) := by
  have progress := progress_of_step? stepped
  generalize origin : call.phase = phase at progress
  generalize target : next.phase = following at progress
  generalize reached : later.engine = engine at progress
  unfold Accounts at accounts
  rw [origin] at accounts
  cases progress with
  | quiet early =>
      refine ⟨[], (Ledger.append_nil _).symm, ?_⟩
      cases accounts
      exact accounts_of_isEarly (target ▸ early)
  | unready =>
      refine ⟨[], (Ledger.append_nil _).symm, ?_⟩
      cases accounts
      exact accounts_of_isEarly (.inl target)
  | @prepared _ commit prepared free ready =>
      refine ⟨[], (Ledger.append_nil _).symm, ?_⟩
      cases accounts
      obtain ⟨promise, promised, asked⟩ := asks_of_phase belongs origin
      obtain ⟨plain, kept⟩ := asked.kept keyed ready
      have following := promise?_of_step? promised stepped (by rw [target]; nofun)
      unfold Accounts
      rw [target]
      exact ⟨rfl, plain, promise, following, kept⟩
  | refused refused =>
      obtain ⟨rfl, -, -⟩ := accounts
      exact ⟨[], (Ledger.append_nil _).symm, accounts_of_isEarly (.inl target)⟩
  | @written prepared accepted =>
      obtain ⟨rfl, plain, keeps⟩ := accounts
      refine ⟨prepared.records, rfl, ?_⟩
      unfold Accounts
      rw [target]
      exact ⟨rfl, keeps.of_step? stepped (by rw [target]; nofun)⟩
  | @lost prepared missing =>
      obtain ⟨record, found⟩ := recorded prepared origin
      rw [found] at missing
      contradiction
  | @settled prepared record found =>
      obtain ⟨rfl, keeps⟩ := accounts
      refine ⟨[], ?_, ?_⟩
      · rw [Ledger.append_nil]
        exact Engine.ledger_settled gate.engine record prepared
      · unfold Accounts
        rw [target, List.append_nil]
        exact keeps.of_step? stepped (by rw [target]; nofun)
  | trailing =>
      refine ⟨[], (Ledger.append_nil _).symm, ?_⟩
      unfold Accounts
      rw [target, List.append_nil]
      exact Keeps.of_step? accounts stepped (by rw [target]; nofun)

end Call

end ReviewGate
