import ReviewGate.Proofs.Gate.Promises

/-!
# The audit of all calls

Every call that succeeds has written one verdict and, unless it holds its unit, one update of a
score; one that fails has written nothing.  So the ledger tells of every decision, and the updates
of a score lead from its registration to what it is.
-/

namespace ReviewGate

open LedgerRecord

variable {K : Type}

/-! ## Other uses -/

/-- Whether only calls write events of this type. -/
def EventType.isOfCalls : EventType → Bool
  | .verdictEmitted | .trustUpdated | .approvalRequested | .approvalResolved => true
  | _ => false

/-- Neither a call nor a registration writes such a record. -/
def LedgerRecord.IsOutside (record : LedgerRecord) : Prop :=
  record.eventType.isOfCalls = false ∧ record.eventType ≠ .identityRegistered

theorem silent_of_isOutside {records : List LedgerRecord}
    (outside : ∀ record ∈ records, record.IsOutside) : Engine.Consistent.Silent records := by
  constructor
  · rw [ofType_eq_nil_iff]
    intro record membership
    exact (outside record membership).2
  · rw [ofType_eq_nil_iff]
    intro record membership same
    have ordinary := (outside record membership).1
    rw [same] at ordinary
    contradiction

/-- An operation that changes no score once there is one, and writes no event of a call. -/
def Gate.Operation.KeepsScores : Gate.Operation → Prop
  | .engine (.commit commit) =>
      commit.update = none ∧ ∀ record ∈ commit.events, record.IsOutside
  | .engine (.penalize _) | .engine (.drift ..) => False
  | _ => True

namespace Gate

open Engine

variable [KeyProvider K] {gate : Gate K} {phases : Nat → Phase}

/-- What an operation adds to the ledger, with which the engine stays consistent. -/
structure Addition (gate later : Gate K) (phases : Nat → Phase) (added : List LedgerRecord) :
    Prop where
  ledger : later.engine.ledger = gate.engine.ledger.append added
  types : ∀ record ∈ added, record.eventType.isOfCalls = false
  consistent : later.engine.Consistent phases
  config : later.config = gate.config

omit [KeyProvider K] in
theorem LibraryChange.addition {later : Gate K} {records : List LedgerRecord}
    (consistent : gate.engine.Consistent phases) (change : gate.LibraryChange later records) :
    gate.Addition later phases records := by
  have outside : ∀ record ∈ records, record.IsOutside := by
    intro record membership
    unfold IsOutside
    rcases change.types record membership with same | same | same <;> rw [same] <;>
      exact ⟨rfl, by decide⟩
  refine ⟨?_, fun record membership => (outside record membership).1, ?_, ?_⟩
  · rw [change.engine]
  · rw [change.engine]
    exact consistent.of_silent rfl rfl (Ledger.records_append ..) (silent_of_isOutside outside)
  · exact change.config

omit [KeyProvider K] in
/-- Where only the keys change, nothing is added. -/
theorem addition_of_keys (consistent : gate.engine.Consistent phases) (keys : K) :
    gate.Addition { gate with engine := { gate.engine with keys } } phases [] :=
  ⟨(Ledger.append_nil _).symm, nofun,
    consistent.of_silent rfl rfl (List.append_nil _).symm ⟨rfl, rfl⟩, rfl⟩

theorem addition_register (consistent : gate.engine.Consistent phases) (now : Instant)
    (identity : String) (role : Role) (score : Float) (free : gate.engine.isHeld identity = false) :
    ∃ added, gate.Addition (gate.perform now (.engine (.register identity role score))) phases
      added := by
  rcases register_cases now identity role score free with
    ⟨keys, cause, -, failed⟩ | ⟨fingerprint, keys, missing, -, -, -, done⟩
  · have same : gate.engine.perform now (.register identity role score) =
        { gate.engine with keys } := congrArg Prod.snd failed
    simp only [Gate.perform, same]
    exact ⟨[], addition_of_keys consistent keys⟩
  · have same := congrArg Prod.snd done
    refine ⟨[(IdentityRecord.register identity role score fingerprint now).registrationEvent],
      congrArg Engine.ledger same, ?_, ?_, rfl⟩
    · intro record membership
      rw [List.mem_singleton.mp membership]
      rfl
    · have stored : gate.engine.Stored (gate.engine.perform now (.register identity role score))
          [(IdentityRecord.register identity role score fingerprint now).registrationEvent]
          (IdentityRecord.register identity role score fingerprint now) := by
        rw [Engine.perform, same]
        exact ⟨rfl, rfl, rfl, rfl, rfl⟩
      exact consistent.enrolled stored free missing

theorem addition_rotate (consistent : gate.engine.Consistent phases) (now : Instant)
    (identity : String) (free : gate.engine.isHeld identity = false) :
    ∃ added, gate.Addition (gate.perform now (.engine (.rotate identity))) phases added := by
  rcases rotate_cases gate.engine now identity with
    ⟨keys, cause, -, same⟩ | ⟨record, fingerprint, keys, found, -, -, same⟩
  · simp only [Gate.perform, Engine.perform, same]
    exact ⟨[], addition_of_keys consistent keys⟩
  · have owned : record.id = identity := consistent.keyed _ _ found
    subst owned
    refine ⟨[rotationEvent record record.id fingerprint now],
      congrArg (fun answer => answer.2.ledger) same, ?_, ?_, rfl⟩
    · intro written membership
      rw [List.mem_singleton.mp membership]
      rfl
    · have stored : gate.engine.Stored (gate.engine.perform now (.rotate record.id))
          [rotationEvent record record.id fingerprint now]
          (rotatedRecord record fingerprint now) := by
        rw [Engine.perform, same]
        exact ⟨rfl, rfl, rfl, rfl, rfl⟩
      exact consistent.stored stored free found rfl ⟨rfl, rfl⟩

theorem addition_commit (consistent : gate.engine.Consistent phases) (now : Instant)
    {commit : Commit Float} (noUpdate : commit.update = none)
    (outside : ∀ record ∈ commit.events, record.IsOutside)
    (free : gate.engine.isHeld commit.identity = false) :
    ∃ added, gate.Addition (gate.perform now (.engine (.commit commit))) phases added := by
  cases done : gate.engine.commit now commit with
  | error cause =>
      have same : gate.engine.perform now (.commit commit) = gate.engine := by
        simp only [Engine.perform, Engine.commitInPlace_eq, done, apart]
      simp only [Gate.perform, same]
      exact ⟨[], addition_of_keys consistent gate.engine.keys⟩
  | ok answer =>
      obtain ⟨receipt, later⟩ := answer
      obtain ⟨prepared, record, ready, found, -, -, same⟩ := commit_cases done
      obtain ⟨_, window, -, -, -, -, -, changed, written⟩ := prepare_cases ready
      have unchanged : prepared.update = none := by
        rw [changed, noUpdate]
        rfl
      have owned : record.id = commit.identity := consistent.keyed _ _ found
      have allOutside : ∀ event ∈ prepared.records, event.IsOutside := by
        intro event membership
        rw [written, unchanged] at membership
        rcases List.mem_append.mp membership with given | window
        · exact outside event given
        · simp only [effectEvents, Option.map_none, Option.toList_none, List.append_nil,
            Option.mem_toList, Option.map_eq_some_iff] at window
          obtain ⟨⟨honesty, deadline⟩, -, rfl⟩ := window
          exact ⟨rfl, by simp [coolingOffEvent]⟩
      have reached : gate.engine.perform now (.commit commit) =
          { gate.engine with ledger := gate.engine.ledger.append prepared.records }.settled record
            prepared := by
        simp only [Engine.perform, Engine.commitInPlace_eq, done, apart, same]
      have stored : gate.engine.Stored (gate.engine.perform now (.commit commit))
          prepared.records (settledRecord record prepared) := by
        rw [reached]
        exact gate.engine.stored_settled record prepared
      refine ⟨prepared.records, stored.ledger, fun event membership =>
        (allOutside event membership).1, ?_, rfl⟩
      have present : gate.engine.record? (settledRecord record prepared).id = some record := by
        rw [id_settledRecord, owned]
        exact found
      refine consistent.stored stored ?_ present ?_ (silent_of_isOutside allOutside)
      · rw [id_settledRecord, owned]
        exact free
      · rw [trustScore_settledRecord, unchanged]
        rfl

theorem addition_perform (consistent : gate.engine.Consistent phases) (now : Instant)
    {operation : Operation} (keeps : operation.KeepsScores) (free : operation.IsFree gate.engine) :
    ∃ added, gate.Addition (gate.perform now operation) phases added := by
  rcases gate.perform_cases now operation with ⟨asked, rfl, -⟩ | ⟨records, change⟩
  · cases asked with
    | register identity role score =>
        exact addition_register consistent now identity role score free
    | commit commit => exact addition_commit consistent now keeps.1 keeps.2 free
    | penalize event => exact keeps.elim
    | drift identity instant => exact keeps.elim
    | rotate identity => exact addition_rotate consistent now identity free
  · exact ⟨records, change.addition consistent⟩

end Gate

/-! ## Invariants of a system -/

namespace System

/-- How far every call has come; where there is none, nothing has begun. -/
def phases (system : System K) (index : Nat) : Phase :=
  (system.calls[index]?.map Call.phase).getD .before

/-- The engine, the log and the calls agree. -/
structure Sound (system : System K) : Prop where
  consistent : system.gate.engine.Consistent system.phases
  log : system.log.map Prod.snd = system.gate.engine.ledger
  writers : ∀ index entry, (some index, entry) ∈ system.log → index < system.calls.length
  others : ∀ record ∈ system.written none, record.eventType.isOfCalls = false
  belongs : ∀ (index : Nat) (call : Call), system.calls[index]? = some call →
    call.Of system.gate.config
  accounts : ∀ (index : Nat) (call : Call), system.calls[index]? = some call →
    call.Accounts (system.written (some index))

theorem phases_of_getElem? {system : System K} {index : Nat} {call : Call}
    (found : system.calls[index]? = some call) : system.phases index = call.phase := by
  simp [phases, found]

/-- Who is no call has written nothing. -/
theorem written_of_length_le {system : System K}
    (writers : ∀ index entry, (some index, entry) ∈ system.log → index < system.calls.length)
    {index : Nat} (beyond : system.calls.length ≤ index) : system.written (some index) = [] := by
  have none : system.log.filter (fun entry => entry.1 = some index) = [] := by
    rw [List.filter_eq_nil_iff]
    rintro ⟨writer, entry⟩ membership same
    cases of_decide_eq_true same
    exact absurd (writers index entry membership) (Nat.not_lt.mpr beyond)
  rw [written, none]
  rfl

section Moved

variable {system : System K} {later : Gate K} {added : List LedgerRecord}

theorem log_moved (ledger : later.engine.ledger = system.gate.engine.ledger.append added)
    (writer : Option Nat) :
    (system.moved writer later).log =
      system.log ++ (system.gate.engine.ledger.staged added).map fun entry => (writer, entry) := by
  simp [moved, ledger]

theorem map_log_moved (log : system.log.map Prod.snd = system.gate.engine.ledger)
    (ledger : later.engine.ledger = system.gate.engine.ledger.append added)
    (writer : Option Nat) : (system.moved writer later).log.map Prod.snd = later.engine.ledger := by
  have unlabelled : Prod.snd ∘ (fun entry : LedgerEntry => (writer, entry)) = id := rfl
  rw [log_moved ledger, List.map_append, log, List.map_map, unlabelled, List.map_id, ledger,
    Ledger.append]

theorem written_moved (ledger : later.engine.ledger = system.gate.engine.ledger.append added)
    (writer other : Option Nat) :
    (system.moved writer later).written other =
      system.written other ++ if writer = other then added else [] := by
  have labelled : ((system.gate.engine.ledger.staged added).map fun entry =>
        (writer, entry)).filter (fun entry => entry.1 = other) =
      if writer = other then
        (system.gate.engine.ledger.staged added).map fun entry => (writer, entry)
      else [] := by
    by_cases same : writer = other
    · rw [if_pos same, List.filter_eq_self]
      intro entry membership
      obtain ⟨_, -, rfl⟩ := List.mem_map.mp membership
      exact decide_eq_true same
    · rw [if_neg same, List.filter_eq_nil_iff]
      intro entry membership
      obtain ⟨_, -, rfl⟩ := List.mem_map.mp membership
      simpa using same
  rw [written, written, log_moved ledger, List.filter_append, List.map_append, labelled]
  by_cases same : writer = other
  · have records := system.gate.engine.ledger.records_staged added
    simp only [if_pos same, List.map_map]
    rw [← records]
    simp [Function.comp_def]
  · simp [same]

end Moved

namespace Sound

variable [KeyProvider K] {system : System K}

omit [KeyProvider K] in
theorem written_of_length_le (sound : system.Sound) {index : Nat}
    (beyond : system.calls.length ≤ index) : system.written (some index) = [] :=
  System.written_of_length_le sound.writers beyond

omit [KeyProvider K] in
theorem start {trust : TrustConfig Float} {keys : K} {engine : Engine Float K}
    {config : GateConfig} {library : Library} {checker : ContractChecker}
    {verifier : Option DeepVerifier} {ids : Ids} {gate : Gate K}
    (engineStarted : Engine.start trust keys = .ok engine)
    (gateStarted : Gate.start config engine library checker verifier ids = .ok gate) :
    System.Sound ⟨gate, [], []⟩ := by
  have made := Gate.eq_of_start gateStarted
  subst made
  have empty : engine.ledger = [] := by rw [(Engine.start_eq_ok engineStarted).2]
  have idle : ∀ gate : Gate K, System.phases ⟨gate, [], []⟩ = fun _ => .before := by
    intro gate
    funext index
    simp [System.phases]
  refine ⟨?_, empty.symm, by simp, by simp [System.written], by simp, by simp⟩
  rw [idle]
  exact Engine.Consistent.start engineStarted

omit [KeyProvider K] in
theorem submit (sound : system.Sound) {call : Call} (fresh : call.IsFresh) :
    System.Sound { system with calls := system.calls ++ [call] } := by
  have phases : System.phases { system with calls := system.calls ++ [call] } =
      system.phases := by
    funext index
    unfold System.phases
    rcases Nat.lt_trichotomy index system.calls.length with below | same | above
    · rw [List.getElem?_append_left below]
    · subst same
      simp [Call.phase_of_isFresh fresh]
    · rw [List.getElem?_eq_none (Nat.le_of_lt above), List.getElem?_eq_none]
      simpa using Nat.succ_le_of_lt above
  have found : ∀ index other, (system.calls ++ [call])[index]? = some other →
      system.calls[index]? = some other ∨ index = system.calls.length ∧ other = call := by
    intro index other present
    rcases Nat.lt_or_ge index system.calls.length with below | beyond
    · rw [List.getElem?_append_left below] at present
      exact .inl present
    · rw [List.getElem?_append_right beyond] at present
      have zero : index - system.calls.length < [call].length :=
        (List.getElem?_eq_some_iff.mp present).1
      have same : index = system.calls.length := by
        rw [List.length_singleton] at zero
        omega
      subst same
      simp only [Nat.sub_self, List.getElem?_cons_zero, Option.some.injEq] at present
      exact .inr ⟨rfl, present.symm⟩
  refine ⟨?_, sound.log, ?_, sound.others, ?_, ?_⟩
  · rw [phases]
    exact sound.consistent
  · intro index entry membership
    have below := sound.writers index entry membership
    simp only [List.length_append, List.length_singleton]
    omega
  · intro index other present
    rcases found index other present with old | ⟨-, rfl⟩
    · exact sound.belongs index other old
    · exact Call.of_isFresh fresh _
  · intro index other present
    rcases found index other present with old | ⟨rfl, rfl⟩
    · exact sound.accounts index other old
    · have nothing := sound.written_of_length_le (Nat.le_refl _)
      have early : other.phase.IsEarly := .inl (Call.phase_of_isFresh fresh)
      have accounts := Call.accounts_of_isEarly early
      rw [← nothing] at accounts
      exact accounts

omit [KeyProvider K] in
theorem step (sound : system.Sound) {index : Nat} {call next : Call} {now : Instant}
    {later : Gate K} (found : system.calls[index]? = some call)
    (stepped : call.step? now system.gate = some (next, later)) :
    System.Sound { system.moved (some index) later with
      calls := system.calls.set index next } := by
  have below : index < system.calls.length := (List.getElem?_eq_some_iff.mp found).1
  have reached := phases_of_getElem? found
  have belongs := sound.belongs index call found
  obtain ⟨added, ledger, accounts⟩ := Call.accounts_of_step? sound.consistent.keyed
    (fun prepared settling => sound.consistent.settling index prepared (reached.trans settling))
    belongs (sound.accounts index call found) stepped
  have config := Call.config_of_step? stepped
  have phases : System.phases { system.moved (some index) later with
      calls := system.calls.set index next } = Function.update system.phases index next.phase := by
    funext other
    by_cases here : other = index
    · subst here
      rw [Function.update_self]
      simp [System.phases, below]
    · rw [Function.update_of_ne here]
      simp [System.phases, List.getElem?_set_ne (Ne.symm here)]
  have plain : ∀ prepared, system.phases index = .writing prepared → prepared.Plain := by
    intro prepared writing
    have accounted := sound.accounts index call found
    unfold Call.Accounts at accounted
    rw [← reached, writing] at accounted
    exact accounted.2.1
  have progress := Call.progress_of_step? stepped
  rw [← reached] at progress
  refine ⟨?_, map_log_moved sound.log ledger _, ?_, ?_, ?_, ?_⟩
  · rw [phases]
    exact sound.consistent.progress progress plain
  · intro other entry membership
    simp only [List.length_set]
    rw [log_moved ledger] at membership
    rcases List.mem_append.mp membership with old | new
    · exact sound.writers other entry old
    · obtain ⟨_, -, same⟩ := List.mem_map.mp new
      cases same
      exact below
  · change ∀ record ∈ (system.moved (some index) later).written none, _
    rw [written_moved ledger (some index) none, if_neg nofun, List.append_nil]
    exact sound.others
  · intro other present foundNext
    have kept : ∀ call : Call, call.Of system.gate.config → call.Of later.config := by
      rw [config]
      exact fun _ => id
    apply kept
    by_cases here : index = other
    · subst here
      rw [List.getElem?_set_self below] at foundNext
      cases foundNext
      exact Call.of_step? belongs stepped
    · rw [List.getElem?_set_ne here] at foundNext
      exact sound.belongs other present foundNext
  · intro other present foundNext
    change present.Accounts ((system.moved (some index) later).written (some other))
    rw [written_moved ledger (some index) (some other)]
    by_cases here : index = other
    · subst here
      rw [List.getElem?_set_self below] at foundNext
      cases foundNext
      rw [if_pos rfl]
      exact accounts
    · rw [List.getElem?_set_ne here] at foundNext
      rw [if_neg (by simpa using here), List.append_nil]
      exact sound.accounts other present foundNext

theorem operate (sound : system.Sound) (now : Instant) {operation : Gate.Operation}
    (keeps : operation.KeepsScores) (free : operation.IsFree system.gate.engine) :
    (system.moved none (system.gate.perform now operation)).Sound := by
  obtain ⟨added, addition⟩ := Gate.addition_perform sound.consistent now keeps free
  obtain ⟨ledger, types, consistent, config⟩ := addition
  refine ⟨consistent, map_log_moved sound.log ledger none, ?_, ?_, ?_, ?_⟩
  · intro index entry membership
    rw [log_moved ledger] at membership
    rcases List.mem_append.mp membership with old | new
    · exact sound.writers index entry old
    · obtain ⟨_, -, same⟩ := List.mem_map.mp new
      cases same
  · rw [written_moved ledger none none, if_pos rfl]
    intro record membership
    rcases List.mem_append.mp membership with old | new
    · exact sound.others record old
    · exact types record new
  · intro index call found
    have belongs := sound.belongs index call found
    rw [← config] at belongs
    exact belongs
  · intro index call found
    rw [written_moved ledger none (some index), if_neg nofun, List.append_nil]
    exact sound.accounts index call found

/-- Every reachable system is sound where nothing but calls changes scores. -/
theorem of_reachable (reached : system.Reachable Gate.Operation.KeepsScores) : system.Sound := by
  induction reached with
  | start engineStarted gateStarted => exact start engineStarted gateStarted
  | move before moves sound =>
      cases moves with
      | submit fresh => exact sound.submit fresh
      | step found stepped => exact sound.step found stepped
      | operate now allowed free => exact sound.operate now allowed free
      | refuse refusal =>
          exact ⟨sound.consistent.of_silent rfl rfl (List.append_nil _).symm ⟨rfl, rfl⟩,
            sound.log, sound.writers, sound.others, sound.belongs, sound.accounts⟩
      | serve | wait =>
          exact ⟨sound.consistent, sound.log, sound.writers, sound.others, sound.belongs,
            sound.accounts⟩

end Sound

end System

/-! ## What the ledger tells -/

/-- The entries of a review that has ended with an outcome. -/
structure Review.Accounted (unit : CodeUnit) (outcome : ReviewOutcome)
    (records : List LedgerRecord) : Prop where
  subject : outcome.verdict.unitId = unit.id
  author : outcome.verdict.identity = unit.author
  verdicts : ofType .verdictEmitted records = [outcome.verdict.event]
  resolutions : ofType .approvalResolved records = []
  ended : outcome.state = .accepted ∨ outcome.state = .rejected ∨ outcome.state = .pendingApproval
  decided : outcome.state = .accepted ∨ outcome.state = .rejected →
    outcome.verdict.UpdatesOnce records ∧ ofType .approvalRequested records = []
  held : outcome.state = .pendingApproval →
    outcome.verdict.status = .held ∧ ofType .trustUpdated records = [] ∧
      ∃ request now, outcome.approval = some request ∧
        ofType .approvalRequested records = [Gate.requestEvent now request]

/-- The entries of a resolution that has ended with an outcome. -/
structure Resolution.Accounted (ruling : Ruling) (outcome : ReviewOutcome)
    (records : List LedgerRecord) : Prop where
  ended : outcome.state = .accepted ∨ outcome.state = .rejected
  verdicts : ofType .verdictEmitted records = [outcome.verdict.event]
  updates : outcome.verdict.UpdatesOnce records
  requests : ofType .approvalRequested records = []
  resolution : ∃ request now, outcome.approval = some request ∧
    (∃ (pending : ApprovalRequest) (moment : Instant), request = pending.resolve moment ruling) ∧
    outcome.verdict.unitId = request.unitId ∧ outcome.verdict.identity = request.requester ∧
      ofType .approvalResolved records = [request.resolutionEvent now]

theorem Review.accounted_of_keeps {config : GateConfig} {unit : CodeUnit} {outcome : ReviewOutcome}
    {records : List LedgerRecord}
    (belongs : (Call.review unit (.finished (.ok outcome))).Of config)
    (keeps : (Call.review unit (.finished (.ok outcome))).Keeps records) :
    Review.Accounted unit outcome records := by
  obtain ⟨setting, -, case, rfl, emission, score, of, rfl⟩ := belongs
  obtain ⟨promise, promised, kept⟩ := keeps
  cases promised
  have state : (emission.outcome score).state = emission.verdict.status.state := of.trail
  obtain ⟨requestedAt, requests⟩ := kept.requests
  obtain ⟨_, resolutions⟩ := kept.resolutions
  refine ⟨of.verdict.unit, of.verdict.author, kept.verdicts, resolutions, ?_, ?_, ?_⟩
  · rw [state]
    cases emission.verdict.status <;> simp [VerdictStatus.state]
  · intro decided
    have unheld : emission.verdict.status ≠ .held := by
      rintro held
      rw [state, held] at decided
      rcases decided with accepted | rejected <;> contradiction
    have absent : emission.request = none := by
      rw [← Option.not_isSome_iff_eq_none, of.request]
      exact unheld
    refine ⟨kept.updates unheld, requests.trans ?_⟩
    simp [Emission.outcome, absent]
  · intro pending
    have held : emission.verdict.status = .held := by
      rw [state] at pending
      cases status : emission.verdict.status with
      | held => rfl
      | pass =>
          rw [status] at pending
          contradiction
      | fail =>
          rw [status] at pending
          contradiction
    obtain ⟨request, present⟩ := Option.isSome_iff_exists.mp (of.request.mpr held)
    refine ⟨held, kept.held held, request, requestedAt, present, requests.trans ?_⟩
    simp [Emission.outcome, present]

theorem Resolution.accounted_of_keeps {config : GateConfig} {ruling : Ruling}
    {outcome : ReviewOutcome} {records : List LedgerRecord}
    (belongs : (Call.resolution ruling (.finished (.ok outcome))).Of config)
    (keeps : (Call.resolution ruling (.finished (.ok outcome))).Keeps records) :
    Resolution.Accounted ruling outcome records := by
  obtain ⟨settlement, score, of, rfl⟩ := belongs
  obtain ⟨promise, promised, kept⟩ := keeps
  cases promised
  obtain ⟨id, moment, made⟩ := of.verdict
  have decided : settlement.verdict.status = .pass ∨ settlement.verdict.status = .fail := by
    rw [made]
    unfold ApprovalRequest.finalVerdict ApprovalRequest.verdictStatus
    dsimp only
    split
    · exact .inl rfl
    · exact .inr rfl
  have state : (settlement.outcome score).state = settlement.verdict.status.state := of.trail
  obtain ⟨_, requests⟩ := kept.requests
  obtain ⟨resolvedAt, resolutions⟩ := kept.resolutions
  refine ⟨?_, kept.verdicts, kept.updates ?_, requests, settlement.resolved, resolvedAt, rfl,
    of.resolved, ?_, ?_, resolutions⟩
  · rw [state]
    rcases decided with passed | failed
    · rw [passed]
      exact .inl rfl
    · rw [failed]
      exact .inr rfl
  · rcases decided with passed | failed
    · simp [Settlement.outcome, passed]
    · simp [Settlement.outcome, failed]
  · exact congrArg Verdict.unitId made
  · exact congrArg Verdict.identity made

namespace System

/-- What the ledger of a system tells of its calls and of all scores. -/
structure Audited (system : System K) : Prop where
  log : system.log.map Prod.snd = system.gate.engine.ledger
  reviews : ∀ (index : Nat) (unit : CodeUnit) (outcome : ReviewOutcome),
    system.calls[index]? = some (.review unit (.finished (.ok outcome))) →
      Review.Accounted unit outcome (system.written (some index))
  resolutions : ∀ (index : Nat) (ruling : Ruling) (outcome : ReviewOutcome),
    system.calls[index]? = some (.resolution ruling (.finished (.ok outcome))) →
      Resolution.Accounted ruling outcome (system.written (some index))
  failures : ∀ (index : Nat) (call : Call) (cause : GateError), system.calls[index]? = some call →
    call.result? = some (.error cause) → system.written (some index) = []
  unfinished : ∀ (index : Nat) (call : Call), system.calls[index]? = some call →
    call.result? = none →
      system.written (some index) = [] ∨ call.Keeps (system.written (some index))
  writers : ∀ index entry, (some index, entry) ∈ system.log → index < system.calls.length
  others : ∀ record ∈ system.written none, record.eventType.isOfCalls = false
  scores : ∀ identity record, system.gate.engine.record? identity = some record →
    ∃ first last, Registers identity first system.gate.engine.ledger.records ∧
      Leads first (about identity .trustUpdated system.gate.engine.ledger.records) last ∧
      ((∀ call ∈ system.calls, call.phase.held? ≠ some identity) → last = record.trustScore)
  strangers : ∀ identity, system.gate.engine.record? identity = none →
    about identity .trustUpdated system.gate.engine.ledger.records = []

variable [KeyProvider K]

/-- However calls are interleaved and whatever batches are refused, a call that succeeds writes its
verdict and its update once, a call that fails writes nothing, nobody else writes such entries, and
the updates of every score are a chain. -/
theorem audited_of_reachable {system : System K}
    (reached : system.Reachable Gate.Operation.KeepsScores) : system.Audited := by
  have sound := Sound.of_reachable reached
  have kept : ∀ (index : Nat) (call : Call), system.calls[index]? = some call →
      call.phase = .after → call.Keeps (system.written (some index)) := by
    intro index call found after
    have accounts := sound.accounts index call found
    unfold Call.Accounts at accounts
    rw [after] at accounts
    exact accounts
  refine ⟨sound.log, ?_, ?_, ?_, ?_, sound.writers, sound.others, ?_, ?_⟩
  · intro index unit outcome found
    exact Review.accounted_of_keeps (sound.belongs index _ found) (kept index _ found rfl)
  · intro index ruling outcome found
    exact Resolution.accounted_of_keeps (sound.belongs index _ found) (kept index _ found rfl)
  · intro index call cause found failed
    have accounts := sound.accounts index call found
    unfold Call.Accounts at accounts
    rw [Call.phase_of_error failed] at accounts
    exact accounts
  · intro index call found _
    have accounts := sound.accounts index call found
    unfold Call.Accounts at accounts
    cases phase : call.phase with
    | before => exact .inl (by simpa [phase] using accounts)
    | asking commit => exact .inl (by simpa [phase] using accounts)
    | writing prepared =>
        rw [phase] at accounts
        exact .inl accounts.1
    | settling prepared =>
        rw [phase] at accounts
        obtain ⟨same, keeps⟩ := accounts
        rw [same]
        exact .inr keeps
    | after => exact .inr (kept index call found phase)
  · intro identity record present
    obtain ⟨first, last, registers, leads, -, even⟩ :=
      sound.consistent.known identity record present
    refine ⟨first, last, registers, leads, ?_⟩
    intro free
    apply even
    intro index prepared settling same
    cases found : system.calls[index]? with
    | none => simp [phases, found] at settling
    | some call =>
        rw [phases_of_getElem? found] at settling
        apply free call (List.mem_of_getElem? found)
        rw [settling, ← same]
        rfl
  · intro identity missing
    exact (sound.consistent.unknown identity missing).2

end System

namespace Small

/-- Another unit of the same author. -/
def again : CodeUnit := { unit with id := "again" }

/-- Two reviews for one author.  The second one comes to its verdict before the first one has
written its own, and it has to wait while the first one holds the record. -/
def overlapping : Nat → System LocalKeys :=
  System.play now
    (fun moment =>
      if moment < 5 then 0 else if moment < 10 then 1 else if moment < 15 then 0 else 1)
    ⟨gateOver staffed, [.review unit (.submitted unit), .review again (.submitted again)],
      registered⟩

theorem reachable_overlapping (moment : Nat) :
    (overlapping moment).Reachable Gate.Operation.KeepsScores := by
  have valid : GateConfig.default.validate = .ok () := by rfl
  have reached : System.Reachable Gate.Operation.KeepsScores ⟨gateOver staffed, [], registered⟩ :=
    reachable_with valid (by decide) .empty none trivial
  have first := reached.move (.submit (show (Call.review unit _).IsFresh from rfl))
  have second := first.move (.submit (show (Call.review again _).IsFresh from rfl))
  exact second.play now _ moment

/-- Whether the first of two calls holds the record of an author and the second one has to wait. -/
def blocks (author : String) (system : System LocalKeys) : Bool :=
  match system.calls with
  | [first, second] => decide (first.phase.held? = some author) && second.result?.isNone &&
      (second.step? now system.gate).isNone
  | _ => false

theorem waits_of_blocks {author : String} {system : System LocalKeys}
    (blocked : blocks author system = true) :
    ∃ first second, system.calls = [first, second] ∧ first.phase.held? = some author ∧
      second.result? = none ∧ second.step? now system.gate = none := by
  unfold blocks at blocked
  split at blocked
  · rename_i first second calls
    simp only [Bool.and_eq_true, decide_eq_true_eq, Option.isNone_iff_eq_none] at blocked
    obtain ⟨⟨held, unfinished⟩, waiting⟩ := blocked
    exact ⟨first, second, calls, held, unfinished, waiting⟩
  · contradiction

end Small

namespace System

open ReviewGate.Small

/-- Two units of one author are accepted while their reviews overlap.  At one moment the first
review has written its batch and holds the record, and the second one is under way and waits for it.
All that both have written is accounted for. -/
theorem audited_overlapping_reviews :
    (overlapping 20).Reachable Gate.Operation.KeepsScores ∧
    (∃ first second, (overlapping 12).calls = [first, second] ∧
      first.phase.held? = some unit.author ∧ (overlapping 12).written (some 0) ≠ [] ∧
      second.result? = none ∧ second.step? now (overlapping 12).gate = none) ∧
    (∃ one other : ReviewOutcome, (overlapping 20).calls =
        [.review unit (.finished (.ok one)), .review again (.finished (.ok other))] ∧
      one.state = .accepted ∧ other.state = .accepted) ∧
    (about unit.author .trustUpdated (overlapping 20).gate.engine.ledger.records).length = 2 ∧
    (overlapping 20).Audited := by
  have blocked : blocks unit.author (overlapping 12) = true := by decide +kernel
  obtain ⟨first, second, calls, held, unfinished, waiting⟩ := waits_of_blocks blocked
  have wrote : (overlapping 12).written (some 0) ≠ [] := by
    have nonempty : ((overlapping 12).written (some 0)).isEmpty = false := by decide +kernel
    simpa using nonempty
  have ends : (overlapping 20).calls.map Call.ending? =
      [some (unit, .accepted), some (again, .accepted)] := by decide +kernel
  have updates : (about unit.author .trustUpdated
      (overlapping 20).gate.engine.ledger.records).length = 2 := by decide +kernel
  obtain ⟨one, others, finished, accepted, rest⟩ := List.map_eq_cons_iff.mp ends
  obtain ⟨other, last, found, acceptedToo, ended⟩ := List.map_eq_cons_iff.mp rest
  obtain ⟨outcome, rfl, state⟩ := Call.exists_of_ending? accepted
  obtain ⟨outcomeToo, rfl, stateToo⟩ := Call.exists_of_ending? acceptedToo
  rw [found, List.map_eq_nil_iff.mp ended] at finished
  exact ⟨reachable_overlapping 20, ⟨first, second, calls, held, wrote, unfinished, waiting⟩,
    ⟨outcome, outcomeToo, finished, state, stateToo⟩, updates,
    audited_of_reachable (reachable_overlapping 20)⟩

end System

end ReviewGate
