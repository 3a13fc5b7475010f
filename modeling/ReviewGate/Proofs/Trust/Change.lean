import ReviewGate.Proofs.Trust.Operation

/-!
# Changes and runs

An operation comes to nothing, and then leaves everything but the keys as it was, or it makes one of
five changes.  A run is a list of operations between which the storage may change its mind about
what it refuses.
-/

namespace ReviewGate

variable {R K : Type} [Scalar R] [KeyProvider K]

/-- The error of an operation that has failed. -/
def failure? {α : Type} : Except TrustError α → Option TrustError
  | .ok _ => none
  | .error cause => some cause

namespace Engine

/-! ## Answers -/

/-- An operation with its error, if it fails, and the engine that it leaves behind. -/
def attempt (now : Instant) (engine : Engine R K) : Operation R → Option TrustError × Engine R K
  | .register identity role score =>
      let (registration, later) := engine.register now identity role score
      (registration.result?.bind failure?, later)
  | .commit asked =>
      let (answer, later) := engine.commitInPlace now asked
      (failure? answer, later)
  | .penalize event =>
      let (answer, later) := engine.applyPenaltyInPlace event
      (failure? answer, later)
  | .drift identity instant =>
      let (answer, later) := engine.applyDecayInPlace identity instant
      (failure? answer, later)
  | .rotate identity =>
      let (answer, later) := engine.rotate now identity
      (failure? answer, later)

theorem attempt_commit (now : Instant) (engine : Engine R K) (asked : Commit R) :
    engine.attempt now (.commit asked) =
      match engine.commit now asked with
      | .ok (_, later) => (none, later)
      | .error cause => (some cause, engine) := by
  rw [attempt, commitInPlace_eq]
  rcases engine.commit now asked with cause | ⟨receipt, later⟩ <;> rfl

theorem attempt_penalize (now : Instant) (engine : Engine R K) (event : PenaltyEvent) :
    engine.attempt now (.penalize event) =
      match engine.applyPenalty event with
      | .ok (_, later) => (none, later)
      | .error cause => (some cause, engine) := by
  rw [attempt, applyPenaltyInPlace_eq]
  rcases engine.applyPenalty event with cause | ⟨outcome, later⟩ <;> rfl

theorem attempt_drift (now : Instant) (engine : Engine R K) (identity : String)
    (instant : Instant) :
    engine.attempt now (.drift identity instant) =
      match engine.applyDecay identity instant with
      | .ok (_, later) => (none, later)
      | .error cause => (some cause, engine) := by
  rw [attempt, applyDecayInPlace_eq]
  rcases engine.applyDecay identity instant with cause | ⟨score, later⟩ <;> rfl

theorem attempt_snd (now : Instant) (engine : Engine R K) (operation : Operation R) :
    (engine.attempt now operation).2 = engine.perform now operation := by
  cases operation <;> rfl

/-! ## Changes -/

/-- The record that an operation stores where it takes effect, the batch that tells of it, and the
keys afterwards. -/
inductive Change (engine : Engine R K) (now : Instant) :
    Operation R → List LedgerRecord → IdentityRecord R → K → Prop where
  | register {identity : String} (role : Role) {score : R} {fingerprint : String} {keys : K}
      (absent : engine.record? identity = none) (within : Scalar.InUnit score)
      (issued : KeyProvider.issue engine.keys identity = (.ok fingerprint, keys)) :
      Change engine now (.register identity role score)
        [(IdentityRecord.register identity role score fingerprint now).registrationEvent]
        (.register identity role score fingerprint now) keys
  | commit {asked : Commit R} {prepared : PreparedCommit R} {record : IdentityRecord R}
      (found : engine.record? asked.identity = some record)
      (ready : engine.prepare now asked = .ok prepared) :
      Change engine now (.commit asked) prepared.records (settledRecord record prepared)
        engine.keys
  | penalize {event : PenaltyEvent} {record : IdentityRecord R} {outcome : PenaltyOutcome R}
      (found : engine.record? event.identity = some record)
      (charged : engine.config.penalties.charge record.trustScore event.kind event.honesty
        (engine.stageFor record.trustScore) (penaltyDay record event.timestamp).2 = .ok outcome) :
      Change engine now (.penalize event)
        [penaltyEvent event (engine.stageFor record.trustScore) outcome]
        (chargedRecord record event (penaltyDay record event.timestamp).1 outcome) engine.keys
  | drift {identity : String} {instant : Instant} {record : IdentityRecord R}
      (found : engine.record? identity = some record) :
      Change engine now (.drift identity instant)
        [(engine.driftUpdate record identity instant).event]
        (driftedRecord record (engine.driftUpdate record identity instant)) engine.keys
  | rotate {identity : String} {record : IdentityRecord R} {fingerprint : String} {keys : K}
      (found : engine.record? identity = some record)
      (rotated : KeyProvider.rotate engine.keys identity = (.ok fingerprint, keys)) :
      Change engine now (.rotate identity) [rotationEvent record identity fingerprint now]
        (rotatedRecord record fingerprint now) keys

theorem Change.id_eq {engine : Engine R K} (keyed : engine.Keyed) {now : Instant}
    {operation : Operation R} {records : List LedgerRecord} {record : IdentityRecord R} {keys : K}
    (change : engine.Change now operation records record keys) :
    record.id = operation.identity := by
  cases change with
  | register => rfl
  | commit found ready =>
      rw [id_settledRecord]
      exact keyed _ _ found
  | penalize found | drift found | rotate found =>
      have owned := keyed _ _ found
      exact owned

/-- What an operation that comes to nothing may do to the keys. -/
def Leaves (engine : Engine R K) : Operation R → K → Prop
  | .register identity _ _, keys =>
      KeyProvider.Undone engine.keys identity (KeyProvider.issue engine.keys identity) keys
  | .rotate identity, keys =>
      KeyProvider.Undone engine.keys identity (KeyProvider.rotate engine.keys identity) keys
  | _, keys => keys = engine.keys

omit [KeyProvider K] in
/-- An engine after a change. -/
def changed (engine : Engine R K) (records : List LedgerRecord) (record : IdentityRecord R)
    (keys : K) (history : List (ScoreUpdate R)) : Engine R K :=
  { engine with
    identities := engine.identities.insert record.id record
    ledger := engine.ledger.append records
    keys
    history }

omit [Scalar R] [KeyProvider K] in
theorem stored_changed (engine : Engine R K) (records : List LedgerRecord)
    (record : IdentityRecord R) (keys : K) (history : List (ScoreUpdate R)) :
    engine.Stored (engine.changed records record keys history) records record :=
  ⟨rfl, rfl, rfl, rfl, rfl⟩

omit [Scalar R] [KeyProvider K] in
@[simp]
theorem record?_changed (engine : Engine R K) (records : List LedgerRecord)
    (record : IdentityRecord R) (keys : K) (history : List (ScoreUpdate R)) (identity : String) :
    (engine.changed records record keys history).record? identity =
      if record.id = identity then some record else engine.record? identity :=
  (engine.stored_changed records record keys history).record? identity

omit [Scalar R] [KeyProvider K] in
theorem exists_settled_eq_changed (engine : Engine R K) (record : IdentityRecord R)
    (prepared : PreparedCommit R) :
    ∃ history, ({ engine with ledger := engine.ledger.append prepared.records } :
        Engine R K).settled record prepared =
      engine.changed prepared.records (settledRecord record prepared) engine.keys history := by
  unfold settled
  cases prepared.update with
  | none => exact ⟨engine.history, rfl⟩
  | some update => exact ⟨_, rfl⟩

/-- Without an effect at most the keys are others; an effect means that nothing has failed. -/
theorem attempt_cases {engine : Engine R K} (now : Instant) {operation : Operation R}
    (free : engine.isHeld operation.identity = false) :
    (∃ keys, engine.Leaves operation keys ∧
      (engine.attempt now operation).2 = { engine with keys }) ∨
    ∃ records record keys history, engine.Change now operation records record keys ∧
      engine.attempt now operation = (none, engine.changed records record keys history) := by
  cases operation with
  | register identity role score =>
      rw [attempt]
      rcases register_cases now identity role score free with
        ⟨keys, cause, undone, failed⟩ |
          ⟨fingerprint, keys, absent, within, -, issued, done⟩
      · rw [failed]
        exact .inl ⟨keys, undone, rfl⟩
      · rw [done]
        exact .inr ⟨_, _, keys, engine.history, .register role absent within issued, rfl⟩
  | commit asked =>
      rw [attempt_commit]
      cases done : engine.commit now asked with
      | error cause => exact .inl ⟨engine.keys, rfl, rfl⟩
      | ok answer =>
          obtain ⟨receipt, later⟩ := answer
          obtain ⟨prepared, record, ready, found, -, -, rfl⟩ := commit_cases done
          obtain ⟨history, same⟩ := engine.exists_settled_eq_changed record prepared
          exact .inr ⟨_, _, engine.keys, history, .commit found ready, Prod.ext rfl same⟩
  | penalize event =>
      rw [attempt_penalize]
      cases done : engine.applyPenalty event with
      | error cause => exact .inl ⟨engine.keys, rfl, rfl⟩
      | ok answer =>
          obtain ⟨outcome, later⟩ := answer
          obtain ⟨record, found, charged, -, rfl⟩ := applyPenalty_cases done
          exact .inr ⟨_, _, engine.keys, _, .penalize found charged, rfl⟩
  | drift identity instant =>
      rw [attempt_drift]
      cases done : engine.applyDecay identity instant with
      | error cause => exact .inl ⟨engine.keys, rfl, rfl⟩
      | ok answer =>
          obtain ⟨score, later⟩ := answer
          rcases applyDecay_cases done with same | ⟨record, found, -, rfl⟩
          · rw [same]
            exact .inl ⟨engine.keys, rfl, rfl⟩
          · exact .inr ⟨_, _, engine.keys, _, .drift found, rfl⟩
  | rotate identity =>
      rw [attempt]
      rcases rotate_cases engine now identity with
        ⟨keys, cause, undone, failed⟩ | ⟨record, fingerprint, keys, found, -, rotated, done⟩
      · rw [failed]
        exact .inl ⟨keys, undone, rfl⟩
      · rw [done]
        exact .inr ⟨_, _, keys, engine.history, .rotate found rotated, rfl⟩

/-- An operation changes at most the keys, or it makes its change. -/
theorem perform_cases {engine : Engine R K} (now : Instant) {operation : Operation R}
    (free : engine.isHeld operation.identity = false) :
    (∃ keys, engine.perform now operation = { engine with keys }) ∨
    ∃ records record keys history, engine.Change now operation records record keys ∧
      engine.perform now operation = engine.changed records record keys history := by
  rw [← attempt_snd]
  rcases attempt_cases now free with
    ⟨keys, -, same⟩ | ⟨records, record, keys, history, change, same⟩
  · exact .inl ⟨keys, same⟩
  · exact .inr ⟨records, record, keys, history, change, congrArg Prod.snd same⟩

theorem Keyed.perform {engine : Engine R K} (keyed : engine.Keyed) (now : Instant)
    {operation : Operation R} (free : engine.isHeld operation.identity = false) :
    (engine.perform now operation).Keyed := by
  rcases perform_cases now free with ⟨keys, same⟩ | ⟨records, record, keys, history, -, same⟩
  · rw [same]
    exact keyed
  · rw [same]
    exact (engine.stored_changed records record keys history).keyed keyed

/-! ## Rest -/

omit [Scalar R] [KeyProvider K] in
/-- Nobody is about to change a record, and every record is stored under its own id. -/
structure AtRest (engine : Engine R K) : Prop where
  keyed : engine.Keyed
  unheld : engine.held = []

namespace AtRest

omit [Scalar R] [KeyProvider K] in
theorem free {engine : Engine R K} (rest : engine.AtRest) (identity : String) :
    engine.isHeld identity = false := by
  rw [isHeld, rest.unheld]
  rfl

omit [Scalar R] [KeyProvider K] in
theorem changed {engine : Engine R K} (rest : engine.AtRest) (records : List LedgerRecord)
    (record : IdentityRecord R) (keys : K) (history : List (ScoreUpdate R)) :
    (engine.changed records record keys history).AtRest :=
  ⟨(engine.stored_changed records record keys history).keyed rest.keyed, rest.unheld⟩

omit [KeyProvider K] in
theorem of_start {config : TrustConfig R} {keys : K} {engine : Engine R K}
    (started : Engine.start config keys = .ok engine) : engine.AtRest := by
  refine ⟨keyed_of_start started, ?_⟩
  rw [(start_eq_ok started).2]

theorem attempt {engine : Engine R K} (rest : engine.AtRest) (now : Instant)
    (operation : Operation R) : (engine.attempt now operation).2.AtRest := by
  rcases attempt_cases now (rest.free operation.identity) with
    ⟨keys, -, same⟩ | ⟨records, record, keys, history, -, same⟩
  · rw [same]
    exact ⟨rest.keyed, rest.unheld⟩
  · rw [same]
    exact rest.changed records record keys history

theorem config_attempt {engine : Engine R K} (rest : engine.AtRest) (now : Instant)
    (operation : Operation R) : (engine.attempt now operation).2.config = engine.config := by
  rcases attempt_cases now (rest.free operation.identity) with
    ⟨keys, -, same⟩ | ⟨records, record, keys, history, -, same⟩
  · rw [same]
  · rw [same]
    rfl

theorem of_reachable {permitted : Operation R → Prop} {engine : Engine R K}
    (reached : Reachable permitted engine) : engine.AtRest := by
  induction reached with
  | start started => exact of_start started
  | perform _ _ _ rest =>
      rw [← attempt_snd]
      exact rest.attempt _ _
  | refuse _ _ rest => exact ⟨rest.keyed, rest.unheld⟩

end AtRest

/-! ## Runs -/

/-- What can happen to an engine: somebody asks it for an operation, or the storage changes its mind
about what it refuses. -/
inductive Turn (R : Type) where
  | operation (now : Instant) (operation : Operation R)
  | refusal (refusal : Refusal)

def step (engine : Engine R K) : Turn R → Engine R K
  | .operation now operation => (engine.attempt now operation).2
  | .refusal refusal => { engine with refusal }

def run (engine : Engine R K) (turns : List (Turn R)) : Engine R K := turns.foldl step engine

theorem AtRest.step {engine : Engine R K} (rest : engine.AtRest) (turn : Turn R) :
    (engine.step turn).AtRest ∧ (engine.step turn).config = engine.config := by
  cases turn with
  | operation now operation => exact ⟨rest.attempt now operation, rest.config_attempt now operation⟩
  | refusal refusal => exact ⟨⟨rest.keyed, rest.unheld⟩, rfl⟩

theorem AtRest.config_run {engine : Engine R K} (rest : engine.AtRest) (turns : List (Turn R)) :
    (engine.run turns).config = engine.config := by
  induction turns generalizing engine with
  | nil => rfl
  | cons turn later inductionHypothesis =>
      exact (inductionHypothesis (rest.step turn).1).trans (rest.step turn).2

theorem config_run_of_start {config : TrustConfig R} {keys : K} {engine : Engine R K}
    (started : Engine.start config keys = .ok engine) (turns : List (Turn R)) :
    (engine.run turns).config = config := by
  rw [(AtRest.of_start started).config_run, (start_eq_ok started).2]

end Engine

end ReviewGate
