import ReviewGate.Proofs.Data.Laws
import ReviewGate.Proofs.Time.Text
import ReviewGate.Proofs.Trust.Ledger
import ReviewGate.Trust.Upkeep

/-!
# Operations of the trust engine

All that callers can ask of an engine, and what each operation does.  One that succeeds appends one
batch to the ledger and stores one record; one that fails changes at most the keys.
-/

namespace ReviewGate

variable {R K : Type}

section Requirements

variable [Scalar R]

theorem requireUnit_eq_ok_iff {name : String} {value : R} :
    requireUnit name value = .ok () ↔ Scalar.InUnit value := by
  unfold requireUnit
  split <;> simp_all

theorem require_eq_ok_iff {condition : Prop} [Decidable condition] {cause : Invalid} :
    require condition cause = .ok () ↔ condition := by
  unfold require
  split <;> simp_all

end Requirements

/-- The keys after a request for a key that comes to nothing: it has not been made, it has been
refused, or the new key has been given back. -/
inductive KeyProvider.Undone [KeyProvider K] (keys : K) (identity : String)
    (answer : Except KeyError String × K) : K → Prop where
  | unasked : Undone keys identity answer keys
  | refused {cause : KeyError} {later : K} (refusal : answer = (.error cause, later)) :
      Undone keys identity answer later
  | reverted {fingerprint : String} {later : K} (grant : answer = (.ok fingerprint, later)) :
      Undone keys identity answer (KeyProvider.revert later identity fingerprint).2

namespace Engine

section Access

/-! ## Reading and writing -/

theorem identity_eq_ok_iff {engine : Engine R K} {identity : String} {record : IdentityRecord R} :
    engine.identity identity = .ok record ↔ engine.record? identity = some record := by
  unfold Engine.identity
  split <;> simp_all

theorem write_eq_ok_iff {engine later : Engine R K} {records : List LedgerRecord}
    {hashes : List String} :
    engine.write records = .ok (hashes, later) ↔
      engine.refusal records = none ∧ hashes = engine.ledger.appendedHashes records ∧
        later = { engine with ledger := engine.ledger.append records } := by
  unfold write
  split
  · simp_all
  · simp_all [eq_comm]

theorem write_eq_error_iff {engine : Engine R K} {records : List LedgerRecord}
    {cause : LedgerError} :
    engine.write records = .error cause ↔ engine.refusal records = some cause := by
  unfold write
  split <;> simp_all

theorem audit_eq_ok_iff {engine later : Engine R K} {event : LedgerRecord} :
    engine.audit event = .ok later ↔
      engine.refusal [event] = none ∧
        later = { engine with ledger := engine.ledger.append [event] } := by
  unfold audit write
  cases engine.refusal [event] with
  | some cause => simp
  | none => simp [eq_comm]

@[simp]
theorem record?_put (engine : Engine R K) (record : IdentityRecord R) (identity : String) :
    (engine.put record).record? identity =
      if record.id = identity then some record else engine.record? identity :=
  Table.get?_insert record.id identity record engine.identities

/-- Every record is stored under its own id. -/
def Keyed (engine : Engine R K) : Prop :=
  ∀ identity record, engine.record? identity = some record → record.id = identity

end Access

variable [Scalar R]

theorem start_eq_ok {config : TrustConfig R} {keys : K} {engine : Engine R K}
    (started : Engine.start config keys = .ok engine) :
    config.validate = .ok () ∧ engine = ⟨config, [], [], [], fun _ => none, keys, []⟩ := by
  obtain ⟨_, valid, same⟩ := bind_eq_ok_iff.mp started
  cases same
  exact ⟨valid, rfl⟩

theorem record?_of_start {config : TrustConfig R} {keys : K} {engine : Engine R K}
    (started : Engine.start config keys = .ok engine) (identity : String) :
    engine.record? identity = none := by
  rw [(start_eq_ok started).2]
  rfl

theorem keyed_of_start {config : TrustConfig R} {keys : K} {engine : Engine R K}
    (started : Engine.start config keys = .ok engine) : engine.Keyed := by
  intro identity record found
  rw [record?_of_start started] at found
  cases found

section Commits

/-! ## Commits -/

/-- The events of the window and of the update of a commit. -/
def effectEvents (identity : String) (window : Option (Honesty × Instant))
    (update : Option (ScoreUpdate R)) (now : Instant) : List LedgerRecord :=
  (window.map fun (honesty, deadline) => coolingOffEvent identity honesty deadline now).toList ++
    (update.map (·.event)).toList

/-- A prepared commit writes the caller's events, then the window, then the update. -/
theorem prepare_cases {engine : Engine R K} {now : Instant} {commit : Commit R}
    {prepared : PreparedCommit R} (done : engine.prepare now commit = .ok prepared) :
    ∃ (record : IdentityRecord R) (window : Option (Honesty × Instant)),
      engine.record? commit.identity = some record ∧
      window.map Prod.fst = commit.coolingOff ∧
      (∀ honesty deadline, window = some (honesty, deadline) →
        engine.config.coolingOff.deadline? honesty now record.coolingOffUntil = .ok deadline) ∧
      prepared.identity = commit.identity ∧
      prepared.coolingOffUntil = window.map Prod.snd ∧
      prepared.update = commit.update.map (fun (outcome, context) =>
        engine.scoreUpdate record outcome context commit.reference now) ∧
      prepared.records =
        commit.events ++ effectEvents commit.identity window prepared.update now := by
  unfold prepare at done
  obtain ⟨identity, events, coolingOff, update, reference⟩ := commit
  dsimp only at done ⊢
  cases found : engine.identity identity with
  | error cause => simp [found, bind, Except.bind] at done
  | ok record =>
      have stored := identity_eq_ok_iff.mp found
      cases coolingOff with
      | none =>
          simp only [found, bind, Except.bind, Option.mapM_none, pure, Except.pure] at done
          cases done
          refine ⟨record, none, stored, rfl, by simp, rfl, rfl, rfl, ?_⟩
          simp [effectEvents]
      | some honesty =>
          cases ends : engine.config.coolingOff.deadline? honesty now record.coolingOffUntil with
          | error cause =>
              simp [found, ends, bind, Except.bind, Option.mapM_some, Functor.map,
                Except.map] at done
          | ok deadline =>
              simp only [found, ends, bind, Except.bind, Option.mapM_some, pure, Except.pure,
                Functor.map, Except.map] at done
              cases done
              refine ⟨record, some (honesty, deadline), stored, rfl, ?_, rfl, rfl, rfl, ?_⟩
              · rintro _ _ ⟨⟩
                exact ends
              · simp [effectEvents]

omit [Scalar R] in
/-- The engine after a written commit has taken effect on a record. -/
def settled (engine : Engine R K) (record : IdentityRecord R) (prepared : PreparedCommit R) :
    Engine R K :=
  match prepared.update with
  | some update => (engine.put (settledRecord record prepared)).remember update
  | none => engine.put (settledRecord record prepared)

omit [Scalar R] in
theorem settle_eq_ok_iff {engine later : Engine R K} {prepared : PreparedCommit R}
    {hashes : List String} {receipt : Receipt R} :
    engine.settle prepared hashes = .ok (receipt, later) ↔
      ∃ record, engine.record? prepared.identity = some record ∧
        receipt = ⟨(settledRecord record prepared).trustScore, prepared.update,
          prepared.coolingOffUntil, hashes⟩ ∧
        later = engine.settled record prepared := by
  unfold settle settled
  rw [bind_eq_ok_iff]
  simp only [identity_eq_ok_iff]
  cases prepared.update <;> simp [pure, Except.pure, eq_comm]

omit [Scalar R] in
theorem missing_of_settle {engine : Engine R K} {prepared : PreparedCommit R}
    {hashes : List String} {cause : TrustError}
    (failed : engine.settle prepared hashes = .error cause) :
    engine.record? prepared.identity = none := by
  cases found : engine.record? prepared.identity with
  | none => rfl
  | some record =>
      have succeeded : engine.settle prepared hashes = .ok (_, engine.settled record prepared) :=
        settle_eq_ok_iff.mpr ⟨record, found, rfl, rfl⟩
      rw [succeeded] at failed
      contradiction

omit [Scalar R] in
@[simp]
theorem id_settledRecord (record : IdentityRecord R) (prepared : PreparedCommit R) :
    (settledRecord record prepared).id = record.id := by
  unfold settledRecord
  cases prepared.coolingOffUntil <;> cases prepared.update <;> rfl

omit [Scalar R] in
theorem trustScore_settledRecord (record : IdentityRecord R) (prepared : PreparedCommit R) :
    (settledRecord record prepared).trustScore =
      (prepared.update.map (·.newScore)).getD record.trustScore := by
  unfold settledRecord
  cases prepared.coolingOffUntil <;> cases prepared.update <;> rfl

omit [Scalar R] in
theorem coolingOffUntil_settledRecord (record : IdentityRecord R) (prepared : PreparedCommit R) :
    (settledRecord record prepared).coolingOffUntil =
      prepared.coolingOffUntil.or record.coolingOffUntil := by
  unfold settledRecord
  cases prepared.coolingOffUntil <;> cases prepared.update <;> rfl

omit [Scalar R] in
@[simp]
theorem record?_settled (engine : Engine R K) (record : IdentityRecord R)
    (prepared : PreparedCommit R) (identity : String) :
    (engine.settled record prepared).record? identity =
      if record.id = identity then some (settledRecord record prepared)
      else engine.record? identity := by
  have stored := record?_put engine (settledRecord record prepared) identity
  rw [id_settledRecord] at stored
  unfold settled
  cases prepared.update <;> exact stored

omit [Scalar R] in
@[simp]
theorem ledger_settled (engine : Engine R K) (record : IdentityRecord R)
    (prepared : PreparedCommit R) : (engine.settled record prepared).ledger = engine.ledger := by
  unfold settled
  cases prepared.update <;> rfl

omit [Scalar R] in
@[simp]
theorem held_settled (engine : Engine R K) (record : IdentityRecord R)
    (prepared : PreparedCommit R) : (engine.settled record prepared).held = engine.held := by
  unfold settled
  cases prepared.update <;> rfl

theorem commit_eq (engine : Engine R K) (now : Instant) (asked : Commit R) :
    engine.commit now asked = (do
      engine.admitCommit asked
      let prepared ← engine.prepare now asked
      match engine.write prepared.records with
      | .error cause => throw (.ledger cause)
      | .ok (hashes, engine) => engine.settle prepared hashes) := by
  unfold Engine.commit commitInPlace
  cases engine.admitCommit asked with
  | error cause => rfl
  | ok _ =>
      cases engine.prepare now asked with
      | error cause => rfl
      | ok prepared =>
          dsimp only [bind, Except.bind]
          rcases engine.write prepared.records with cause | ⟨hashes, wrote⟩
          · rfl
          · dsimp only
            cases wrote.settle prepared hashes <;> rfl

/-- What is written takes effect, since the record has been found before. -/
theorem spares_commitInPlace (engine : Engine R K) (now : Instant) (asked : Commit R) :
    Spares engine (engine.commitInPlace now asked) := by
  unfold commitInPlace
  split
  · exact spares_same engine _
  · split
    · exact spares_same engine _
    · rename_i prepared ready
      split
      · exact spares_same engine _
      · rename_i hashes wrote written
        split
        · rename_i cause failed
          obtain ⟨-, -, rfl⟩ := write_eq_ok_iff.mp written
          obtain ⟨record, window, found, -, -, same, -⟩ := prepare_cases ready
          have missing := missing_of_settle failed
          rw [same] at missing
          cases missing.symm.trans found
        · exact spares_ok engine _ _

theorem commitInPlace_eq (engine : Engine R K) (now : Instant) (asked : Commit R) :
    engine.commitInPlace now asked = apart engine (engine.commit now asked) :=
  (engine.spares_commitInPlace now asked).eq_apart

/-- A commit that succeeds has been prepared, written and settled without an interruption. -/
theorem commit_cases {engine later : Engine R K} {now : Instant} {commit : Commit R}
    {receipt : Receipt R} (done : engine.commit now commit = .ok (receipt, later)) :
    ∃ prepared record,
      engine.prepare now commit = .ok prepared ∧
      engine.record? commit.identity = some record ∧
      engine.refusal prepared.records = none ∧
      receipt = ⟨(settledRecord record prepared).trustScore, prepared.update,
        prepared.coolingOffUntil, engine.ledger.appendedHashes prepared.records⟩ ∧
      later = { engine with ledger := engine.ledger.append prepared.records }.settled record
        prepared := by
  rw [commit_eq] at done
  obtain ⟨_, -, continued⟩ := bind_eq_ok_iff.mp done
  obtain ⟨prepared, ready, continued⟩ := bind_eq_ok_iff.mp continued
  cases written : engine.write prepared.records with
  | error cause => simp [written, throw, throwThe, MonadExceptOf.throw] at continued
  | ok answer =>
      obtain ⟨hashes, wrote⟩ := answer
      simp only [written] at continued
      obtain ⟨accepted, rfl, rfl⟩ := write_eq_ok_iff.mp written
      obtain ⟨record, found, told, changed⟩ := settle_eq_ok_iff.mp continued
      have same := (prepare_cases ready).choose_spec.choose_spec.2.2.2.1
      rw [same] at found
      exact ⟨prepared, record, ready, found, accepted, told, changed⟩

end Commits

section Upkeep

/-! ## Penalties and drift -/

/-- The event of a penalty. -/
def penaltyEvent (event : PenaltyEvent) (stage : Stage) (outcome : PenaltyOutcome R) :
    LedgerRecord where
  identity := event.identity
  eventType := if outcome.disposition = .deferred then .penaltyDeferred else .penaltyApplied
  payload := Json.ofFields [("event", event.toJson), ("stage", Named.toJson stage),
    ("outcome", outcome.toJson)]
  timestamp := event.timestamp

omit [Scalar R] in
/-- A record after a penalty. -/
def chargedRecord (record : IdentityRecord R) (event : PenaltyEvent) (day : Day)
    (outcome : PenaltyOutcome R) : IdentityRecord R :=
  { record with
    trustScore := outcome.adjustedScore
    dailyPenaltySum := outcome.dailySum
    penaltyDay := day
    lastTrustUpdate :=
      if outcome.disposition = .deferred then record.lastTrustUpdate else event.timestamp }

/-- The change that a penalty makes. -/
def penaltyUpdate (record : IdentityRecord R) (event : PenaltyEvent)
    (outcome : PenaltyOutcome R) : ScoreUpdate R where
  identity := event.identity
  oldScore := record.trustScore
  newScore := outcome.adjustedScore
  delta := outcome.adjustedScore - record.trustScore
  kind := if outcome.disposition = .deferred then .penaltyDeferred else .microPenalty
  context := Named.name event.kind ++ ": " ++ event.reason
  reference := none
  timestamp := event.timestamp

theorem spares_applyPenaltyInPlace (engine : Engine R K) (event : PenaltyEvent) :
    Spares engine (engine.applyPenaltyInPlace event) := by
  unfold applyPenaltyInPlace
  split
  · exact spares_same engine _
  · dsimp only
    split
    · exact spares_same engine _
    · split
      · exact spares_same engine _
      · exact spares_ok engine _ _

theorem applyPenaltyInPlace_eq (engine : Engine R K) (event : PenaltyEvent) :
    engine.applyPenaltyInPlace event = apart engine (engine.applyPenalty event) :=
  (engine.spares_applyPenaltyInPlace event).eq_apart

theorem applyPenalty_cases {engine later : Engine R K} {event : PenaltyEvent}
    {outcome : PenaltyOutcome R} (done : engine.applyPenalty event = .ok (outcome, later)) :
    ∃ record,
      engine.record? event.identity = some record ∧
      engine.config.penalties.charge record.trustScore event.kind event.honesty
        (engine.stageFor record.trustScore) (penaltyDay record event.timestamp).2 = .ok outcome ∧
      engine.refusal [penaltyEvent event (engine.stageFor record.trustScore) outcome] = none ∧
      later = ({ engine with
          ledger := engine.ledger.append
            [penaltyEvent event (engine.stageFor record.trustScore) outcome] }.put
        (chargedRecord record event (penaltyDay record event.timestamp).1 outcome)).remember
          (penaltyUpdate record event outcome) := by
  replace done := together_eq_ok_iff.mp done
  unfold applyPenaltyInPlace at done
  split at done
  · cases done
  · rename_i record found
    dsimp only at done
    split at done
    · cases done
    · rename_i charged priced
      split at done
      · cases done
      · rename_i wrote audited
        obtain ⟨accepted, rfl⟩ := audit_eq_ok_iff.mp audited
        simp only [Prod.mk.injEq, Except.ok.injEq, decide_eq_true_eq] at done
        obtain ⟨rfl, rfl⟩ := done
        simp only [decide_eq_true_eq] at accepted ⊢
        exact ⟨record, identity_eq_ok_iff.mp found, priced, accepted, rfl⟩

/-- The change that a drift makes. -/
def driftUpdate (engine : Engine R K) (record : IdentityRecord R) (identity : String)
    (instant : Instant) : ScoreUpdate R where
  identity
  oldScore := record.trustScore
  newScore := engine.config.decay.decay record.trustScore record.lastTrustUpdate instant
  delta := engine.config.decay.decay record.trustScore record.lastTrustUpdate instant -
    record.trustScore
  kind := .temporalDecay
  context := "inactivity drift toward baseline (" ++
    Layout.message.write (Scalar.toFloat engine.config.decay.baseline) ++ ")"
  reference := none
  timestamp := instant

omit [Scalar R] in
/-- A record after a drift. -/
def driftedRecord (record : IdentityRecord R) (update : ScoreUpdate R) : IdentityRecord R :=
  { record with trustScore := update.newScore, lastTrustUpdate := update.timestamp }

theorem spares_applyDecayInPlace (engine : Engine R K) (identity : String) (instant : Instant) :
    Spares engine (engine.applyDecayInPlace identity instant) := by
  unfold applyDecayInPlace
  split
  · exact spares_same engine _
  · dsimp only
    split
    · exact spares_ok engine _ _
    · split
      · exact spares_same engine _
      · exact spares_ok engine _ _

theorem applyDecayInPlace_eq (engine : Engine R K) (identity : String) (instant : Instant) :
    engine.applyDecayInPlace identity instant =
      apart engine (engine.applyDecay identity instant) :=
  (engine.spares_applyDecayInPlace identity instant).eq_apart

/-- A drift is too small to matter, or it is written down and takes effect. -/
theorem applyDecay_cases {engine later : Engine R K} {identity : String} {instant : Instant}
    {score : R} (done : engine.applyDecay identity instant = .ok (score, later)) :
    later = engine ∨
    ∃ record,
      engine.record? identity = some record ∧
      engine.refusal [(engine.driftUpdate record identity instant).event] = none ∧
      later = ({ engine with
          ledger := engine.ledger.append
            [(engine.driftUpdate record identity instant).event] }.put
        (driftedRecord record (engine.driftUpdate record identity instant))).remember
          (engine.driftUpdate record identity instant) := by
  replace done := together_eq_ok_iff.mp done
  unfold applyDecayInPlace at done
  split at done
  · cases done
  · rename_i record found
    dsimp only at done
    split at done
    · cases done
      exact .inl rfl
    · split at done
      · cases done
      · rename_i wrote audited
        obtain ⟨accepted, rfl⟩ := audit_eq_ok_iff.mp audited
        cases done
        exact .inr ⟨record, identity_eq_ok_iff.mp found, accepted, rfl⟩

end Upkeep

section Keys

variable [KeyProvider K]

/-! ## Rotation and registration -/

omit [Scalar R] in
/-- A record after its key has been replaced. -/
def rotatedRecord (record : IdentityRecord R) (fingerprint : String) (now : Instant) :
    IdentityRecord R :=
  { record with
    archivedKeys :=
      record.archivedKeys ++ [⟨record.keyFingerprint, record.keyIssuedAt, now⟩]
    keyFingerprint := fingerprint
    keyIssuedAt := now
    rotationCount := record.rotationCount + 1 }

omit [Scalar R] in
/-- The event of a rotation. -/
def rotationEvent (record : IdentityRecord R) (identity fingerprint : String) (now : Instant) :
    LedgerRecord where
  identity
  eventType := .identityRotated
  payload := Json.ofFields
    [("retired", ArchivedKey.toJson ⟨record.keyFingerprint, record.keyIssuedAt, now⟩),
      ("key_fingerprint", .string fingerprint),
      ("rotation_count", Json.ofNat (record.rotationCount + 1))]
  timestamp := now

omit [Scalar R] in
theorem rotate_cases (engine : Engine R K) (now : Instant) (identity : String) :
    (∃ keys cause,
      KeyProvider.Undone engine.keys identity (KeyProvider.rotate engine.keys identity) keys ∧
      engine.rotate now identity = (.error cause, { engine with keys })) ∨
    ∃ record fingerprint keys,
      engine.record? identity = some record ∧
      engine.refusal [rotationEvent record identity fingerprint now] = none ∧
      KeyProvider.rotate engine.keys identity = (.ok fingerprint, keys) ∧
      engine.rotate now identity =
        (.ok fingerprint, { engine with
          keys
          ledger := engine.ledger.append
            [rotationEvent record identity fingerprint now] }.put
          (rotatedRecord record fingerprint now)) := by
  unfold rotate
  cases found : engine.identity identity with
  | error cause => exact .inl ⟨engine.keys, cause, .unasked, rfl⟩
  | ok record =>
      rcases rotated : KeyProvider.rotate engine.keys identity with ⟨cause | fingerprint, keys⟩
      · exact .inl ⟨keys, .keys cause, .refused rfl, rfl⟩
      · dsimp only
        split
        · exact .inl ⟨_, _, .reverted rfl, rfl⟩
        · rename_i wrote audited
          obtain ⟨accepted, rfl⟩ := audit_eq_ok_iff.mp audited
          exact .inr ⟨record, fingerprint, keys, identity_eq_ok_iff.mp found, accepted, rfl, rfl⟩

end Keys

end Engine

namespace Registration

variable [Scalar R] [KeyProvider K]

theorem run_of_step {now : Instant} {engine later : Engine R K} {registration next : Registration R}
    (stepped : step? now engine registration = some (next, later)) :
    run now (fun _ => false) engine registration = run now (fun _ => false) later next := by
  rw [run, if_neg (by simp)]
  split
  · rename_i stopped
    rw [stopped] at stepped
    contradiction
  · rename_i found
    rw [found] at stepped
    cases stepped
    rfl

theorem run_finished (now : Instant) (engine : Engine R K)
    (result : Except TrustError (IdentityRecord R)) :
    run now (fun _ => false) engine (.finished result) = (.finished result, engine) := by
  rw [run, if_neg (by simp)]
  split
  · rfl
  · rename_i found
    simp [step?] at found

theorem run_failing (now : Instant) (engine : Engine R K) (record : IdentityRecord R)
    (cause : TrustError) :
    run now (fun _ => false) engine (.failing record cause) =
      (.finished (.error cause), engine.revertKey record.id record.keyFingerprint) := by
  rw [run_of_step rfl, run_finished]

end Registration

namespace Engine

variable [Scalar R] [KeyProvider K]

omit [KeyProvider K] in
theorem requireAdmissible_eq_ok {engine : Engine R K} {identity : String} {score : R}
    (admissible : engine.requireAdmissible identity score = .ok ()) :
    engine.record? identity = none ∧ Scalar.InUnit score := by
  unfold requireAdmissible at admissible
  obtain ⟨_, -, continued⟩ := bind_eq_ok_iff.mp admissible
  obtain ⟨_, required, continued⟩ := bind_eq_ok_iff.mp continued
  have inUnit := requireUnit_eq_ok_iff.mp required
  by_cases taken : engine.identities.has identity
  · simp [taken, throw, throwThe, MonadExceptOf.throw] at continued
  · refine ⟨Table.has_eq_false_iff.mp ?_, inUnit⟩
    simpa using taken

theorem register_of_inadmissible {engine : Engine R K} {identity : String} {score : R}
    (now : Instant) (role : Role) {cause : TrustError}
    (inadmissible : engine.requireAdmissible identity score = .error cause) :
    engine.register now identity role score = (.finished (.error cause), engine) := by
  have first : Registration.step? now engine (.submitted identity role score) =
      some (.finished (.error cause), engine) := by
    simp [Registration.step?, inadmissible]
  rw [Engine.register, Registration.run_of_step first, Registration.run_finished]

theorem register_of_unissued {engine : Engine R K} {identity : String} {score : R} {keys : K}
    (now : Instant) (role : Role) {cause : KeyError}
    (admissible : engine.requireAdmissible identity score = .ok ())
    (refused : KeyProvider.issue engine.keys identity = (.error cause, keys)) :
    engine.register now identity role score =
      (.finished (.error (.keys cause)), { engine with keys }) := by
  have first : Registration.step? now engine (.submitted identity role score) =
      some (.admitted identity role score, engine) := by
    simp [Registration.step?, admissible]
  have second : Registration.step? now engine (.admitted identity role score) =
      some (.finished (.error (.keys cause)), { engine with keys }) := by
    simp [Registration.step?, issueKey, refused]
  rw [Engine.register, Registration.run_of_step first, Registration.run_of_step second,
    Registration.run_finished]

/-- With a key at hand the record is entered into the table. -/
theorem register_of_issued {engine : Engine R K} {identity fingerprint : String} {score : R}
    {keys : K} (now : Instant) (role : Role)
    (admissible : engine.requireAdmissible identity score = .ok ())
    (issued : KeyProvider.issue engine.keys identity = (.ok fingerprint, keys)) :
    engine.register now identity role score =
      Registration.run now (fun _ => false)
        ({ engine with keys }.put (.register identity role score fingerprint now))
        (.enrolled (.register identity role score fingerprint now)) := by
  have first : Registration.step? now engine (.submitted identity role score) =
      some (.admitted identity role score, engine) := by
    simp [Registration.step?, admissible]
  have second : Registration.step? now engine (.admitted identity role score) =
      some (.keyed identity role score fingerprint, { engine with keys }) := by
    simp [Registration.step?, issueKey, issued]
  have absent := (requireAdmissible_eq_ok admissible).1
  have third : Registration.step? now { engine with keys }
      (.keyed identity role score fingerprint) =
      some (.enrolled (.register identity role score fingerprint now),
        { engine with keys }.put (.register identity role score fingerprint now)) := by
    simp [Registration.step?, Table.has_eq_false_iff.mpr absent]
  rw [Engine.register, Registration.run_of_step first, Registration.run_of_step second,
    Registration.run_of_step third]

/-- Where nothing is in its way a registration enters a record and writes that down. -/
theorem register_of_accepted {engine : Engine R K} {identity fingerprint : String} {score : R}
    {keys : K} {now : Instant} {role : Role} (free : engine.isHeld identity = false)
    (admissible : engine.requireAdmissible identity score = .ok ())
    (issued : KeyProvider.issue engine.keys identity = (.ok fingerprint, keys))
    (accepted : engine.refusal [(IdentityRecord.register identity role score fingerprint
      now).registrationEvent] = none) :
    engine.register now identity role score =
      (.finished (.ok (IdentityRecord.register identity role score fingerprint now)),
        { engine with
          keys
          ledger := engine.ledger.append [(IdentityRecord.register identity role score
            fingerprint now).registrationEvent] }.put
          (IdentityRecord.register identity role score fingerprint now)) := by
  let record : IdentityRecord R := IdentityRecord.register identity role score fingerprint now
  have waits : ({ engine with keys }.put record).isHeld record.id = false := free
  have audited : ({ engine with keys }.put record).audit record.registrationEvent =
      .ok ({ engine with
        keys
        ledger := engine.ledger.append [record.registrationEvent] }.put record) :=
    audit_eq_ok_iff.mpr ⟨accepted, rfl⟩
  have last : Registration.step? now ({ engine with keys }.put record) (.enrolled record) =
      some (.finished (.ok record), { engine with
        keys
        ledger := engine.ledger.append [record.registrationEvent] }.put record) := by
    simp [Registration.step?, waits, audited]
  rw [register_of_issued now role admissible issued, Registration.run_of_step last,
    Registration.run_finished]

/-- Where the ledger refuses, the record is taken out of the table and the key is given back. -/
theorem register_of_refused {engine : Engine R K} {identity fingerprint : String} {score : R}
    {keys : K} {now : Instant} {role : Role} {cause : LedgerError}
    (free : engine.isHeld identity = false)
    (admissible : engine.requireAdmissible identity score = .ok ())
    (issued : KeyProvider.issue engine.keys identity = (.ok fingerprint, keys))
    (refused : engine.refusal [(IdentityRecord.register identity role score fingerprint
      now).registrationEvent] = some cause) :
    engine.register now identity role score =
      (.finished (.error (.ledger cause)),
        { engine with keys := (KeyProvider.revert keys identity fingerprint).2 }) := by
  let record : IdentityRecord R := IdentityRecord.register identity role score fingerprint now
  have waits : ({ engine with keys }.put record).isHeld record.id = false := free
  have audited : ({ engine with keys }.put record).audit record.registrationEvent =
      .error (.ledger cause) := by
    have same : ({ engine with keys }.put record).refusal [record.registrationEvent] =
        some cause := refused
    simp [audit, write, same]
  have last : Registration.step? now ({ engine with keys }.put record) (.enrolled record) =
      some (.failing record (.ledger cause), ({ engine with keys }.put record).forget record.id) := by
    simp [Registration.step?, waits, audited]
  have erased : Table.erase identity (Table.insert identity record engine.identities) =
      engine.identities :=
    Table.erase_insert_of_get?_eq_none (requireAdmissible_eq_ok admissible).1
  rw [register_of_issued now role admissible issued, Registration.run_of_step last,
    Registration.run_failing]
  simp only [revertKey, forget, put, record, IdentityRecord.register] at erased ⊢
  rw [erased]

/-- A registration that nobody interrupts fails, and then changes at most the keys, or it enters a
record that was not there and writes that down. -/
theorem register_cases {engine : Engine R K} (now : Instant) (identity : String) (role : Role)
    (score : R) (free : engine.isHeld identity = false) :
    (∃ keys cause,
      KeyProvider.Undone engine.keys identity (KeyProvider.issue engine.keys identity) keys ∧
      engine.register now identity role score =
        (.finished (.error cause), { engine with keys })) ∨
    ∃ fingerprint keys,
      engine.record? identity = none ∧ Scalar.InUnit score ∧
      engine.refusal [(IdentityRecord.register identity role score fingerprint
        now).registrationEvent] = none ∧
      KeyProvider.issue engine.keys identity = (.ok fingerprint, keys) ∧
      engine.register now identity role score =
        (.finished (.ok (IdentityRecord.register identity role score fingerprint now)),
          { engine with
            keys
            ledger := engine.ledger.append [(IdentityRecord.register identity role score
              fingerprint now).registrationEvent] }.put
            (IdentityRecord.register identity role score fingerprint now)) := by
  cases admissible : engine.requireAdmissible identity score with
  | error cause =>
      exact .inl ⟨engine.keys, cause, .unasked, register_of_inadmissible now role admissible⟩
  | ok admitted =>
      obtain ⟨absent, inUnit⟩ := requireAdmissible_eq_ok admissible
      rcases issued : KeyProvider.issue engine.keys identity with ⟨cause | fingerprint, keys⟩
      · exact .inl ⟨keys, .keys cause, .refused rfl,
          register_of_unissued now role admissible issued⟩
      · cases refused : engine.refusal [(IdentityRecord.register identity role score fingerprint
          now).registrationEvent] with
        | none =>
            exact .inr ⟨fingerprint, keys, absent, inUnit, refused, rfl,
              register_of_accepted free admissible issued refused⟩
        | some cause =>
            exact .inl ⟨_, _, .reverted rfl,
              register_of_refused free admissible issued refused⟩

/-! ## All operations -/

/-- What callers ask of an engine, apart from reading it. -/
inductive Operation (R : Type) where
  | register (identity : String) (role : Role) (score : R)
  | commit (commit : Commit R)
  | penalize (event : PenaltyEvent)
  | drift (identity : String) (instant : Instant)
  | rotate (identity : String)

namespace Operation

/-- The identity whose record an operation may change. -/
def identity : Operation R → String
  | .register identity _ _ => identity
  | .commit asked => asked.identity
  | .penalize event => event.identity
  | .drift identity _ => identity
  | .rotate identity => identity

end Operation

/-- The engine after an operation. -/
def perform (now : Instant) (engine : Engine R K) : Operation R → Engine R K
  | .register identity role score => (engine.register now identity role score).2
  | .commit commit => (engine.commitInPlace now commit).2
  | .penalize event => (engine.applyPenaltyInPlace event).2
  | .drift identity instant => (engine.applyDecayInPlace identity instant).2
  | .rotate identity => (engine.rotate now identity).2

omit [Scalar R] [KeyProvider K] in
/-- One record is stored and one batch is written. -/
structure Stored (engine later : Engine R K) (records : List LedgerRecord)
    (record : IdentityRecord R) : Prop where
  identities : later.identities = engine.identities.insert record.id record
  ledger : later.ledger = engine.ledger.append records
  config : later.config = engine.config
  refusal : later.refusal = engine.refusal
  held : later.held = engine.held

omit [Scalar R] [KeyProvider K] in
theorem stored_settled (engine : Engine R K) (record : IdentityRecord R)
    (prepared : PreparedCommit R) :
    engine.Stored
      ({ engine with ledger := engine.ledger.append prepared.records }.settled record prepared)
      prepared.records (settledRecord record prepared) := by
  unfold settled
  cases prepared.update <;> exact ⟨rfl, rfl, rfl, rfl, rfl⟩

omit [Scalar R] [KeyProvider K] in
theorem Stored.record? {engine later : Engine R K} {records : List LedgerRecord}
    {record : IdentityRecord R} (stored : engine.Stored later records record)
    (identity : String) :
    later.record? identity =
      if record.id = identity then some record else engine.record? identity := by
  rw [Engine.record?, stored.identities]
  exact Table.get?_insert record.id identity record engine.identities

omit [Scalar R] [KeyProvider K] in
theorem Stored.keyed {engine later : Engine R K} {records : List LedgerRecord}
    {record : IdentityRecord R} (stored : engine.Stored later records record)
    (keyed : engine.Keyed) : later.Keyed := by
  intro identity other found
  rw [stored.record?] at found
  split at found
  · cases found
    assumption
  · exact keyed identity other found

/-! ## Runs -/

/-- An engine that has been started and on which permitted operations have been performed, each at
an instant that a clock can show, while the storage may change its mind about what it refuses at any
moment. -/
inductive Reachable (permitted : Operation R → Prop) : Engine R K → Prop where
  | start {config : TrustConfig R} {keys : K} {engine : Engine R K}
      (started : Engine.start config keys = .ok engine) : Reachable permitted engine
  | perform {engine : Engine R K} (reached : Reachable permitted engine) {now : Instant}
      (shown : now.IsValid) {operation : Operation R} (allowed : permitted operation) :
      Reachable permitted (engine.perform now operation)
  | refuse {engine : Engine R K} (reached : Reachable permitted engine) (refusal : Refusal) :
      Reachable permitted { engine with refusal }

theorem Reachable.performAll {permitted : Operation R → Prop} {engine : Engine R K}
    (reached : Reachable permitted engine) {now : Instant} (shown : now.IsValid)
    {operations : List (Operation R)} (allowed : ∀ operation ∈ operations, permitted operation) :
    Reachable permitted (operations.foldl (Engine.perform now) engine) := by
  induction operations generalizing engine with
  | nil => exact reached
  | cons operation rest inductionHypothesis =>
      rw [List.foldl_cons]
      refine inductionHypothesis (reached.perform shown (allowed operation List.mem_cons_self)) ?_
      intro later membership
      exact allowed later (List.mem_cons_of_mem operation membership)

end Engine

/-! ## A small engine -/

namespace Small

def now : Instant := ⟨0, 0⟩

def keys : LocalKeys := .start fun identity _ => identity

def engine : Engine Float LocalKeys := ⟨.default, [], [], [], fun _ => none, keys, []⟩

def author : IdentityRecord Float := .register "ann" .judge 0.4 "ann" now

/-- The engine when the author has been registered. -/
def staffed : Engine Float LocalKeys :=
  { engine with
    keys := (KeyProvider.issue keys "ann").2
    ledger := engine.ledger.append [author.registrationEvent] }.put author

end Small

end ReviewGate
