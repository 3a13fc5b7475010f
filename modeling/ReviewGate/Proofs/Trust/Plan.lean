import ReviewGate.Proofs.Trust.Change

/-!
# Plans

Before the ledger is asked, an operation has settled all that it depends on: what it will write,
what it will store and which keys remain either way.  What it does is this plan and one answer of
the ledger.
-/

namespace ReviewGate

variable {R K : Type} [Scalar R] [KeyProvider K]

namespace Engine

/-- What an operation comes to before the ledger is asked: nothing but perhaps other keys, or one
record to be stored and one batch to be written, with the keys after that and the keys after a
refusal. -/
inductive Plan (R K : Type) where
  | idle (keys : K)
  | write (records : List LedgerRecord) (record : IdentityRecord R) (keys back : K)

def plan (engine : Engine R K) (now : Instant) : Operation R → Plan R K
  | .register identity role score =>
      match engine.requireAdmissible identity score with
      | .error _ => .idle engine.keys
      | .ok _ =>
          match KeyProvider.issue engine.keys identity with
          | (.error _, keys) => .idle keys
          | (.ok fingerprint, keys) =>
              .write [(IdentityRecord.register identity role score fingerprint
                  now).registrationEvent]
                (.register identity role score fingerprint now) keys
                (KeyProvider.revert keys identity fingerprint).2
  | .commit asked =>
      match engine.record? asked.identity, engine.admitCommit asked, engine.prepare now asked with
      | some record, .ok _, .ok prepared =>
          .write prepared.records (settledRecord record prepared) engine.keys engine.keys
      | _, _, _ => .idle engine.keys
  | .penalize event =>
      match engine.record? event.identity with
      | none => .idle engine.keys
      | some record =>
          match engine.config.penalties.charge record.trustScore event.kind event.honesty
            (engine.stageFor record.trustScore) (penaltyDay record event.timestamp).2 with
          | .error _ => .idle engine.keys
          | .ok outcome =>
              .write [penaltyEvent event (engine.stageFor record.trustScore) outcome]
                (chargedRecord record event (penaltyDay record event.timestamp).1 outcome)
                engine.keys engine.keys
  | .drift identity instant =>
      match engine.record? identity with
      | none => .idle engine.keys
      | some record =>
          let update := engine.driftUpdate record identity instant
          if update.newScore - update.oldScore < 0.0001 ∧
              update.oldScore - update.newScore < 0.0001 then .idle engine.keys
          else .write [update.event] (driftedRecord record update) engine.keys engine.keys
  | .rotate identity =>
      match engine.record? identity with
      | none => .idle engine.keys
      | some record =>
          match KeyProvider.rotate engine.keys identity with
          | (.error _, keys) => .idle keys
          | (.ok fingerprint, keys) =>
              .write [rotationEvent record identity fingerprint now]
                (rotatedRecord record fingerprint now) keys
                (KeyProvider.revert keys identity fingerprint).2

omit [Scalar R] [KeyProvider K] in
/-- What becomes of a plan: the ledger takes the batch, or the operation fails with the refusal. -/
def Plan.Becomes (engine : Engine R K) : Plan R K → Option TrustError × Engine R K → Prop
  | .idle keys, (_, later) => later = { engine with keys }
  | .write records record keys back, (answer, later) =>
      match engine.refusal records with
      | some cause => answer = some (.ledger cause) ∧ later = { engine with keys := back }
      | none => answer = none ∧ ∃ history, later = engine.changed records record keys history

variable {engine : Engine R K}

theorem plan_register (rest : engine.AtRest) (now : Instant) (identity : String) (role : Role)
    (score : R) :
    (engine.plan now (.register identity role score)).Becomes engine
      (engine.attempt now (.register identity role score)) := by
  have free := rest.free identity
  rw [plan, attempt]
  cases admissible : engine.requireAdmissible identity score with
  | error cause =>
      rw [register_of_inadmissible now role admissible]
      rfl
  | ok admitted =>
      rcases issued : KeyProvider.issue engine.keys identity with ⟨cause | fingerprint, keys⟩
      · rw [register_of_unissued now role admissible issued]
        rfl
      · dsimp only [Plan.Becomes]
        cases refused : engine.refusal [(IdentityRecord.register identity role score fingerprint
          now).registrationEvent] with
        | some cause =>
            rw [register_of_refused free admissible issued refused]
            exact ⟨rfl, rfl⟩
        | none =>
            rw [register_of_accepted free admissible issued refused]
            exact ⟨rfl, engine.history, rfl⟩

theorem plan_rotate (now : Instant) (identity : String) :
    (engine.plan now (.rotate identity)).Becomes engine
      (engine.attempt now (.rotate identity)) := by
  rw [plan, attempt, rotate]
  cases found : engine.record? identity with
  | none =>
      have missing : engine.identity identity = .error (.unknownIdentity identity) := by
        rw [Engine.identity, found]
      rw [missing]
      rfl
  | some record =>
      rw [identity_eq_ok_iff.mpr found]
      rcases rotated : KeyProvider.rotate engine.keys identity with ⟨cause | fingerprint, keys⟩
      · rfl
      · dsimp only [Plan.Becomes, rotationEvent, audit, write]
        generalize engine.refusal _ = refusal
        cases refusal with
        | some cause => exact ⟨rfl, rfl⟩
        | none => exact ⟨rfl, engine.history, rfl⟩

theorem plan_commit (now : Instant) (asked : Commit R) :
    (engine.plan now (.commit asked)).Becomes engine (engine.attempt now (.commit asked)) := by
  rw [plan, attempt, commitInPlace]
  cases admitted : engine.admitCommit asked with
  | error cause => cases engine.record? asked.identity <;> rfl
  | ok _ =>
      cases ready : engine.prepare now asked with
      | error cause => cases engine.record? asked.identity <;> rfl
      | ok prepared =>
          obtain ⟨record, window, found, -, -, same, -⟩ := prepare_cases ready
          rw [found]
          dsimp only [Plan.Becomes, write]
          cases refused : engine.refusal prepared.records with
          | some cause => exact ⟨rfl, rfl⟩
          | none =>
              obtain ⟨history, changed⟩ := engine.exists_settled_eq_changed record prepared
              have present : ({ engine with
                  ledger := engine.ledger.append prepared.records }).record? prepared.identity =
                  some record := by
                rw [same]
                exact found
              dsimp only
              rw [settle_eq_ok_iff.mpr ⟨record, present, rfl, rfl⟩]
              exact ⟨rfl, history, changed⟩

theorem plan_penalize (now : Instant) (event : PenaltyEvent) :
    (engine.plan now (.penalize event)).Becomes engine
      (engine.attempt now (.penalize event)) := by
  rw [plan, attempt, applyPenaltyInPlace, Engine.identity]
  cases engine.record? event.identity with
  | none => rfl
  | some record =>
      dsimp only [bind, Except.bind]
      cases engine.config.penalties.charge record.trustScore event.kind event.honesty
        (engine.stageFor record.trustScore) (penaltyDay record event.timestamp).2 with
      | error cause => rfl
      | ok outcome =>
          dsimp only [Plan.Becomes, penaltyEvent, audit, write]
          simp only [decide_eq_true_eq]
          generalize engine.refusal _ = refusal
          cases refusal with
          | some cause => exact ⟨rfl, rfl⟩
          | none => exact ⟨rfl, _, rfl⟩

theorem plan_drift (now : Instant) (identity : String) (instant : Instant) :
    (engine.plan now (.drift identity instant)).Becomes engine
      (engine.attempt now (.drift identity instant)) := by
  rw [plan, attempt, applyDecayInPlace, Engine.identity]
  cases engine.record? identity with
  | none => rfl
  | some record =>
      dsimp only [bind, Except.bind, driftUpdate]
      split
      · rfl
      · dsimp only [Plan.Becomes, audit, write]
        generalize engine.refusal _ = refusal
        cases refusal with
        | some cause => exact ⟨rfl, rfl⟩
        | none => exact ⟨rfl, _, rfl⟩

/-- Every operation goes as planned. -/
theorem becomes_of_attempt (rest : engine.AtRest) (now : Instant) (operation : Operation R) :
    (engine.plan now operation).Becomes engine (engine.attempt now operation) := by
  cases operation with
  | register identity role score => exact plan_register rest now identity role score
  | commit asked => exact plan_commit now asked
  | penalize event => exact plan_penalize now event
  | drift identity instant => exact plan_drift now identity instant
  | rotate identity => exact plan_rotate now identity

end Engine

end ReviewGate
