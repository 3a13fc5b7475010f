import ReviewGate.Proofs.Trust.Plan
import ReviewGate.Proofs.Trust.Refusal

/-!
# Identities by themselves

All identities share a ledger, a history and the keys.  Still, what becomes of one identity depends
only on what is asked about it and on what the ledger refuses of that: a run looks to the identity
like a run of its own operations alone.
-/

namespace ReviewGate

variable {R K : Type}

/-! ## Keys -/

/-- A request for a key is granted alike where the keys of the identity are alike, and what is
asked for one identity leaves the keys of another alike, also after the key has been given back. -/
structure KeyProvider.Separates [KeyProvider K] (alike : String → K → K → Prop)
    (request : K → String → Except KeyError String × K) : Prop where
  granted : ∀ {identity keys twin}, alike identity keys twin →
    (request keys identity).1.isOk = (request twin identity).1.isOk
  kept : ∀ {identity keys twin}, alike identity keys twin →
    alike identity (request keys identity).2 (request twin identity).2
  reverted : ∀ {identity keys twin fingerprint another later twinLater},
    alike identity keys twin → request keys identity = (.ok fingerprint, later) →
    request twin identity = (.ok another, twinLater) →
    alike identity (KeyProvider.revert later identity fingerprint).2
      (KeyProvider.revert twinLater identity another).2
  apart : ∀ {identity other : String} (keys : K), other ≠ identity →
    alike identity keys (request keys other).2

/-- A provider that keeps identities apart: when it is in two states that are alike for an
identity, it cannot be told from its answers about the identity which of them it is in. -/
structure KeyProvider.Separation (K : Type) [KeyProvider K] where
  alike : String → K → K → Prop
  equivalence : ∀ identity, Equivalence (alike identity)
  issue : KeyProvider.Separates alike KeyProvider.issue
  rotate : KeyProvider.Separates alike KeyProvider.rotate
  revert : ∀ {identity other : String} (keys : K) (fingerprint : String), other ≠ identity →
    alike identity keys (KeyProvider.revert keys other fingerprint).2

namespace LocalKeys

/-- Whether an identity has a valid key. -/
def hasKey (keys : LocalKeys) (identity : String) : Bool := (keys.active.get? identity).isSome

theorem hasKey_issue {keys : LocalKeys} {identity : String} :
    (keys.issue identity).1.isOk = !keys.hasKey identity ∧
      (keys.issue identity).2.hasKey identity = true := by
  unfold issue hasKey
  cases found : keys.active.get? identity with
  | some old => simp [found, Except.isOk, Except.toBool]
  | none => simp [Except.isOk, Except.toBool]

theorem hasKey_rotate {keys : LocalKeys} {identity : String} :
    (keys.rotate identity).1.isOk = keys.hasKey identity ∧
      (keys.rotate identity).2.hasKey identity = keys.hasKey identity := by
  unfold rotate hasKey
  cases found : keys.active.get? identity with
  | some old => simp [Except.isOk, Except.toBool]
  | none => simp [found, Except.isOk, Except.toBool]

theorem hasKey_of_ne {keys : LocalKeys} {identity other : String} (different : other ≠ identity) :
    (keys.issue other).2.hasKey identity = keys.hasKey identity ∧
      (keys.rotate other).2.hasKey identity = keys.hasKey identity ∧
      ∀ fingerprint, (keys.revert other fingerprint).2.hasKey identity = keys.hasKey identity := by
  have distinct := different.symm
  refine ⟨?_, ?_, ?_⟩
  · unfold issue hasKey
    split <;> simp [Table.get?_insert_of_ne distinct]
  · unfold rotate hasKey
    split <;> simp [Table.get?_insert_of_ne distinct]
  · intro fingerprint
    unfold revert hasKey
    split
    · split <;> simp [Table.get?_insert_of_ne distinct, Table.get?_erase_of_ne distinct]
    · rfl

theorem hasKey_of_issue_revert {keys later : LocalKeys} {identity fingerprint : String}
    (issued : KeyProvider.issue keys identity = (.ok fingerprint, later)) :
    (KeyProvider.revert later identity fingerprint).2.hasKey identity = false := by
  obtain ⟨-, rfl, rfl⟩ := issue_eq_ok issued
  rw [revert_of_first (Table.get?_insert_self ..) (Table.get?_erase_self ..), hasKey,
    Table.get?_erase_self]
  rfl

theorem hasKey_of_rotate_revert {keys later : LocalKeys} {identity fingerprint : String}
    (rotated : KeyProvider.rotate keys identity = (.ok fingerprint, later)) :
    (KeyProvider.revert later identity fingerprint).2.hasKey identity = true := by
  obtain ⟨old, -, rfl, rfl⟩ := rotate_eq_ok rotated
  rw [revert_of_rotated (Table.get?_insert_self ..) (Table.get?_insert_self ..), hasKey,
    Table.get?_insert_self]
  rfl

/-- Keys in memory know of an identity whether it has one. -/
def separation : KeyProvider.Separation LocalKeys where
  alike identity keys twin := keys.hasKey identity = twin.hasKey identity
  equivalence _ := ⟨fun _ => rfl, Eq.symm, Eq.trans⟩
  issue := {
    granted := fun alike => by
      change (LocalKeys.issue _ _).1.isOk = (LocalKeys.issue _ _).1.isOk
      rw [hasKey_issue.1, hasKey_issue.1, alike]
    kept := fun _ => hasKey_issue.2.trans hasKey_issue.2.symm
    reverted := fun _ issued twinIssued =>
      (hasKey_of_issue_revert issued).trans (hasKey_of_issue_revert twinIssued).symm
    apart := fun _ different => (hasKey_of_ne different).1.symm }
  rotate := {
    granted := fun alike => by
      change (LocalKeys.rotate _ _).1.isOk = (LocalKeys.rotate _ _).1.isOk
      rw [hasKey_rotate.1, hasKey_rotate.1, alike]
    kept := fun alike => hasKey_rotate.2.trans (alike.trans hasKey_rotate.2.symm)
    reverted := fun _ rotated twinRotated =>
      (hasKey_of_rotate_revert rotated).trans (hasKey_of_rotate_revert twinRotated).symm
    apart := fun _ different => (hasKey_of_ne different).2.1.symm }
  revert := fun _ fingerprint different => ((hasKey_of_ne different).2.2 fingerprint).symm

end LocalKeys

variable [Scalar R] [KeyProvider K]

/-! ## Two engines -/

omit [Scalar R] [KeyProvider K] in
/-- A record but for its keys: role, score, times, counts, the penalties of the day and the window
stay. -/
def IdentityRecord.withoutKeys (record : IdentityRecord R) : IdentityRecord R :=
  { record with keyFingerprint := "", archivedKeys := [] }

namespace Engine

section Records

/-! Nothing but a rotation looks at the keys of a record. -/

omit [KeyProvider K] in
theorem scoreUpdate_withoutKeys (engine : Engine R K) (record : IdentityRecord R) (outcome : R)
    (context : RiskContext) (reference : Option String) (now : Instant) :
    engine.scoreUpdate record.withoutKeys outcome context reference now =
      engine.scoreUpdate record outcome context reference now := rfl

theorem penaltyDay_withoutKeys (record : IdentityRecord R) (timestamp : Instant) :
    penaltyDay record.withoutKeys timestamp = penaltyDay record timestamp := rfl

omit [KeyProvider K] in
theorem driftUpdate_withoutKeys (engine : Engine R K) (record : IdentityRecord R)
    (identity : String) (instant : Instant) :
    engine.driftUpdate record.withoutKeys identity instant =
      engine.driftUpdate record identity instant := rfl

omit [Scalar R] in
theorem withoutKeys_settledRecord (record : IdentityRecord R) (prepared : PreparedCommit R) :
    (settledRecord record prepared).withoutKeys = settledRecord record.withoutKeys prepared := by
  unfold settledRecord
  cases prepared.coolingOffUntil <;> cases prepared.update <;> rfl

end Records

omit [Scalar R] [KeyProvider K] in
/-- What an engine knows of an identity, but for its keys. -/
def standing (engine : Engine R K) (identity : String) : Option (IdentityRecord R) :=
  (engine.record? identity).map (·.withoutKeys)

variable (separation : KeyProvider.Separation K) (identity : String)

omit [Scalar R] in
/-- Two engines that an identity cannot tell apart. -/
structure Twins (engine twin : Engine R K) : Prop where
  rest : engine.AtRest
  twinRest : twin.AtRest
  config : engine.config = twin.config
  standing : engine.standing identity = twin.standing identity
  keys : separation.alike identity engine.keys twin.keys

omit [Scalar R] in
/-- Two plans that an identity cannot tell apart. -/
inductive Plan.Twins : Plan R K → Plan R K → Prop where
  | idle {keys twin : K} (alike : separation.alike identity keys twin) :
      Plan.Twins (.idle keys) (.idle twin)
  | write {records twinRecords : List LedgerRecord} {record twinRecord : IdentityRecord R}
      {keys back twin twinBack : K} (same : record.withoutKeys = twinRecord.withoutKeys)
      (alike : separation.alike identity keys twin)
      (backAlike : separation.alike identity back twinBack) :
      Plan.Twins (.write records record keys back) (.write twinRecords twinRecord twin twinBack)

variable {separation} {identity} {engine twin : Engine R K}

namespace Twins

omit [Scalar R] in
/-- Both engines have a record, or none of them has. -/
theorem record_cases (twins : Twins separation identity engine twin) :
    (engine.record? identity = none ∧ twin.record? identity = none) ∨
    ∃ record other, engine.record? identity = some record ∧
      twin.record? identity = some other ∧ record.withoutKeys = other.withoutKeys := by
  have standing := twins.standing
  unfold Engine.standing at standing
  cases found : engine.record? identity with
  | none =>
      rw [found] at standing
      exact .inl ⟨rfl, Option.map_eq_none_iff.mp standing.symm⟩
  | some record =>
      rw [found] at standing
      obtain ⟨other, twinFound, same⟩ := Option.map_eq_some_iff.mp standing.symm
      exact .inr ⟨record, other, rfl, twinFound, same.symm⟩

theorem plan_register (twins : Twins separation identity engine twin) (now : Instant)
    (role : Role) (score : R) :
    Plan.Twins separation identity (engine.plan now (.register identity role score))
      (twin.plan now (.register identity role score)) := by
  have admissible : engine.requireAdmissible identity score =
      twin.requireAdmissible identity score := by
    have known : engine.identities.has identity = twin.identities.has identity := by
      have same := congrArg Option.isSome twins.standing
      rwa [Engine.standing, Engine.standing, Option.isSome_map, Option.isSome_map] at same
    rw [requireAdmissible, requireAdmissible, known]
  rw [plan, plan, admissible]
  cases twin.requireAdmissible identity score with
  | error cause => exact .idle twins.keys
  | ok _ =>
      have granted := separation.issue.granted twins.keys
      have kept := separation.issue.kept twins.keys
      rcases issued : KeyProvider.issue engine.keys identity with ⟨cause | fingerprint, keys⟩ <;>
        rcases twinIssued : KeyProvider.issue twin.keys identity with ⟨other | other, twinKeys⟩ <;>
        rw [issued, twinIssued] at granted kept
      · exact .idle kept
      · cases granted
      · cases granted
      · exact .write rfl kept (separation.issue.reverted twins.keys issued twinIssued)

theorem plan_rotate (twins : Twins separation identity engine twin) (now : Instant) :
    Plan.Twins separation identity (engine.plan now (.rotate identity))
      (twin.plan now (.rotate identity)) := by
  rw [plan, plan]
  rcases twins.record_cases with ⟨missing, twinMissing⟩ | ⟨record, other, found, twinFound, same⟩
  · rw [missing, twinMissing]
    exact .idle twins.keys
  · rw [found, twinFound]
    have granted := separation.rotate.granted twins.keys
    have kept := separation.rotate.kept twins.keys
    rcases rotated : KeyProvider.rotate engine.keys identity with ⟨cause | fingerprint, keys⟩ <;>
      rcases twinRotated : KeyProvider.rotate twin.keys identity with
        ⟨another | another, twinKeys⟩ <;>
      rw [rotated, twinRotated] at granted kept
    · exact .idle kept
    · cases granted
    · cases granted
    · have replaced : (rotatedRecord record fingerprint now).withoutKeys =
          (rotatedRecord other another now).withoutKeys :=
        congrArg (fun kept : IdentityRecord R =>
          { kept with keyIssuedAt := now, rotationCount := kept.rotationCount + 1 }) same
      exact .write replaced kept (separation.rotate.reverted twins.keys rotated twinRotated)

omit [KeyProvider K] in
/-- A commit is prepared alike. -/
theorem prepare_eq {asked : Commit R} {record other : IdentityRecord R}
    (config : engine.config = twin.config)
    (found : engine.record? asked.identity = some record)
    (twinFound : twin.record? asked.identity = some other)
    (same : record.withoutKeys = other.withoutKeys) (now : Instant) :
    engine.prepare now asked = twin.prepare now asked := by
  have window : record.coolingOffUntil = other.coolingOffUntil :=
    congrArg (·.coolingOffUntil) same
  have updates : ∀ outcome context, engine.scoreUpdate record outcome context asked.reference now =
      twin.scoreUpdate other outcome context asked.reference now := by
    intro outcome context
    rw [← scoreUpdate_withoutKeys, same, scoreUpdate_withoutKeys]
    unfold scoreUpdate
    rw [config]
  unfold prepare
  rw [identity_eq_ok_iff.mpr found, identity_eq_ok_iff.mpr twinFound, config]
  simp only [bind, Except.bind, updates, window]

theorem plan_commit (twins : Twins separation identity engine twin) (now : Instant)
    {asked : Commit R} (about : asked.identity = identity) :
    Plan.Twins separation identity (engine.plan now (.commit asked))
      (twin.plan now (.commit asked)) := by
  subst about
  rw [plan, plan]
  rcases twins.record_cases with ⟨missing, twinMissing⟩ | ⟨record, other, found, twinFound, same⟩
  · rw [missing, twinMissing]
    exact .idle twins.keys
  · have admitted : engine.admitCommit asked = twin.admitCommit asked := by
      rw [admitCommit, admitCommit, identity_eq_ok_iff.mpr found, identity_eq_ok_iff.mpr twinFound]
      rfl
    rw [found, twinFound, admitted, prepare_eq twins.config found twinFound same]
    cases twin.admitCommit asked with
    | error cause => exact .idle twins.keys
    | ok _ =>
        cases twin.prepare now asked with
        | error cause => exact .idle twins.keys
        | ok prepared =>
            refine .write ?_ twins.keys twins.keys
            rw [withoutKeys_settledRecord, withoutKeys_settledRecord, same]

theorem plan_penalize (twins : Twins separation identity engine twin) (now : Instant)
    {event : PenaltyEvent} (about : event.identity = identity) :
    Plan.Twins separation identity (engine.plan now (.penalize event))
      (twin.plan now (.penalize event)) := by
  subst about
  rw [plan, plan]
  rcases twins.record_cases with ⟨missing, twinMissing⟩ | ⟨record, other, found, twinFound, same⟩
  · rw [missing, twinMissing]
    exact .idle twins.keys
  · have score : record.trustScore = other.trustScore := congrArg (·.trustScore) same
    have day : penaltyDay record event.timestamp = penaltyDay other event.timestamp := by
      rw [← penaltyDay_withoutKeys, same, penaltyDay_withoutKeys]
    rw [found, twinFound]
    dsimp only
    unfold stageFor
    rw [score, day, twins.config]
    cases twin.config.penalties.charge other.trustScore event.kind event.honesty
      (twin.config.stages.classify other.trustScore) (penaltyDay other event.timestamp).2 with
    | error cause => exact .idle twins.keys
    | ok outcome =>
        exact .write (congrArg (chargedRecord · event _ outcome) same) twins.keys twins.keys

theorem plan_drift (twins : Twins separation identity engine twin) (now instant : Instant) :
    Plan.Twins separation identity (engine.plan now (.drift identity instant))
      (twin.plan now (.drift identity instant)) := by
  rw [plan, plan]
  rcases twins.record_cases with ⟨missing, twinMissing⟩ | ⟨record, other, found, twinFound, same⟩
  · rw [missing, twinMissing]
    exact .idle twins.keys
  · have update : engine.driftUpdate record identity instant =
        twin.driftUpdate other identity instant := by
      rw [← driftUpdate_withoutKeys, same, driftUpdate_withoutKeys]
      unfold driftUpdate
      rw [twins.config]
    rw [found, twinFound]
    dsimp only
    rw [update]
    split
    · exact .idle twins.keys
    · exact .write (congrArg (driftedRecord · _) same) twins.keys twins.keys

/-- An operation about the identity is planned alike. -/
theorem plan (twins : Twins separation identity engine twin) (now : Instant)
    {operation : Operation R} (about : operation.identity = identity) :
    Plan.Twins separation identity (engine.plan now operation) (twin.plan now operation) := by
  cases operation with
  | register owner role score =>
      cases about
      exact twins.plan_register now role score
  | commit asked => exact twins.plan_commit now about
  | penalize event => exact twins.plan_penalize now about
  | drift owner instant =>
      cases about
      exact twins.plan_drift now instant
  | rotate owner =>
      cases about
      exact twins.plan_rotate now

end Twins

/-! ## Runs as an identity sees them -/

omit [Scalar R] [KeyProvider K] in
/-- Whether an operation has failed because the ledger has refused its batch. -/
def isRefused : Option TrustError → Bool
  | some (.ledger _) => true
  | _ => false

omit [Scalar R] in
/-- What a run asks about an identity, and when. -/
def requests (identity : String) : List (Turn R) → List (Instant × Operation R)
  | [] => []
  | .refusal _ :: rest => requests identity rest
  | .operation now operation :: rest =>
      if operation.identity = identity then (now, operation) :: requests identity rest
      else requests identity rest

/-- What the ledger refuses of that. -/
def refusals (identity : String) (engine : Engine R K) : List (Turn R) → List Bool
  | [] => []
  | .refusal refusal :: rest => refusals identity (engine.step (.refusal refusal)) rest
  | .operation now operation :: rest =>
      let later := refusals identity (engine.step (.operation now operation)) rest
      if operation.identity = identity then
        isRefused (engine.attempt now operation).1 :: later
      else later

/-- A storage that takes everything or nothing. -/
def storage (refuses : Bool) : Refusal :=
  fun _ => if refuses then some (.unavailable "") else none

omit [Scalar R] in
/-- A run of nothing but these requests, of which the ledger refuses these. -/
def alone : List (Instant × Operation R) → List Bool → List (Turn R)
  | (now, operation) :: requests, refuses :: refusals =>
      .refusal (storage refuses) :: .operation now operation :: alone requests refusals
  | _, _ => []

namespace Twins

omit [Scalar R] in
theorem refuse (twins : Twins separation identity engine twin) (refusal twinRefusal : Refusal) :
    Twins separation identity { engine with refusal } { twin with refusal := twinRefusal } :=
  ⟨⟨twins.rest.keyed, twins.rest.unheld⟩, ⟨twins.twinRest.keyed, twins.twinRest.unheld⟩,
    twins.config, twins.standing, twins.keys⟩

/-- What is asked about the identity keeps the engines alike, if the ledger answers alike. -/
theorem attempt (twins : Twins separation identity engine twin) {now : Instant}
    {operation : Operation R} (about : operation.identity = identity)
    (told : twin.refusal = storage (isRefused (engine.attempt now operation).1)) :
    Twins separation identity (engine.attempt now operation).2 (twin.attempt now operation).2 := by
  have planned := twins.plan now about
  have becomes := becomes_of_attempt twins.rest now operation
  have twinBecomes := becomes_of_attempt twins.twinRest now operation
  suffices alike : (engine.attempt now operation).2.standing identity =
        (twin.attempt now operation).2.standing identity ∧
      separation.alike identity (engine.attempt now operation).2.keys
        (twin.attempt now operation).2.keys from
    ⟨twins.rest.attempt now operation, twins.twinRest.attempt now operation,
      (twins.rest.config_attempt now operation).trans
        (twins.config.trans (twins.twinRest.config_attempt now operation).symm),
      alike.1, alike.2⟩
  generalize engine.attempt now operation = outcome at becomes told ⊢
  generalize twin.attempt now operation = twinOutcome at twinBecomes ⊢
  obtain ⟨answer, later⟩ := outcome
  obtain ⟨twinAnswer, twinLater⟩ := twinOutcome
  generalize engine.plan now operation = plan at planned becomes
  generalize twin.plan now operation = twinPlan at planned twinBecomes
  cases planned with
  | idle alike =>
      cases becomes
      cases twinBecomes
      exact ⟨twins.standing, alike⟩
  | @write records twinRecords record other keys back twinKeys twinBack same alike backAlike =>
      dsimp only [Plan.Becomes] at becomes twinBecomes
      cases refused : engine.refusal records with
      | some cause =>
          rw [refused] at becomes
          obtain ⟨rfl, rfl⟩ := becomes
          rw [told] at twinBecomes
          obtain ⟨rfl, rfl⟩ := twinBecomes
          exact ⟨twins.standing, backAlike⟩
      | none =>
          rw [refused] at becomes
          obtain ⟨rfl, history, rfl⟩ := becomes
          rw [told] at twinBecomes
          obtain ⟨rfl, twinHistory, rfl⟩ := twinBecomes
          refine ⟨?_, alike⟩
          have owner : record.id = other.id := congrArg (·.id) same
          unfold Engine.standing
          rw [record?_changed, record?_changed, owner]
          split
          · exact congrArg some same
          · exact twins.standing

omit [Scalar R] in
/-- A request about another identity that comes to nothing. -/
theorem alike_of_undone {request : K → String → Except KeyError String × K}
    (separates : KeyProvider.Separates separation.alike request) {keys later : K} {other : String}
    (different : other ≠ identity)
    (undone : KeyProvider.Undone keys other (request keys other) later) :
    separation.alike identity keys later := by
  have apart := separates.apart keys different
  cases undone with
  | unasked => exact (separation.equivalence identity).refl keys
  | refused refusal => rwa [refusal] at apart
  | @reverted fingerprint granted grant =>
      rw [grant] at apart
      exact (separation.equivalence identity).trans apart
        (separation.revert granted fingerprint different)

omit [Scalar R] in
theorem alike_of_leaves {keys : K} {operation : Operation R}
    (different : operation.identity ≠ identity) (left : engine.Leaves operation keys) :
    separation.alike identity engine.keys keys := by
  cases operation with
  | register owner role score => exact alike_of_undone separation.issue different left
  | rotate owner => exact alike_of_undone separation.rotate different left
  | commit | penalize | drift =>
      obtain rfl : keys = engine.keys := left
      exact (separation.equivalence identity).refl _

theorem alike_of_change {now : Instant} {keys : K} {operation : Operation R}
    {records : List LedgerRecord} {record : IdentityRecord R}
    (different : operation.identity ≠ identity)
    (change : engine.Change now operation records record keys) :
    separation.alike identity engine.keys keys := by
  cases change with
  | register role absent within issued =>
      have apart := separation.issue.apart engine.keys different
      rwa [Operation.identity, issued] at apart
  | rotate found rotated =>
      have apart := separation.rotate.apart engine.keys different
      rwa [Operation.identity, rotated] at apart
  | commit | penalize | drift => exact (separation.equivalence identity).refl _

/-- What is asked about others passes by. -/
theorem pass (twins : Twins separation identity engine twin) (now : Instant)
    {operation : Operation R} (different : operation.identity ≠ identity) :
    Twins separation identity (engine.attempt now operation).2 twin := by
  have config := (twins.rest.config_attempt now operation).trans twins.config
  have rest := twins.rest.attempt now operation
  have backwards : ∀ keys, separation.alike identity engine.keys keys →
      separation.alike identity keys engine.keys :=
    fun _ => (separation.equivalence identity).symm
  rcases attempt_cases now (twins.rest.free operation.identity) with
    ⟨keys, left, same⟩ | ⟨records, record, keys, history, change, same⟩
  · have alike : separation.alike identity engine.keys keys := alike_of_leaves different left
    rw [same] at config rest ⊢
    exact ⟨rest, twins.twinRest, config, twins.standing,
      (separation.equivalence identity).trans (backwards keys alike) twins.keys⟩
  · have alike : separation.alike identity engine.keys keys := alike_of_change different change
    have owned := change.id_eq twins.rest.keyed
    rw [same] at config rest ⊢
    refine ⟨rest, twins.twinRest, config, ?_,
      (separation.equivalence identity).trans (backwards keys alike) twins.keys⟩
    rw [Engine.standing, record?_changed, if_neg (by rw [owned]; exact different)]
    exact twins.standing

/-- A run looks to an identity like a run of its own operations alone. -/
theorem run_alone (twins : Twins separation identity engine twin) (turns : List (Turn R)) :
    Twins separation identity (engine.run turns)
      (twin.run (alone (requests identity turns) (engine.refusals identity turns))) := by
  induction turns generalizing engine twin with
  | nil => exact twins
  | cons turn rest inductionHypothesis =>
      cases turn with
      | refusal refusal => exact inductionHypothesis (twins.refuse refusal twin.refusal)
      | operation now operation =>
          by_cases about : operation.identity = identity
          · rw [requests, refusals, if_pos about, if_pos about]
            exact inductionHypothesis ((twins.refuse engine.refusal _).attempt about rfl)
          · rw [requests, refusals, if_neg about, if_neg about]
            exact inductionHypothesis (twins.pass now about)

omit [Scalar R] in
theorem refl (rest : engine.AtRest) : Twins separation identity engine engine :=
  ⟨rest, rest, rfl, rfl, (separation.equivalence identity).refl _⟩

end Twins

/-- Whatever is asked about others and whatever the ledger refuses of that: two runs in which the
same is asked about an identity at the same instants, and in which the ledger refuses the same of
that, leave the identity with the same record but for its keys. -/
theorem standing_eq_of_requests_eq (separation : KeyProvider.Separation K) {config : TrustConfig R}
    {keys twinKeys : K} (started : Engine.start config keys = .ok engine)
    (twinStarted : Engine.start config twinKeys = .ok twin) {identity : String}
    (alike : separation.alike identity keys twinKeys) {turns twinTurns : List (Turn R)}
    (asked : requests identity turns = requests identity twinTurns)
    (refused : engine.refusals identity turns = twin.refusals identity twinTurns) :
    (engine.run turns).standing identity = (twin.run twinTurns).standing identity := by
  have rest := AtRest.of_start started
  have twinRest := AtRest.of_start twinStarted
  have twins : Twins separation identity engine twin := by
    obtain ⟨-, rfl⟩ := start_eq_ok started
    obtain ⟨-, rfl⟩ := start_eq_ok twinStarted
    exact ⟨rest, twinRest, rfl, rfl, alike⟩
  have first := twins.run_alone turns
  have reflexive : Twins separation identity twin twin := .refl twinRest
  have second := reflexive.run_alone twinTurns
  rw [asked, refused] at first
  exact first.standing.trans second.standing.symm

/-- A few operations about one identity, the last but one of which the ledger refuses. -/
def quiet : List (Turn Float) :=
  [.operation Small.now (.register "ann" .judge 0.4),
    .operation Small.now (.commit ⟨"ann", [], none, some (1.0, .lowRisk), none⟩),
    .refusal fun _ => some (.unavailable "disk full"),
    .operation Small.now (.penalize ⟨"ann", .secretExposure, .honest, "", Small.now⟩),
    .refusal fun _ => none,
    .operation Small.now (.rotate "ann")]

/-- The same between operations about another identity. -/
def crowded : List (Turn Float) :=
  [.operation Small.now (.register "bob" .judge 0.9),
    .operation Small.now (.register "ann" .judge 0.4),
    .operation Small.now (.penalize ⟨"bob", .secretExposure, .honest, "", Small.now⟩),
    .operation Small.now (.commit ⟨"ann", [], none, some (1.0, .lowRisk), none⟩),
    .refusal fun records =>
      if records.any (·.identity == "ann") then some (.unavailable "") else none,
    .operation Small.now (.commit ⟨"bob", [], some .honest, none, none⟩),
    .operation Small.now (.penalize ⟨"ann", .secretExposure, .honest, "", Small.now⟩),
    .operation Small.now (.rotate "bob"),
    .refusal fun _ => none,
    .operation Small.now (.rotate "ann")]

theorem standing_quiet_crowded :
    ∃ engine twin : Engine Float LocalKeys,
      Engine.start .default Small.keys = .ok engine ∧
      Engine.start .default (LocalKeys.start numbered) = .ok twin ∧
      engine.refusals "ann" quiet = [false, false, true, false] ∧
      (engine.run quiet).standing "ann" = (twin.run crowded).standing "ann" := by
  have started : Engine.start (.default : TrustConfig Float) Small.keys =
      .ok ⟨.default, [], [], [], fun _ => none, Small.keys, []⟩ := by rfl
  have twinStarted : Engine.start (.default : TrustConfig Float) (LocalKeys.start numbered) =
      .ok ⟨.default, [], [], [], fun _ => none, .start numbered, []⟩ := by rfl
  refine ⟨_, _, started, twinStarted, by decide +kernel, ?_⟩
  exact standing_eq_of_requests_eq LocalKeys.separation started twinStarted rfl rfl
    (by decide +kernel)

end Engine

end ReviewGate
