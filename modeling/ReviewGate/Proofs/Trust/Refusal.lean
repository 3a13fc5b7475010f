import ReviewGate.Proofs.Trust.Change
import ReviewGate.Proofs.Trust.Keys

/-!
# Failing operations

An engine over keys kept in memory holds for each identity exactly the key that is valid for it.  An
operation that fails leaves records, history, ledger and all answers about keys as they were.
-/

namespace ReviewGate

variable {R K : Type} [Scalar R]

namespace Engine

/-! ## Requests -/

/-- What callers can ask of an engine that may change it. -/
inductive Request (R : Type) where
  | register (identity : String) (role : Role)
  | registerWithScore (identity : String) (role : Role) (score : R)
  | commit (asked : Commit R)
  | updateScore (identity : String) (outcome : R) (context : RiskContext)
      (reference : Option String)
  | penalize (event : PenaltyEvent)
  | enterCoolingOff (identity : String) (honesty : Honesty)
  | drift (identity : String) (instant : Instant)
  | rotate (identity : String)

omit [Scalar R] in
/-- A plain registration starts at the score of the policy; outcomes and windows are commits. -/
def Request.operation (config : TrustConfig R) : Request R → Operation R
  | .register identity role => .register identity role config.initialScore
  | .registerWithScore identity role score => .register identity role score
  | .commit asked => .commit asked
  | .updateScore identity outcome context reference =>
      .commit ⟨identity, [], none, some (outcome, context), reference⟩
  | .penalize event => .penalize event
  | .enterCoolingOff identity honesty => .commit ⟨identity, [], some honesty, none, none⟩
  | .drift identity instant => .drift identity instant
  | .rotate identity => .rotate identity

/-- A request with its error, if it fails, and the engine that it leaves behind. -/
def serve [KeyProvider K] (now : Instant) (engine : Engine R K) (request : Request R) :
    Option TrustError × Engine R K :=
  engine.attempt now (request.operation engine.config)

theorem serve_updateScore [KeyProvider K] (now : Instant) (engine : Engine R K)
    (identity : String) (outcome : R) (context : RiskContext) (reference : Option String) :
    engine.serve now (.updateScore identity outcome context reference) =
      match engine.updateScore now identity outcome context reference with
      | .ok (_, later) => (none, later)
      | .error cause => (some cause, engine) := by
  unfold serve Request.operation updateScore
  rw [attempt_commit]
  cases engine.commit now ⟨identity, [], none, some (outcome, context), reference⟩ <;> rfl

theorem serve_enterCoolingOff [KeyProvider K] (now : Instant) (engine : Engine R K)
    (identity : String) (honesty : Honesty) :
    engine.serve now (.enterCoolingOff identity honesty) =
      match engine.enterCoolingOff now identity honesty with
      | .ok (_, later) => (none, later)
      | .error cause => (some cause, engine) := by
  unfold serve Request.operation enterCoolingOff
  rw [attempt_commit]
  cases engine.commit now ⟨identity, [], some honesty, none, none⟩ <;> rfl

/-- Who enters a window is told its end: there is nothing that could fail after the window has been
written. -/
theorem isSome_of_enterCoolingOff {engine later : Engine R K} {now : Instant} {identity : String}
    {honesty : Honesty} {window : Option Instant}
    (entered : engine.enterCoolingOff now identity honesty = .ok (window, later)) :
    window.isSome = true := by
  unfold enterCoolingOff at entered
  obtain ⟨⟨receipt, settled⟩, done, entered⟩ := bind_eq_ok_iff.mp entered
  cases entered
  obtain ⟨prepared, record, ready, -, -, rfl, -⟩ := commit_cases done
  obtain ⟨_, window, -, asked, -, -, opened, -⟩ := prepare_cases ready
  rw [opened, Option.isSome_map, ← Option.isSome_map (f := Prod.fst), asked]
  rfl

/-! ## Records and keys -/

/-- Each identity is registered with the key that is valid for it, and only registered identities
have keys. -/
structure InStep (engine : Engine R LocalKeys) : Prop extends engine.AtRest where
  sound : engine.keys.Sound
  matched : ∀ identity, engine.keys.active.get? identity =
    (engine.record? identity).map (·.keyFingerprint)

/-- Nothing that callers can see has changed, and no answer about a key that has been handed out. -/
structure Untouched (engine later : Engine R LocalKeys) : Prop where
  identities : later.identities = engine.identities
  history : later.history = engine.history
  ledger : later.ledger = engine.ledger
  valid : ∀ identity fingerprint,
    later.keys.isValid identity fingerprint = engine.keys.isValid identity fingerprint
  revoked : ∀ fingerprint, engine.keys.HasIssued fingerprint →
    later.keys.isRevoked fingerprint = engine.keys.isRevoked fingerprint

variable {engine : Engine R LocalKeys} {operation : Operation R}

omit [Scalar R] in
/-- The keys that an operation without effect leaves behind answer as before. -/
theorem Leaves.alike {keys : LocalKeys} (left : engine.Leaves operation keys)
    (sound : engine.keys.Sound) : keys.Sound ∧ engine.keys.Alike keys := by
  cases operation with
  | register identity role score => exact sound.undone_issue left
  | rotate identity => exact sound.undone_rotate left
  | commit | penalize | drift =>
      obtain rfl : keys = engine.keys := left
      exact ⟨sound, .refl _⟩

/-- A change leaves the key of the stored record as the valid one. -/
theorem Change.valid {now : Instant} {records : List LedgerRecord} {record : IdentityRecord R}
    {keys : LocalKeys} (inStep : engine.InStep)
    (change : engine.Change now operation records record keys) :
    keys.Sound ∧ ∀ identity, keys.active.get? identity =
      if record.id = identity then some record.keyFingerprint
      else engine.keys.active.get? identity := by
  have kept : ∀ old, engine.record? record.id = some old →
      old.keyFingerprint = record.keyFingerprint → ∀ identity,
        engine.keys.active.get? identity =
          if record.id = identity then some record.keyFingerprint
          else engine.keys.active.get? identity := by
    rintro old found same identity
    split
    · rename_i about
      rw [← about, inStep.matched, found, Option.map_some, same]
    · rfl
  have owned := change.id_eq inStep.keyed
  cases change with
  | register role absent within issued => exact inStep.sound.issue issued
  | @rotate identity old fingerprint keys found rotated =>
      have same : old.id = identity := inStep.keyed _ _ found
      obtain ⟨sound, active⟩ := inStep.sound.rotate rotated
      exact ⟨sound, fun other => by rw [active, rotatedRecord, same]⟩
  | @commit asked prepared old found ready =>
      refine ⟨inStep.sound, kept old ((congrArg engine.record? owned).trans found) ?_⟩
      unfold settledRecord
      cases prepared.update <;> cases prepared.coolingOffUntil <;> rfl
  | penalize found | drift found =>
      exact ⟨inStep.sound, kept _ ((congrArg engine.record? owned).trans found) rfl⟩

theorem InStep.attempt (inStep : engine.InStep) (now : Instant) (operation : Operation R) :
    (engine.attempt now operation).2.InStep := by
  have rest := inStep.toAtRest.attempt now operation
  rcases attempt_cases now (inStep.free operation.identity) with
    ⟨keys, left, same⟩ | ⟨records, record, keys, history, change, same⟩
  · obtain ⟨sound, alike⟩ := left.alike inStep.sound
    rw [same] at rest ⊢
    exact ⟨rest, sound, fun identity => (alike.valid identity).trans (inStep.matched identity)⟩
  · obtain ⟨sound, active⟩ := change.valid inStep
    rw [same] at rest ⊢
    refine ⟨rest, sound, ?_⟩
    intro identity
    rw [record?_changed]
    refine (active identity).trans ?_
    split
    · rfl
    · exact inStep.matched identity

theorem InStep.step (inStep : engine.InStep) (turn : Turn R) : (engine.step turn).InStep := by
  cases turn with
  | operation now operation => exact inStep.attempt now operation
  | refusal refusal => exact ⟨⟨inStep.keyed, inStep.unheld⟩, inStep.sound, inStep.matched⟩

theorem InStep.run (inStep : engine.InStep) (turns : List (Turn R)) :
    (engine.run turns).InStep := by
  induction turns generalizing engine with
  | nil => exact inStep
  | cons turn rest inductionHypothesis => exact inductionHypothesis (inStep.step turn)

theorem inStep_of_start {config : TrustConfig R} {mint : String → Nat → String}
    (started : Engine.start config (LocalKeys.start mint) = .ok engine)
    (fresh : ∀ identity other number another,
      mint identity number = mint other another → number = another) : engine.InStep := by
  have unknown := record?_of_start started
  have made := (start_eq_ok started).2
  refine ⟨.of_start started, ?_, ?_⟩
  · rw [made]
    exact LocalKeys.sound_start fresh
  · intro identity
    rw [unknown, made]
    rfl

/-- An operation that fails has had no effect but on the keys. -/
theorem InStep.untouched (inStep : engine.InStep) {now : Instant} {cause : TrustError}
    (failed : (engine.attempt now operation).1 = some cause) :
    engine.Untouched (engine.attempt now operation).2 := by
  rcases attempt_cases now (inStep.free operation.identity) with
    ⟨keys, left, same⟩ | ⟨records, record, keys, history, change, same⟩
  · obtain ⟨-, alike⟩ := left.alike inStep.sound
    rw [same]
    exact ⟨rfl, rfl, rfl, alike.isValid_eq, fun _ => alike.isRevoked_eq⟩
  · rw [same] at failed
    cases failed

/-- Whatever has been asked of an engine and whatever the storage has refused: a request that fails
leaves everything as it was, and the keys of the records are the valid ones. -/
theorem untouched_of_serve {config : TrustConfig R} {mint : String → Nat → String}
    (started : Engine.start config (LocalKeys.start mint) = .ok engine)
    (fresh : ∀ identity other number another,
      mint identity number = mint other another → number = another) (turns : List (Turn R)) :
    (∀ now request cause, ((engine.run turns).serve now request).1 = some cause →
      (engine.run turns).Untouched ((engine.run turns).serve now request).2) ∧
    ∀ identity record, (engine.run turns).record? identity = some record →
      ∀ fingerprint, (engine.run turns).keys.isValid identity fingerprint = true ↔
        fingerprint = record.keyFingerprint := by
  have inStep := (inStep_of_start started fresh).run turns
  refine ⟨fun now request cause failed => inStep.untouched failed, ?_⟩
  intro identity record found fingerprint
  rw [LocalKeys.isValid_eq_true_iff, inStep.matched, found, Option.map_some, Option.some_inj,
    eq_comm]

/-- Fingerprints that are running numbers. -/
def numbered (_ : String) (number : Nat) : String := toString number

theorem eq_of_numbered_eq (identity other : String) (number another : Nat)
    (same : numbered identity number = numbered other another) : number = another := by
  have digits : ∀ value : Nat, (toString value).toList = Nat.toDigits 10 value := by
    intro value
    rw [Nat.toString_eq_ofList_toDigits, String.toList_ofList]
  have read := congrArg (fun text => Nat.ofDigitChars 10 (String.toList text) 0) same
  unfold numbered at read
  rwa [digits, digits, Nat.ofDigitChars_ten_toDigits, Nat.ofDigitChars_ten_toDigits] at read

/-- A key, a second one, and a third one that is taken back because it cannot be written down. -/
def wornKeys : List (Turn Float) :=
  [.operation Small.now (.register "ann" .judge 0.4), .operation Small.now (.rotate "ann"),
    .refusal fun _ => some (.unavailable "disk full"), .operation Small.now (.rotate "ann")]

theorem untouched_wornKeys :
    ∃ (engine : Engine Float LocalKeys) (cause : TrustError),
      Engine.start .default (LocalKeys.start numbered) = .ok engine ∧
      ((engine.run wornKeys).serve Small.now (.rotate "ann")).1 = some cause ∧
      (engine.run wornKeys).Untouched ((engine.run wornKeys).serve Small.now (.rotate "ann")).2 ∧
      ((engine.run wornKeys).serve Small.now (.rotate "ann")).2.keys.isValid "ann" "1" = true ∧
      ((engine.run wornKeys).serve Small.now (.rotate "ann")).2.keys.isRevoked "0" = true := by
  have started : Engine.start (.default : TrustConfig Float) (LocalKeys.start numbered) =
      .ok ⟨.default, [], [], [], fun _ => none, .start numbered, []⟩ := by rfl
  obtain ⟨untouched, -⟩ := untouched_of_serve started eq_of_numbered_eq wornKeys
  generalize ready : (⟨.default, [], [], [], fun _ => none, .start numbered, []⟩ :
    Engine Float LocalKeys) = engine at started untouched
  have fails : ((engine.run wornKeys).serve Small.now (.rotate "ann")).1.isSome = true := by
    subst ready
    decide +kernel
  obtain ⟨cause, failed⟩ := Option.isSome_iff_exists.mp fails
  refine ⟨engine, cause, started, failed, untouched _ _ _ failed, ?_, ?_⟩
  · subst ready
    decide +kernel
  · subst ready
    decide +kernel

end Engine

end ReviewGate
