import ReviewGate.Proofs.Number.Message
import ReviewGate.Proofs.Trust.Policy

/-!
# Replaying the ledger

The ledger alone tells what the engine knows: whoever reads the entries of an identity, oldest
first, arrives at the record of that identity, number for number.

An entry holds no number that is not finite.  Where one is missing, what it was follows from the
record so far and from the rest of the entry: only a drift can leave the numbers, away from the
baseline that its message tells, and only a penalty without a cap.
-/

namespace ReviewGate

/-! ## Reading values -/

namespace Json

def text? : Json → Option String
  | .string text => some text
  | _ => none

/-- A number that is not finite cannot be read back. -/
def double? : Json → Option Float
  | .float value => if Scalar.isFinite value then some value else none
  | _ => none

def named? {α : Type} [Named α] (value : Json) : Option α := value.text? >>= Named.ofName?

def instant? (value : Json) : Option Instant := value.text? >>= Instant.ofText?

theorem double?_toJson {value : Float} :
    (Scalar.toJson value).double? = if Scalar.isFinite value then some value else none := rfl

theorem double?_toJson_of_isFinite {value : Float} (bounded : Scalar.isFinite value = true) :
    (Scalar.toJson value).double? = some value := if_pos bounded

@[simp]
theorem named?_role (role : Role) : (Named.toJson role).named? = some role := by
  cases role <;> rfl

@[simp]
theorem named?_updateKind (kind : UpdateKind) : (Named.toJson kind).named? = some kind := by
  cases kind <;> rfl

theorem instant?_toJson {instant : Instant} (tellable : instant.IsTellable) :
    instant.toJson.instant? = some instant := by
  have read : instant.toJson.text? = some instant.toText := rfl
  rw [instant?, read, Option.bind_eq_bind, Option.bind_some]
  exact Instant.ofText?_toText tellable.valid tellable.within

end Json

/-! ## Reading entries -/

namespace LedgerRecord

/-- A new record. -/
def registered? (entry : LedgerRecord) : Option (IdentityRecord Float) := do
  let role ← entry.payload.field? "role" >>= Json.named?
  let score ← entry.payload.field? "trust_score" >>= Json.double?
  let fingerprint ← entry.payload.field? "key_fingerprint" >>= Json.text?
  return .register entry.identity role score fingerprint entry.timestamp

/-- A record after a new key. -/
def rotated? (entry : LedgerRecord) (record : IdentityRecord Float) :
    Option (IdentityRecord Float) := do
  let fingerprint ← entry.payload.field? "key_fingerprint" >>= Json.text?
  return Engine.rotatedRecord record fingerprint entry.timestamp

/-- The baseline of a drift stands in brackets behind its message. -/
def baseline? (entry : LedgerRecord) : Option Rat := do
  let context ← entry.payload.field? "context" >>= Json.text?
  return Number.exact ((context.toList.dropWhile (· ≠ '(')).drop 1)

/-- Where a drift ends up that exceeds every number. -/
def runaway? (entry : LedgerRecord) (score : Float) : Option Float :=
  entry.baseline?.map fun baseline =>
    if Double.exceeds score baseline then Double.infinity else -Double.infinity

/-- A record after an outcome, which is counted, or after a drift. -/
def updated? (entry : LedgerRecord) (record : IdentityRecord Float) :
    Option (IdentityRecord Float) := do
  let kind : UpdateKind ← entry.payload.field? "kind" >>= Json.named?
  let written? := entry.payload.field? "new_score" >>= Json.double?
  match kind with
  | .ewma =>
      let score ← written?
      return { record with
        trustScore := score
        verificationCount := record.verificationCount + 1
        lastTrustUpdate := entry.timestamp }
  | .temporalDecay =>
      let score ← written? <|> entry.runaway? record.trustScore
      return { record with
        trustScore := score
        lastTrustUpdate := entry.timestamp }
  | _ => none

/-- A record after a penalty; one that is deferred does not count as a change of the score. -/
def penalized? (entry : LedgerRecord) (record : IdentityRecord Float) :
    Option (IdentityRecord Float) := do
  let outcome ← entry.payload.field? "outcome"
  let score ← outcome.field? "adjusted_score" >>= Json.double?
  let applied := (outcome.field? "applied_magnitude" >>= Json.double?).getD Double.infinity
  let (day, dailySum) := Engine.penaltyDay record entry.timestamp
  return { record with
    trustScore := score
    dailyPenaltySum := dailySum + applied
    penaltyDay := day
    lastTrustUpdate :=
      if entry.eventType = .penaltyDeferred then record.lastTrustUpdate else entry.timestamp }

/-- A record with a window that is open. -/
def cooled? (entry : LedgerRecord) (record : IdentityRecord Float) :
    Option (IdentityRecord Float) := do
  let deadline ← entry.payload.field? "until" >>= Json.instant?
  return { record with coolingOffUntil := some deadline }

/-- What an entry makes of a record.  Nothing is left of it where the entry cannot be read. -/
def replay (record? : Option (IdentityRecord Float)) (entry : LedgerRecord) :
    Option (IdentityRecord Float) :=
  match entry.eventType with
  | .identityRegistered => entry.registered?
  | .identityRotated => record? >>= entry.rotated?
  | .trustUpdated => record? >>= entry.updated?
  | .penaltyApplied | .penaltyDeferred => record? >>= entry.penalized?
  | .coolingOffEntered => record? >>= entry.cooled?
  | _ => record?

/-- An outcome that has been blended into the score. -/
def isBlend (entry : LedgerRecord) : Bool :=
  entry.eventType = .trustUpdated ∧
    (entry.payload.field? "kind" >>= Json.named? : Option UpdateKind) = some .ewma

end LedgerRecord

namespace EventType

/-- The engine writes these by itself. -/
def isOwn : EventType → Bool
  | .identityRegistered | .identityRotated | .trustUpdated | .penaltyApplied | .penaltyDeferred
  | .coolingOffEntered => true
  | _ => false

end EventType

namespace LedgerRecord

theorem replay_of_foreign {entry : LedgerRecord} (foreign : entry.eventType.isOwn = false)
    (record? : Option (IdentityRecord Float)) : entry.replay record? = record? := by
  unfold replay
  cases found : entry.eventType <;> simp [found, EventType.isOwn] at foreign ⊢

theorem isBlend_of_foreign {entry : LedgerRecord} (foreign : entry.eventType.isOwn = false) :
    entry.isBlend = false := by
  unfold isBlend
  cases found : entry.eventType <;> simp [found, EventType.isOwn] at foreign ⊢

theorem foldl_replay_of_foreign {entries : List LedgerRecord}
    (foreign : ∀ entry ∈ entries, entry.eventType.isOwn = false)
    (record? : Option (IdentityRecord Float)) : entries.foldl replay record? = record? := by
  induction entries with
  | nil => rfl
  | cons entry rest inductionHypothesis =>
      rw [List.foldl_cons, replay_of_foreign (foreign entry List.mem_cons_self)]
      exact inductionHypothesis fun other membership =>
        foreign other (List.mem_cons_of_mem entry membership)

theorem countP_isBlend_of_foreign {entries : List LedgerRecord}
    (foreign : ∀ entry ∈ entries, entry.eventType.isOwn = false) :
    entries.countP isBlend = 0 := by
  rw [List.countP_eq_zero]
  intro entry membership
  simp [isBlend_of_foreign (foreign entry membership)]

theorem not_registers_of_foreign {entries : List LedgerRecord}
    (foreign : ∀ entry ∈ entries, entry.eventType.isOwn = false) :
    ¬∃ entry ∈ entries, entry.eventType = .identityRegistered := by
  rintro ⟨entry, membership, type⟩
  have other := foreign entry membership
  rw [type] at other
  cases other

end LedgerRecord

namespace Ledger

/-- What a query for an identity finds. -/
def about (ledger : Ledger) (identity : String) : List LedgerRecord :=
  Ledger.records (LedgerQuery.run ⟨some identity, none, none, none⟩ ledger)

theorem about_eq (ledger : Ledger) (identity : String) :
    ledger.about identity = ledger.records.filter fun entry => entry.identity = identity := by
  have selected : (⟨some identity, none, none, none⟩ : LedgerQuery).selects =
      fun entry : LedgerEntry => decide (entry.identity = identity) := by
    funext entry
    rw [Bool.eq_iff_iff]
    simp [LedgerQuery.selects]
  unfold about LedgerQuery.run Ledger.records
  rw [selected, List.filter_map]
  rfl

theorem about_append (ledger : Ledger) (records : List LedgerRecord) (identity : String) :
    (ledger.append records).about identity =
      ledger.about identity ++ records.filter fun entry => entry.identity = identity := by
  rw [about_eq, about_eq, records_append, List.filter_append]

/-- The record to which the entries of an identity lead. -/
def replay (ledger : Ledger) (identity : String) : Option (IdentityRecord Float) :=
  (ledger.about identity).foldl LedgerRecord.replay none

/-- How many outcomes the entries of an identity tell of. -/
def blends (ledger : Ledger) (identity : String) : Nat :=
  (ledger.about identity).countP LedgerRecord.isBlend

/-- An entry tells that an identity was registered. -/
def Registers (ledger : Ledger) (identity : String) : Prop :=
  ∃ entry ∈ ledger.about identity, entry.eventType = .identityRegistered

end Ledger

/-! ## Reading what the engine writes -/

namespace Engine

variable {K : Type}

theorem replay_registrationEvent {score : Float} (bounded : Scalar.isFinite score = true)
    (record? : Option (IdentityRecord Float)) (identity : String) (role : Role)
    (fingerprint : String) (now : Instant) :
    (IdentityRecord.register identity role score fingerprint now).registrationEvent.replay record? =
      some (.register identity role score fingerprint now) := by
  have read := Json.double?_toJson_of_isFinite bounded
  simp [LedgerRecord.replay, LedgerRecord.registered?, IdentityRecord.registrationEvent,
    Json.field?_ofFields, IdentityRecord.register, read, Json.text?]

theorem replay_rotationEvent (record : IdentityRecord Float)
    (identity fingerprint : String) (now : Instant) :
    (rotationEvent record identity fingerprint now).replay (some record) =
      some (rotatedRecord record fingerprint now) := by
  simp [LedgerRecord.replay, LedgerRecord.rotated?, rotationEvent, Json.field?_ofFields,
    Json.text?]

theorem replay_coolingOffEvent {deadline : Instant} (tellable : deadline.IsTellable)
    (record : IdentityRecord Float) (identity : String) (honesty : Honesty) (now : Instant) :
    (coolingOffEvent identity honesty deadline now).replay (some record) =
      some { record with coolingOffUntil := some deadline } := by
  have read := Json.instant?_toJson tellable
  simp [LedgerRecord.replay, LedgerRecord.cooled?, coolingOffEvent, Json.field?_ofFields, read]

theorem kind_event (update : ScoreUpdate Float) :
    update.event.payload.field? "kind" = some (Named.toJson update.kind) := by
  simp [ScoreUpdate.event, ScoreUpdate.toJson, Json.field?_ofFields]

theorem newScore_event (update : ScoreUpdate Float) :
    update.event.payload.field? "new_score" = some (Scalar.toJson update.newScore) := by
  simp [ScoreUpdate.event, ScoreUpdate.toJson, Json.field?_ofFields]

theorem replay_ewma {update : ScoreUpdate Float} (blended : update.kind = .ewma)
    (bounded : Scalar.isFinite update.newScore = true)
    (record : IdentityRecord Float) :
    update.event.replay (some record) =
      some { record with
        trustScore := update.newScore
        verificationCount := record.verificationCount + 1
        lastTrustUpdate := update.timestamp } := by
  have read := Json.double?_toJson_of_isFinite bounded
  have told : update.event.timestamp = update.timestamp := rfl
  have type : update.event.eventType = .trustUpdated := rfl
  simp [LedgerRecord.replay, LedgerRecord.updated?, kind_event, newScore_event, blended, read, told,
    type]

theorem context_event (update : ScoreUpdate Float) :
    update.event.payload.field? "context" = some (.string update.context) := by
  simp [ScoreUpdate.event, ScoreUpdate.toJson, Json.field?_ofFields]

theorem baseline?_driftUpdate (engine : Engine Float K) (record : IdentityRecord Float)
    (identity : String) (instant : Instant) :
    (engine.driftUpdate record identity instant).event.baseline? =
      some (Number.exact
        ((Layout.message.write engine.config.decay.baseline).toList ++ [')'])) := by
  have opening : ∀ behind : List Char,
      (("inactivity drift toward baseline (".toList ++ behind).dropWhile (· ≠ '(')).drop 1 =
        behind := fun _ => rfl
  have message : (engine.driftUpdate record identity instant).context.toList =
      "inactivity drift toward baseline (".toList ++
        ((Layout.message.write engine.config.decay.baseline).toList ++ [')']) := by
    simp [driftUpdate, Scalar.toFloat]
  rw [LedgerRecord.baseline?, context_event]
  simp only [Json.text?, Option.bind_eq_bind, Option.bind_some, message, opening]
  rfl

/-- The message of a drift that runs away tells where it ends up. -/
theorem runaway?_driftUpdate {engine : Engine Float K} (bounded : engine.config.Bounded)
    {record : IdentityRecord Float} (number : (record.trustScore != record.trustScore) = false)
    {instant : Instant} (identity : String)
    (unbounded : Scalar.isFinite (engine.driftUpdate record identity instant).newScore = false) :
    (engine.driftUpdate record identity instant).event.runaway? record.trustScore =
      some (engine.driftUpdate record identity instant).newScore := by
  have baseline := Double.isFinite_of_inUnit bounded.baseline
  have numberBaseline := Double.bne_self_of_isFinite baseline
  have low : ¬engine.config.decay.baseline < 0.0 :=
    Double.not_lt_zero_of_le (by decide) (.inr bounded.baseline.1)
  have differs : Double.toEReal record.trustScore ≠ Double.toEReal engine.config.decay.baseline := by
    rcases DecayPolicy.lt_or_lt_of_decay baseline number unbounded with above | below
    · exact ((Double.lt_iff_toEReal numberBaseline number).mp above).ne'
    · exact ((Double.lt_iff_toEReal number numberBaseline).mp below).ne
  have stops : ∀ letter ∈ [')'].head?, Number.isDigit letter = false ∧ letter ≠ '.' := by
    rintro _ ⟨⟩
    decide
  have side := Double.exceeds_exact_write baseline low number differs stops
  have score : (engine.driftUpdate record identity instant).newScore =
      DecayPolicy.runaway engine.config.decay.baseline record.trustScore :=
    DecayPolicy.decay_eq_runaway baseline number unbounded
  rw [LedgerRecord.runaway?, baseline?_driftUpdate, Option.map_some, side, score]
  simp only [decide_eq_true_eq, DecayPolicy.runaway]

theorem replay_driftUpdate {engine : Engine Float K} (bounded : engine.config.Bounded)
    {record : IdentityRecord Float} (number : (record.trustScore != record.trustScore) = false)
    (identity : String) (instant : Instant) :
    (engine.driftUpdate record identity instant).event.replay (some record) =
      some (driftedRecord record (engine.driftUpdate record identity instant)) := by
  have kind : (engine.driftUpdate record identity instant).kind = .temporalDecay := rfl
  have told : (engine.driftUpdate record identity instant).event.timestamp =
    (engine.driftUpdate record identity instant).timestamp := rfl
  have type : (engine.driftUpdate record identity instant).event.eventType = .trustUpdated := rfl
  have read : ((Scalar.toJson (engine.driftUpdate record identity instant).newScore).double? <|>
      (engine.driftUpdate record identity instant).event.runaway? record.trustScore) =
        some (engine.driftUpdate record identity instant).newScore := by
    rw [Json.double?_toJson]
    split
    · rfl
    · rename_i unbounded
      rw [Bool.not_eq_true] at unbounded
      exact runaway?_driftUpdate bounded number identity unbounded
  simp only [LedgerRecord.replay, LedgerRecord.updated?, kind_event, newScore_event, kind, told,
    type, Option.bind_eq_bind, Option.bind_some, Json.named?_updateKind, read, driftedRecord]
  rfl

theorem replay_penaltyEvent {engine : Engine Float K} (bounded : engine.config.Bounded)
    {record : IdentityRecord Float} {event : PenaltyEvent} {stage : Stage}
    {outcome : PenaltyOutcome Float}
    (priced : engine.config.penalties.charge record.trustScore event.kind event.honesty stage
      (penaltyDay record event.timestamp).2 = .ok outcome) :
    (penaltyEvent event stage outcome).replay (some record) =
      some (chargedRecord record event (penaltyDay record event.timestamp).1 outcome) := by
  obtain ⟨adjusted, unlimited, sum⟩ := PenaltyPolicy.charge_cases bounded priced
  have score := Json.double?_toJson_of_isFinite adjusted
  have applied : (Scalar.toJson outcome.applied).double?.getD Double.infinity =
      outcome.applied := by
    rw [Json.double?_toJson]
    split
    · rfl
    · rename_i unbounded
      rw [Bool.not_eq_true] at unbounded
      exact (unlimited unbounded).symm
  have told : (penaltyEvent event stage outcome).payload.field? "outcome" =
      some outcome.toJson := by
    simp [penaltyEvent, Json.field?_ofFields]
  have adjustedScore : outcome.toJson.field? "adjusted_score" =
      some (Scalar.toJson outcome.adjustedScore) := by
    simp [PenaltyOutcome.toJson, Json.field?_ofFields]
  have appliedMagnitude : outcome.toJson.field? "applied_magnitude" =
      some (Scalar.toJson outcome.applied) := by
    simp [PenaltyOutcome.toJson, Json.field?_ofFields]
  have when : (penaltyEvent event stage outcome).timestamp = event.timestamp := rfl
  have read : (penaltyEvent event stage outcome).penalized? record =
      some (chargedRecord record event (penaltyDay record event.timestamp).1 outcome) := by
    simp only [LedgerRecord.penalized?, told, adjustedScore, appliedMagnitude, score, applied, when,
      Option.bind_eq_bind, Option.bind_some, ← sum]
    by_cases deferred : outcome.disposition = .deferred <;>
      simp [penaltyEvent, chargedRecord, deferred]
  by_cases deferred : outcome.disposition = .deferred
  · have type : (penaltyEvent event stage outcome).eventType = .penaltyDeferred := if_pos deferred
    simp [LedgerRecord.replay, type, read]
  · have type : (penaltyEvent event stage outcome).eventType = .penaltyApplied := if_neg deferred
    simp [LedgerRecord.replay, type, read]

end Engine

/-! ## Complete ledgers -/

/-- What a record holds can be told in an entry. -/
structure IdentityRecord.IsTellable (record : IdentityRecord Float) : Prop where
  number : (record.trustScore != record.trustScore) = false
  window : ∀ deadline, record.coolingOffUntil = some deadline → deadline.IsTellable

namespace Engine

variable {K : Type}

/-- The ledger tells all that the engine knows. -/
structure Accounted (engine : Engine Float K) : Prop where
  bounded : engine.config.Bounded
  keyed : engine.Keyed
  free : engine.held = []
  tellable : ∀ identity record, engine.record? identity = some record → record.IsTellable
  replayed : ∀ identity, engine.ledger.replay identity = engine.record? identity
  blended : ∀ identity,
    engine.ledger.blends identity =
      ((engine.record? identity).map (·.verificationCount)).getD 0
  registered : ∀ identity,
    (engine.record? identity).isSome = true ↔ engine.ledger.Registers identity

/-- Entries of an identity tell how its record changes. -/
structure Tells (before? : Option (IdentityRecord Float)) (entries : List LedgerRecord)
    (after : IdentityRecord Float) : Prop where
  about : ∀ entry ∈ entries, entry.identity = after.id
  tellable : after.IsTellable
  replayed : entries.foldl LedgerRecord.replay before? = some after
  blended : after.verificationCount =
    (before?.map (·.verificationCount)).getD 0 + entries.countP (·.isBlend)
  registered : before?.isSome = true ∨ ∃ entry ∈ entries, entry.eventType = .identityRegistered

theorem Tells.nil {record : IdentityRecord Float} (tellable : record.IsTellable) :
    Tells (some record) [] record :=
  ⟨nofun, tellable, rfl, rfl, .inl rfl⟩

/-- Two changes after each other are told one after the other. -/
theorem Tells.append {before? : Option (IdentityRecord Float)}
    {first second : List LedgerRecord} {middle after : IdentityRecord Float}
    (opening : Tells before? first middle) (same : after.id = middle.id)
    (closing : Tells (some middle) second after) :
    Tells before? (first ++ second) after := by
  constructor
  case about =>
    intro entry membership
    rcases List.mem_append.mp membership with early | late
    · rw [opening.about entry early, same]
    · exact closing.about entry late
  case tellable => exact closing.tellable
  case replayed => rw [List.foldl_append, opening.replayed, closing.replayed]
  case blended =>
    rw [closing.blended, Option.map_some, Option.getD_some, opening.blended, List.countP_append,
      Nat.add_assoc]
  case registered =>
    rcases opening.registered with known | ⟨entry, membership, type⟩
    · exact .inl known
    · exact .inr ⟨entry, List.mem_append_left second membership, type⟩

/-- Of what a change adds, an identity is concerned by the foreign entries about it and, where it is
the changed one, by the engine's own. -/
theorem about_of_stored {engine later : Engine Float K} {foreign own : List LedgerRecord}
    {record : IdentityRecord Float} (stored : engine.Stored later (foreign ++ own) record)
    (about : ∀ entry ∈ own, entry.identity = record.id) (identity : String) :
    later.ledger.about identity =
      engine.ledger.about identity ++
        (foreign.filter (fun entry => entry.identity = identity) ++
          if record.id = identity then own else []) := by
  rw [stored.ledger, Ledger.about_append, List.filter_append]
  congr 2
  split
  · rename_i same
    rw [List.filter_eq_self]
    intro entry membership
    simp [about entry membership, same]
  · rename_i other
    rw [List.filter_eq_nil_iff]
    intro entry membership
    simp [about entry membership, other]

/-- Where a change is told behind foreign entries, the ledger stays complete. -/
theorem Accounted.stored {engine later : Engine Float K} (accounted : engine.Accounted)
    {foreign own : List LedgerRecord} {record : IdentityRecord Float}
    (stored : engine.Stored later (foreign ++ own) record)
    (apart : ∀ entry ∈ foreign, entry.eventType.isOwn = false)
    (tells : Tells (engine.record? record.id) own record) :
    later.Accounted := by
  have added := about_of_stored stored tells.about
  have apart : ∀ identity, ∀ entry ∈ foreign.filter fun entry => entry.identity = identity,
      entry.eventType.isOwn = false := fun identity entry membership =>
    apart entry (List.mem_filter.mp membership).1
  constructor
  case bounded =>
    rw [stored.config]
    exact accounted.bounded
  case keyed => exact stored.keyed accounted.keyed
  case free =>
    rw [stored.held]
    exact accounted.free
  case tellable =>
    intro identity other found
    rw [stored.record?] at found
    split at found
    · cases found
      exact tells.tellable
    · exact accounted.tellable identity other found
  case replayed =>
    intro identity
    have before := accounted.replayed identity
    unfold Ledger.replay at before ⊢
    rw [added, List.foldl_append, List.foldl_append, before,
      LedgerRecord.foldl_replay_of_foreign (apart identity), stored.record?]
    split
    · rename_i same
      subst same
      exact tells.replayed
    · rfl
  case blended =>
    intro identity
    have before := accounted.blended identity
    unfold Ledger.blends at before ⊢
    rw [added, List.countP_append, List.countP_append, before,
      LedgerRecord.countP_isBlend_of_foreign (apart identity), stored.record?]
    split
    · rename_i same
      subst same
      simp [tells.blended]
    · simp
  case registered =>
    intro identity
    have before := accounted.registered identity
    have silent := LedgerRecord.not_registers_of_foreign (apart identity)
    unfold Ledger.Registers at before ⊢
    rw [added, stored.record?]
    simp only [List.mem_append, or_and_right, exists_or, ← before]
    split
    · rename_i same
      subst same
      simp only [Option.isSome_some, true_iff]
      rcases tells.registered with known | new
      · exact .inl known
      · exact .inr (.inr new)
    · simp only [silent, List.not_mem_nil, false_and, exists_false, or_false]

/-! ## What the operations tell -/

theorem tells_registration {score : Float} (inUnit : Scalar.InUnit score)
    (identity : String) (role : Role) (fingerprint : String) (now : Instant) :
    Tells none
      [(IdentityRecord.register identity role score fingerprint now).registrationEvent]
      (.register identity role score fingerprint now) := by
  have bounded := Double.isFinite_of_inUnit inUnit
  constructor
  case about => simp [IdentityRecord.registrationEvent]
  case tellable => exact ⟨Double.bne_self_of_isFinite bounded, nofun⟩
  case replayed =>
    exact replay_registrationEvent bounded none identity role fingerprint now
  case blended => simp [LedgerRecord.isBlend, IdentityRecord.registrationEvent,
    IdentityRecord.register]
  case registered => exact .inr ⟨_, List.mem_singleton_self _, rfl⟩

theorem tells_rotation {record : IdentityRecord Float} (tellable : record.IsTellable)
    (fingerprint : String) (now : Instant) :
    Tells (some record) [rotationEvent record record.id fingerprint now]
      (rotatedRecord record fingerprint now) := by
  constructor
  case about => simp [rotationEvent, rotatedRecord]
  case tellable => exact ⟨tellable.number, tellable.window⟩
  case replayed => exact replay_rotationEvent record record.id fingerprint now
  case blended => simp [LedgerRecord.isBlend, rotationEvent, rotatedRecord]
  case registered => exact .inl rfl

theorem tells_penalty {engine : Engine Float K} (bounded : engine.config.Bounded)
    {record : IdentityRecord Float} (tellable : record.IsTellable) {event : PenaltyEvent}
    (owned : record.id = event.identity) {stage : Stage} {outcome : PenaltyOutcome Float}
    (priced : engine.config.penalties.charge record.trustScore event.kind event.honesty stage
      (penaltyDay record event.timestamp).2 = .ok outcome) :
    Tells (some record) [penaltyEvent event stage outcome]
      (chargedRecord record event (penaltyDay record event.timestamp).1 outcome) := by
  have adjusted := (PenaltyPolicy.charge_cases bounded priced).1
  constructor
  case about => simp [penaltyEvent, chargedRecord, owned]
  case tellable => exact ⟨Double.bne_self_of_isFinite adjusted, tellable.window⟩
  case replayed => exact replay_penaltyEvent bounded priced
  case blended =>
    have other : (penaltyEvent event stage outcome).eventType ≠ .trustUpdated := by
      by_cases deferred : outcome.disposition = .deferred <;> simp [penaltyEvent, deferred]
    simp [LedgerRecord.isBlend, other, chargedRecord]
  case registered => exact .inl rfl

theorem tells_drift {engine : Engine Float K} (bounded : engine.config.Bounded)
    {record : IdentityRecord Float} (tellable : record.IsTellable) (instant : Instant) :
    Tells (some record)
      [(engine.driftUpdate record record.id instant).event]
      (driftedRecord record (engine.driftUpdate record record.id instant)) := by
  have baseline := Double.isFinite_of_inUnit bounded.baseline
  have kind : (engine.driftUpdate record record.id instant).kind = .temporalDecay := rfl
  constructor
  case about => simp [ScoreUpdate.event, driftUpdate, driftedRecord]
  case tellable =>
    exact ⟨DecayPolicy.bne_self_decay record.lastTrustUpdate instant baseline tellable.number,
      tellable.window⟩
  case replayed => exact replay_driftUpdate bounded tellable.number record.id instant
  case blended => simp [LedgerRecord.isBlend, kind_event, kind, driftedRecord]
  case registered => exact .inl rfl

theorem tells_window {record : IdentityRecord Float} (tellable : record.IsTellable)
    {deadline : Instant} (told : deadline.IsTellable) (honesty : Honesty) (now : Instant) :
    Tells (some record) [coolingOffEvent record.id honesty deadline now]
      { record with coolingOffUntil := some deadline } := by
  constructor
  case about => simp [coolingOffEvent]
  case tellable =>
    refine ⟨tellable.number, ?_⟩
    rintro _ ⟨⟩
    exact told
  case replayed => exact replay_coolingOffEvent told record record.id honesty now
  case blended => simp [LedgerRecord.isBlend, coolingOffEvent]
  case registered => exact .inl rfl

theorem tells_outcome {record : IdentityRecord Float} (tellable : record.IsTellable)
    {update : ScoreUpdate Float} (owned : update.identity = record.id)
    (blended : update.kind = .ewma) (bounded : Scalar.isFinite update.newScore = true) :
    Tells (some record) [update.event]
      { record with
        trustScore := update.newScore
        verificationCount := record.verificationCount + 1
        lastTrustUpdate := update.timestamp } := by
  have type : update.event.eventType = .trustUpdated := rfl
  have blends : update.event.isBlend = true := by
    simp [LedgerRecord.isBlend, type, kind_event, blended]
  constructor
  case about => simpa [ScoreUpdate.event] using owned
  case tellable => exact ⟨Double.bne_self_of_isFinite bounded, tellable.window⟩
  case replayed => exact replay_ewma blended bounded record
  case blended => simp [blends]
  case registered => exact .inl rfl

/-- A commit tells of its window first and then of its update. -/
theorem tells_commit {record : IdentityRecord Float} (tellable : record.IsTellable)
    {prepared : PreparedCommit Float} {window : Option (Honesty × Instant)}
    (ends : prepared.coolingOffUntil = window.map Prod.snd)
    (told : ∀ honesty deadline, window = some (honesty, deadline) → deadline.IsTellable)
    (changed : ∀ update, prepared.update = some update →
      update.identity = record.id ∧ update.kind = .ewma ∧
        Scalar.isFinite update.newScore = true) (now : Instant) :
    Tells (some record) (effectEvents record.id window prepared.update now)
      (settledRecord record prepared) := by
  obtain ⟨identity, records, deadline?, update?⟩ := prepared
  dsimp only at ends changed ⊢
  subst ends
  have open? : ∃ middle : IdentityRecord Float, middle.id = record.id ∧
      Tells (some record)
        (window.map fun entered =>
          coolingOffEvent record.id entered.1 entered.2 now).toList middle ∧
      settledRecord record ⟨identity, records, window.map Prod.snd, update?⟩ =
        settledRecord middle ⟨identity, records, none, update?⟩ := by
    cases window with
    | none => exact ⟨record, rfl, .nil tellable, rfl⟩
    | some entered =>
        obtain ⟨honesty, deadline⟩ := entered
        exact ⟨{ record with coolingOffUntil := some deadline }, rfl,
          tells_window tellable (told honesty deadline rfl) honesty now, rfl⟩
  obtain ⟨middle, owned, opened, same⟩ := open?
  rw [same]
  refine opened.append ?_ ?_
  · rw [id_settledRecord]
  · cases update? with
    | none => exact .nil opened.tellable
    | some update =>
        obtain ⟨about, kind, bounded⟩ := changed update rfl
        exact tells_outcome opened.tellable (about.trans owned.symm) kind bounded

/-! ## Operations and runs -/

/-- The events that a caller adds are of other kinds than those that the engine writes by itself. -/
def Operation.KeepsApart : Operation Float → Prop
  | .commit asked => ∀ event ∈ asked.events, event.eventType.isOwn = false
  | _ => True

theorem Accounted.rekeyed {engine : Engine Float K} (accounted : engine.Accounted) (keys : K) :
    ({ engine with keys } : Engine Float K).Accounted :=
  ⟨accounted.bounded, accounted.keyed, accounted.free, accounted.tellable, accounted.replayed,
    accounted.blended, accounted.registered⟩

theorem Accounted.refused {engine : Engine Float K} (accounted : engine.Accounted)
    (refusal : Refusal) : ({ engine with refusal } : Engine Float K).Accounted :=
  ⟨accounted.bounded, accounted.keyed, accounted.free, accounted.tellable, accounted.replayed,
    accounted.blended, accounted.registered⟩

theorem Accounted.wrote {engine later : Engine Float K} (accounted : engine.Accounted)
    {entries : List LedgerRecord} {record : IdentityRecord Float}
    (stored : engine.Stored later entries record)
    (tells : Tells (engine.record? record.id) entries record) :
    later.Accounted := by
  have behindNothing : engine.Stored later ([] ++ entries) record := stored
  exact accounted.stored behindNothing nofun tells

theorem Accounted.commit {engine later : Engine Float K} (accounted : engine.Accounted)
    {now : Instant} (shown : now.IsValid) {asked : Commit Float} {receipt : Receipt Float}
    (apart : ∀ event ∈ asked.events, event.eventType.isOwn = false)
    (done : engine.commit now asked = .ok (receipt, later)) : later.Accounted := by
  obtain ⟨prepared, record, ready, found, -, -, same⟩ := commit_cases done
  obtain ⟨seen, window, stored, -, ends, -, deadline, update, written⟩ := prepare_cases ready
  obtain rfl : record = seen := Option.some.inj (found.symm.trans stored)
  have owned : record.id = asked.identity := accounted.keyed _ record found
  have tellable := accounted.tellable _ record found
  have told : ∀ honesty deadline, window = some (honesty, deadline) → deadline.IsTellable :=
    fun honesty deadline entered => CoolingOffPolicy.isTellable_deadline? shown tellable.window
      (ends honesty deadline entered)
  have changed : ∀ changed, prepared.update = some changed →
      changed.identity = record.id ∧ changed.kind = .ewma ∧
        Scalar.isFinite changed.newScore = true := by
    intro changed updated
    rw [update] at updated
    obtain ⟨⟨outcome, context⟩, -, rfl⟩ := Option.map_eq_some_iff.mp updated
    exact ⟨rfl, rfl, isFinite_scoreUpdate accounted.bounded record outcome context _ now⟩
  have tells := tells_commit tellable deadline told changed now
  have effect := engine.stored_settled record prepared
  rw [← same, written, ← owned] at effect
  refine accounted.stored effect apart ?_
  rw [id_settledRecord, owned, found, ← owned]
  exact tells

theorem Accounted.applyPenalty {engine later : Engine Float K} (accounted : engine.Accounted)
    {event : PenaltyEvent} {outcome : PenaltyOutcome Float}
    (done : engine.applyPenalty event = .ok (outcome, later)) : later.Accounted := by
  obtain ⟨record, found, priced, -, same⟩ := applyPenalty_cases done
  have owned : record.id = event.identity := accounted.keyed _ record found
  have tellable := accounted.tellable _ record found
  have known : engine.record? (chargedRecord record event
      (penaltyDay record event.timestamp).1 outcome).id = some record := by
    rw [← found, ← owned]
    rfl
  rw [same]
  refine accounted.wrote ⟨rfl, rfl, rfl, rfl, rfl⟩ ?_
  rw [known]
  exact tells_penalty accounted.bounded tellable owned priced

theorem Accounted.applyDecay {engine later : Engine Float K} (accounted : engine.Accounted)
    {identity : String} {instant : Instant} {score : Float}
    (done : engine.applyDecay identity instant = .ok (score, later)) : later.Accounted := by
  rcases applyDecay_cases done with same | ⟨record, found, -, same⟩
  · rw [same]
    exact accounted
  · obtain rfl : record.id = identity := accounted.keyed _ record found
    have tellable := accounted.tellable _ record found
    rw [same]
    refine accounted.wrote ⟨rfl, rfl, rfl, rfl, rfl⟩ ?_
    rw [driftedRecord, found]
    exact tells_drift accounted.bounded tellable instant

variable [KeyProvider K]

theorem Accounted.rotate {engine : Engine Float K} (accounted : engine.Accounted) (now : Instant)
    (identity : String) : (engine.rotate now identity).2.Accounted := by
  rcases rotate_cases engine now identity with
    ⟨keys, cause, -, failed⟩ | ⟨record, fingerprint, keys, found, -, -, done⟩
  · rw [failed]
    exact accounted.rekeyed keys
  · obtain rfl : record.id = identity := accounted.keyed _ record found
    have tellable := accounted.tellable _ record found
    rw [done]
    refine accounted.wrote ⟨rfl, rfl, rfl, rfl, rfl⟩ ?_
    rw [rotatedRecord, found]
    exact tells_rotation tellable fingerprint now

theorem Accounted.register {engine : Engine Float K} (accounted : engine.Accounted) (now : Instant)
    (identity : String) (role : Role) (score : Float) :
    (engine.register now identity role score).2.Accounted := by
  have free : engine.isHeld identity = false := by
    rw [isHeld, accounted.free]
    rfl
  rcases register_cases now identity role score free with
    ⟨keys, cause, -, failed⟩ | ⟨fingerprint, keys, absent, inUnit, -, -, done⟩
  · rw [failed]
    exact accounted.rekeyed keys
  · have unknown : engine.record?
        (IdentityRecord.register identity role score fingerprint now).id = none := absent
    rw [done]
    refine accounted.wrote ⟨rfl, rfl, rfl, rfl, rfl⟩ ?_
    rw [unknown]
    exact tells_registration inUnit identity role fingerprint now

/-- No operation leaves the ledger behind what the engine knows. -/
theorem Accounted.perform {engine : Engine Float K} (accounted : engine.Accounted) {now : Instant}
    (shown : now.IsValid) {operation : Operation Float} (apart : operation.KeepsApart) :
    (engine.perform now operation).Accounted := by
  cases operation with
  | register identity role score => exact accounted.register now identity role score
  | commit asked =>
      rw [Engine.perform, commitInPlace_eq]
      cases done : engine.commit now asked with
      | error cause => exact accounted
      | ok answer => exact accounted.commit shown apart done
  | penalize event =>
      rw [Engine.perform, applyPenaltyInPlace_eq]
      cases done : engine.applyPenalty event with
      | error cause => exact accounted
      | ok answer => exact accounted.applyPenalty done
  | drift identity instant =>
      rw [Engine.perform, applyDecayInPlace_eq]
      cases done : engine.applyDecay identity instant with
      | error cause => exact accounted
      | ok answer => exact accounted.applyDecay done
  | rotate identity => exact accounted.rotate now identity

omit [KeyProvider K] in
theorem accounted_start {config : TrustConfig Float} {keys : K} {engine : Engine Float K}
    (started : Engine.start config keys = .ok engine) : engine.Accounted := by
  have unknown := record?_of_start started
  obtain ⟨valid, made⟩ := start_eq_ok started
  have empty : engine.ledger = [] := by rw [made]
  constructor
  case bounded =>
    rw [made]
    exact TrustConfig.bounded_of_validate valid
  case keyed => exact keyed_of_start started
  case free => rw [made]
  case tellable =>
    intro identity record found
    rw [unknown] at found
    cases found
  case replayed =>
    intro identity
    rw [unknown, empty]
    rfl
  case blended =>
    intro identity
    rw [unknown, empty]
    rfl
  case registered =>
    intro identity
    rw [unknown, empty]
    simp [Ledger.Registers, Ledger.about_eq, Ledger.records]

theorem accounted_of_reachable {engine : Engine Float K}
    (reached : Reachable Operation.KeepsApart engine) : engine.Accounted := by
  induction reached with
  | start started => exact accounted_start started
  | perform _ shown apart accounted => exact accounted.perform shown apart
  | refuse _ refusal accounted => exact accounted.refused refusal

/-- Whatever callers asked of an engine and whatever the storage refused: the entries of an identity
lead to exactly its record, the outcomes they tell of have been counted, and the table holds those
identities that an entry registers. -/
theorem replay_of_reachable {engine : Engine Float K}
    (reached : Reachable Operation.KeepsApart engine) :
    (∀ identity, engine.ledger.replay identity = engine.record? identity) ∧
    (∀ identity record, engine.record? identity = some record →
      record.verificationCount = engine.ledger.blends identity) ∧
    ∀ identity, (engine.record? identity).isSome = true ↔ engine.ledger.Registers identity := by
  have accounted := accounted_of_reachable reached
  refine ⟨accounted.replayed, ?_, accounted.registered⟩
  intro identity record found
  rw [accounted.blended, found]
  rfl

/-- A registration, and one operation of each other kind. -/
def eventful : List (Operation Float) :=
  [.register "ann" .judge 0.4,
    .commit ⟨"ann", [], some .honest, some (1.0, .lowRisk), none⟩,
    .penalize ⟨"ann", .scopeViolation, .honest, "", Small.now⟩,
    .drift "ann" ⟨90 * 86400, 0⟩,
    .rotate "ann"]

/-- An engine behind these operations. -/
def seasoned (engine : Engine Float LocalKeys) : Engine Float LocalKeys :=
  eventful.foldl (perform Small.now) engine

/-- An engine under a rate that takes scores out of the finite numbers within three periods. -/
def excessive : Engine Float LocalKeys :=
  { Small.engine with
    config := { TrustConfig.default with decay := ⟨0.4, -1e308⟩ } }

theorem replay_eventful :
    (∀ engine ∈ [Small.engine, excessive],
      Reachable Operation.KeepsApart (seasoned engine) ∧
      (seasoned engine).ledger.blends "ann" = 1 ∧
      ∃ record,
        (seasoned engine).record? "ann" = some record ∧
        record.verificationCount = 1 ∧ record.rotationCount = 1 ∧
        (seasoned engine).ledger.replay "ann" = some record) ∧
    ((seasoned excessive).record? "ann").map (fun record => Scalar.isFinite record.trustScore) =
      some false := by
  refine ⟨fun engine small => ?_, by decide +kernel⟩
  have small : engine = Small.engine ∨ engine = excessive := by simpa using small
  have started : Engine.start engine.config Small.keys = .ok engine := by
    rcases small with rfl | rfl
    · rfl
    · rfl
  have apart : ∀ operation ∈ eventful, operation.KeepsApart := by
    simp [eventful, Operation.KeepsApart]
  have reached : Reachable Operation.KeepsApart (seasoned engine) :=
    (Reachable.start started).performAll (⟨by decide, by decide⟩ : Small.now.IsValid) apart
  obtain ⟨replayed, counted, -⟩ := replay_of_reachable reached
  have known : ((seasoned engine).record? "ann").map (fun record =>
      (record.verificationCount, record.rotationCount)) = some (1, 1) := by
    rcases small with rfl | rfl
    · decide +kernel
    · decide +kernel
  obtain ⟨record, found, counts⟩ := Option.map_eq_some_iff.mp known
  injection counts with verifications rotations
  refine ⟨reached, ?_, record, found, verifications, rotations, ?_⟩
  · rw [← counted "ann" record found, verifications]
  · rw [replayed "ann", found]

end Engine

end ReviewGate
