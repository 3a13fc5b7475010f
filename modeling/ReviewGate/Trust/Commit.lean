import ReviewGate.Trust.Engine

/-!
# Commits

A commit is a batch of events, a cooling-off window and an outcome for one identity.  It is prepared
while nobody else changes the record, written as one batch, and only then takes effect.
-/

namespace ReviewGate

structure Commit (R : Type) where
  identity : String
  /-- Events of the caller, written first. -/
  events : List LedgerRecord
  coolingOff : Option Honesty
  /-- An outcome in the unit interval, one being a clean pass. -/
  update : Option (R × RiskContext)
  /-- The verdict that causes the update. -/
  reference : Option String

/-- All that a commit will write and change. -/
structure PreparedCommit (R : Type) where
  identity : String
  records : List LedgerRecord
  coolingOffUntil : Option Instant
  update : Option (ScoreUpdate R)

/-- What a commit has changed. -/
structure Receipt (R : Type) where
  /-- The score after the commit. -/
  score : R
  update : Option (ScoreUpdate R)
  coolingOffUntil : Option Instant
  /-- The hashes of all written entries. -/
  hashes : List String

variable {R K : Type} [Scalar R]

namespace CoolingOffPolicy

/-- The end of a window that starts now; it does not shorten a window that is open. -/
def deadline? (policy : CoolingOffPolicy) (honesty : Honesty) (now : Instant)
    (open? : Option Instant) : Except TrustError Instant :=
  match now.addHours? (signedWord (policy.hours honesty)) with
  | none => .error .beyondCalendar
  | some requested => .ok ((open?.map fun deadline => requested.latest deadline).getD requested)

end CoolingOffPolicy

namespace Engine

/-- The change that an outcome makes.  On probation it cannot take a score below the floor. -/
def scoreUpdate (engine : Engine R K) (record : IdentityRecord R) (outcome : R)
    (context : RiskContext) (reference : Option String) (now : Instant) : ScoreUpdate R :=
  let oldScore := record.trustScore
  let blended :=
    Scalar.clampUnit (blend (engine.config.retention.get context) oldScore outcome)
  let probation := engine.config.probation
  let newScore :=
    if probation.covers record.createdAt record.verificationCount now then
      Scalar.larger blended (Scalar.smaller probation.floor oldScore)
    else blended
  { identity := record.id
    oldScore
    newScore
    delta := newScore - oldScore
    kind := .ewma
    context := Named.name context ++ " (outcome=" ++
      Layout.message.write (Scalar.toFloat outcome) ++ ")"
    reference
    timestamp := now }

/-- The event of a cooling-off window. -/
def coolingOffEvent (identity : String) (honesty : Honesty) (deadline now : Instant) :
    LedgerRecord where
  identity
  eventType := .coolingOffEntered
  payload := Json.ofFields [("severity", Named.toJson honesty), ("until", deadline.toJson)]
  timestamp := now

end Engine

namespace ScoreUpdate

/-- The event of a blended outcome or of a drift. -/
def event (update : ScoreUpdate R) : LedgerRecord where
  identity := update.identity
  eventType := .trustUpdated
  payload := update.toJson
  timestamp := update.timestamp

end ScoreUpdate

namespace Engine

/-- The checks made before a commit waits for the record. -/
def admitCommit (engine : Engine R K) (commit : Commit R) : Except TrustError Unit := do
  match commit.update with
  | some (outcome, _) => requireUnit "outcome score" outcome
  | none => pure ()
  let _ ← engine.identity commit.identity

/-- What a commit will do to the record as it is. -/
def prepare (engine : Engine R K) (now : Instant) (commit : Commit R) :
    Except TrustError (PreparedCommit R) := do
  let record ← engine.identity commit.identity
  let window ← commit.coolingOff.mapM fun honesty => do
    let deadline ← engine.config.coolingOff.deadline? honesty now record.coolingOffUntil
    return (honesty, deadline)
  let update := commit.update.map fun (outcome, context) =>
    engine.scoreUpdate record outcome context commit.reference now
  return {
    identity := commit.identity
    records := commit.events ++
      (window.map fun (honesty, deadline) =>
        coolingOffEvent commit.identity honesty deadline now).toList ++
      (update.map (·.event)).toList
    coolingOffUntil := window.map (·.2)
    update }

omit [Scalar R] in
/-- A record after a commit. -/
def settledRecord (record : IdentityRecord R) (prepared : PreparedCommit R) : IdentityRecord R :=
  let record := match prepared.coolingOffUntil with
    | some deadline => { record with coolingOffUntil := some deadline }
    | none => record
  match prepared.update with
  | some update => { record with
      trustScore := update.newScore
      verificationCount := record.verificationCount + 1
      lastTrustUpdate := update.timestamp }
  | none => record

omit [Scalar R] in
/-- Lets a commit that has been written take effect. -/
def settle (engine : Engine R K) (prepared : PreparedCommit R) (hashes : List String) :
    Except TrustError (Receipt R × Engine R K) := do
  let record ← engine.identity prepared.identity
  let settled := settledRecord record prepared
  let engine := engine.put settled
  let engine := match prepared.update with
    | some update => engine.remember update
    | none => engine
  return (⟨settled.trustScore, prepared.update, prepared.coolingOffUntil, hashes⟩, engine)

/-- A commit that nobody interrupts.  Nothing is taken back of what has happened before a step that
fails. -/
def commitInPlace (engine : Engine R K) (now : Instant) (commit : Commit R) :
    Except TrustError (Receipt R) × Engine R K :=
  match engine.admitCommit commit with
  | .error cause => (.error cause, engine)
  | .ok () =>
      match engine.prepare now commit with
      | .error cause => (.error cause, engine)
      | .ok prepared =>
          match engine.write prepared.records with
          | .error cause => (.error (.ledger cause), engine)
          | .ok (hashes, engine) =>
              match engine.settle prepared hashes with
              | .error cause => (.error cause, engine)
              | .ok (receipt, engine) => (.ok receipt, engine)

def commit (engine : Engine R K) (now : Instant) (commit : Commit R) :
    Except TrustError (Receipt R × Engine R K) :=
  together (engine.commitInPlace now commit)

/-- Blends an outcome into a score. -/
def updateScore (engine : Engine R K) (now : Instant) (identity : String) (outcome : R)
    (context : RiskContext) (reference : Option String) :
    Except TrustError (R × Engine R K) := do
  let (receipt, engine) ←
    engine.commit now ⟨identity, [], none, some (outcome, context), reference⟩
  return (receipt.score, engine)

/-- Starts or extends a cooling-off window and tells its end. -/
def enterCoolingOff (engine : Engine R K) (now : Instant) (identity : String)
    (honesty : Honesty) : Except TrustError (Option Instant × Engine R K) := do
  let (receipt, engine) ← engine.commit now ⟨identity, [], some honesty, none, none⟩
  return (receipt.coolingOffUntil, engine)

end Engine

/-! ## Records -/

def Receipt.toJson (receipt : Receipt R) : Json :=
  Json.ofFields [("score", Json.ofNumber (Scalar.toFloat receipt.score)),
    ("update", Json.ofOption ScoreUpdate.toJson receipt.update),
    ("cooling_off_until", Json.ofOption Instant.toJson receipt.coolingOffUntil),
    ("hashes", Json.ofStrings receipt.hashes)]

end ReviewGate
