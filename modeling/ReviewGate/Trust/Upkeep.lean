import ReviewGate.Trust.Commit
import ReviewGate.Trust.Registration

/-!
# Penalties, drift and rotation

The changes of a record that no verdict causes.  Each is written into the ledger first; where that
is refused, nothing changes.
-/

namespace ReviewGate

variable {R K : Type} [Scalar R]

namespace Engine

/-- The day a penalty counts for and what that day has taken already.  Late penalties count for the
day that is being counted. -/
def penaltyDay (record : IdentityRecord R) (timestamp : Instant) : Day × R :=
  if record.penaltyDay.number < timestamp.day.number then (timestamp.day, 0.0)
  else (record.penaltyDay, record.dailyPenaltySum)

/-- Charges a penalty.  One that finds no room under the daily cap is written down as deferred. -/
def applyPenaltyInPlace (engine : Engine R K) (event : PenaltyEvent) :
    Except TrustError (PenaltyOutcome R) × Engine R K :=
  match engine.identity event.identity with
  | .error cause => (.error cause, engine)
  | .ok record =>
      let (day, dailySum) := penaltyDay record event.timestamp
      let oldScore := record.trustScore
      let stage := engine.stageFor oldScore
      match engine.config.penalties.charge oldScore event.kind event.honesty stage dailySum with
      | .error cause => (.error cause, engine)
      | .ok outcome =>
          let deferred := decide (outcome.disposition = .deferred)
          match engine.audit {
            identity := event.identity
            eventType := if deferred then .penaltyDeferred else .penaltyApplied
            payload := Json.ofFields [("event", event.toJson), ("stage", Named.toJson stage),
              ("outcome", outcome.toJson)]
            timestamp := event.timestamp } with
          | .error cause => (.error cause, engine)
          | .ok engine =>
              let charged := { record with
                trustScore := outcome.adjustedScore
                dailyPenaltySum := outcome.dailySum
                penaltyDay := day
                lastTrustUpdate :=
                  if deferred then record.lastTrustUpdate else event.timestamp }
              (.ok outcome, (engine.put charged).remember {
                identity := event.identity
                oldScore
                newScore := outcome.adjustedScore
                delta := outcome.adjustedScore - oldScore
                kind := if deferred then .penaltyDeferred else .microPenalty
                context := Named.name event.kind ++ ": " ++ event.reason
                reference := none
                timestamp := event.timestamp })

def applyPenalty (engine : Engine R K) (event : PenaltyEvent) :
    Except TrustError (PenaltyOutcome R × Engine R K) :=
  together (engine.applyPenaltyInPlace event)

/-- Lets the score of an inactive identity drift.  Less than a ten-thousandth is not worth it. -/
def applyDecayInPlace (engine : Engine R K) (identity : String) (now : Instant) :
    Except TrustError R × Engine R K :=
  match engine.identity identity with
  | .error cause => (.error cause, engine)
  | .ok record =>
      let oldScore := record.trustScore
      let decay := engine.config.decay
      let newScore := decay.decay oldScore record.lastTrustUpdate now
      if newScore - oldScore < 0.0001 ∧ oldScore - newScore < 0.0001 then (.ok oldScore, engine)
      else
        let update : ScoreUpdate R := {
          identity
          oldScore
          newScore
          delta := newScore - oldScore
          kind := .temporalDecay
          context := "inactivity drift toward baseline (" ++
            Layout.message.write (Scalar.toFloat decay.baseline) ++ ")"
          reference := none
          timestamp := now }
        match engine.audit update.event with
        | .error cause => (.error cause, engine)
        | .ok engine =>
            let drifted := { record with trustScore := newScore, lastTrustUpdate := now }
            (.ok newScore, (engine.put drifted).remember update)

def applyDecay (engine : Engine R K) (identity : String) (now : Instant) :
    Except TrustError (R × Engine R K) :=
  together (engine.applyDecayInPlace identity now)

variable [KeyProvider K]

omit [Scalar R] in
/-- Replaces the key of an identity and archives the old one. -/
def rotate (engine : Engine R K) (now : Instant) (identity : String) :
    Except TrustError String × Engine R K :=
  match engine.identity identity with
  | .error cause => (.error cause, engine)
  | .ok record =>
      match KeyProvider.rotate engine.keys identity with
      | (.error cause, keys) => (.error (.keys cause), { engine with keys })
      | (.ok fingerprint, keys) =>
          let engine := { engine with keys }
          let archived : ArchivedKey := ⟨record.keyFingerprint, record.keyIssuedAt, now⟩
          let event : LedgerRecord := {
            identity
            eventType := .identityRotated
            payload := Json.ofFields [("retired", archived.toJson),
              ("key_fingerprint", .string fingerprint),
              ("rotation_count", Json.ofNat (record.rotationCount + 1))]
            timestamp := now }
          match engine.audit event with
          | .error cause => (.error cause, engine.revertKey identity fingerprint)
          | .ok engine => (.ok fingerprint, engine.put { record with
              archivedKeys := record.archivedKeys ++ [archived]
              keyFingerprint := fingerprint
              keyIssuedAt := now
              rotationCount := record.rotationCount + 1 })

end Engine

end ReviewGate
