import ReviewGate.Trust.Dynamics
import ReviewGate.Trust.Ledger

/-!
# Records of identities

What is known about an identity, and the changes its score went through.
-/

namespace ReviewGate

/-- A key that rotation has replaced. -/
structure ArchivedKey where
  fingerprint : String
  issuedAt : Instant
  retiredAt : Instant
  deriving DecidableEq, Repr

/-- The state of one identity.  Its stage follows from the score and is not stored. -/
structure IdentityRecord (R : Type) where
  id : String
  role : Role
  trustScore : R
  createdAt : Instant
  keyFingerprint : String
  keyIssuedAt : Instant
  /-- Replaced keys, oldest first. -/
  archivedKeys : List ArchivedKey
  rotationCount : Nat
  /-- Outcomes blended into the score. -/
  verificationCount : Nat
  /-- When the score last changed. -/
  lastTrustUpdate : Instant
  /-- What penalties took on `penaltyDay`. -/
  dailyPenaltySum : R
  penaltyDay : Day
  coolingOffUntil : Option Instant

/-- One change of a score. -/
structure ScoreUpdate (R : Type) where
  identity : String
  oldScore : R
  newScore : R
  delta : R
  kind : UpdateKind
  context : String
  /-- The verdict that caused the change. -/
  reference : Option String
  timestamp : Instant

/-- A violation to be charged. -/
structure PenaltyEvent where
  identity : String
  kind : PenaltyType
  honesty : Honesty
  reason : String
  timestamp : Instant
  deriving DecidableEq, Repr

variable {R : Type} [Scalar R]

namespace IdentityRecord

/-- The record of an identity that is registered now. -/
def register (id : String) (role : Role) (score : R) (fingerprint : String) (now : Instant) :
    IdentityRecord R where
  id
  role
  trustScore := score
  createdAt := now
  keyFingerprint := fingerprint
  keyIssuedAt := now
  archivedKeys := []
  rotationCount := 0
  verificationCount := 0
  lastTrustUpdate := now
  dailyPenaltySum := 0.0
  penaltyDay := now.day
  coolingOffUntil := none

omit [Scalar R] in
def keyAge (record : IdentityRecord R) (now : Instant) : Span := now.since record.keyIssuedAt

omit [Scalar R] in
def isCoolingOff (record : IdentityRecord R) (now : Instant) : Bool :=
  record.coolingOffUntil.any fun deadline => decide (now < deadline)

end IdentityRecord

/-! ## As data -/

def ArchivedKey.toJson (key : ArchivedKey) : Json :=
  Json.ofFields [("fingerprint", .string key.fingerprint), ("issued_at", key.issuedAt.toJson),
    ("retired_at", key.retiredAt.toJson)]

def Day.toJson (day : Day) : Json := .string day.toText

def IdentityRecord.toJson (record : IdentityRecord R) : Json :=
  Json.ofFields [("id", .string record.id), ("role", Named.toJson record.role),
    ("trust_score", Scalar.toJson record.trustScore), ("created_at", record.createdAt.toJson),
    ("key_fingerprint", .string record.keyFingerprint),
    ("key_issued_at", record.keyIssuedAt.toJson),
    ("archived_keys", Json.ofList ArchivedKey.toJson record.archivedKeys),
    ("rotation_count", Json.ofNat record.rotationCount),
    ("verification_count", Json.ofNat record.verificationCount),
    ("last_trust_update", record.lastTrustUpdate.toJson),
    ("daily_penalty_sum", Scalar.toJson record.dailyPenaltySum),
    ("penalty_day", record.penaltyDay.toJson),
    ("cooling_off_until", Json.ofOption Instant.toJson record.coolingOffUntil)]

def ScoreUpdate.toJson (update : ScoreUpdate R) : Json :=
  Json.ofFields [("identity", .string update.identity),
    ("old_score", Scalar.toJson update.oldScore), ("new_score", Scalar.toJson update.newScore),
    ("delta", Scalar.toJson update.delta), ("kind", Named.toJson update.kind),
    ("context", .string update.context), ("reference", Json.ofOption .string update.reference),
    ("timestamp", update.timestamp.toJson)]

def PenaltyEvent.toJson (event : PenaltyEvent) : Json :=
  Json.ofFields [("identity", .string event.identity), ("penalty_type", Named.toJson event.kind),
    ("honesty", Named.toJson event.honesty), ("reason", .string event.reason),
    ("timestamp", event.timestamp.toJson)]

def PenaltyOutcome.toJson (outcome : PenaltyOutcome R) : Json :=
  Json.ofFields [("adjusted_score", Scalar.toJson outcome.adjustedScore),
    ("applied_magnitude", Scalar.toJson outcome.applied),
    ("effective_magnitude", Scalar.toJson outcome.effective),
    ("disposition", Named.toJson outcome.disposition),
    ("daily_sum", Scalar.toJson outcome.dailySum)]

end ReviewGate
