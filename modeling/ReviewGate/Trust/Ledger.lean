import ReviewGate.Digest
import ReviewGate.Time.Record
import ReviewGate.Trust.Basic

/-!
# The audit ledger

Entries are numbered, and each holds the hash of the entry before it and a hash of its own fields
together with that one.  So the last hash depends on everything before it.
-/

namespace ReviewGate

inductive EventType where
  | identityRegistered
  | identityRotated
  | trustUpdated
  | penaltyApplied
  | penaltyDeferred
  | coolingOffEntered
  | verdictEmitted
  | approvalRequested
  | approvalResolved
  | ruleActivated
  | ruleQueuedForReview
  | ruleDeactivated
  deriving DecidableEq, Repr, Inhabited

instance : Named EventType where
  all := [.identityRegistered, .identityRotated, .trustUpdated, .penaltyApplied, .penaltyDeferred,
    .coolingOffEntered, .verdictEmitted, .approvalRequested, .approvalResolved, .ruleActivated,
    .ruleQueuedForReview, .ruleDeactivated]
  name
    | .identityRegistered => "identity_registered"
    | .identityRotated => "identity_rotated"
    | .trustUpdated => "trust_updated"
    | .penaltyApplied => "penalty_applied"
    | .penaltyDeferred => "penalty_deferred"
    | .coolingOffEntered => "cooling_off_entered"
    | .verdictEmitted => "verdict_emitted"
    | .approvalRequested => "approval_requested"
    | .approvalResolved => "approval_resolved"
    | .ruleActivated => "rule_activated"
    | .ruleQueuedForReview => "rule_queued_for_review"
    | .ruleDeactivated => "rule_deactivated"

/-- An event that is not in the ledger yet. -/
structure LedgerRecord where
  identity : String
  eventType : EventType
  payload : Json
  timestamp : Instant

structure LedgerEntry extends LedgerRecord where
  sequence : Nat
  previousHash : String
  hash : String

/-- Entries, oldest first. -/
abbrev Ledger := List LedgerEntry

namespace LedgerRecord

/-- The fields that a hash covers, in the order in which they are hashed. -/
def hashedFields (record : LedgerRecord) (sequence : Nat) (previousHash : String) : Json :=
  .object [("sequence", Json.ofNat sequence), ("identity", .string record.identity),
    ("event_type", .string (Named.name record.eventType)), ("payload", record.payload),
    ("timestamp", record.timestamp.toJson), ("prev_hash", .string previousHash)]

/-- The text that is hashed. -/
def hashedText (record : LedgerRecord) (sequence : Nat) (previousHash : String) : String :=
  (record.hashedFields sequence previousHash).compact

def hash (record : LedgerRecord) (sequence : Nat) (previousHash : String) : String :=
  Digest.ofText (record.hashedText sequence previousHash)

end LedgerRecord

namespace Ledger

/-- What stands for the hash before the first entry. -/
def genesisHash : String := "0000000000000000000000000000000000000000000000000000000000000000"

/-- The hash of the newest entry. -/
def head (ledger : Ledger) : String :=
  match ledger.getLast? with
  | some entry => entry.hash
  | none => genesisHash

/-- The entries that records become behind so many entries, the last of which has the given hash. -/
def entriesAfter (length : Nat) (previousHash : String) : List LedgerRecord → List LedgerEntry
  | [] => []
  | record :: rest =>
      let hash := record.hash length previousHash
      { record with sequence := length, previousHash, hash } :: entriesAfter (length + 1) hash rest

/-- The entries that a batch adds. -/
def staged (ledger : Ledger) (records : List LedgerRecord) : List LedgerEntry :=
  entriesAfter ledger.length ledger.head records

def append (ledger : Ledger) (records : List LedgerRecord) : Ledger :=
  ledger ++ ledger.staged records

/-- The hashes of the entries that a batch adds. -/
def appendedHashes (ledger : Ledger) (records : List LedgerRecord) : List String :=
  (ledger.staged records).map (·.hash)

/-- Appends one event and gives its hash; a store that answers without a hash has failed. -/
def appendEvent (ledger : Ledger) (record : LedgerRecord) : Except LedgerError (String × Ledger) :=
  match (ledger.appendedHashes [record]).head? with
  | some hash => .ok (hash, ledger.append [record])
  | none => .error (.unavailable "append returned no hash")

/-- The first entry that does not follow from the hash before it. -/
def firstBroken? (previousHash : String) : List LedgerEntry → Option LedgerEntry
  | [] => none
  | entry :: rest =>
      if entry.previousHash = previousHash ∧
          entry.hash = entry.toLedgerRecord.hash entry.sequence previousHash then
        firstBroken? entry.hash rest
      else some entry

/-- Computes all hashes anew. -/
def verify (ledger : Ledger) : Except LedgerError Unit :=
  match firstBroken? genesisHash ledger with
  | some entry => .error (.chainBroken entry.sequence)
  | none => .ok ()

@[simp]
theorem append_nil (ledger : Ledger) : ledger.append [] = ledger := by
  simp [append, staged, entriesAfter]

@[simp]
theorem length_entriesAfter (length : Nat) (previousHash : String) (records : List LedgerRecord) :
    (entriesAfter length previousHash records).length = records.length := by
  fun_induction entriesAfter length previousHash records <;> simp_all

end Ledger

/-- Which entries are asked for; what is left out does not matter. -/
structure LedgerQuery where
  identity : Option String
  eventType : Option EventType
  since : Option Instant
  limit : Option Nat

namespace LedgerQuery

def selects (query : LedgerQuery) (entry : LedgerEntry) : Bool :=
  (query.identity.all fun identity => entry.identity == identity) &&
    (query.eventType.all fun eventType => entry.eventType == eventType) &&
    (query.since.all fun since => decide (since ≤ entry.timestamp))

/-- The selected entries, oldest first. -/
def run (query : LedgerQuery) (ledger : Ledger) : List LedgerEntry :=
  let matching := ledger.filter query.selects
  match query.limit with
  | some limit => matching.take limit
  | none => matching

end LedgerQuery

/-! ## Records -/

namespace LedgerEntry

def toJson (entry : LedgerEntry) : Json :=
  Json.ofFields [("sequence", Json.ofNat entry.sequence), ("identity", .string entry.identity),
    ("event_type", Named.toJson entry.eventType), ("payload", entry.payload),
    ("timestamp", entry.timestamp.toJson), ("prev_hash", .string entry.previousHash),
    ("entry_hash", .string entry.hash)]

end LedgerEntry

end ReviewGate
