import ReviewGate.Trust.Keys
import ReviewGate.Trust.Propagation
import ReviewGate.Trust.Record

/-!
# The trust engine

The records of all identities, the newest changes of scores, and the ledger in which every change is
written before it takes effect.  The storage of the ledger may refuse a batch of records, and then
as a whole.

While a change of a record is being written, the record is held, and other changes of it wait.
-/

namespace ReviewGate

/-- What a storage has against a batch, if anything. -/
abbrev Refusal := List LedgerRecord → Option LedgerError

structure Engine (R K : Type) where
  config : TrustConfig R
  identities : Table (IdentityRecord R)
  /-- Newest first. -/
  history : List (ScoreUpdate R)
  ledger : Ledger
  refusal : Refusal
  keys : K
  /-- Identities whose records are held. -/
  held : List String

variable {R K : Type}

namespace Engine

/-- An engine without identities, over an empty ledger that takes every batch. -/
def start [Scalar R] (config : TrustConfig R) (keys : K) : Except TrustError (Engine R K) := do
  config.validate
  return ⟨config, [], [], [], fun _ => none, keys, []⟩

def record? (engine : Engine R K) (identity : String) : Option (IdentityRecord R) :=
  engine.identities.get? identity

/-- The record of a registered identity. -/
def identity (engine : Engine R K) (identity : String) : Except TrustError (IdentityRecord R) :=
  match engine.record? identity with
  | some record => .ok record
  | none => .error (.unknownIdentity identity)

def isHeld (engine : Engine R K) (identity : String) : Bool := engine.held.contains identity

def hold (engine : Engine R K) (identity : String) : Engine R K :=
  { engine with held := identity :: engine.held }

def release (engine : Engine R K) (identity : String) : Engine R K :=
  { engine with held := engine.held.erase identity }

/-- Stores the record of an identity. -/
def put (engine : Engine R K) (record : IdentityRecord R) : Engine R K :=
  { engine with identities := engine.identities.insert record.id record }

def forget (engine : Engine R K) (identity : String) : Engine R K :=
  { engine with identities := engine.identities.erase identity }

/-- Remembers a change; the oldest ones are dropped when there are too many. -/
def remember (engine : Engine R K) (update : ScoreUpdate R) : Engine R K :=
  { engine with history := (update :: engine.history).take engine.config.maxHistory }

/-- Writes a batch into the ledger and tells the hashes of its entries. -/
def write (engine : Engine R K) (records : List LedgerRecord) :
    Except LedgerError (List String × Engine R K) :=
  match engine.refusal records with
  | some cause => .error cause
  | none =>
      .ok (engine.ledger.appendedHashes records,
        { engine with ledger := engine.ledger.append records })

/-- Writes one event. -/
def audit (engine : Engine R K) (event : LedgerRecord) : Except TrustError (Engine R K) :=
  match engine.write [event] with
  | .ok (_, engine) => .ok engine
  | .error cause => .error (.ledger cause)

def score (engine : Engine R K) (identity : String) : Except TrustError R :=
  (engine.identity identity).map (·.trustScore)

def isCoolingOff (engine : Engine R K) (identity : String) (now : Instant) :
    Except TrustError Bool :=
  (engine.identity identity).map (·.isCoolingOff now)

/-- The changes of one score, newest first. -/
def updates (engine : Engine R K) (identity : String) (limit : Nat) : List (ScoreUpdate R) :=
  (engine.history.filter fun update => update.identity == identity).take limit

variable [Scalar R]

/-- The stage of a score under the policy of this engine. -/
def stageFor (engine : Engine R K) (score : R) : Stage := engine.config.stages.classify score

def stage (engine : Engine R K) (identity : String) : Except TrustError Stage :=
  (engine.score identity).map engine.stageFor

/-- Propagates trust from registered identities at their current scores. -/
def propagate (engine : Engine R K) (edges : List (TrustEdge R)) (seeds : List String) :
    Except TrustError (Table R) := do
  let sources ← seeds.foldlM (fun (sources : Table R) seed => do
    let score ← engine.score seed
    return sources.insert seed score) []
  propagateTrust edges sources engine.config.propagation.hopLimit
    engine.config.propagation.dampingFactor

end Engine

end ReviewGate
