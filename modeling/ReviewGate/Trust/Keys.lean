import ReviewGate.Data.Table
import ReviewGate.Trust.Basic

/-!
# Keys of identities

An identity has one valid key at a time.  Rotation replaces it, and reverting the newest key brings
back the one before.
-/

namespace ReviewGate

/-- A service that keeps keys.  Its state may change even where it refuses. -/
class KeyProvider (K : Type) where
  issue : K → String → Except KeyError String × K
  rotate : K → String → Except KeyError String × K
  /-- Takes back a key that was issued or rotated in. -/
  revert : K → String → String → Except KeyError Unit × K
  /-- Whether other work goes on while a key is issued. -/
  issuesSlowly : Bool

/-- Keys kept in memory.  New fingerprints are minted from the identity and a running number. -/
structure LocalKeys where
  mint : String → Nat → String
  minted : Nat
  /-- The valid key of each identity. -/
  active : Table String
  /-- The key before the valid one. -/
  previous : Table String
  revoked : List String

namespace LocalKeys

def start (mint : String → Nat → String) : LocalKeys := ⟨mint, 0, [], [], []⟩

def isValid (keys : LocalKeys) (identity fingerprint : String) : Bool :=
  keys.active.get? identity == some fingerprint

def isRevoked (keys : LocalKeys) (fingerprint : String) : Bool :=
  keys.revoked.contains fingerprint

def issue (keys : LocalKeys) (identity : String) : Except KeyError String × LocalKeys :=
  match keys.active.get? identity with
  | some _ => (.error (.alreadyIssued identity), keys)
  | none =>
      let fingerprint := keys.mint identity keys.minted
      (.ok fingerprint, { keys with
        minted := keys.minted + 1
        active := keys.active.insert identity fingerprint
        previous := keys.previous.erase identity })

def rotate (keys : LocalKeys) (identity : String) : Except KeyError String × LocalKeys :=
  match keys.active.get? identity with
  | none => (.error (.noneToRotate identity), keys)
  | some old =>
      let fingerprint := keys.mint identity keys.minted
      (.ok fingerprint, { keys with
        minted := keys.minted + 1
        active := keys.active.insert identity fingerprint
        previous := keys.previous.insert identity old
        revoked := old :: keys.revoked })

/-- Only the valid key can be taken back, and only the key right before it is remembered. -/
def revert (keys : LocalKeys) (identity fingerprint : String) :
    Except KeyError Unit × LocalKeys :=
  if keys.isValid identity fingerprint then
    match keys.previous.get? identity with
    | some old => (.ok (), { keys with
        active := keys.active.insert identity old
        previous := keys.previous.erase identity
        revoked := fingerprint :: keys.revoked.filter (· != old) })
    | none => (.ok (), { keys with
        active := keys.active.erase identity
        revoked := fingerprint :: keys.revoked })
  else
    (.error (.notCurrent fingerprint identity), keys)

instance : KeyProvider LocalKeys where
  issue := issue
  rotate := rotate
  revert := revert
  issuesSlowly := false

end LocalKeys

end ReviewGate
