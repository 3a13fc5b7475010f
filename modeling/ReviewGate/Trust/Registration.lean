import ReviewGate.Text.Blank
import ReviewGate.Trust.Engine

/-!
# Registration

A registration is admitted, gets a key, is entered into the table and then written into the ledger.
Between these steps others may go on.  Where the table already has the identity, or the ledger
refuses, the key is given back.
-/

namespace ReviewGate

/-- How far a registration has come. -/
inductive Registration (R : Type) where
  | submitted (identity : String) (role : Role) (score : R)
  /-- All checks are passed. -/
  | admitted (identity : String) (role : Role) (score : R)
  /-- There is a key. -/
  | keyed (identity : String) (role : Role) (score : R) (fingerprint : String)
  /-- The table has the record. -/
  | enrolled (record : IdentityRecord R)
  /-- It has failed, and the key is still to be given back. -/
  | failing (record : IdentityRecord R) (cause : TrustError)
  | finished (result : Except TrustError (IdentityRecord R))

variable {R K : Type} [Scalar R] [KeyProvider K]

namespace IdentityRecord

/-- The event that is written when the identity is registered. -/
def registrationEvent (record : IdentityRecord R) : LedgerRecord where
  identity := record.id
  eventType := .identityRegistered
  payload := Json.ofFields [("role", Named.toJson record.role),
    ("trust_score", Scalar.toJson record.trustScore),
    ("key_fingerprint", .string record.keyFingerprint)]
  timestamp := record.createdAt

end IdentityRecord

namespace Engine

/-- Whether an identity may be registered at a score. -/
def requireAdmissible (engine : Engine R K) (identity : String) (score : R) :
    Except TrustError Unit := do
  require (¬ Text.isBlankText identity) .blankIdentity
  requireUnit "initial score" score
  if engine.identities.has identity then throw (.duplicateIdentity identity)

omit [Scalar R] in
def issueKey (engine : Engine R K) (identity : String) :
    Except KeyError String × Engine R K :=
  let (answer, keys) := KeyProvider.issue engine.keys identity
  (answer, { engine with keys })

omit [Scalar R] in
/-- Gives a key back; a refusal of that is ignored. -/
def revertKey (engine : Engine R K) (identity fingerprint : String) : Engine R K :=
  { engine with keys := (KeyProvider.revert engine.keys identity fingerprint).2 }

end Engine

namespace Registration

/-- The next step, unless there is none or the record is held. -/
def step? (now : Instant) (engine : Engine R K) :
    Registration R → Option (Registration R × Engine R K)
  | .submitted identity role score =>
      match engine.requireAdmissible identity score with
      | .ok () => some (.admitted identity role score, engine)
      | .error cause => some (.finished (.error cause), engine)
  | .admitted identity role score =>
      match engine.issueKey identity with
      | (.ok fingerprint, engine) => some (.keyed identity role score fingerprint, engine)
      | (.error cause, engine) => some (.finished (.error (.keys cause)), engine)
  | .keyed identity role score fingerprint =>
      let record := IdentityRecord.register identity role score fingerprint now
      if engine.identities.has identity then
        some (.failing record (.duplicateIdentity identity), engine)
      else some (.enrolled record, engine.put record)
  | .enrolled record =>
      if engine.isHeld record.id then none
      else
        match engine.audit record.registrationEvent with
        | .ok engine => some (.finished (.ok record), engine)
        | .error cause => some (.failing record cause, engine.forget record.id)
  | .failing record cause =>
      some (.finished (.error cause), engine.revertKey record.id record.keyFingerprint)
  | .finished _ => none

omit [Scalar R] in
/-- So many steps may still follow. -/
def rank : Registration R → Nat
  | .submitted .. => 5
  | .admitted .. => 4
  | .keyed .. => 3
  | .enrolled .. => 2
  | .failing .. => 1
  | .finished .. => 0

theorem rank_lt_of_step? {now : Instant} {engine later : Engine R K}
    {registration next : Registration R}
    (stepped : step? now engine registration = some (next, later)) :
    next.rank < registration.rank := by
  cases registration <;> simp only [step?] at stepped <;> grind [rank]

/-- Goes on until no step is left, or until a test says to stop. -/
def run (now : Instant) (pausesAt : Registration R → Bool) (engine : Engine R K)
    (registration : Registration R) : Registration R × Engine R K :=
  if pausesAt registration then (registration, engine)
  else
    match _stepped : step? now engine registration with
    | none => (registration, engine)
    | some (next, engine) => run now pausesAt engine next
termination_by registration.rank
decreasing_by exact rank_lt_of_step? _stepped

omit [Scalar R] in
/-- The result of a registration, once there is one. -/
def result? : Registration R → Option (Except TrustError (IdentityRecord R))
  | .finished result => some result
  | _ => none

omit [Scalar R] in
def isKeyed : Registration R → Bool
  | .keyed .. => true
  | _ => false

/-- Runs registrations one after the other. -/
def runAll (now : Instant) (pausesAt : Registration R → Bool) (engine : Engine R K) :
    List (Registration R) → List (Registration R) × Engine R K
  | [] => ([], engine)
  | registration :: rest =>
      let (registration, engine) := run now pausesAt engine registration
      let (rest, engine) := runAll now pausesAt engine rest
      (registration :: rest, engine)

/-- Runs registrations side by side: where keys are issued slowly, all of them ask for a key before
the first one goes on. -/
def runTogether (now : Instant) (engine : Engine R K) (registrations : List (Registration R)) :
    List (Registration R) × Engine R K :=
  let (registrations, engine) :=
    runAll now (fun registration => KeyProvider.issuesSlowly K && registration.isKeyed) engine
      registrations
  runAll now (fun _ => false) engine registrations

end Registration

/-- Registers an identity without a pause. -/
def Engine.register (now : Instant) (engine : Engine R K) (identity : String) (role : Role)
    (score : R) : Registration R × Engine R K :=
  Registration.run now (fun _ => false) engine (.submitted identity role score)

end ReviewGate
