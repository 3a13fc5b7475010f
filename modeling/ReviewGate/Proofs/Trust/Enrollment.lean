import Mathlib.Data.List.Nodup
import ReviewGate.Proofs.Trust.Operation

/-!
# Registrations side by side

Any number of registrations can be on their way at once, and others can go on between any two steps
of one.  The table decides between them: who enters a record first has it, unless the ledger refuses
it, and everybody else gives back the key that has been issued.
-/

namespace ReviewGate

variable {R K : Type}

/-! ## Providers under observation -/

/-- What a provider has been made to do. -/
inductive KeyEvent where
  | issued (identity fingerprint : String)
  | reverted (identity fingerprint : String)
  deriving DecidableEq

/-- A provider with all keys that it has issued and all that it has been asked to take back. -/
structure Observed (K : Type) where
  keys : K
  /-- The call that is being served. -/
  caller : Nat
  /-- Newest first, each with the call that it happened in. -/
  events : List (Nat × KeyEvent)

namespace Observed

def note (observed : Observed K) (keys : K) (event : KeyEvent) : Observed K :=
  { observed with keys, events := (observed.caller, event) :: observed.events }

def issue [KeyProvider K] (observed : Observed K) (identity : String) :
    Except KeyError String × Observed K :=
  match KeyProvider.issue observed.keys identity with
  | (.ok fingerprint, keys) => (.ok fingerprint, observed.note keys (.issued identity fingerprint))
  | (.error cause, keys) => (.error cause, { observed with keys })

instance [KeyProvider K] : KeyProvider (Observed K) where
  issue := issue
  rotate observed identity :=
    let (answer, keys) := KeyProvider.rotate observed.keys identity
    (answer, { observed with keys })
  revert observed identity fingerprint :=
    let (answer, keys) := KeyProvider.revert observed.keys identity fingerprint
    (answer, observed.note keys (.reverted identity fingerprint))
  issuesSlowly := KeyProvider.issuesSlowly K

/-- What has happened in a call. -/
def eventsOf (observed : Observed K) (call : Nat) : List KeyEvent :=
  observed.events.filterMap fun (caller, event) => if caller = call then some event else none

/-- All fingerprints that have been issued. -/
def issued (observed : Observed K) : List String :=
  observed.events.filterMap fun
    | (_, .issued _ fingerprint) => some fingerprint
    | _ => none

/-- All fingerprints that have been given back. -/
def reverted (observed : Observed K) : List String :=
  observed.events.filterMap fun
    | (_, .reverted _ fingerprint) => some fingerprint
    | _ => none

theorem eventsOf_of_cons {observed later : Observed K} {call : Nat} {event : KeyEvent}
    (events : later.events = (call, event) :: observed.events) (other : Nat) :
    later.eventsOf other =
      if call = other then event :: observed.eventsOf other else observed.eventsOf other := by
  unfold eventsOf
  by_cases same : call = other <;> simp [events, same]

theorem mem_reverted {observed : Observed K} {call : Nat} {identity fingerprint : String}
    (happened : .reverted identity fingerprint ∈ observed.eventsOf call) :
    fingerprint ∈ observed.reverted := by
  obtain ⟨⟨caller, event⟩, membership, told⟩ := List.mem_filterMap.mp happened
  dsimp only at told
  split at told <;> cases told
  exact List.mem_filterMap.mpr ⟨_, membership, rfl⟩

section Answers

variable [KeyProvider K] {observed later : Observed K} {identity fingerprint : String}

theorem issue_eq_ok (granted : observed.issue identity = (.ok fingerprint, later)) :
    ∃ keys, later = observed.note keys (.issued identity fingerprint) := by
  unfold issue at granted
  split at granted <;> cases granted
  exact ⟨_, rfl⟩

theorem issue_eq_error {cause : KeyError}
    (refused : observed.issue identity = (.error cause, later)) :
    ∃ keys, later = { observed with keys } := by
  unfold issue at refused
  split at refused <;> cases refused
  exact ⟨_, rfl⟩

end Answers

end Observed

/-! ## One step of one registration -/

namespace Registration

variable [Scalar R] [KeyProvider K]

/-- What a step of a registration does. -/
inductive Step (now : Instant) (engine : Engine R K) :
    Registration R → Registration R → Engine R K → Prop where
  | reject {identity : String} {role : Role} {score : R} {cause : TrustError} :
      Step now engine (.submitted identity role score) (.finished (.error cause)) engine
  | allow {identity : String} {role : Role} {score : R} :
      Step now engine (.submitted identity role score) (.admitted identity role score) engine
  | unissued {identity : String} {role : Role} {score : R} {cause : KeyError} {keys : K}
      (refused : KeyProvider.issue engine.keys identity = (.error cause, keys)) :
      Step now engine (.admitted identity role score) (.finished (.error (.keys cause)))
        { engine with keys }
  | issue {identity : String} {role : Role} {score : R} {fingerprint : String} {keys : K}
      (granted : KeyProvider.issue engine.keys identity = (.ok fingerprint, keys)) :
      Step now engine (.admitted identity role score) (.keyed identity role score fingerprint)
        { engine with keys }
  | late {identity : String} {role : Role} {score : R} {fingerprint : String} :
      Step now engine (.keyed identity role score fingerprint)
        (.failing (.register identity role score fingerprint now) (.duplicateIdentity identity))
        engine
  | enter {identity : String} {role : Role} {score : R} {fingerprint : String}
      (absent : engine.record? identity = none) :
      Step now engine (.keyed identity role score fingerprint)
        (.enrolled (.register identity role score fingerprint now))
        (engine.put (.register identity role score fingerprint now))
  | finish {record : IdentityRecord R} :
      Step now engine (.enrolled record) (.finished (.ok record))
        { engine with ledger := engine.ledger.append [record.registrationEvent] }
  | leave {record : IdentityRecord R} {cause : TrustError} :
      Step now engine (.enrolled record) (.failing record cause) (engine.forget record.id)
  | giveBack {record : IdentityRecord R} {cause : TrustError} :
      Step now engine (.failing record cause) (.finished (.error cause))
        (engine.revertKey record.id record.keyFingerprint)

theorem step_of_step? {now : Instant} {engine later : Engine R K}
    {registration next : Registration R}
    (stepped : step? now engine registration = some (next, later)) :
    Step now engine registration next later := by
  cases registration with
  | submitted identity role score =>
      simp only [step?] at stepped
      split at stepped <;> cases stepped
      · exact .allow
      · exact .reject
  | admitted identity role score =>
      simp only [step?, Engine.issueKey] at stepped
      rcases answered : KeyProvider.issue engine.keys identity with ⟨cause | fingerprint, keys⟩ <;>
        rw [answered] at stepped <;> cases stepped
      · exact .unissued answered
      · exact .issue answered
  | keyed identity role score fingerprint =>
      simp only [step?] at stepped
      split at stepped <;> cases stepped
      · exact .late
      · rename_i free
        exact .enter (Table.has_eq_false_iff.mp (by simpa using free))
  | enrolled record =>
      simp only [step?] at stepped
      split at stepped
      · cases stepped
      · split at stepped <;> cases stepped
        · rename_i audited
          obtain ⟨-, rfl⟩ := Engine.audit_eq_ok_iff.mp audited
          exact .finish
        · exact .leave
  | failing record cause =>
      cases stepped
      exact .giveBack
  | finished result => cases stepped

end Registration

/-! ## Any number of calls -/

/-- A call that registers an identity. -/
structure Applicant (R : Type) where
  identity : String
  course : Registration R

/-- An engine and the calls that register identities in it. -/
structure Enrollment (R K : Type) where
  engine : Engine R (Observed K)
  calls : List (Applicant R)

namespace Enrollment

variable [Scalar R] [KeyProvider K]

/-- What can happen: somebody asks for a registration, perhaps at a score of his choice, a call goes
one step further, or the storage changes its mind about what it refuses. -/
inductive Act (R : Type) where
  | submit (identity : String) (role : Role) (score : Option R)
  | advance (call : Nat) (now : Instant)
  | refuse (refusal : Refusal)

omit [Scalar R] [KeyProvider K] in
/-- The engine when it is serving a call. -/
def serving (engine : Engine R (Observed K)) (call : Nat) : Engine R (Observed K) :=
  { engine with keys := { engine.keys with caller := call } }

/-- One act; a call that does not exist or cannot go on does nothing. -/
def step (enrollment : Enrollment R K) : Act R → Enrollment R K
  | .submit identity role score =>
      let course := .submitted identity role (score.getD enrollment.engine.config.initialScore)
      { enrollment with calls := enrollment.calls ++ [⟨identity, course⟩] }
  | .advance call now =>
      match enrollment.calls[call]? with
      | none => enrollment
      | some applicant =>
          match applicant.course.step? now (serving enrollment.engine call) with
          | none => enrollment
          | some (course, engine) =>
              { engine, calls := enrollment.calls.set call { applicant with course } }
  | .refuse refusal => { enrollment with engine := { enrollment.engine with refusal } }

def run (enrollment : Enrollment R K) (acts : List (Act R)) : Enrollment R K :=
  acts.foldl step enrollment

/-! ## Keys -/

omit [Scalar R] [KeyProvider K] in
/-- The key that a call has been issued and has not given back. -/
def keyOf? (applicant : Applicant R) : Option String :=
  match applicant.course with
  | .keyed _ _ _ fingerprint => some fingerprint
  | .enrolled record | .failing record _ | .finished (.ok record) => some record.keyFingerprint
  | .submitted .. | .admitted .. | .finished (.error _) => none

omit [Scalar R] [KeyProvider K] in
/-- What a call has made the provider do. -/
def Told (applicant : Applicant R) (events : List KeyEvent) : Prop :=
  match applicant.course with
  | .submitted identity _ _ | .admitted identity _ _ =>
      identity = applicant.identity ∧ events = []
  | .keyed identity _ _ fingerprint =>
      identity = applicant.identity ∧ events = [.issued applicant.identity fingerprint]
  | .enrolled record | .failing record _ | .finished (.ok record) =>
      record.id = applicant.identity ∧
        events = [.issued applicant.identity record.keyFingerprint]
  | .finished (.error _) =>
      events = [] ∨ ∃ fingerprint,
        events = [.reverted applicant.identity fingerprint, .issued applicant.identity fingerprint]

omit [Scalar R] [KeyProvider K] in
/-- The provider has been asked for at most one key in each call, and every key that it has issued
has been given back or belongs to one call. -/
structure Balanced (enrollment : Enrollment R K) : Prop where
  told : ∀ call applicant, enrollment.calls[call]? = some applicant →
    Told applicant (enrollment.engine.keys.eventsOf call)
  silent : ∀ call, enrollment.calls.length ≤ call → enrollment.engine.keys.eventsOf call = []
  keys : enrollment.engine.keys.issued.Perm
    (enrollment.engine.keys.reverted ++ enrollment.calls.filterMap keyOf?)

section Steps

variable {engine later : Engine R (Observed K)} {calls : List (Applicant R)} {call : Nat}
  {applicant : Applicant R} {next : Registration R} {now : Instant}

omit [Scalar R] [KeyProvider K] in
theorem Balanced.update (balanced : Balanced ⟨engine, calls⟩)
    (found : calls[call]? = some applicant)
    (elsewhere : ∀ other, other ≠ call → later.keys.eventsOf other = engine.keys.eventsOf other)
    (told : Told { applicant with course := next } (later.keys.eventsOf call))
    (keys : ∀ others,
      engine.keys.issued.Perm (engine.keys.reverted ++ ((keyOf? applicant).toList ++ others)) →
      later.keys.issued.Perm (later.keys.reverted ++
        ((keyOf? { applicant with course := next }).toList ++ others))) :
    Balanced ⟨later, calls.set call { applicant with course := next }⟩ := by
  have below := (List.getElem?_eq_some_iff.mp found).1
  constructor
  case told =>
    intro other present reached
    dsimp only at reached ⊢
    by_cases same : other = call
    · subst same
      rw [List.getElem?_set_self below] at reached
      cases reached
      exact told
    · rw [List.getElem?_set_ne (Ne.symm same)] at reached
      rw [elsewhere other same]
      exact balanced.told other present reached
  case silent =>
    intro other beyond
    dsimp only at beyond ⊢
    rw [List.length_set] at beyond
    rw [elsewhere other (by omega)]
    exact balanced.silent other beyond
  case keys =>
    obtain ⟨others, views⟩ := exists_rest_of_getElem? found { applicant with course := next }
    obtain ⟨first, second⟩ := views keyOf?
    have kept := balanced.keys.trans (first.append_left _)
    exact (keys _ kept).trans (second.symm.append_left _)

omit [Scalar R] [KeyProvider K] in
/-- A step that the provider does not notice. -/
theorem Balanced.quiet (balanced : Balanced ⟨engine, calls⟩)
    (found : calls[call]? = some applicant) (events : later.keys.events = engine.keys.events)
    (told : Told { applicant with course := next } (engine.keys.eventsOf call))
    (kept : keyOf? { applicant with course := next } = keyOf? applicant) :
    Balanced ⟨later, calls.set call { applicant with course := next }⟩ := by
  have same : ∀ other, later.keys.eventsOf other = engine.keys.eventsOf other := by
    intro other
    rw [Observed.eventsOf, Observed.eventsOf, events]
  refine balanced.update found (fun other _ => same other) (by rw [same]; exact told) ?_
  intro others before
  rw [kept, Observed.issued, Observed.reverted, events]
  exact before

omit [Scalar R] [KeyProvider K] in
/-- A step that makes the provider do something. -/
theorem Balanced.note (balanced : Balanced ⟨engine, calls⟩)
    (found : calls[call]? = some applicant) {event : KeyEvent}
    (events : later.keys.events = (call, event) :: engine.keys.events)
    (told : Told { applicant with course := next } (event :: engine.keys.eventsOf call))
    (keys : ∀ others,
      engine.keys.issued.Perm (engine.keys.reverted ++ ((keyOf? applicant).toList ++ others)) →
      later.keys.issued.Perm (later.keys.reverted ++
        ((keyOf? { applicant with course := next }).toList ++ others))) :
    Balanced ⟨later, calls.set call { applicant with course := next }⟩ := by
  have seen := Observed.eventsOf_of_cons events
  refine balanced.update found ?_ ?_ keys
  · intro other different
    rw [seen, if_neg (Ne.symm different)]
  · rw [seen, if_pos rfl]
    exact told

theorem Balanced.advance (balanced : Balanced ⟨engine, calls⟩)
    (found : calls[call]? = some applicant)
    (stepped : Registration.Step now (serving engine call) applicant.course next later) :
    Balanced ⟨later, calls.set call { applicant with course := next }⟩ := by
  have told : Told applicant (engine.keys.eventsOf call) := balanced.told call applicant found
  obtain ⟨identity, course⟩ := applicant
  dsimp only at stepped
  cases stepped with
  | reject => exact balanced.quiet found rfl (.inl told.2) rfl
  | allow => exact balanced.quiet found rfl told rfl
  | unissued refused =>
      obtain ⟨keys, rfl⟩ := Observed.issue_eq_error refused
      exact balanced.quiet found rfl (.inl told.2) rfl
  | @issue asked role score fingerprint keys granted =>
      obtain ⟨rfl, nothing⟩ := told
      obtain ⟨keys, rfl⟩ := Observed.issue_eq_ok granted
      refine balanced.note found rfl ⟨rfl, congrArg (_ :: ·) nothing⟩ ?_
      intro others before
      exact (before.cons fingerprint).trans List.perm_middle.symm
  | late => exact balanced.quiet found rfl told rfl
  | enter absent => exact balanced.quiet found rfl told rfl
  | finish => exact balanced.quiet found rfl told rfl
  | leave => exact balanced.quiet found rfl told rfl
  | @giveBack record cause =>
      obtain ⟨rfl, once⟩ := told
      refine balanced.note found rfl (.inr ⟨_, congrArg (_ :: ·) once⟩) ?_
      intro others before
      exact before.trans List.perm_middle

end Steps

/-! ## The record of one identity -/

omit [Scalar R] [KeyProvider K] in
/-- The record of an identity that a call has entered into the table and not taken out. -/
def entryOf? (identity : String) (applicant : Applicant R) : Option (IdentityRecord R) :=
  match applicant.course with
  | .enrolled record | .finished (.ok record) => if record.id = identity then some record else none
  | _ => none

omit [Scalar R] [KeyProvider K] in
/-- The record of an identity that a call has written down and returned. -/
def resultOf? (identity : String) (applicant : Applicant R) : Option (IdentityRecord R) :=
  match applicant.course with
  | .finished (.ok record) => if record.id = identity then some record else none
  | _ => none

section Views

omit [Scalar R] [KeyProvider K]

variable {identity owner : String} {record : IdentityRecord R}

theorem entryOf?_enrolled : entryOf? identity ⟨owner, .enrolled record⟩ =
    if record.id = identity then some record else none := rfl

theorem resultOf?_finished : resultOf? identity ⟨owner, .finished (.ok record)⟩ =
    if record.id = identity then some record else none := rfl

theorem entryOf?_of_resultOf? {applicant : Applicant R}
    (result : resultOf? identity applicant = some record) :
    entryOf? identity applicant = some record := by
  unfold resultOf? at result
  split at result
  · rename_i finished
    rw [entryOf?, finished]
    exact result
  · cases result

end Views

/-- The table has the record of the one call that has entered one, and the ledger has been told of
those that have been returned. -/
structure Decided (identity : String) (enrollment : Enrollment R K) : Prop where
  entries : (enrollment.calls.filterMap (entryOf? identity)).Perm
    (enrollment.engine.record? identity).toList
  results : (LedgerRecord.about identity .identityRegistered
      enrollment.engine.ledger.records).Perm
    ((enrollment.calls.filterMap (resultOf? identity)).map (·.registrationEvent))

section Steps

variable {identity : String} {engine later : Engine R (Observed K)} {calls : List (Applicant R)}
  {call : Nat} {applicant : Applicant R} {next : Registration R} {now : Instant}

omit [KeyProvider K] in
theorem Decided.update (decided : Decided identity ⟨engine, calls⟩)
    (found : calls[call]? = some applicant)
    (advances : ∀ others : List (Applicant R),
      ((entryOf? identity applicant).toList ++ others.filterMap (entryOf? identity)).Perm
        (engine.record? identity).toList →
      (LedgerRecord.about identity .identityRegistered engine.ledger.records).Perm
        (((resultOf? identity applicant).toList ++
          others.filterMap (resultOf? identity)).map (·.registrationEvent)) →
      ((entryOf? identity { applicant with course := next }).toList ++
        others.filterMap (entryOf? identity)).Perm (later.record? identity).toList ∧
      (LedgerRecord.about identity .identityRegistered later.ledger.records).Perm
        (((resultOf? identity { applicant with course := next }).toList ++
          others.filterMap (resultOf? identity)).map (·.registrationEvent))) :
    Decided identity ⟨later, calls.set call { applicant with course := next }⟩ := by
  obtain ⟨others, views⟩ := exists_rest_of_getElem? found { applicant with course := next }
  obtain ⟨firstEntries, secondEntries⟩ := views (entryOf? identity)
  obtain ⟨firstResults, secondResults⟩ := views (resultOf? identity)
  obtain ⟨entries, results⟩ := advances others (firstEntries.symm.trans decided.entries)
    (decided.results.trans (firstResults.map _))
  exact ⟨secondEntries.trans entries, results.trans (secondResults.symm.map _)⟩

omit [KeyProvider K] in
/-- A step that has to do with no entry. -/
theorem Decided.quiet (decided : Decided identity ⟨engine, calls⟩)
    (found : calls[call]? = some applicant)
    (record : later.record? identity = engine.record? identity)
    (ledger : later.ledger = engine.ledger)
    (entry : entryOf? identity { applicant with course := next } = entryOf? identity applicant)
    (result : resultOf? identity { applicant with course := next } =
      resultOf? identity applicant) :
    Decided identity ⟨later, calls.set call { applicant with course := next }⟩ := by
  refine decided.update found ?_
  intro others entries results
  rw [entry, result, record, ledger]
  exact ⟨entries, results⟩

omit [Scalar R] [KeyProvider K] in
/-- Beside the one entry of the table there is no other. -/
theorem entries_eq_nil {record : IdentityRecord R} {entries : List (IdentityRecord R)}
    {stored : Option (IdentityRecord R)}
    (same : ([record] ++ entries).Perm stored.toList) : entries = [] := by
  have lengths := same.length_eq
  refine List.eq_nil_of_length_eq_zero ?_
  cases stored <;> simp at lengths
  exact congrArg List.length lengths

omit [Scalar R] [KeyProvider K] in
theorem results_eq_nil {others : List (Applicant R)}
    (nobody : others.filterMap (entryOf? identity) = []) :
    others.filterMap (resultOf? identity) = [] := by
  rw [List.filterMap_eq_nil_iff] at nobody ⊢
  intro other membership
  cases result : resultOf? identity other with
  | none => rfl
  | some record =>
      have entry := nobody other membership
      rw [entryOf?_of_resultOf? result] at entry
      cases entry

omit [KeyProvider K] in
theorem about_registrationEvent (record : IdentityRecord R) :
    LedgerRecord.about identity .identityRegistered [record.registrationEvent] =
      if record.id = identity then [record.registrationEvent] else [] := by
  by_cases same : record.id = identity <;>
    simp [LedgerRecord.about, LedgerRecord.ofType, IdentityRecord.registrationEvent, same]

omit [KeyProvider K] in
/-- A record is entered where the table has none. -/
theorem Decided.enter {owner asked fingerprint : String} {role : Role} {score : R}
    (decided : Decided identity ⟨engine, calls⟩)
    (found : calls[call]? = some ⟨owner, .keyed asked role score fingerprint⟩)
    (absent : engine.record? asked = none) :
    Decided identity ⟨(serving engine call).put (.register asked role score fingerprint now),
      calls.set call ⟨owner, .enrolled (.register asked role score fingerprint now)⟩⟩ := by
  have stored := (serving engine call).record?_put
    (.register asked role score fingerprint now) identity
  by_cases about : asked = identity
  · subst about
    refine decided.update found ?_
    intro others entries results
    rw [absent] at entries
    have nobody : others.filterMap (entryOf? asked) = [] := entries.eq_nil
    refine ⟨?_, results⟩
    have owned : (IdentityRecord.register asked role score fingerprint now).id = asked := rfl
    rw [stored, if_pos owned, nobody, entryOf?_enrolled, if_pos owned]
    exact .refl _
  · refine decided.quiet found ?_ rfl (if_neg about) rfl
    rw [stored]
    exact if_neg about

omit [KeyProvider K] in
/-- A record that is in the table is written down. -/
theorem Decided.finish {owner : String} {record : IdentityRecord R}
    (decided : Decided identity ⟨engine, calls⟩)
    (found : calls[call]? = some ⟨owner, .enrolled record⟩) :
    Decided identity
      ⟨{ serving engine call with ledger := engine.ledger.append [record.registrationEvent] },
        calls.set call ⟨owner, .finished (.ok record)⟩⟩ := by
  refine decided.update found ?_
  intro others entries results
  refine ⟨entries, ?_⟩
  rw [Ledger.records_append, LedgerRecord.about_append, about_registrationEvent]
  by_cases about : record.id = identity
  · rw [entryOf?_enrolled, if_pos about] at entries
    have nobody := results_eq_nil (entries_eq_nil entries)
    have nothing : LedgerRecord.about identity .identityRegistered engine.ledger.records = [] := by
      rw [nobody] at results
      exact results.eq_nil
    rw [nobody, nothing, if_pos about, resultOf?_finished, if_pos about]
    exact .refl _
  · rw [if_neg about, List.append_nil, resultOf?_finished, if_neg about]
    exact results

omit [KeyProvider K] in
/-- A record that cannot be written down is taken out of the table. -/
theorem Decided.leave {owner : String} {record : IdentityRecord R} {cause : TrustError}
    (decided : Decided identity ⟨engine, calls⟩)
    (found : calls[call]? = some ⟨owner, .enrolled record⟩) :
    Decided identity ⟨(serving engine call).forget record.id,
      calls.set call ⟨owner, .failing record cause⟩⟩ := by
  by_cases about : record.id = identity
  · refine decided.update found ?_
    intro others entries results
    rw [entryOf?_enrolled, if_pos about] at entries
    have nobody := entries_eq_nil entries
    have missing : ((serving engine call).forget record.id).record? identity = none := by
      rw [about]
      exact Table.get?_erase_self identity engine.identities
    refine ⟨?_, results⟩
    rw [nobody, missing]
    exact .refl _
  · refine decided.quiet found ?_ rfl (if_neg about).symm rfl
    exact Table.get?_erase_of_ne (Ne.symm about) engine.identities

theorem Decided.advance (decided : Decided identity ⟨engine, calls⟩)
    (found : calls[call]? = some applicant)
    (stepped : Registration.Step now (serving engine call) applicant.course next later) :
    Decided identity ⟨later, calls.set call { applicant with course := next }⟩ := by
  obtain ⟨owner, course⟩ := applicant
  dsimp only at stepped
  cases stepped with
  | reject => exact decided.quiet found rfl rfl rfl rfl
  | allow => exact decided.quiet found rfl rfl rfl rfl
  | unissued => exact decided.quiet found rfl rfl rfl rfl
  | issue => exact decided.quiet found rfl rfl rfl rfl
  | late => exact decided.quiet found rfl rfl rfl rfl
  | enter absent => exact decided.enter found absent
  | finish => exact decided.finish found
  | leave => exact decided.leave found
  | giveBack => exact decided.quiet found rfl rfl rfl rfl

end Steps

/-! ## Runs -/

omit [KeyProvider K] in
/-- Nobody has asked for a registration yet. -/
def start (engine : Engine R K) : Enrollment R K where
  engine := { engine with keys := ⟨engine.keys, 0, []⟩ }
  calls := []

/-- All keys and all records of one identity are accounted for. -/
structure Accounted (identity : String) (enrollment : Enrollment R K) : Prop where
  balanced : enrollment.Balanced
  decided : enrollment.Decided identity

omit [Scalar R] [KeyProvider K] in
theorem Balanced.submit {enrollment : Enrollment R K} (balanced : enrollment.Balanced)
    (identity : String) (role : Role) (score : R) :
    Balanced { enrollment with
      calls := enrollment.calls ++ [⟨identity, .submitted identity role score⟩] } := by
  constructor
  case told =>
    intro call applicant reached
    dsimp only at reached ⊢
    rcases Nat.lt_trichotomy call enrollment.calls.length with earlier | rfl | beyond
    · rw [List.getElem?_append_left earlier] at reached
      exact balanced.told call applicant reached
    · rw [List.getElem?_concat_length] at reached
      cases reached
      exact ⟨rfl, balanced.silent _ (Nat.le_refl _)⟩
    · rw [List.getElem?_eq_none (by simp; omega)] at reached
      cases reached
  case silent =>
    intro call beyond
    refine balanced.silent call ?_
    simp only [List.length_append, List.length_singleton] at beyond
    omega
  case keys =>
    dsimp only
    rw [List.filterMap_append, List.filterMap_cons_none rfl, List.filterMap_nil, List.append_nil]
    exact balanced.keys

omit [KeyProvider K] in
theorem Decided.submit {asked : String} {enrollment : Enrollment R K}
    (decided : enrollment.Decided asked) (identity : String) (role : Role) (score : R) :
    Decided asked { enrollment with
      calls := enrollment.calls ++ [⟨identity, .submitted identity role score⟩] } := by
  constructor
  · dsimp only
    rw [List.filterMap_append, List.filterMap_cons_none rfl, List.filterMap_nil, List.append_nil]
    exact decided.entries
  · dsimp only
    rw [List.filterMap_append, List.filterMap_cons_none rfl, List.filterMap_nil, List.append_nil]
    exact decided.results

theorem Accounted.step {identity : String} {enrollment : Enrollment R K}
    (accounted : enrollment.Accounted identity) (act : Act R) :
    (enrollment.step act).Accounted identity := by
  obtain ⟨balanced, decided⟩ := accounted
  cases act with
  | submit asked role score => exact ⟨balanced.submit _ _ _, decided.submit _ _ _⟩
  | refuse refusal =>
      exact ⟨⟨balanced.told, balanced.silent, balanced.keys⟩, ⟨decided.entries, decided.results⟩⟩
  | advance call now =>
      rw [Enrollment.step]
      split
      · exact ⟨balanced, decided⟩
      · rename_i applicant found
        split
        · exact ⟨balanced, decided⟩
        · rename_i course engine stepped
          have taken := Registration.step_of_step? stepped
          exact ⟨balanced.advance found taken, decided.advance found taken⟩

theorem Accounted.run {identity : String} {enrollment : Enrollment R K}
    (accounted : enrollment.Accounted identity) (acts : List (Act R)) :
    (enrollment.run acts).Accounted identity := by
  induction acts generalizing enrollment with
  | nil => exact accounted
  | cons act rest inductionHypothesis => exact inductionHypothesis (accounted.step act)

omit [KeyProvider K] in
theorem accounted_start {engine : Engine R K} {identity : String}
    (absent : engine.record? identity = none)
    (unwritten : LedgerRecord.about identity .identityRegistered engine.ledger.records = []) :
    (start engine).Accounted identity := by
  refine ⟨⟨?_, fun _ _ => rfl, .refl _⟩, ?_, ?_⟩
  · intro call applicant reached
    cases reached
  · have missing : (start engine).engine.record? identity = none := absent
    rw [missing]
    exact .refl _
  · have nothing : LedgerRecord.about identity .identityRegistered
        (start engine).engine.ledger.records = [] := unwritten
    rw [nothing]
    exact .refl _

/-- What becomes of an identity that several calls register, and of the keys issued to them. -/
structure Settled (identity : String) (enrollment : Enrollment R K) : Prop where
  /-- At most one call succeeds. -/
  once : ∀ (first second : Nat) (record other : IdentityRecord R),
    enrollment.calls[first]? = some ⟨identity, .finished (.ok record)⟩ →
    enrollment.calls[second]? = some ⟨identity, .finished (.ok other)⟩ → first = second
  /-- The table holds its record, and the ledger tells of it once. -/
  present : ∀ (call : Nat) (record : IdentityRecord R),
    enrollment.calls[call]? = some ⟨identity, .finished (.ok record)⟩ →
    enrollment.engine.record? identity = some record ∧
    LedgerRecord.about identity .identityRegistered enrollment.engine.ledger.records =
      [record.registrationEvent]
  /-- Where all have failed, neither tells of the identity. -/
  absent : (∀ applicant ∈ enrollment.calls, applicant.identity = identity →
      ∃ cause, applicant.course = .finished (.error cause)) →
    enrollment.engine.record? identity = none ∧
    LedgerRecord.about identity .identityRegistered enrollment.engine.ledger.records = []
  /-- A key that was issued to a call that has failed has been given back once. -/
  lost : ∀ (call : Nat) (cause : TrustError),
    enrollment.calls[call]? = some ⟨identity, .finished (.error cause)⟩ →
    ∀ fingerprint, .issued identity fingerprint ∈ enrollment.engine.keys.eventsOf call →
      enrollment.engine.keys.reverted.count fingerprint = 1
  /-- The key of the call that succeeds has not. -/
  kept : ∀ (call : Nat) (record : IdentityRecord R),
    enrollment.calls[call]? = some ⟨identity, .finished (.ok record)⟩ →
    .issued identity record.keyFingerprint ∈ enrollment.engine.keys.eventsOf call ∧
    enrollment.engine.keys.reverted.count record.keyFingerprint = 0

section Settled

variable {identity : String} {enrollment : Enrollment R K}

omit [KeyProvider K] in
theorem Decided.entries_eq (decided : enrollment.Decided identity) {record : IdentityRecord R}
    (entry : record ∈ enrollment.calls.filterMap (entryOf? identity)) :
    enrollment.calls.filterMap (entryOf? identity) = [record] ∧
      enrollment.engine.record? identity = some record := by
  have entries := decided.entries
  have stored := Option.mem_toList.mp (entries.mem_iff.mp entry)
  rw [Option.mem_def.mp stored] at entries
  exact ⟨entries.eq_singleton, stored⟩

omit [Scalar R] [KeyProvider K] in
theorem results_sublist (identity : String) (calls : List (Applicant R)) :
    (calls.filterMap (resultOf? identity)).Sublist (calls.filterMap (entryOf? identity)) := by
  induction calls with
  | nil => exact .slnil
  | cons applicant rest inductionHypothesis =>
      cases result : resultOf? identity applicant with
      | some record =>
          rw [List.filterMap_cons_some result,
            List.filterMap_cons_some (entryOf?_of_resultOf? result)]
          exact inductionHypothesis.cons_cons record
      | none =>
          rw [List.filterMap_cons_none result]
          cases entry : entryOf? identity applicant with
          | none => rwa [List.filterMap_cons_none entry]
          | some record =>
              rw [List.filterMap_cons_some entry]
              exact inductionHypothesis.cons record

omit [KeyProvider K] in
/-- The call that has succeeded has the only entry. -/
theorem Accounted.won (accounted : enrollment.Accounted identity) {record : IdentityRecord R}
    {call : Nat} (won : enrollment.calls[call]? = some ⟨identity, .finished (.ok record)⟩) :
    enrollment.calls.filterMap (resultOf? identity) = [record] ∧
      enrollment.engine.record? identity = some record := by
  have owned := (accounted.balanced.told call _ won).1
  have result : resultOf? identity ⟨identity, .finished (.ok record)⟩ = some record := if_pos owned
  have finished : record ∈ enrollment.calls.filterMap (resultOf? identity) :=
    List.mem_filterMap.mpr ⟨_, List.mem_of_getElem? won, result⟩
  have part := results_sublist identity enrollment.calls
  obtain ⟨alone, stored⟩ := accounted.decided.entries_eq (part.subset finished)
  rw [alone] at part
  rcases List.sublist_singleton.mp part with nothing | same
  · rw [nothing] at finished
    cases finished
  · exact ⟨same, stored⟩

omit [KeyProvider K] in
/-- Where all have failed there is no entry. -/
theorem Accounted.lost (accounted : enrollment.Accounted identity)
    (failed : ∀ applicant ∈ enrollment.calls, applicant.identity = identity →
      ∃ cause, applicant.course = .finished (.error cause)) :
    enrollment.calls.filterMap (entryOf? identity) = [] := by
  rw [List.filterMap_eq_nil_iff]
  intro applicant membership
  obtain ⟨call, reached⟩ := List.mem_iff_getElem?.mp membership
  have told := accounted.balanced.told call applicant reached
  have failed := failed applicant membership
  obtain ⟨owner, course⟩ := applicant
  dsimp only at failed
  unfold entryOf?
  split
  · rename_i record entered
    subst entered
    refine if_neg ?_
    rintro about
    obtain ⟨cause, ended⟩ := failed (told.1.symm.trans about)
    cases ended
  · rename_i record entered
    subst entered
    refine if_neg ?_
    rintro about
    obtain ⟨cause, ended⟩ := failed (told.1.symm.trans about)
    cases ended
  · rfl

omit [KeyProvider K] in
theorem Accounted.settled (accounted : enrollment.Accounted identity)
    (distinct : enrollment.engine.keys.issued.Nodup) : enrollment.Settled identity := by
  have results := accounted.decided.results
  have keys := accounted.balanced.keys.nodup_iff.mp distinct
  constructor
  case once =>
    intro first second record other firstWon secondWon
    have firstOwned := (accounted.balanced.told first _ firstWon).1
    have secondOwned := (accounted.balanced.told second _ secondWon).1
    obtain ⟨alone, stored⟩ := accounted.won firstWon
    have same := stored.symm.trans (accounted.won secondWon).2
    cases same
    exact eq_of_nodup_filterMap (by rw [alone]; exact List.nodup_singleton record) firstWon
      secondWon (if_pos firstOwned) (if_pos secondOwned)
  case present =>
    intro call record won
    obtain ⟨alone, stored⟩ := accounted.won won
    rw [alone] at results
    exact ⟨stored, results.eq_singleton⟩
  case absent =>
    intro failed
    have nobody := accounted.lost failed
    have entries := accounted.decided.entries
    rw [nobody] at entries
    rw [results_eq_nil nobody] at results
    refine ⟨?_, results.eq_nil⟩
    cases stored : enrollment.engine.record? identity with
    | none => rfl
    | some record =>
        rw [stored] at entries
        exact absurd entries.nil_eq (by simp)
  case lost =>
    intro call cause failed fingerprint happened
    rcases accounted.balanced.told call _ failed with nothing | ⟨given, both⟩
    · rw [nothing] at happened
      cases happened
    · dsimp only at both
      have same : fingerprint = given := by
        rw [both] at happened
        simpa using happened
      subst same
      have given : .reverted identity fingerprint ∈
          enrollment.engine.keys.eventsOf call := by
        rw [both]
        simp
      have back := Observed.mem_reverted given
      exact List.count_eq_one_of_mem (List.nodup_append.mp keys).1 back
  case kept =>
    intro call record won
    have told := (accounted.balanced.told call _ won).2
    dsimp only at told
    refine ⟨by rw [told]; exact List.mem_singleton_self _, ?_⟩
    rw [List.count_eq_zero]
    intro back
    have held : record.keyFingerprint ∈ enrollment.calls.filterMap keyOf? :=
      List.mem_filterMap.mpr ⟨_, List.mem_of_getElem? won, rfl⟩
    exact (List.nodup_append.mp keys).2.2 _ back _ held rfl

end Settled

/-- In whatever order any number of registrations of a new identity take their steps, and whatever
the provider and the ledger refuse: at most one succeeds, and table, ledger and keys are those of
that one alone. -/
theorem settled_of_run {engine : Engine R K} {identity : String}
    (absent : engine.record? identity = none)
    (unwritten : LedgerRecord.about identity .identityRegistered engine.ledger.records = [])
    (acts : List (Act R))
    (distinct : ((start engine).run acts).engine.keys.issued.Nodup) :
    ((start engine).run acts).Settled identity :=
  ((accounted_start absent unwritten).run acts).settled distinct

end Enrollment

/-! ## A race -/

/-- A provider that hands out running numbers, to whomever they are for. -/
structure Counter where
  next : Nat

instance : KeyProvider Counter where
  issue counter _ := (.ok (toString counter.next), ⟨counter.next + 1⟩)
  rotate counter _ := (.ok (toString counter.next), ⟨counter.next + 1⟩)
  revert counter _ _ := (.ok (), counter)
  issuesSlowly := true

namespace Enrollment

/-- Three calls for one identity.  All of them get a key; the first enters its record, so the second
is late; the ledger refuses the record of the first, and the third enters its own. -/
def race : List (Act Float) :=
  [.submit "ann" .judge none, .submit "ann" .judge (some 0.9), .submit "ann" .judge (some 0.7)] ++
    [0, 1, 2, 0, 1, 2, 0, 1].map (Act.advance · Small.now) ++
    [.refuse fun _ => some (.unavailable "disk full"), .advance 0 Small.now,
      .refuse fun _ => none] ++
    [2, 2, 0, 1].map (Act.advance · Small.now)

/-- An engine over running numbers. -/
def counted : Engine Float Counter := ⟨.default, [], [], [], fun _ => none, ⟨0⟩, []⟩

theorem settled_race :
    ((start counted).run race).engine.keys.issued = ["2", "1", "0"] ∧
    ((start counted).run race).engine.keys.reverted = ["1", "0"] ∧
    ((start counted).run race).calls.map (fun call => call.course.result?.map Except.isOk) =
      [some false, some false, some true] ∧
    ((start counted).run race).Settled "ann" := by
  have issued : ((start counted).run race).engine.keys.issued = ["2", "1", "0"] := by
    decide +kernel
  refine ⟨issued, by decide +kernel, by decide +kernel, ?_⟩
  exact settled_of_run rfl rfl race (by rw [issued]; decide)

end Enrollment

end ReviewGate
