import Mathlib.Logic.Function.Basic
import ReviewGate.Proofs.Gate.Progress

/-!
# Scores and their updates

In the ledger the updates of one score form a chain from the registered score.  Where a commit is
between its writing and its taking effect, the chain is ahead of the record by that one update.
-/

namespace ReviewGate

namespace LedgerRecord

/-- Updates that lead from one score to another: each starts from what the one before has left. -/
def Leads (first : Float) : List LedgerRecord → Float → Prop
  | [], last => first = last
  | record :: rest, last =>
      record.payload.field? "old_score" = some (.float first) ∧
        ∃ next, record.payload.field? "new_score" = some (.float next) ∧ Leads next rest last

theorem Leads.append {first middle last : Float} {earlier later : List LedgerRecord}
    (leads : Leads first earlier middle) (continues : Leads middle later last) :
    Leads first (earlier ++ later) last := by
  induction earlier generalizing first with
  | nil =>
      have same : first = middle := leads
      rw [same]
      exact continues
  | cons record rest inductionHypothesis =>
      obtain ⟨old, next, new, left⟩ := leads
      exact ⟨old, next, new, inductionHypothesis left⟩

theorem leads_event (update : ScoreUpdate Float) :
    Leads update.oldScore [update.event] update.newScore := by
  refine ⟨?_, update.newScore, ?_, rfl⟩
  · simp [ScoreUpdate.event, ScoreUpdate.toJson, Json.field?_ofFields, Scalar.toJson,
      Scalar.toFloat]
  · simp [ScoreUpdate.event, ScoreUpdate.toJson, Json.field?_ofFields, Scalar.toJson,
      Scalar.toFloat]

/-- The identity is registered once, at a score. -/
def Registers (identity : String) (score : Float) (records : List LedgerRecord) : Prop :=
  ∃ registration, about identity .identityRegistered records = [registration] ∧
    registration.payload.field? "trust_score" = some (.float score)

end LedgerRecord

open LedgerRecord

/-- A batch whose only score event is that of its update. -/
structure PreparedCommit.Plain (prepared : PreparedCommit Float) : Prop where
  updates : ofType .trustUpdated prepared.records = (prepared.update.map (·.event)).toList
  registrations : ofType .identityRegistered prepared.records = []

variable {K : Type}

/-- A record agrees with the last score of its chain, but for a commit that has been written only. -/
def IdentityRecord.Tallies (record : IdentityRecord Float) (phases : Nat → Phase)
    (identity : String) (last : Float) : Prop :=
  (∀ index prepared, phases index = .settling prepared → prepared.identity = identity →
    last = (Engine.settledRecord record prepared).trustScore) ∧
  ((∀ index prepared, phases index = .settling prepared → prepared.identity ≠ identity) →
    last = record.trustScore)

/-- The same commits on an identity are written only. -/
theorem IdentityRecord.Tallies.of_same {record : IdentityRecord Float} {phases later : Nat → Phase}
    {identity : String} {last : Float} (tallies : record.Tallies phases identity last)
    (same : ∀ index prepared, prepared.identity = identity →
      (later index = .settling prepared ↔ phases index = .settling prepared)) :
    record.Tallies later identity last := by
  obtain ⟨ahead, even⟩ := tallies
  constructor
  · intro index prepared settling about
    exact ahead index prepared ((same index prepared about).mp settling) about
  · intro none
    apply even
    intro index prepared settling about
    exact none index prepared ((same index prepared about).mpr settling) about

namespace Engine

/-- The engine fits the commits that are in progress on it. -/
structure Consistent (engine : Engine Float K) (phases : Nat → Phase) : Prop where
  keyed : engine.Keyed
  holds : ∀ index identity, (phases index).held? = some identity → identity ∈ engine.held
  apart : ∀ first second identity, (phases first).held? = some identity →
    (phases second).held? = some identity → first = second
  writing : ∀ index prepared, phases index = .writing prepared →
    ∃ record, engine.record? prepared.identity = some record ∧
      ∀ update, prepared.update = some update →
        update.identity = prepared.identity ∧ update.oldScore = record.trustScore
  settling : ∀ index prepared, phases index = .settling prepared →
    ∃ record, engine.record? prepared.identity = some record
  unknown : ∀ identity, engine.record? identity = none →
    about identity .identityRegistered engine.ledger.records = [] ∧
      about identity .trustUpdated engine.ledger.records = []
  known : ∀ identity record, engine.record? identity = some record →
    ∃ first last, Registers identity first engine.ledger.records ∧
      Leads first (about identity .trustUpdated engine.ledger.records) last ∧
      record.Tallies phases identity last

namespace Consistent

variable {engine : Engine Float K} {phases : Nat → Phase} {index : Nat}

open Function

theorem not_held_of_free (consistent : engine.Consistent phases) {identity : String}
    (free : engine.isHeld identity = false) (other : Nat) :
    (phases other).held? ≠ some identity := by
  intro holding
  have membership := consistent.holds other identity holding
  simp [isHeld, membership] at free

/-- What only another phase can be was reached elsewhere and before. -/
theorem elsewhere {next phase : Phase} {other : Nat}
    (reached : update phases index next other = phase) (different : next ≠ phase) :
    other ≠ index ∧ phases other = phase := by
  by_cases here : other = index
  · subst here
    rw [update_self] at reached
    exact absurd reached different
  · rw [update_of_ne here] at reached
    exact ⟨here, reached⟩

theorem tallies_update {record : IdentityRecord Float} {identity : String} {last : Float}
    {next : Phase} (tallies : record.Tallies phases identity last)
    (same : ∀ prepared, prepared.identity = identity →
      (next = .settling prepared ↔ phases index = .settling prepared)) :
    record.Tallies (update phases index next) identity last := by
  apply tallies.of_same
  intro other settling about
  by_cases here : other = index
  · subst here
    rw [update_self]
    exact same settling about
  · rw [update_of_ne here]

theorem prepared (consistent : engine.Consistent phases) {now : Instant} {commit : Commit Float}
    {prepared : PreparedCommit Float} (asking : phases index = .asking commit)
    (free : engine.isHeld commit.identity = false)
    (ready : engine.prepare now commit = .ok prepared) :
    (engine.hold commit.identity).Consistent (update phases index (.writing prepared)) := by
  obtain ⟨record, window, found, -, -, same, -, changed, -⟩ := prepare_cases ready
  have unheld := consistent.not_held_of_free free
  refine ⟨consistent.keyed, ?_, ?_, ?_, ?_, consistent.unknown, ?_⟩
  · intro other identity holding
    by_cases here : other = index
    · subst here
      rw [update_self] at holding
      cases holding
      rw [same]
      exact List.mem_cons_self
    · rw [update_of_ne here] at holding
      exact List.mem_cons_of_mem _ (consistent.holds other identity holding)
  · intro first second identity firstHolds secondHolds
    by_cases firstHere : first = index <;> by_cases secondHere : second = index
    · rw [firstHere, secondHere]
    · subst firstHere
      rw [update_self] at firstHolds
      rw [update_of_ne secondHere] at secondHolds
      cases firstHolds
      rw [same] at secondHolds
      exact absurd secondHolds (unheld second)
    · subst secondHere
      rw [update_self] at secondHolds
      rw [update_of_ne firstHere] at firstHolds
      cases secondHolds
      rw [same] at firstHolds
      exact absurd firstHolds (unheld first)
    · rw [update_of_ne firstHere] at firstHolds
      rw [update_of_ne secondHere] at secondHolds
      exact consistent.apart first second identity firstHolds secondHolds
  · intro other writing reached
    by_cases here : other = index
    · subst here
      rw [update_self] at reached
      cases reached
      rw [same]
      refine ⟨record, found, ?_⟩
      intro update present
      rw [changed] at present
      obtain ⟨⟨outcome, context⟩, -, rfl⟩ := Option.map_eq_some_iff.mp present
      exact ⟨consistent.keyed _ _ found, rfl⟩
    · rw [update_of_ne here] at reached
      exact consistent.writing other writing reached
  · intro other settling reached
    exact consistent.settling other settling (elsewhere reached nofun).2
  · intro identity stored present
    obtain ⟨first, last, registers, leads, tallies⟩ := consistent.known identity stored present
    exact ⟨first, last, registers, leads, tallies_update tallies (by simp [asking])⟩

/-- A call that holds no more than before holds what it held. -/
theorem held_of_update {next : Phase}
    (less : next.held? = none ∨ next.held? = (phases index).held?) {other : Nat}
    {identity : String} (holding : (update phases index next other).held? = some identity) :
    (phases other).held? = some identity := by
  by_cases here : other = index
  · subst here
    rw [update_self] at holding
    rcases less with nothing | same
    · rw [nothing] at holding
      contradiction
    · rw [← same]
      exact holding
  · rw [update_of_ne here] at holding
    exact holding

/-- Nothing is held before, and nothing afterwards. -/
theorem idle (consistent : engine.Consistent phases) {next : Phase}
    (before : (phases index).held? = none) (after : next.held? = none) :
    engine.Consistent (update phases index next) := by
  refine ⟨consistent.keyed, ?_, ?_, ?_, ?_, consistent.unknown, ?_⟩
  · intro other identity holding
    exact consistent.holds other identity (held_of_update (.inl after) holding)
  · intro first second identity firstHolds secondHolds
    exact consistent.apart first second identity (held_of_update (.inl after) firstHolds)
      (held_of_update (.inl after) secondHolds)
  · intro other writing reached
    refine consistent.writing other writing (elsewhere reached ?_).2
    rintro rfl
    contradiction
  · intro other settling reached
    refine consistent.settling other settling (elsewhere reached ?_).2
    rintro rfl
    contradiction
  · intro identity record present
    obtain ⟨first, last, registers, leads, tallies⟩ := consistent.known identity record present
    refine ⟨first, last, registers, leads, tallies_update tallies ?_⟩
    intro settling _
    constructor
    · rintro rfl
      contradiction
    · intro reached
      rw [reached] at before
      contradiction

/-- Another call that still holds a record after one has been released holds another record. -/
theorem mem_held_of_release (consistent : engine.Consistent phases) {identity : String}
    (releasing : (phases index).held? = some identity) {next : Phase} (nothing : next.held? = none)
    {other : Nat} {kept : String} (holding : (update phases index next other).held? = some kept) :
    kept ∈ engine.held.erase identity := by
  have held := held_of_update (.inl nothing) holding
  have different : kept ≠ identity := by
    intro equal
    have same := consistent.apart other index identity (equal ▸ held) releasing
    subst same
    rw [update_self, nothing] at holding
    contradiction
  exact (List.mem_erase_of_ne different).mpr (consistent.holds other kept held)

theorem refused (consistent : engine.Consistent phases) {prepared : PreparedCommit Float}
    (writing : phases index = .writing prepared) :
    (engine.release prepared.identity).Consistent (update phases index .before) := by
  have releasing : (phases index).held? = some prepared.identity := by rw [writing]; rfl
  refine ⟨consistent.keyed, ?_, ?_, ?_, ?_, consistent.unknown, ?_⟩
  · intro other identity holding
    exact consistent.mem_held_of_release releasing rfl holding
  · intro first second identity firstHolds secondHolds
    exact consistent.apart first second identity (held_of_update (.inl rfl) firstHolds)
      (held_of_update (.inl rfl) secondHolds)
  · intro other still reached
    exact consistent.writing other still (elsewhere reached nofun).2
  · intro other settling reached
    exact consistent.settling other settling (elsewhere reached nofun).2
  · intro identity record present
    obtain ⟨first, last, registers, leads, tallies⟩ := consistent.known identity record present
    exact ⟨first, last, registers, leads, tallies_update tallies (by simp [writing])⟩

omit K engine phases index in
/-- The updates of a batch are about its identity alone. -/
theorem about_updates {prepared : PreparedCommit Float} (plain : prepared.Plain)
    (own : ∀ update, prepared.update = some update → update.identity = prepared.identity)
    (identity : String) :
    about identity .trustUpdated prepared.records =
      if prepared.identity = identity then (prepared.update.map (·.event)).toList else [] := by
  rw [LedgerRecord.about, plain.updates]
  cases changed : prepared.update with
  | none => simp
  | some update =>
      have same : update.event.identity = prepared.identity := own update changed
      by_cases about : prepared.identity = identity <;> simp [same, about]

/-- Whoever holds a record is the only one whose commit on it may be written only. -/
theorem eq_of_settling (consistent : engine.Consistent phases) {identity : String}
    (holding : (phases index).held? = some identity) {other : Nat}
    {prepared : PreparedCommit Float} (settling : phases other = .settling prepared)
    (about : prepared.identity = identity) : other = index := by
  have held : (phases other).held? = some identity := by
    rw [settling, ← about]
    rfl
  exact consistent.apart other index identity held holding

theorem written (consistent : engine.Consistent phases) {prepared : PreparedCommit Float}
    (writing : phases index = .writing prepared) (plain : prepared.Plain) :
    { engine with ledger := engine.ledger.append prepared.records }.Consistent
      (update phases index (.settling prepared)) := by
  have holding : (phases index).held? = some prepared.identity := by rw [writing]; rfl
  have same : (Phase.settling prepared).held? = (phases index).held? := by rw [holding]; rfl
  obtain ⟨record, found, updates⟩ := consistent.writing index prepared writing
  have own := fun update present => (updates update present).1
  have unregistered := fun identity => about_eq_nil identity plain.registrations
  refine ⟨consistent.keyed, ?_, ?_, ?_, ?_, ?_, ?_⟩
  · intro other identity still
    exact consistent.holds other identity (held_of_update (.inr same) still)
  · intro first second identity firstHolds secondHolds
    exact consistent.apart first second identity (held_of_update (.inr same) firstHolds)
      (held_of_update (.inr same) secondHolds)
  · intro other still reached
    exact consistent.writing other still (elsewhere reached nofun).2
  · intro other settling reached
    by_cases here : other = index
    · subst here
      rw [update_self] at reached
      cases reached
      exact ⟨record, found⟩
    · rw [update_of_ne here] at reached
      exact consistent.settling other settling reached
  · intro identity missing
    obtain ⟨registrations, chain⟩ := consistent.unknown identity missing
    have different : prepared.identity ≠ identity := by
      intro equal
      rw [← equal] at missing
      have present : engine.record? prepared.identity = none := missing
      rw [found] at present
      contradiction
    simp [registrations, chain, unregistered, about_updates plain own, different]
  · intro identity stored present
    obtain ⟨first, last, registers, leads, tallies⟩ := consistent.known identity stored present
    by_cases about : prepared.identity = identity
    · subst about
      have recorded : engine.record? prepared.identity = some stored := present
      rw [found] at recorded
      cases recorded
      -- nobody else holds the record, so that the chain ends at the score of the record
      have even : last = record.trustScore := by
        apply tallies.2
        intro other settling reached equal
        have here := consistent.eq_of_settling holding reached equal
        subst here
        rw [writing] at reached
        contradiction
      refine ⟨first, (settledRecord record prepared).trustScore, ?_, ?_, ?_, ?_⟩
      · simpa [Registers, unregistered] using registers
      · simp only [Ledger.records_append, about_append, about_updates plain own, if_pos]
        refine leads.append ?_
        rw [trustScore_settledRecord, even]
        cases changed : prepared.update with
        | none => rfl
        | some update =>
            rw [← (updates update changed).2]
            exact leads_event update
      · intro other settling reached equal
        by_cases here : other = index
        · subst here
          rw [update_self] at reached
          cases reached
          rfl
        · rw [update_of_ne here] at reached
          exact absurd (consistent.eq_of_settling holding reached equal) here
      · intro none
        exact absurd rfl (none index prepared (update_self ..))
    · refine ⟨first, last, ?_, ?_, tallies_update tallies ?_⟩
      · simpa [Registers, unregistered] using registers
      · simpa [about_updates plain own, about] using leads
      · intro settling equal
        rw [writing]
        constructor
        · rintro ⟨⟩
          exact absurd equal about
        · rintro ⟨⟩

theorem settled (consistent : engine.Consistent phases) {prepared : PreparedCommit Float}
    {record : IdentityRecord Float} (settling : phases index = .settling prepared)
    (found : engine.record? prepared.identity = some record) :
    ((engine.settled record prepared).release prepared.identity).Consistent
      (update phases index .after) := by
  have releasing : (phases index).held? = some prepared.identity := by rw [settling]; rfl
  have owned : record.id = prepared.identity := consistent.keyed _ _ found
  have stored : ∀ identity,
      ((engine.settled record prepared).release prepared.identity).record? identity =
        if prepared.identity = identity then some (settledRecord record prepared)
        else engine.record? identity := by
    intro identity
    rw [← owned]
    exact record?_settled engine record prepared identity
  have ledger : ((engine.settled record prepared).release prepared.identity).ledger =
      engine.ledger := ledger_settled engine record prepared
  have held : ((engine.settled record prepared).release prepared.identity).held =
      engine.held.erase prepared.identity :=
    congrArg (List.erase · prepared.identity) (held_settled engine record prepared)
  refine ⟨?_, ?_, ?_, ?_, ?_, ?_, ?_⟩
  · intro identity other present
    rw [stored] at present
    split at present
    · rename_i same
      cases present
      rw [id_settledRecord, owned]
      exact same
    · exact consistent.keyed identity other present
  · intro other identity holding
    rw [held]
    exact consistent.mem_held_of_release releasing rfl holding
  · intro first second identity firstHolds secondHolds
    exact consistent.apart first second identity (held_of_update (.inl rfl) firstHolds)
      (held_of_update (.inl rfl) secondHolds)
  · intro other still reached
    obtain ⟨away, before⟩ := elsewhere reached nofun
    have different : prepared.identity ≠ still.identity := by
      intro equal
      have holding : (phases other).held? = some prepared.identity := by
        rw [before, equal]
        rfl
      exact away (consistent.apart other index _ holding releasing)
    rw [stored, if_neg different]
    exact consistent.writing other still before
  · intro other still reached
    obtain ⟨-, before⟩ := elsewhere reached nofun
    rw [stored]
    split
    · exact ⟨_, rfl⟩
    · exact consistent.settling other still before
  · intro identity missing
    rw [stored] at missing
    rw [ledger]
    split at missing
    · contradiction
    · exact consistent.unknown identity missing
  · intro identity other present
    rw [stored] at present
    rw [ledger]
    split at present
    · rename_i same
      subst same
      cases present
      obtain ⟨first, last, registers, leads, tallies⟩ := consistent.known _ record found
      refine ⟨first, last, registers, leads, ?_, ?_⟩
      · intro later still reached equal
        obtain ⟨away, before⟩ := elsewhere reached nofun
        exact absurd (consistent.eq_of_settling releasing before equal) away
      · intro _
        exact tallies.1 index prepared settling rfl
    · rename_i different
      obtain ⟨first, last, registers, leads, tallies⟩ := consistent.known identity other present
      refine ⟨first, last, registers, leads, tallies_update tallies ?_⟩
      intro still equal
      rw [settling]
      constructor
      · rintro ⟨⟩
      · rintro ⟨⟩
        exact absurd equal different

/-- Every step of a call keeps the engine consistent with all calls. -/
theorem progress (consistent : engine.Consistent phases) {next : Phase}
    {later : Engine Float K} (progress : engine.Progress (phases index) next later)
    (plain : ∀ prepared, phases index = .writing prepared → prepared.Plain) :
    later.Consistent (update phases index next) := by
  generalize reached : phases index = phase at progress plain
  cases progress with
  | quiet early =>
      refine consistent.idle (by rw [reached]; rfl) ?_
      rcases early with rfl | ⟨commit, rfl⟩ <;> rfl
  | unready => exact consistent.idle (by rw [reached]; rfl) rfl
  | prepared free ready => exact consistent.prepared reached free ready
  | @refused prepared _ _ => exact consistent.refused reached
  | @written prepared accepted => exact consistent.written reached (plain prepared rfl)
  | @lost prepared missing =>
      obtain ⟨record, found⟩ := consistent.settling index prepared reached
      rw [found] at missing
      contradiction
  | settled found => exact consistent.settled reached found
  | trailing => exact consistent.idle (by rw [reached]; rfl) rfl

/-! ## Other changes -/

/-- Neither a score nor a registration is among the records. -/
def Silent (records : List LedgerRecord) : Prop :=
  ofType .identityRegistered records = [] ∧ ofType .trustUpdated records = []

theorem start {config : TrustConfig Float} {keys : K} {engine : Engine Float K}
    (started : Engine.start config keys = .ok engine) : engine.Consistent fun _ => .before := by
  have unknown := record?_of_start started
  have empty : engine.ledger = [] := by rw [(start_eq_ok started).2]
  refine ⟨keyed_of_start started, nofun, nofun, nofun, nofun, ?_, ?_⟩
  · intro identity _
    rw [empty]
    exact ⟨rfl, rfl⟩
  · intro identity record found
    rw [unknown] at found
    cases found

/-- Nothing happens to records, and nothing about scores is written. -/
theorem of_silent (consistent : engine.Consistent phases) {later : Engine Float K}
    {added : List LedgerRecord}
    (identities : later.identities = engine.identities) (held : later.held = engine.held)
    (ledger : later.ledger.records = engine.ledger.records ++ added) (silent : Silent added) :
    later.Consistent phases := by
  have same : ∀ identity, later.record? identity = engine.record? identity := by
    intro identity
    rw [record?, record?, identities]
  have unregistered := fun identity => about_eq_nil identity silent.1
  have unscored := fun identity => about_eq_nil identity silent.2
  refine ⟨?_, ?_, consistent.apart, ?_, ?_, ?_, ?_⟩
  · intro identity record present
    rw [same] at present
    exact consistent.keyed identity record present
  · rw [held]
    exact consistent.holds
  · simp only [same]
    exact consistent.writing
  · simp only [same]
    exact consistent.settling
  · simp only [same, ledger, about_append, unregistered, unscored, List.append_nil]
    exact consistent.unknown
  · simp only [same, ledger, Registers, about_append, unregistered, unscored, List.append_nil]
    exact consistent.known

theorem tallies_iff_of_unheld {identity : String}
    (unheld : ∀ other, (phases other).held? ≠ some identity) (record : IdentityRecord Float)
    (last : Float) : record.Tallies phases identity last ↔ last = record.trustScore := by
  have none : ∀ other prepared, phases other = .settling prepared →
      prepared.identity ≠ identity := by
    intro other prepared settling equal
    apply unheld other
    rw [settling, ← equal]
    rfl
  constructor
  · intro tallies
    exact tallies.2 none
  · intro even
    exact ⟨fun other prepared settling equal => absurd equal (none other prepared settling),
      fun _ => even⟩

omit index in
/-- Where a record that nobody holds is stored, the records that are held stay as they are. -/
theorem record?_of_held {later : Engine Float K} {records : List LedgerRecord}
    {record : IdentityRecord Float} (stored : engine.Stored later records record)
    (unheld : ∀ other, (phases other).held? ≠ some record.id) {index : Nat} {identity : String}
    (holding : (phases index).held? = some identity) :
    later.record? identity = engine.record? identity := by
  have different : record.id ≠ identity := by
    intro equal
    apply unheld index
    rw [holding, equal]
  rw [stored.record?, if_neg different]

/-- The record of an identity that nobody holds gets a successor with the same score. -/
theorem stored (consistent : engine.Consistent phases) {later : Engine Float K}
    {records : List LedgerRecord} {record old : IdentityRecord Float}
    (stored : engine.Stored later records record) (free : engine.isHeld record.id = false)
    (found : engine.record? record.id = some old) (score : record.trustScore = old.trustScore)
    (silent : Silent records) : later.Consistent phases := by
  have unheld := consistent.not_held_of_free free
  have unregistered := fun identity => about_eq_nil identity silent.1
  have unscored := fun identity => about_eq_nil identity silent.2
  refine ⟨stored.keyed consistent.keyed, ?_, consistent.apart, ?_, ?_, ?_, ?_⟩
  · rw [stored.held]
    exact consistent.holds
  · intro index prepared writing
    rw [record?_of_held stored unheld (by rw [writing]; rfl)]
    exact consistent.writing index prepared writing
  · intro index prepared settling
    rw [record?_of_held stored unheld (by rw [settling]; rfl)]
    exact consistent.settling index prepared settling
  · intro identity missing
    rw [stored.record?] at missing
    split at missing
    · contradiction
    · simpa [stored.ledger, unregistered, unscored] using consistent.unknown identity missing
  · intro identity other present
    rw [stored.record?] at present
    simp only [stored.ledger, Ledger.records_append, Registers, about_append, unregistered,
      unscored, List.append_nil]
    split at present
    · rename_i same
      subst same
      cases present
      obtain ⟨first, last, registers, leads, tallies⟩ := consistent.known _ old found
      refine ⟨first, last, registers, leads, ?_⟩
      rw [tallies_iff_of_unheld unheld] at tallies ⊢
      rw [tallies, score]
    · exact consistent.known identity other present

/-- An identity that was not there is registered. -/
theorem enrolled (consistent : engine.Consistent phases) {later : Engine Float K}
    {record : IdentityRecord Float}
    (stored : engine.Stored later [record.registrationEvent] record)
    (free : engine.isHeld record.id = false) (missing : engine.record? record.id = none) :
    later.Consistent phases := by
  have unheld := consistent.not_held_of_free free
  have unscored : ∀ identity, about identity .trustUpdated [record.registrationEvent] = [] :=
    fun identity => about_eq_nil identity rfl
  have registered : ∀ identity,
      about identity .identityRegistered [record.registrationEvent] =
        if record.id = identity then [record.registrationEvent] else [] := by
    intro identity
    have own : record.registrationEvent.identity = record.id := rfl
    have kind : record.registrationEvent.eventType = .identityRegistered := rfl
    by_cases same : record.id = identity <;> simp [LedgerRecord.about, ofType, own, kind, same]
  refine ⟨stored.keyed consistent.keyed, ?_, consistent.apart, ?_, ?_, ?_, ?_⟩
  · rw [stored.held]
    exact consistent.holds
  · intro index prepared writing
    rw [record?_of_held stored unheld (by rw [writing]; rfl)]
    exact consistent.writing index prepared writing
  · intro index prepared settling
    rw [record?_of_held stored unheld (by rw [settling]; rfl)]
    exact consistent.settling index prepared settling
  · intro identity absent
    rw [stored.record?] at absent
    split at absent
    · contradiction
    · rename_i different
      simpa [stored.ledger, unscored, registered, different] using
        consistent.unknown identity absent
  · intro identity other present
    rw [stored.record?] at present
    simp only [stored.ledger, Ledger.records_append, Registers, about_append, unscored, registered,
      List.append_nil]
    split at present
    · rename_i same
      subst same
      cases present
      obtain ⟨unregistered, empty⟩ := consistent.unknown _ missing
      refine ⟨record.trustScore, record.trustScore, ⟨record.registrationEvent, ?_, ?_⟩, ?_, ?_⟩
      · rw [unregistered, if_pos rfl, List.nil_append]
      · simp [IdentityRecord.registrationEvent, Json.field?_ofFields, Scalar.toJson,
          Scalar.toFloat]
      · rw [empty]
        rfl
      · rw [tallies_iff_of_unheld unheld]
    · rename_i different
      simpa [different, Registers] using consistent.known identity other present

end Consistent

end Engine

end ReviewGate
