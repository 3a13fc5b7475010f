import ReviewGate.Proofs.Gate.System
import ReviewGate.Proofs.Trust.Change
import ReviewGate.Proofs.Trust.Replay

/-!
# Records under many calls

What calls and operations do to the records of an engine.  No record is ever lost, so a commit that
has been written takes effect; and a cooling-off window changes only where an entry says so.
-/

namespace ReviewGate

variable {K : Type}

/-- The records enter an identity into a cooling-off window. -/
def LedgerRecord.EnterCoolingOff (identity : String) (records : List LedgerRecord) : Prop :=
  ∃ record ∈ records, record.identity = identity ∧ record.eventType = .coolingOffEntered

theorem LedgerRecord.EnterCoolingOff.mono {identity : String} {records more : List LedgerRecord}
    (enters : EnterCoolingOff identity records) (included : records ⊆ more) :
    EnterCoolingOff identity more := by
  obtain ⟨record, membership, about, entered⟩ := enters
  exact ⟨record, included membership, about, entered⟩

namespace Engine

/-- The end of the window of an identity, if it has one. -/
def coolingOffUntil? (engine : Engine Float K) (identity : String) : Option Instant :=
  (engine.record? identity).bind (·.coolingOffUntil)

theorem coolingOffUntil?_eq {engine : Engine Float K} {identity : String}
    {record : IdentityRecord Float} (found : engine.record? identity = some record) :
    engine.coolingOffUntil? identity = record.coolingOffUntil := by
  rw [coolingOffUntil?, found, Option.bind_some]

/-- No record is lost. -/
def Retains (engine later : Engine Float K) : Prop :=
  ∀ identity, (engine.record? identity).isSome = true → (later.record? identity).isSome = true

/-! ## Commits -/

/-- A commit that opens a window says so. -/
theorem enterCoolingOff_of_prepare {engine : Engine Float K} {now : Instant}
    {commit : Commit Float} {prepared : PreparedCommit Float}
    (ready : engine.prepare now commit = .ok prepared)
    (opens : prepared.coolingOffUntil.isSome = true) :
    LedgerRecord.EnterCoolingOff prepared.identity prepared.records := by
  obtain ⟨record, window, -, -, -, same, deadline, -, written⟩ := prepare_cases ready
  rw [deadline, Option.isSome_map] at opens
  obtain ⟨⟨honesty, ends⟩, entered⟩ := Option.isSome_iff_exists.mp opens
  refine ⟨coolingOffEvent commit.identity honesty ends now, ?_, same.symm, rfl⟩
  rw [written, entered]
  simp [effectEvents]

/-- The events that a commit adds to those of its caller are the engine's own. -/
theorem own_of_prepare {engine : Engine Float K} {now : Instant} {commit : Commit Float}
    {prepared : PreparedCommit Float} (ready : engine.prepare now commit = .ok prepared) :
    ∀ record ∈ prepared.records, record ∈ commit.events ∨ record.eventType.isOwn = true := by
  obtain ⟨-, window, -, -, -, -, -, -, written⟩ := prepare_cases ready
  intro record membership
  rw [written, effectEvents] at membership
  simp only [List.mem_append, Option.mem_toList, Option.map_eq_some_iff] at membership
  rcases membership with given | ⟨_, -, rfl⟩ | ⟨_, -, rfl⟩
  · exact .inl given
  · exact .inr rfl
  · exact .inr rfl

/-! ## Steps of calls -/

/-- A step of a call changes a record only where a written commit takes effect on it. -/
theorem Progress.record? {engine later : Engine Float K} {phase next : Phase}
    (progress : engine.Progress phase next later) (keyed : engine.Keyed) (identity : String) :
    later.record? identity = engine.record? identity ∨
    ∃ prepared record, phase = .settling prepared ∧ prepared.identity = identity ∧
      engine.record? identity = some record ∧
      later.record? identity = some (settledRecord record prepared) := by
  cases progress with
  | @settled prepared record found =>
      have owned : record.id = prepared.identity := keyed _ _ found
      have stored : ((engine.settled record prepared).release prepared.identity).record? identity =
          if record.id = identity then some (settledRecord record prepared)
          else engine.record? identity := record?_settled engine record prepared identity
      rw [stored, owned]
      by_cases here : prepared.identity = identity
      · subst here
        rw [if_pos rfl]
        exact .inr ⟨prepared, record, rfl, rfl, found, rfl⟩
      · rw [if_neg here]
        exact .inl rfl
  | _ => exact .inl rfl

theorem Progress.retains {engine later : Engine Float K} {phase next : Phase}
    (progress : engine.Progress phase next later) (keyed : engine.Keyed) :
    engine.Retains later := by
  intro identity known
  rcases progress.record? keyed identity with same | ⟨_, _, -, -, -, settled⟩
  · rw [same]
    exact known
  · rw [settled]
    rfl

theorem Progress.keyed {engine later : Engine Float K} {phase next : Phase}
    (progress : engine.Progress phase next later) (keyed : engine.Keyed) : later.Keyed := by
  intro identity stored present
  rcases progress.record? keyed identity with same | ⟨prepared, record, -, -, found, settled⟩
  · exact keyed identity stored (same.symm.trans present)
  · rw [settled] at present
    cases present
    rw [id_settledRecord]
    exact keyed identity record found

/-- A step of a call writes the batch it has prepared, or it writes nothing. -/
theorem Progress.ledger {engine later : Engine Float K} {phase next : Phase}
    (progress : engine.Progress phase next later) :
    (later.ledger = engine.ledger ∧ ∀ prepared, next ≠ .settling prepared) ∨
    ∃ prepared, phase = .writing prepared ∧ next = .settling prepared ∧
      later.ledger = engine.ledger.append prepared.records := by
  cases progress with
  | quiet early =>
      rcases early with rfl | ⟨commit, rfl⟩
      · exact .inl ⟨rfl, by simp⟩
      · exact .inl ⟨rfl, by simp⟩
  | written accepted => exact .inr ⟨_, rfl, rfl, rfl⟩
  | settled found => exact .inl ⟨ledger_settled .., by simp⟩
  | unready | prepared | refused | lost | trailing => exact .inl ⟨rfl, by simp⟩

/-- A commit takes effect only from where it has been written. -/
theorem Progress.ne_after {engine later : Engine Float K} {phase next : Phase}
    (progress : engine.Progress phase next later)
    (unsettled : ∀ prepared, phase ≠ .settling prepared) (unfinished : phase ≠ .after) :
    next ≠ .after := by
  cases progress with
  | quiet early => rcases early with rfl | ⟨commit, rfl⟩ <;> simp
  | settled found => exact absurd rfl (unsettled _)
  | trailing => exact absurd rfl unfinished
  | unready | prepared | refused | written | lost => simp

/-- What a step of a call holds is the record of somebody. -/
theorem Progress.held {engine later : Engine Float K} {phase next : Phase}
    (progress : engine.Progress phase next later) (keyed : engine.Keyed)
    (known : ∀ identity, phase.held? = some identity → (engine.record? identity).isSome = true)
    {identity : String} (holding : next.held? = some identity) :
    (later.record? identity).isSome = true := by
  apply progress.retains keyed
  cases progress with
  | quiet early =>
      rcases early with rfl | ⟨commit, rfl⟩
      · contradiction
      · contradiction
  | @prepared now commit prepared free ready =>
      obtain ⟨record, -, found, -, -, same, -⟩ := prepare_cases ready
      cases holding
      rw [same, found]
      rfl
  | written accepted => exact known identity holding
  | unready | refused | lost | settled | trailing => contradiction

/-- A step of a call takes a record or gives it back; what others hold it leaves alone. -/
theorem Progress.holds {engine later : Engine Float K} {phase next : Phase}
    (progress : engine.Progress phase next later) {others : List String}
    (holds : engine.held.Perm (phase.held?.toList ++ others)) :
    later.held.Perm (next.held?.toList ++ others) := by
  have released : ∀ {identity : String}, engine.held.Perm ([identity] ++ others) →
      (engine.held.erase identity).Perm others := by
    intro identity held
    have erased := held.erase identity
    rwa [List.singleton_append, List.erase_cons_head] at erased
  cases progress with
  | quiet early =>
      rcases early with rfl | ⟨commit, rfl⟩
      · exact holds
      · exact holds
  | prepared free ready =>
      obtain ⟨-, -, -, -, -, same, -⟩ := prepare_cases ready
      rw [← same]
      exact holds.cons _
  | settled found =>
      have kept : ∀ record prepared, ((engine.settled record prepared).release
          prepared.identity).held = engine.held.erase prepared.identity := by
        intro record prepared
        rw [release, held_settled]
      rw [kept]
      exact released holds
  | refused | lost => exact released holds
  | unready | written | trailing => exact holds

/-! ## Operations on the engine -/

/-- What is written and what becomes of the records by it. -/
structure Written (engine later : Engine Float K) (records : List LedgerRecord) : Prop where
  ledger : later.ledger = engine.ledger.append records
  retains : engine.Retains later
  windows : ∀ identity, later.coolingOffUntil? identity = engine.coolingOffUntil? identity ∨
    LedgerRecord.EnterCoolingOff identity records

theorem written_of_keys (engine : Engine Float K) (keys : K) :
    engine.Written { engine with keys } [] :=
  ⟨(Ledger.append_nil _).symm, fun _ => id, fun _ => .inl rfl⟩

theorem Stored.written {engine later : Engine Float K} {records : List LedgerRecord}
    {stored : IdentityRecord Float} (change : engine.Stored later records stored)
    (window : stored.coolingOffUntil = engine.coolingOffUntil? stored.id ∨
      LedgerRecord.EnterCoolingOff stored.id records) : engine.Written later records := by
  refine ⟨change.ledger, ?_, ?_⟩
  · intro identity known
    rw [change.record?]
    split
    · rfl
    · exact known
  · intro identity
    rw [coolingOffUntil?, change.record?]
    split
    · rename_i same
      rw [← same]
      exact window
    · exact .inl rfl

variable [KeyProvider K]

namespace Change

variable {engine : Engine Float K} {now : Instant} {operation : Operation Float}
  {records : List LedgerRecord} {record : IdentityRecord Float} {keys : K}

/-- A change leaves the window of its identity alone, or it tells that it opens one. -/
theorem window (keyed : engine.Keyed) (change : engine.Change now operation records record keys) :
    record.coolingOffUntil = engine.coolingOffUntil? record.id ∨
      LedgerRecord.EnterCoolingOff record.id records := by
  rw [change.id_eq keyed]
  cases change with
  | register role absent =>
      left
      rw [Operation.identity, coolingOffUntil?, absent]
      rfl
  | @commit asked prepared record found ready =>
      rw [Operation.identity, coolingOffUntil?_eq found, coolingOffUntil_settledRecord]
      cases opens : prepared.coolingOffUntil with
      | none => exact .inl rfl
      | some deadline =>
          obtain ⟨-, -, -, -, -, about, -⟩ := prepare_cases ready
          rw [← about]
          exact .inr (enterCoolingOff_of_prepare ready (by rw [opens]; rfl))
  | penalize found | drift found | rotate found => exact .inl (coolingOffUntil?_eq found).symm

/-- What is written by a change is the engine's own or given by the caller of a commit. -/
theorem own (change : engine.Change now operation records record keys) :
    ∀ event ∈ records, event.eventType.isOwn = true ∨
      ∃ commit, operation = .commit commit ∧ event ∈ commit.events := by
  intro event membership
  cases change with
  | commit found ready =>
      rcases own_of_prepare ready event membership with given | own
      · exact .inr ⟨_, rfl, given⟩
      · exact .inl own
  | penalize =>
      rw [List.mem_singleton.mp membership]
      unfold penaltyEvent
      split <;> exact .inl rfl
  | register | drift | rotate =>
      rw [List.mem_singleton.mp membership]
      exact .inl rfl

end Change

/-- An operation writes its caller's events and the engine's own, loses no record, and tells of
every window that it opens. -/
theorem written_perform {engine : Engine Float K} (keyed : engine.Keyed) (now : Instant)
    {operation : Operation Float} (free : engine.isHeld operation.identity = false) :
    ∃ records, engine.Written (engine.perform now operation) records ∧
      ∀ record ∈ records, record.eventType.isOwn = true ∨
        ∃ commit, operation = .commit commit ∧ record ∈ commit.events := by
  rcases perform_cases now free with ⟨keys, same⟩ | ⟨records, record, keys, history, change, same⟩
  · rw [same]
    exact ⟨[], engine.written_of_keys keys, by simp⟩
  · rw [same]
    exact ⟨records, (engine.stored_changed records record keys history).written
      (change.window keyed), change.own⟩

end Engine

/-! ## Systems -/

namespace System

/-- Every record is stored under its own id, and what a call holds is the record of somebody. -/
structure Recorded (system : System K) : Prop where
  keyed : system.gate.engine.Keyed
  held : ∀ call ∈ system.calls, ∀ identity, call.phase.held? = some identity →
    (system.gate.engine.record? identity).isSome = true

variable [KeyProvider K] {permitted : Gate.Operation → Prop}

theorem Recorded.move {system later : System K} (recorded : system.Recorded)
    (moves : Move permitted system later) : later.Recorded := by
  obtain ⟨keyed, held⟩ := recorded
  cases moves with
  | submit fresh =>
      refine ⟨keyed, ?_⟩
      intro call membership identity holding
      rcases List.mem_append.mp membership with old | new
      · exact held call old identity holding
      · rw [List.mem_singleton.mp new, Call.phase_of_isFresh fresh] at holding
        contradiction
  | @step index call next now gate found stepped =>
      have progress := Call.progress_of_step? stepped
      have present := List.mem_of_getElem? found
      refine ⟨progress.keyed keyed, ?_⟩
      intro other membership identity holding
      rcases List.mem_or_eq_of_mem_set membership with old | rfl
      · exact progress.retains keyed identity (held other old identity holding)
      · exact progress.held keyed (held call present) holding
  | @operate operation now allowed free =>
      rcases Gate.perform_cases system.gate now operation with
        ⟨asked, rfl, same⟩ | ⟨records, change⟩
      · obtain ⟨_, ⟨-, retains, -⟩, -⟩ := Engine.written_perform keyed now free
        exact ⟨keyed.perform now free, fun call membership identity holding =>
          retains identity (held call membership identity holding)⟩
      · have kept : ∀ identity, (system.gate.perform now operation).engine.record? identity =
            system.gate.engine.record? identity := by
          intro identity
          rw [change.engine]
          rfl
        refine ⟨?_, ?_⟩
        · intro identity record present
          exact keyed identity record ((kept identity).symm.trans present)
        · intro call membership identity holding
          exact (congrArg Option.isSome (kept identity)).trans
            (held call membership identity holding)
  | refuse | serve | wait => exact ⟨keyed, held⟩

theorem recorded_of_reachable {system : System K} (reached : system.Reachable permitted) :
    system.Recorded := by
  induction reached with
  | start engineStarted gateStarted =>
      rw [Gate.eq_of_start gateStarted]
      exact ⟨Engine.keyed_of_start engineStarted, by simp⟩
  | move before moves recorded => exact recorded.move moves

/-- The records that are held are those that calls hold. -/
def Locked (system : System K) : Prop :=
  system.gate.engine.held.Perm (system.calls.filterMap (·.phase.held?))

omit [KeyProvider K] in
theorem Locked.free {system : System K} (locked : system.Locked) {identity : String}
    (free : system.gate.engine.isHeld identity = false) {call : Call}
    (present : call ∈ system.calls) : call.phase.held? ≠ some identity := by
  intro holding
  have held := locked.mem_iff.mpr (List.mem_filterMap.mpr ⟨call, present, holding⟩)
  simp [Engine.isHeld, held] at free

theorem Locked.move {system later : System K} (locked : system.Locked)
    (moves : Move permitted system later) : later.Locked := by
  cases moves with
  | @submit call fresh =>
      have nothing : call.phase.held? = none := by rw [Call.phase_of_isFresh fresh]; rfl
      simpa [Locked, nothing] using locked
  | @step index call next now gate found stepped =>
      -- All calls but the one that steps hold what they held.
      obtain ⟨others, views⟩ := exists_rest_of_getElem? found next
      obtain ⟨before, after⟩ := views (·.phase.held?)
      exact ((Call.progress_of_step? stepped).holds (locked.trans before)).trans after.symm
  | @operate operation now allowed free =>
      rcases Gate.perform_cases system.gate now operation with
        ⟨asked, rfl, same⟩ | ⟨records, change⟩
      · have kept : (system.gate.engine.perform now asked).held = system.gate.engine.held := by
          rcases Engine.perform_cases now free with
            ⟨keys, same⟩ | ⟨records, record, keys, history, -, same⟩
          · rw [same]
          · rw [same]
            rfl
        exact (List.Perm.of_eq kept).trans locked
      · have kept : (system.gate.perform now operation).engine.held = system.gate.engine.held := by
          rw [change.engine]
        exact (List.Perm.of_eq kept).trans locked
  | refuse | serve | wait => exact locked

theorem locked_of_reachable {system : System K} (reached : system.Reachable permitted) :
    system.Locked := by
  induction reached with
  | start engineStarted gateStarted =>
      have empty := (Engine.start_eq_ok engineStarted).2
      rw [Gate.eq_of_start gateStarted, empty]
      exact List.Perm.nil
  | move before moves locked => exact locked.move moves

end System

end ReviewGate
