import ReviewGate.Proofs.Trust.Chain
import ReviewGate.Proofs.Trust.Service

/-!
# Commits and their parts

A commit reads the record once, writes one batch and takes effect at once.  Its events, its window
and its outcome could as well be committed one after another at the same instant: each part leaves
alone what the later ones read, and batches leave no trace in the ledger.
-/

namespace ReviewGate

variable {R K : Type} [Scalar R]

/-! ## Two prepared commits as one -/

namespace PreparedCommit

omit [Scalar R] in
/-- Two prepared commits in one batch, of which the first changes no score. -/
def join (first second : PreparedCommit R) : PreparedCommit R where
  identity := first.identity
  records := first.records ++ second.records
  coolingOffUntil := second.coolingOffUntil.or first.coolingOffUntil
  update := second.update

end PreparedCommit

namespace Engine

section Joining

variable {first second : PreparedCommit R} {engine : Engine R K} {record : IdentityRecord R}

omit [Scalar R]

theorem settledRecord_join (unchanged : first.update = none) :
    settledRecord record (first.join second) =
      settledRecord (settledRecord record first) second := by
  unfold settledRecord PreparedCommit.join
  rw [unchanged]
  cases second.coolingOffUntil <;> cases first.coolingOffUntil <;> cases second.update <;> rfl

theorem committed_join (unchanged : first.update = none) :
    engine.committed record (first.join second) =
      (engine.committed record first).committed (settledRecord record first) second := by
  have alike : settledRecord record (first.join second) =
      settledRecord (settledRecord record first) second := settledRecord_join unchanged
  have told : (first.join second).update = second.update := rfl
  unfold committed settled
  rw [unchanged, told, alike]
  cases second.update <;>
    simp [PreparedCommit.join, put, remember, Table.insert_insert, Ledger.append_append]

theorem receiptFor_join (unchanged : first.update = none) :
    engine.receiptFor record (first.join second) =
      { (engine.committed record first).receiptFor (settledRecord record first) second with
        coolingOffUntil := second.coolingOffUntil.or first.coolingOffUntil
        hashes := (engine.receiptFor record first).hashes ++
          ((engine.committed record first).receiptFor (settledRecord record first)
            second).hashes } := by
  have written : (engine.committed record first).ledger = engine.ledger.append first.records :=
    ledger_settled _ _ _
  unfold receiptFor
  rw [settledRecord_join unchanged, written, PreparedCommit.join, Ledger.appendedHashes_append]

end Joining

end Engine

/-! ## Parts -/

namespace Commit

omit [Scalar R]

/-- The events of a commit. -/
def eventsOnly (asked : Commit R) : Commit R := ⟨asked.identity, asked.events, none, none, none⟩

/-- The window of a commit. -/
def windowOnly (asked : Commit R) : Commit R :=
  ⟨asked.identity, [], asked.coolingOff, none, none⟩

/-- The outcome of a commit with the verdict that causes it. -/
def outcomeOnly (asked : Commit R) : Commit R :=
  ⟨asked.identity, [], none, asked.update, asked.reference⟩

/-- A commit is feasible where its window and its outcome are. -/
theorem isFeasible_iff [Scalar R] {config : TrustConfig R} {now : Instant} {asked : Commit R} :
    asked.IsFeasible config now ↔
      asked.windowOnly.IsFeasible config now ∧ asked.outcomeOnly.IsFeasible config now :=
  ⟨fun feasible => ⟨⟨nofun, feasible.window⟩, ⟨feasible.outcome, nofun⟩⟩,
    fun ⟨window, outcome⟩ => ⟨outcome.outcome, window.window⟩⟩

end Commit

namespace Engine

variable {engine : Engine R K} {record : IdentityRecord R} {now : Instant} {asked : Commit R}

/-- What is prepared in parts: in between, other engines find the record as it was but for the end
of its window. -/
theorem preparedFor_eq_join {one two : Engine R K} {deadline : Option Instant}
    (first : one.config = engine.config) (second : two.config = engine.config) :
    engine.preparedFor record now asked =
      ((engine.preparedFor record now asked.eventsOnly).join
        (one.preparedFor record now asked.windowOnly)).join
          (two.preparedFor { record with coolingOffUntil := deadline } now
            asked.outcomeOnly) := by
  have window : one.windowFor record now asked.windowOnly = engine.windowFor record now asked := by
    unfold windowFor
    rw [first]
    rfl
  have update : two.updateFor { record with coolingOffUntil := deadline } now asked.outcomeOnly =
      engine.updateFor record now asked := by
    unfold updateFor scoreUpdate
    rw [second]
    rfl
  have nothing : (two.windowFor { record with coolingOffUntil := deadline } now
      asked.outcomeOnly) = none := rfl
  unfold preparedFor PreparedCommit.join
  rw [window, update, nothing]
  simp [effectEvents, Commit.eventsOnly, Commit.windowOnly, Commit.outcomeOnly, windowFor,
    updateFor]

omit [Scalar R] in
theorem settledRecord_of_unchanged {prepared : PreparedCommit R}
    (unchanged : prepared.update = none) :
    settledRecord record prepared =
      { record with coolingOffUntil := prepared.coolingOffUntil.or record.coolingOffUntil } := by
  unfold settledRecord
  rw [unchanged]
  cases prepared.coolingOffUntil <;> rfl

/-- The parts of a commit one after another, all at one instant. -/
def commitParts (engine : Engine R K) (now : Instant) (asked : Commit R) :
    Except TrustError ((Receipt R × Receipt R × Receipt R) × Engine R K) := do
  let (first, engine) ← engine.commit now asked.eventsOnly
  let (second, engine) ← engine.commit now asked.windowOnly
  let (third, engine) ← engine.commit now asked.outcomeOnly
  return ((first, second, third), engine)

variable {last : Engine R K} {first second third : Receipt R}

theorem commitParts_eq_ok_iff :
    engine.commitParts now asked = .ok ((first, second, third), last) ↔
      ∃ one two, engine.commit now asked.eventsOnly = .ok (first, one) ∧
        one.commit now asked.windowOnly = .ok (second, two) ∧
        two.commit now asked.outcomeOnly = .ok (third, last) := by
  unfold commitParts
  constructor
  · intro done
    obtain ⟨⟨_, one⟩, events, done⟩ := bind_eq_ok_iff.mp done
    obtain ⟨⟨_, two⟩, window, done⟩ := bind_eq_ok_iff.mp done
    obtain ⟨⟨_, three⟩, outcome, done⟩ := bind_eq_ok_iff.mp done
    cases done
    exact ⟨one, two, events, window, outcome⟩
  · rintro ⟨one, two, events, window, outcome⟩
    simp [bind, Except.bind, pure, Except.pure, events, window, outcome]

omit [Scalar R] in
theorem Keyed.committed (keyed : engine.Keyed) (record : IdentityRecord R)
    (prepared : PreparedCommit R) : (engine.committed record prepared).Keyed :=
  (engine.stored_settled record prepared).keyed keyed

/-- What the parts find and do.  The first one leaves the record as it is, the second one leaves it
to the third but for the end of its window. -/
theorem commitParts_iff (keyed : engine.Keyed) :
    engine.commitParts now asked = .ok ((first, second, third), last) ↔
      ∃ record, engine.record? asked.identity = some record ∧
        asked.IsFeasible engine.config now ∧
        let events := engine.preparedFor record now asked.eventsOnly
        let one := engine.committed record events
        let window := one.preparedFor record now asked.windowOnly
        let two := one.committed record window
        let moved := settledRecord record window
        let outcome := two.preparedFor moved now asked.outcomeOnly
        engine.refusal events.records = none ∧ engine.refusal window.records = none ∧
        engine.refusal outcome.records = none ∧
        first = engine.receiptFor record events ∧ second = one.receiptFor record window ∧
        third = two.receiptFor moved outcome ∧ last = two.committed moved outcome := by
  have finds : ∀ {record}, engine.record? asked.identity = some record →
      (engine.committed record (engine.preparedFor record now asked.eventsOnly)).record?
        asked.identity = some record := fun found => record?_committed keyed found _
  rw [commitParts_eq_ok_iff, Commit.isFeasible_iff]
  constructor
  · rintro ⟨one, two, events, window, outcome⟩
    obtain ⟨record, found, -, accepted, rfl, rfl⟩ := commit_eq_ok_iff.mp events
    obtain ⟨windowFeasible, further, rfl, rfl⟩ :=
      (commit_eq_ok_iff_of_found asked.windowOnly (finds found)).mp window
    have moves := record?_committed (keyed.committed _ _) (finds found)
    obtain ⟨outcomeFeasible, final, rfl, rfl⟩ :=
      (commit_eq_ok_iff_of_found asked.outcomeOnly (moves _)).mp outcome
    simp only [config_committed, refusal_committed] at windowFeasible outcomeFeasible further final
    exact ⟨record, found, ⟨windowFeasible, outcomeFeasible⟩, accepted, further, final, rfl, rfl,
      rfl, rfl⟩
  · rintro ⟨record, found, ⟨windowFeasible, outcomeFeasible⟩, accepted, further, final, rfl, rfl,
      rfl, rfl⟩
    have moves := record?_committed (keyed.committed _ _) (finds found)
    refine ⟨_, _,
      (commit_eq_ok_iff_of_found asked.eventsOnly found).mpr
        ⟨⟨nofun, nofun⟩, accepted, rfl, rfl⟩,
      (commit_eq_ok_iff_of_found asked.windowOnly (finds found)).mpr ⟨?_, ?_, rfl, rfl⟩,
      (commit_eq_ok_iff_of_found asked.outcomeOnly (moves _)).mpr ⟨?_, ?_, rfl, rfl⟩⟩
    all_goals simpa

/-- Where a commit and its parts succeed they do the same. -/
theorem commit_eq_commitParts (keyed : engine.Keyed) {receipt : Receipt R} {later : Engine R K}
    (whole : engine.commit now asked = .ok (receipt, later))
    (parts : engine.commitParts now asked = .ok ((first, second, third), last)) :
    last = later ∧
      receipt = ⟨third.score, third.update, second.coolingOffUntil,
        first.hashes ++ second.hashes ++ third.hashes⟩ := by
  obtain ⟨record, found, -, -, -, -, rfl, rfl, rfl, rfl⟩ := (commitParts_iff keyed).mp parts
  obtain ⟨-, -, rfl, rfl⟩ := (commit_eq_ok_iff_of_found asked found).mp whole
  -- the three batches as they are prepared, each in the engine that the one before has left
  let events := engine.preparedFor record now asked.eventsOnly
  let one := engine.committed record events
  let window := one.preparedFor record now asked.windowOnly
  let two := one.committed record window
  let outcome := two.preparedFor (settledRecord record window) now asked.outcomeOnly
  have settles : settledRecord record (events.join window) = settledRecord record window :=
    settledRecord_join rfl
  have split : engine.preparedFor record now asked = (events.join window).join outcome := by
    have first : one.config = engine.config := config_committed _ _ _
    have second : two.config = engine.config := (config_committed _ _ _).trans first
    have moved : settledRecord record window = _ := settledRecord_of_unchanged rfl
    rw [preparedFor_eq_join first second, ← moved]
  rw [split]
  refine ⟨?_, ?_⟩
  · rw [committed_join rfl, committed_join rfl, settles]
    rfl
  · have ended : outcome.coolingOffUntil.or (events.join window).coolingOffUntil =
        window.coolingOffUntil := Option.or_none
    rw [receiptFor_join rfl, receiptFor_join rfl, committed_join rfl, settles, ended]
    rfl

/-- In every state of an engine, a commit does what its parts do one after the other: where both
succeed, the whole engine is the same afterwards, its records, its history and its ledger with all
hashes, and the one receipt tells what the three do, with their hashes in order.  Over a storage
that takes every batch both succeed under the same conditions. -/
theorem commit_eq_parts [KeyProvider K] {config : TrustConfig R} {keys : K} {engine : Engine R K}
    (started : Engine.start config keys = .ok engine) (turns : List (Turn R)) (now : Instant)
    (asked : Commit R) :
    (∀ receipt later first second third last,
      (engine.run turns).commit now asked = .ok (receipt, later) →
      (engine.run turns).commitParts now asked = .ok ((first, second, third), last) →
      last = later ∧
        receipt = ⟨third.score, third.update, second.coolingOffUntil,
          first.hashes ++ second.hashes ++ third.hashes⟩) ∧
    ((engine.run turns).Accepts →
      ((∃ answer, (engine.run turns).commit now asked = .ok answer) ↔
        (∃ record, (engine.run turns).record? asked.identity = some record) ∧
          asked.IsFeasible config now) ∧
      ((∃ answer, (engine.run turns).commitParts now asked = .ok answer) ↔
        (∃ record, (engine.run turns).record? asked.identity = some record) ∧
          asked.IsFeasible config now)) := by
  have rest := AtRest.of_start started
  have keyed := (rest.run turns).keyed
  have same := config_run_of_start started turns
  refine ⟨fun _ _ _ _ _ _ whole parts => commit_eq_commitParts keyed whole parts,
    fun accepts => ⟨⟨?_, ?_⟩, ?_, ?_⟩⟩
  · rintro ⟨⟨receipt, later⟩, done⟩
    obtain ⟨record, found, feasible, -⟩ := commit_eq_ok_iff.mp done
    exact ⟨⟨record, found⟩, same ▸ feasible⟩
  · rintro ⟨⟨record, found⟩, feasible⟩
    exact ⟨_, commit_eq_ok accepts found (same ▸ feasible)⟩
  · rintro ⟨⟨⟨first, second, third⟩, last⟩, done⟩
    obtain ⟨record, found, feasible, -⟩ := (commitParts_iff keyed).mp done
    exact ⟨⟨record, found⟩, same ▸ feasible⟩
  · rintro ⟨⟨record, found⟩, feasible⟩
    exact ⟨_, (commitParts_iff keyed).mpr ⟨record, found, same ▸ feasible, accepts _, accepts _,
      accepts _, rfl, rfl, rfl, rfl⟩⟩

/-- An event, a window and an outcome of a registered identity. -/
def threefold : Commit Float :=
  ⟨"ann", [⟨"ann", .verdictEmitted, .null, Small.now⟩], some .honest, some (1.0, .lowRisk),
    some "verdict-1"⟩

theorem commit_threefold : ∃ engine : Engine Float LocalKeys,
    Engine.start .default Small.keys = .ok engine ∧
    ∃ receipt first second third last,
      (engine.run (asking [(Small.now, .register "ann" .judge 0.4)])).commit Small.now threefold =
        .ok (receipt, last) ∧
      (engine.run (asking [(Small.now, .register "ann" .judge 0.4)])).commitParts Small.now
        threefold = .ok ((first, second, third), last) ∧
      receipt.score = third.score ∧
      receipt.hashes = first.hashes ++ second.hashes ++ third.hashes := by
  have started : Engine.start (.default : TrustConfig Float) Small.keys = .ok Small.engine := by rfl
  have laws := commit_eq_parts started (asking [(Small.now, .register "ann" .judge 0.4)]) Small.now
    threefold
  refine ⟨Small.engine, started, ?_⟩
  generalize reached : Small.engine.run (asking [(Small.now, .register "ann" .judge 0.4)]) =
    staffed at laws ⊢
  obtain ⟨same, succeed⟩ := laws
  have accepts : staffed.Accepts := by
    have accepts : Small.engine.Accepts := fun _ => rfl
    exact reached ▸ accepts.run (AtRest.of_start started) _
  have found : ∃ record, staffed.record? threefold.identity = some record := by
    rw [← reached, ← Option.isSome_iff_exists]
    decide +kernel
  have feasible : threefold.IsFeasible .default Small.now := by
    constructor
    · rintro _ ⟨⟩
      decide
    · rintro _ ⟨⟩
      decide
  obtain ⟨whole, parts⟩ := succeed accepts
  obtain ⟨⟨receipt, later⟩, done⟩ := whole.mpr ⟨found, feasible⟩
  obtain ⟨⟨⟨first, second, third⟩, last⟩, doneParts⟩ := parts.mpr ⟨found, feasible⟩
  obtain ⟨rfl, rfl⟩ := same _ _ _ _ _ _ done doneParts
  exact ⟨_, first, second, third, last, done, doneParts, rfl, rfl⟩

end Engine

end ReviewGate
