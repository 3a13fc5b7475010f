import ReviewGate.Proofs.Trust.Operation

/-!
# What commits need and what they do

A commit succeeds exactly where its identity is registered, its outcome lies in the unit interval,
the calendar reaches the end of its window and the storage takes its batch.  What it then writes and
stores is a function of the record that it has found.
-/

namespace ReviewGate

variable {R K : Type} [Scalar R]

/-- The calendar reaches the end of a window that starts now. -/
def CoolingOffPolicy.Reaches (policy : CoolingOffPolicy) (honesty : Honesty) (now : Instant) :
    Prop :=
  (now.addHours? (signedWord (policy.hours honesty))).isSome

instance (policy : CoolingOffPolicy) (honesty : Honesty) (now : Instant) :
    Decidable (policy.Reaches honesty now) :=
  inferInstanceAs (Decidable ((now.addHours? (signedWord (policy.hours honesty))).isSome = true))

theorem CoolingOffPolicy.reaches_iff {policy : CoolingOffPolicy} {honesty : Honesty}
    {now : Instant} (open? : Option Instant) :
    policy.Reaches honesty now ↔ ∃ deadline, policy.deadline? honesty now open? = .ok deadline := by
  unfold deadline? Reaches
  cases now.addHours? (signedWord (policy.hours honesty)) <;> simp

/-- Nothing but the ledger or an unknown identity is in the way of a commit. -/
structure Commit.IsFeasible (config : TrustConfig R) (now : Instant) (asked : Commit R) : Prop where
  outcome : ∀ update ∈ asked.update, Scalar.InUnit update.1
  window : ∀ honesty ∈ asked.coolingOff, config.coolingOff.Reaches honesty now

namespace Engine

variable {engine later : Engine R K} {record : IdentityRecord R} {now : Instant} {asked : Commit R}

omit [Scalar R] in
/-- The storage takes every batch. -/
def Accepts (engine : Engine R K) : Prop := ∀ records, engine.refusal records = none

theorem admitCommit_eq_ok_iff : engine.admitCommit asked = .ok () ↔
    (∀ update ∈ asked.update, Scalar.InUnit update.1) ∧
      ∃ record, engine.record? asked.identity = some record := by
  unfold admitCommit
  cases asked.update with
  | none => simp [bind_eq_ok_iff, identity_eq_ok_iff, pure, Except.pure]
  | some update =>
      dsimp only
      rw [check_bind_eq_ok_iff, requireUnit_eq_ok_iff]
      simp [bind_eq_ok_iff, identity_eq_ok_iff, pure, Except.pure]

/-- The window of a commit with its end, if the calendar reaches it. -/
def windowFor (engine : Engine R K) (record : IdentityRecord R) (now : Instant)
    (asked : Commit R) : Option (Honesty × Instant) :=
  asked.coolingOff.bind fun honesty =>
    (engine.config.coolingOff.deadline? honesty now record.coolingOffUntil).toOption.map
      (honesty, ·)

/-- The change of a score that a commit makes. -/
def updateFor (engine : Engine R K) (record : IdentityRecord R) (now : Instant)
    (asked : Commit R) : Option (ScoreUpdate R) :=
  asked.update.map fun (outcome, context) =>
    engine.scoreUpdate record outcome context asked.reference now

/-- What a commit writes and changes, if it is feasible. -/
def preparedFor (engine : Engine R K) (record : IdentityRecord R) (now : Instant)
    (asked : Commit R) : PreparedCommit R where
  identity := asked.identity
  records := asked.events ++ effectEvents asked.identity (engine.windowFor record now asked)
    (engine.updateFor record now asked) now
  coolingOffUntil := (engine.windowFor record now asked).map Prod.snd
  update := engine.updateFor record now asked

theorem update_preparedFor (engine : Engine R K) (record : IdentityRecord R) (now : Instant)
    {outcome : R} {context : RiskContext} (told : asked.update = some (outcome, context)) :
    (engine.preparedFor record now asked).update =
      some (engine.scoreUpdate record outcome context asked.reference now) := by
  rw [preparedFor, updateFor, told, Option.map_some]

omit [Scalar R] in
theorem windowFor_eq {window : Option (Honesty × Instant)}
    (entered : window.map Prod.fst = asked.coolingOff)
    (ends : ∀ honesty deadline, window = some (honesty, deadline) →
      engine.config.coolingOff.deadline? honesty now record.coolingOffUntil = .ok deadline) :
    engine.windowFor record now asked = window := by
  rw [windowFor, ← entered]
  cases window with
  | none => rfl
  | some window =>
      obtain ⟨honesty, deadline⟩ := window
      simp [ends honesty deadline rfl, Except.toOption]

theorem prepare_eq_ok_iff {prepared : PreparedCommit R} :
    engine.prepare now asked = .ok prepared ↔
      ∃ record, engine.record? asked.identity = some record ∧
        (∀ honesty ∈ asked.coolingOff, engine.config.coolingOff.Reaches honesty now) ∧
        prepared = engine.preparedFor record now asked := by
  constructor
  · intro ready
    obtain ⟨record, window, found, entered, ends, owned, deadline, update, records⟩ :=
      prepare_cases ready
    have same := windowFor_eq entered ends
    refine ⟨record, found, fun honesty wanted => ?_, ?_⟩
    · rw [← entered] at wanted
      obtain ⟨⟨_, deadline⟩, present, rfl⟩ := Option.map_eq_some_iff.mp wanted
      exact (CoolingOffPolicy.reaches_iff _).mpr ⟨deadline, ends _ _ present⟩
    · obtain ⟨identity, written, ended, changed⟩ := prepared
      dsimp only at owned deadline update records
      rw [preparedFor, same, records, owned, deadline, update]
      rfl
  · rintro ⟨record, found, reaches, rfl⟩
    unfold prepare
    rw [identity_eq_ok_iff.mpr found]
    cases entered : asked.coolingOff with
    | none =>
        simp [bind, Except.bind, pure, Except.pure, preparedFor, windowFor, updateFor, entered,
          effectEvents]
    | some honesty =>
        obtain ⟨deadline, ends⟩ := (CoolingOffPolicy.reaches_iff
          record.coolingOffUntil).mp (reaches honesty entered)
        simp [bind, Except.bind, Option.mapM_some, Functor.map, Except.map, pure, Except.pure,
          preparedFor, windowFor, updateFor, entered, ends, effectEvents, Except.toOption]

omit [Scalar R] in
/-- The answer to a commit that is written. -/
def receiptFor (engine : Engine R K) (record : IdentityRecord R) (prepared : PreparedCommit R) :
    Receipt R where
  score := (settledRecord record prepared).trustScore
  update := prepared.update
  coolingOffUntil := prepared.coolingOffUntil
  hashes := engine.ledger.appendedHashes prepared.records

omit [Scalar R] in
/-- The engine after a commit that is written. -/
def committed (engine : Engine R K) (record : IdentityRecord R) (prepared : PreparedCommit R) :
    Engine R K :=
  { engine with ledger := engine.ledger.append prepared.records }.settled record prepared

omit [Scalar R] in
@[simp]
theorem config_committed (engine : Engine R K) (record : IdentityRecord R)
    (prepared : PreparedCommit R) : (engine.committed record prepared).config = engine.config := by
  unfold committed settled
  cases prepared.update <;> rfl

omit [Scalar R] in
@[simp]
theorem refusal_committed (engine : Engine R K) (record : IdentityRecord R)
    (prepared : PreparedCommit R) :
    (engine.committed record prepared).refusal = engine.refusal := by
  unfold committed settled
  cases prepared.update <;> rfl

omit [Scalar R] in
theorem record?_committed (keyed : engine.Keyed) {identity : String}
    (found : engine.record? identity = some record) (prepared : PreparedCommit R) :
    (engine.committed record prepared).record? identity =
      some (settledRecord record prepared) := by
  rw [committed, record?_settled, if_pos (keyed _ _ found)]

/-- All that a commit does. -/
theorem commit_eq_ok_iff {receipt : Receipt R} :
    engine.commit now asked = .ok (receipt, later) ↔
      ∃ record, engine.record? asked.identity = some record ∧
        asked.IsFeasible engine.config now ∧
        engine.refusal (engine.preparedFor record now asked).records = none ∧
        receipt = engine.receiptFor record (engine.preparedFor record now asked) ∧
        later = engine.committed record (engine.preparedFor record now asked) := by
  constructor
  · intro done
    have opened := done
    rw [commit_eq] at opened
    obtain ⟨_, admitted, -⟩ := bind_eq_ok_iff.mp opened
    obtain ⟨prepared, record, ready, found, accepted, rfl, rfl⟩ := commit_cases done
    obtain ⟨same, foundAgain, reaches, rfl⟩ := prepare_eq_ok_iff.mp ready
    obtain rfl : record = same := Option.some.inj (found.symm.trans foundAgain)
    exact ⟨record, found, ⟨(admitCommit_eq_ok_iff.mp admitted).1, reaches⟩, accepted, rfl, rfl⟩
  · rintro ⟨record, found, feasible, accepted, rfl, rfl⟩
    have admitted := admitCommit_eq_ok_iff.mpr ⟨feasible.outcome, record, found⟩
    have ready := prepare_eq_ok_iff.mpr ⟨record, found, feasible.window, rfl⟩
    have written := write_eq_ok_iff.mpr ⟨accepted, rfl, rfl⟩
    rw [commit_eq, admitted, ready]
    simp only [bind, Except.bind, written]
    exact settle_eq_ok_iff.mpr ⟨record, found, rfl, rfl⟩

theorem commit_eq_ok_iff_of_found {receipt : Receipt R} (asked : Commit R)
    (found : engine.record? asked.identity = some record) :
    engine.commit now asked = .ok (receipt, later) ↔
      asked.IsFeasible engine.config now ∧
        engine.refusal (engine.preparedFor record now asked).records = none ∧
        receipt = engine.receiptFor record (engine.preparedFor record now asked) ∧
        later = engine.committed record (engine.preparedFor record now asked) := by
  rw [commit_eq_ok_iff]
  simp [found]

theorem commit_eq_ok (accepts : engine.Accepts)
    (found : engine.record? asked.identity = some record)
    (feasible : asked.IsFeasible engine.config now) :
    engine.commit now asked =
      .ok (engine.receiptFor record (engine.preparedFor record now asked),
        engine.committed record (engine.preparedFor record now asked)) :=
  (commit_eq_ok_iff_of_found asked found).mpr ⟨feasible, accepts _, rfl, rfl⟩

end Engine

end ReviewGate
