import ReviewGate.Proofs.Number.Rounding
import ReviewGate.Proofs.Trust.Change
import ReviewGate.Proofs.Trust.Policy

/-!
# The range of scores

No operation leads a score out of the unit interval, unless scores drift away from the baseline.
-/

namespace ReviewGate

open Engine

variable {R K : Type}

/-! ## Drifts -/

/-- A leap second can make the time to a later instant negative, but by less than a second. -/
theorem Instant.wholeSeconds_since_nonneg {last now : Instant} (early : last.IsValid)
    (late : now.IsValid) (later : ¬now ≤ last) : 0 ≤ (now.since last).wholeSeconds := by
  have order : last.seconds < now.seconds ∨
      last.seconds = now.seconds ∧ last.nanos < now.nanos := by
    have ordered : last.before now = true := (Bool.not_eq_false _).mp later
    simpa [before] using ordered
  have earlyFraction := early.fraction
  have lateFraction := late.fraction
  unfold since Span.wholeSeconds secondOfDay
  unfold nanosPerSecond at *
  dsimp only
  repeat' split
  all_goals omega

namespace DecayPolicy

variable {policy : DecayPolicy Float} {last now : Instant}

theorem not_drift_lt_zero (inward : ¬policy.ratePerThirtyDays < 0.0) (early : last.IsValid)
    (late : now.IsValid) (later : ¬now ≤ last) : ¬policy.drift last now < 0.0 := by
  have passed := Double.not_ofInt_lt_zero (Instant.wholeSeconds_since_nonneg early late later)
  have day : (0.0 : Float) < 86400.0 := by decide
  have month : (0.0 : Float) < 30.0 := by decide
  have months := Double.not_div_lt_zero (Double.not_div_lt_zero passed day) month
  exact Double.not_mul_lt_zero months inward

theorem inUnit_decay {score : Float} (within : Scalar.InUnit score)
    (baseline : Scalar.InUnit policy.baseline) (inward : ¬policy.ratePerThirtyDays < 0.0)
    (early : last.IsValid) (late : now.IsValid) : Scalar.InUnit (policy.decay score last now) := by
  unfold decay
  split
  · exact within
  · rename_i later
    have drifts := not_drift_lt_zero inward early late later
    split
    · exact Double.inUnit_larger_sub within drifts baseline
    · split
      · exact Double.inUnit_smaller_add within drifts baseline
      · exact within

end DecayPolicy

/-! ## Outcomes and penalties -/

theorem inUnit_charge {policy : PenaltyPolicy Float} {score dailySum : Float} {kind : PenaltyType}
    {honesty : Honesty} {stage : Stage} {outcome : PenaltyOutcome Float}
    (done : policy.charge score kind honesty stage dailySum = .ok outcome) :
    Scalar.InUnit outcome.adjustedScore := by
  unfold PenaltyPolicy.charge at done
  obtain ⟨_, -, done⟩ := bind_eq_ok_iff.mp done
  obtain ⟨_, -, done⟩ := bind_eq_ok_iff.mp done
  cases done
  exact Double.inUnit_clampUnit _

theorem Scalar.inUnit_larger [Scalar R] {first second : R} (left : InUnit first)
    (right : InUnit second) : InUnit (larger first second) := by
  unfold larger
  split
  · exact right
  · exact left

theorem Scalar.inUnit_smaller [Scalar R] {first second : R} (left : InUnit first)
    (right : InUnit second) : InUnit (smaller first second) := by
  unfold smaller
  split
  · exact right
  · exact left

namespace Engine

/-- An outcome leads from one score of the unit interval to another, on probation too. -/
theorem inUnit_scoreUpdate {engine : Engine Float K} (bounded : engine.config.Bounded)
    {record : IdentityRecord Float} (within : Scalar.InUnit record.trustScore) (outcome : Float)
    (context : RiskContext) (reference : Option String) (now : Instant) :
    Scalar.InUnit (engine.scoreUpdate record outcome context reference now).newScore := by
  unfold scoreUpdate
  dsimp only
  split
  · exact Scalar.inUnit_larger (Double.inUnit_clampUnit _)
      (Scalar.inUnit_smaller bounded.floor within)
  · exact Double.inUnit_clampUnit _

end Engine

/-! ## Records -/

/-- The score lies in the unit interval, and a clock has shown when it last changed. -/
structure IdentityRecord.IsRanged (record : IdentityRecord Float) : Prop where
  within : Scalar.InUnit record.trustScore
  shown : record.lastTrustUpdate.IsValid

namespace Engine

theorem isRanged_settledRecord {record : IdentityRecord Float} {prepared : PreparedCommit Float}
    (ranged : record.IsRanged) (updates : ∀ update, prepared.update = some update →
      Scalar.InUnit update.newScore ∧ update.timestamp.IsValid) :
    (settledRecord record prepared).IsRanged := by
  unfold settledRecord
  cases changes : prepared.update with
  | none => cases prepared.coolingOffUntil <;> exact ⟨ranged.within, ranged.shown⟩
  | some update =>
      obtain ⟨within, shown⟩ := updates update changes
      exact ⟨within, shown⟩

theorem update_of_prepare {engine : Engine Float K} (bounded : engine.config.Bounded)
    {now : Instant} (shown : now.IsValid) {asked : Commit Float} {prepared : PreparedCommit Float}
    {record : IdentityRecord Float} (found : engine.record? asked.identity = some record)
    (ready : engine.prepare now asked = .ok prepared) (within : Scalar.InUnit record.trustScore)
    (update : ScoreUpdate Float) (updates : prepared.update = some update) :
    Scalar.InUnit update.newScore ∧ update.timestamp.IsValid := by
  obtain ⟨same, window, foundAgain, -, -, -, -, updated, -⟩ := prepare_cases ready
  obtain rfl : record = same := Option.some_inj.mp (found.symm.trans foundAgain)
  rw [updated] at updates
  obtain ⟨⟨outcome, context⟩, -, rfl⟩ := Option.map_eq_some_iff.mp updates
  exact ⟨inUnit_scoreUpdate bounded within outcome context asked.reference now, shown⟩

end Engine

/-! ## Runs -/

/-- The times that a caller hands in are times that a clock can show. -/
def Engine.Operation.IsTimely : Operation Float → Prop
  | .penalize event => event.timestamp.IsValid
  | .drift _ instant => instant.IsValid
  | _ => True

/-- Where scores can drift away from the baseline, the operation is not a drift. -/
def Engine.Operation.IsInward (policy : DecayPolicy Float) : Operation Float → Prop
  | .drift .. => ¬policy.ratePerThirtyDays < 0.0
  | _ => True

namespace Engine

variable [KeyProvider K]

/-- All records are ranged, and nobody holds one. -/
structure Ranged (engine : Engine Float K) : Prop extends engine.AtRest where
  bounded : engine.config.Bounded
  ranged : ∀ identity record, engine.record? identity = some record → record.IsRanged

theorem Change.isRanged {engine : Engine Float K} (ranged : engine.Ranged) {now : Instant}
    (shown : now.IsValid) {operation : Operation Float} {records : List LedgerRecord}
    {record : IdentityRecord Float} {keys : K}
    (change : engine.Change now operation records record keys) (timely : operation.IsTimely)
    (inward : operation.IsInward engine.config.decay) : record.IsRanged := by
  cases change with
  | register role absent within issued => exact ⟨within, shown⟩
  | commit found ready =>
      have before := ranged.ranged _ _ found
      exact isRanged_settledRecord before
        (update_of_prepare ranged.bounded shown found ready before.within)
  | @penalize event record outcome found charged =>
      refine ⟨inUnit_charge charged, ?_⟩
      unfold chargedRecord
      dsimp only
      split
      · exact (ranged.ranged _ _ found).shown
      · exact timely
  | drift found =>
      have before := ranged.ranged _ _ found
      exact ⟨DecayPolicy.inUnit_decay before.within ranged.bounded.baseline inward before.shown
        timely, timely⟩
  | rotate found rotated =>
      have before := ranged.ranged _ _ found
      exact ⟨before.within, before.shown⟩

theorem Ranged.perform {engine : Engine Float K} (ranged : engine.Ranged) {now : Instant}
    (shown : now.IsValid) {operation : Operation Float} (timely : operation.IsTimely)
    (inward : operation.IsInward engine.config.decay) : (engine.perform now operation).Ranged := by
  rw [← attempt_snd]
  rcases attempt_cases now (ranged.free operation.identity) with
    ⟨keys, -, same⟩ | ⟨records, record, keys, history, change, same⟩
  · rw [same]
    exact ⟨⟨ranged.keyed, ranged.unheld⟩, ranged.bounded, ranged.ranged⟩
  · rw [same]
    refine ⟨ranged.toAtRest.changed records record keys history, ranged.bounded, ?_⟩
    intro identity stored found
    rw [record?_changed] at found
    split at found
    · cases found
      exact change.isRanged ranged shown timely inward
    · exact ranged.ranged identity stored found

theorem ranged_of_reachable {permitted : Operation Float → Prop} {engine : Engine Float K}
    (reached : Reachable permitted engine)
    (timely : ∀ operation, permitted operation → operation.IsTimely)
    (inward : ∀ operation, permitted operation → operation.IsInward engine.config.decay) :
    engine.Ranged := by
  induction reached with
  | start started =>
      refine ⟨.of_start started, ?_, ?_⟩
      · rw [(start_eq_ok started).2]
        exact TrustConfig.bounded_of_validate (start_eq_ok started).1
      · intro identity record found
        rw [record?_of_start started] at found
        cases found
  | @perform engine reached now shown operation allowed inductionHypothesis =>
      have same : (engine.perform now operation).config = engine.config := by
        rw [← attempt_snd]
        exact (AtRest.of_reachable reached).config_attempt now operation
      rw [same] at inward
      exact (inductionHypothesis inward).perform shown (timely operation allowed)
        (inward operation allowed)
  | refuse _ refusal inductionHypothesis =>
      have ranged := inductionHypothesis inward
      exact ⟨⟨ranged.keyed, ranged.unheld⟩, ranged.bounded, ranged.ranged⟩

/-- Where drifts lead toward the baseline, all scores lie in the unit interval, whatever callers have
asked for and whatever the storage has refused. -/
theorem inUnit_of_reachable {permitted : Operation Float → Prop} {engine : Engine Float K}
    (reached : Reachable permitted engine)
    (timely : ∀ operation, permitted operation → operation.IsTimely)
    (inward : ∀ operation, permitted operation → operation.IsInward engine.config.decay)
    {identity : String} {record : IdentityRecord Float}
    (found : engine.record? identity = some record) : Scalar.InUnit record.trustScore :=
  ((ranged_of_reachable reached timely inward).ranged identity record found).within

/-- An outcome, a penalty, a drift of half a year and a new key. -/
def busyYear : List (Operation Float) :=
  [.register "ann" .judge 1.0,
    .commit ⟨"ann", [], some .malicious, some (0.0, .highRisk), none⟩,
    .penalize ⟨"ann", .secretExposure, .malicious, "", Small.now⟩,
    .drift "ann" ⟨180 * 86400, 0⟩,
    .rotate "ann"]

theorem inUnit_busyYear :
    Reachable (· ∈ busyYear) (busyYear.foldl (perform Small.now) Small.engine) ∧
    (∀ operation ∈ busyYear, operation.IsTimely) ∧
    (∀ operation ∈ busyYear, operation.IsInward
      (busyYear.foldl (perform Small.now) Small.engine).config.decay) ∧
    ∃ record,
      (busyYear.foldl (perform Small.now) Small.engine).record? "ann" = some record ∧
      record.rotationCount = 1 ∧ record.verificationCount = 1 ∧
      Scalar.InUnit record.trustScore := by
  have started : Engine.start .default Small.keys = .ok Small.engine := by rfl
  have reached : Reachable (· ∈ busyYear) (busyYear.foldl (perform Small.now) Small.engine) :=
    (Reachable.start started).performAll (⟨by decide, by decide⟩ : Small.now.IsValid)
      (fun operation membership => membership)
  have timely : ∀ operation ∈ busyYear, operation.IsTimely := by
    simp only [busyYear, List.forall_mem_cons, Operation.IsTimely]
    exact ⟨trivial, trivial, ⟨by decide, by decide⟩, ⟨by decide, by decide⟩, trivial, by simp⟩
  have rate : ¬(busyYear.foldl (perform Small.now) Small.engine).config.decay.ratePerThirtyDays <
      0.0 := by decide +kernel
  have inward : ∀ operation ∈ busyYear, operation.IsInward
      (busyYear.foldl (perform Small.now) Small.engine).config.decay := by
    intro operation membership
    cases operation with
    | drift => exact rate
    | register | commit | penalize | rotate => trivial
  have known : ((busyYear.foldl (perform Small.now) Small.engine).record? "ann").map (fun record =>
      (record.rotationCount, record.verificationCount)) = some (1, 1) := by decide +kernel
  obtain ⟨record, found, counts⟩ := Option.map_eq_some_iff.mp known
  injection counts with rotations verifications
  exact ⟨reached, timely, inward, record, found, rotations, verifications,
    inUnit_of_reachable reached timely inward found⟩

/-- A policy under which scores drift away from the baseline.  Validation lets it pass. -/
def outward : TrustConfig Float := { TrustConfig.default with decay := ⟨0.4, -1.0⟩ }

/-- A registration a little above the baseline and a drift of 30 days. -/
def idleMonth : List (Operation Float) :=
  [.register "ann" .judge 0.5, .drift "ann" ⟨30 * 86400, 0⟩]

/-- The drift leads above one. -/
theorem exists_not_inUnit :
    ∃ engine : Engine Float LocalKeys,
      Engine.start outward Small.keys = .ok engine ∧
      Reachable Operation.IsTimely (idleMonth.foldl (perform Small.now) engine) ∧
      ∃ record, (idleMonth.foldl (perform Small.now) engine).record? "ann" = some record ∧
        1.0 < record.trustScore ∧ ¬Scalar.InUnit record.trustScore := by
  have started : Engine.start outward Small.keys =
      .ok ⟨outward, [], [], [], fun _ => none, Small.keys, []⟩ := by rfl
  refine ⟨_, started, ?_, ?_⟩
  · refine (Reachable.start started).performAll (⟨by decide, by decide⟩ : Small.now.IsValid) ?_
    simp only [idleMonth, List.forall_mem_cons, Operation.IsTimely]
    exact ⟨trivial, ⟨by decide, by decide⟩, by simp⟩
  · have known : ((idleMonth.foldl (perform Small.now)
        (⟨outward, [], [], [], fun _ => none, Small.keys, []⟩ : Engine Float LocalKeys)).record?
          "ann").map (fun record => decide (1.0 < record.trustScore)) = some true := by
      decide +kernel
    obtain ⟨record, found, above⟩ := Option.map_eq_some_iff.mp known
    have above := of_decide_eq_true above
    exact ⟨record, found, above, fun within => (Double.inUnit_iff.mp within).2.2 above⟩

end Engine

end ReviewGate
