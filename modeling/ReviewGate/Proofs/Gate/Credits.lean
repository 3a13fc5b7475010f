import ReviewGate.Proofs.Gate.Audit
import ReviewGate.Proofs.Gate.Trails

/-!
# Outcomes on record

A decision puts an outcome for the author on record: in full where a review accepts, in part where
somebody approves a held unit, and nothing where the unit is rejected.  The call chooses outcome and
weight apart from the trail, and only the trail is reported; they fit whoever else uses the gate.
-/

namespace ReviewGate

open LedgerRecord

variable {K : Type}

theorem Engine.Progress.config {engine later : Engine Float K} {phase next : Phase}
    (progress : engine.Progress phase next later) : later.config = engine.config := by
  cases progress with
  | @settled prepared record found =>
      unfold Engine.release Engine.settled
      cases prepared.update <;> rfl
  | _ => rfl

/-! ## What goes on record -/

namespace ReviewOutcome

/-- Outcomes of critical and deeply verified units weigh more. -/
def context (outcome : ReviewOutcome) : RiskContext :=
  if outcome.critical = true ∨ ReviewState.tier3 ∈ outcome.trail then .highRisk else .lowRisk

/-- What goes on record where an acceptance counts for a credit; a held unit has nothing yet. -/
def update (credit : Float) (outcome : ReviewOutcome) : Option (Float × RiskContext) :=
  match outcome.state with
  | .accepted => some (credit, outcome.context)
  | .rejected => some (0.0, outcome.context)
  | _ => none

end ReviewOutcome

/-- The records hold the update by which the engine blends an outcome into the author's score, with
reference to the verdict; or they hold none. -/
def Verdict.Records (engine : Engine Float K) (verdict : Verdict) (records : List LedgerRecord) :
    Option (Float × RiskContext) → Prop
  | none => ofType .trustUpdated records = []
  | some (outcome, context) => ∃ (record : IdentityRecord Float) (now : Instant),
      record.id = verdict.identity ∧ ofType .trustUpdated records =
        [(engine.scoreUpdate record outcome context (some verdict.id) now).event]

theorem Verdict.Records.of_config {engine later : Engine Float K} {verdict : Verdict}
    {records : List LedgerRecord} {update : Option (Float × RiskContext)}
    (kept : verdict.Records engine records update) (same : later.config = engine.config) :
    verdict.Records later records update := by
  cases update with
  | none => exact kept
  | some update =>
      obtain ⟨record, now, owned, written⟩ := kept
      refine ⟨record, now, owned, ?_⟩
      unfold Engine.scoreUpdate at written ⊢
      rw [same]
      exact written

/-- A batch records what its commit asks for. -/
theorem Promise.AskedBy.records {promise : Promise} {engine : Engine Float K} {now : Instant}
    {commit : Commit Float} {prepared : PreparedCommit Float} (asked : promise.AskedBy commit)
    (keyed : engine.Keyed) (ready : engine.prepare now commit = .ok prepared) :
    promise.verdict.Records engine prepared.records commit.update := by
  obtain ⟨record, -, found, -, -, -, -, changed, -⟩ := Engine.prepare_cases ready
  have written := (asked.kept keyed ready).1.updates
  rw [changed] at written
  cases given : commit.update with
  | none =>
      rw [given] at written
      exact written
  | some update =>
      have decided : promise.verdict.status ≠ .held := by
        intro held
        rw [asked.held held] at given
        contradiction
      rw [given, (asked.decided decided).2] at written
      exact ⟨record, now, (keyed _ _ found).trans asked.identity, written⟩

/-! ## Reviews -/

/-- What the commit of a verdict asks for. -/
def Emission.update (emission : Emission) : Option (Float × RiskContext) :=
  if emission.verdict.status = .held then none
  else some (if emission.verdict.isPass then 1.0 else 0.0, emission.dossier.context)

theorem Emission.Orderly.update_outcome {mode : Mode} {emission : Emission}
    (orderly : emission.Orderly mode) (score : Float) :
    (emission.outcome score).update 1.0 = emission.update := by
  have context : (emission.outcome score).context = emission.dossier.context := by
    apply if_congr _ rfl rfl
    simp [Emission.outcome, Trail.contains]
  have state : (emission.outcome score).state = emission.verdict.status.state :=
    (orderly.outcome score).state
  rw [ReviewOutcome.update, state, context, update, Verdict.isPass]
  cases emission.verdict.status <;> rfl

namespace Review

def update : Review → Option (Float × RiskContext)
  | .committing emission _ | .writing emission _ | .settling emission _ _ | .filing emission _
  | .publishing emission _ _ => emission.update
  | .finished (.ok outcome) => outcome.update 1.0
  | _ => none

variable {now : Instant} {gate later : Gate K} {review next : Review}

theorem update_of_asking {commit : Commit Float} (asking : next.phase = .asking commit)
    (stepped : step? now gate review = some (next, later)) : commit.update = next.update := by
  have promises : ∃ promise, next.promise? = some promise := by
    rw [← Option.isSome_iff_exists, Option.isSome_iff_ne_none, ne_eq, promise?_eq_none_iff, asking]
    simp
  obtain ⟨promise, promised⟩ := promises
  have before : review.phase = .before := by
    have progress := progress_of_step? stepped
    rw [asking] at progress
    generalize review.phase = phase, later.engine = engine at progress
    cases progress
    rfl
  obtain ⟨dossier, verdict, emitted⟩ :=
    emits_of_step? (promise?_eq_none_iff.mpr before) promised stepped
  unfold Gate.emit at emitted
  split at emitted
  · cases emitted
    contradiction
  · dsimp only at emitted
    split at emitted
    · cases emitted
      contradiction
    · cases emitted
      cases asking
      rfl

theorem Orderly.update_of_step? {mode : Mode} {promise : Promise} (orderly : review.Orderly mode)
    (promised : review.promise? = some promise)
    (stepped : step? now gate review = some (next, later)) (unfailed : next.phase ≠ .before) :
    next.update = review.update := by
  cases step_of_step? stepped with
  | invalid | unknown | stage | lost | queue | grant | scan | check | deepen | learn | emit =>
      contradiction
  | unready | unwritten | unsettled => exact absurd rfl unfailed
  | prepare | write | settle | file => rfl
  | publish applied =>
      rw [Gate.publish_eq] at applied
      split at applied <;> cases applied <;> rfl
  | @finish emission score => exact Emission.Orderly.update_outcome orderly score

end Review

/-! ## Resolutions -/

/-- What the commit of a resolution asks for. -/
def Settlement.update (config : GateConfig) (settlement : Settlement) :
    Option (Float × RiskContext) :=
  some (if settlement.verdict.isPass then config.pipeline.approvalCredit else 0.0, .highRisk)

/-- Units are held after the deep tier, so their outcomes weigh more. -/
theorem Settlement.Orderly.update_outcome {settlement : Settlement}
    (orderly : settlement.Orderly) (config : GateConfig) (score : Float) :
    (settlement.outcome score).update config.pipeline.approvalCredit =
      settlement.update config := by
  have state : (settlement.outcome score).state = settlement.verdict.status.state :=
    (orderly.outcome score).state
  have trail : (settlement.outcome score).trail =
      Tier.approvalGate.passed ++ [settlement.verdict.status.state] := by
    rw [← orderly.tier]
    exact (orderly.outcome score).trail
  have context : (settlement.outcome score).context = .highRisk := by
    apply if_pos
    right
    rw [trail]
    exact List.mem_append_left _ (by decide)
  rw [ReviewOutcome.update, state, context, update, Verdict.isPass]
  cases status : settlement.verdict.status with
  | pass | fail => rfl
  | held => exact absurd status orderly.decided

namespace Resolution

def update (config : GateConfig) : Resolution → Option (Float × RiskContext)
  | .committing settlement _ | .writing settlement _ | .settling settlement _ _
  | .storing settlement _ => settlement.update config
  | .finished (.ok outcome) => outcome.update config.pipeline.approvalCredit
  | _ => none

variable {now : Instant} {gate later : Gate K} {resolution next : Resolution}

theorem update_of_asking {commit : Commit Float} (asking : next.phase = .asking commit)
    (stepped : step? now gate resolution = some (next, later)) :
    commit.update = next.update gate.config := by
  cases step_of_step? stepped with
  | @claim ruling resolved approvals next later claimed finalized =>
      unfold Gate.finalize at finalized
      split at finalized
      · cases finalized
        contradiction
      · dsimp only at finalized
        split at finalized
        · cases finalized
          contradiction
        · cases finalized
          cases asking
          rfl
  | refuse | unready | prepare | unwritten | write | unsettled | settle | store => contradiction

theorem Orderly.update_of_step? {promise : Promise} (orderly : resolution.Orderly)
    (promised : resolution.promise? = some promise)
    (stepped : step? now gate resolution = some (next, later)) (unfailed : next.phase ≠ .before)
    (config : GateConfig) : next.update config = resolution.update config := by
  cases step_of_step? stepped with
  | refuse | claim => contradiction
  | unready | unwritten | unsettled => exact absurd rfl unfailed
  | prepare | write | settle => rfl
  | @store settlement score => exact Settlement.Orderly.update_outcome orderly config score

end Resolution

/-! ## What calls have written -/

namespace Call

/-- The trail that a call has reported. -/
def trail? (call : Call) : Option (List ReviewState) :=
  call.result?.bind fun result => result.toOption.map (·.trail)

/-- What a call has on record for the author when it succeeds. -/
def update (config : GateConfig) : Call → Option (Float × RiskContext)
  | .review _ course => course.update
  | .resolution _ course => course.update config

/-- The records hold the update of the call. -/
def Credits (engine : Engine Float K) (config : GateConfig) (call : Call)
    (records : List LedgerRecord) : Prop :=
  ∃ promise, call.promise? = some promise ∧
    promise.verdict.Records engine records (call.update config)

/-- What a call has written for the author, by how far it has come. -/
def Writes (engine : Engine Float K) (config : GateConfig) (call : Call)
    (records : List LedgerRecord) : Prop :=
  match call.phase with
  | .before => records = []
  | .asking commit => records = [] ∧ commit.update = call.update config
  | .writing prepared => records = [] ∧ call.Credits engine config prepared.records
  | .settling prepared =>
      records = prepared.records ∧ call.Credits engine config prepared.records
  | .after => call.Credits engine config records

variable {engine : Engine Float K} {config : GateConfig} {now : Instant} {gate later : Gate K}
  {call next : Call} {records : List LedgerRecord}

theorem Credits.of_config {other : Engine Float K} (credits : call.Credits engine config records)
    (same : other.config = engine.config) : call.Credits other config records := by
  obtain ⟨promise, promised, kept⟩ := credits
  exact ⟨promise, promised, kept.of_config same⟩

theorem Writes.of_config {other : Engine Float K} (writes : call.Writes engine config records)
    (same : other.config = engine.config) : call.Writes other config records := by
  unfold Writes at writes ⊢
  split at writes
  · exact writes
  · exact writes
  · exact ⟨writes.1, writes.2.of_config same⟩
  · exact ⟨writes.1, writes.2.of_config same⟩
  · exact Credits.of_config writes same

theorem update_of_asking {commit : Commit Float} (asking : next.phase = .asking commit)
    (stepped : call.step? now gate = some (next, later)) :
    commit.update = next.update gate.config := by
  rcases step?_cases stepped with
    ⟨unit, course, following, rfl, rfl, taken⟩ | ⟨ruling, course, following, rfl, rfl, taken⟩
  · exact Review.update_of_asking asking taken
  · exact Resolution.update_of_asking asking taken

theorem Credits.of_step? {mode : Mode} (orderly : call.Orderly mode)
    (credits : call.Credits engine config records)
    (stepped : call.step? now gate = some (next, later)) (unfailed : next.phase ≠ .before) :
    next.Credits engine config records := by
  obtain ⟨promise, promised, kept⟩ := credits
  refine ⟨promise, promise?_of_step? promised stepped unfailed, ?_⟩
  have same : next.update config = call.update config := by
    rcases step?_cases stepped with
      ⟨unit, course, following, rfl, rfl, taken⟩ | ⟨ruling, course, following, rfl, rfl, taken⟩
    · exact Review.Orderly.update_of_step? orderly promised taken unfailed
    · exact Resolution.Orderly.update_of_step? orderly promised taken unfailed config
  rw [same]
  exact kept

theorem writes_of_isFresh (fresh : call.IsFresh) : call.Writes engine config [] := by
  unfold Writes
  rw [phase_of_isFresh fresh]

/-- Before its commit a call writes nothing. -/
theorem writes_of_isEarly (early : next.phase.IsEarly)
    (stepped : call.step? now gate = some (next, later)) :
    next.Writes engine gate.config [] := by
  unfold Writes
  rcases early with before | ⟨commit, asking⟩
  · rw [before]
  · rw [asking]
    exact ⟨rfl, update_of_asking asking stepped⟩

/-- A step of a call writes the batch that the call has prepared, or nothing. -/
theorem Writes.step (writes : call.Writes gate.engine gate.config records)
    (keyed : gate.engine.Keyed)
    (recorded : ∀ identity, call.phase.held? = some identity →
      (gate.engine.record? identity).isSome = true)
    (belongs : call.Of gate.config) (orderly : call.Orderly gate.config.mode)
    (stepped : call.step? now gate = some (next, later)) :
    ∃ added, later.engine.ledger = gate.engine.ledger.append added ∧
      next.Writes gate.engine gate.config (records ++ added) := by
  have progress := progress_of_step? stepped
  generalize origin : call.phase = phase at progress
  generalize target : next.phase = following at progress
  generalize reached : later.engine = engine at progress
  have nothing := (Ledger.append_nil gate.engine.ledger).symm
  unfold Writes at writes
  rw [origin] at writes
  cases progress with
  | quiet early =>
      cases writes
      exact ⟨[], nothing, writes_of_isEarly (target ▸ early) stepped⟩
  | unready =>
      obtain ⟨rfl, -⟩ := writes
      exact ⟨[], nothing, writes_of_isEarly (.inl target) stepped⟩
  | @prepared moment commit prepared free ready =>
      obtain ⟨rfl, update⟩ := writes
      obtain ⟨promise, promised, asked⟩ := asks_of_phase belongs origin
      have recording := asked.records keyed ready
      rw [update] at recording
      have credits : call.Credits gate.engine gate.config prepared.records :=
        ⟨promise, promised, recording⟩
      refine ⟨[], nothing, ?_⟩
      unfold Writes
      rw [target]
      exact ⟨rfl, credits.of_step? orderly stepped (by rw [target]; nofun)⟩
  | refused refused =>
      obtain ⟨rfl, -⟩ := writes
      exact ⟨[], nothing, writes_of_isEarly (.inl target) stepped⟩
  | @written prepared accepted =>
      obtain ⟨rfl, credits⟩ := writes
      refine ⟨prepared.records, rfl, ?_⟩
      unfold Writes
      rw [target]
      exact ⟨rfl, credits.of_step? orderly stepped (by rw [target]; nofun)⟩
  | @lost prepared missing =>
      -- What a call holds is the record of somebody, so it is found.
      have found := recorded prepared.identity (by rw [origin]; rfl)
      rw [missing] at found
      contradiction
  | @settled prepared record found =>
      obtain ⟨rfl, credits⟩ := writes
      refine ⟨[], ?_, ?_⟩
      · rw [Ledger.append_nil]
        exact Engine.ledger_settled gate.engine record prepared
      · unfold Writes
        rw [target, List.append_nil]
        exact credits.of_step? orderly stepped (by rw [target]; nofun)
  | trailing =>
      refine ⟨[], nothing, ?_⟩
      unfold Writes
      rw [target, List.append_nil]
      exact Credits.of_step? orderly writes stepped (by rw [target]; nofun)

end Call

/-! ## What the calls of a system have written -/

namespace System

variable {system later : System K}

/-- What one writer adds is no work of another. -/
theorem written_moved_of_ne {writer other : Option Nat} (different : writer ≠ other)
    (gate : Gate K) : (system.moved writer gate).written other = system.written other := by
  have none : ∀ entries : List LedgerEntry, (entries.map fun entry => (writer, entry)).filter
      (fun entry => entry.1 = other) = [] := by
    intro entries
    simp [List.filter_eq_nil_iff, different]
  rw [written, written, moved, List.filter_append, none, List.append_nil]

variable [KeyProvider K] {permitted : Gate.Operation → Prop}

theorem Move.writers (moves : Move permitted system later)
    (writers : ∀ index entry, (some index, entry) ∈ system.log → index < system.calls.length) :
    ∀ index entry, (some index, entry) ∈ later.log → index < later.calls.length := by
  intro index entry membership
  cases moves with
  | submit fresh =>
      rw [List.length_append]
      exact Nat.lt_add_right _ (writers index entry membership)
  | @step writer call next now gate found stepped =>
      rw [List.length_set]
      rcases List.mem_append.mp membership with old | new
      · exact writers index entry old
      · obtain ⟨_, -, same⟩ := List.mem_map.mp new
        cases same
        exact (List.getElem?_eq_some_iff.mp found).1
  | operate now allowed free =>
      rcases List.mem_append.mp membership with old | new
      · exact writers index entry old
      · obtain ⟨_, -, same⟩ := List.mem_map.mp new
        cases same
  | refuse | serve | wait => exact writers index entry membership

theorem writers_of_reachable (reached : system.Reachable permitted) :
    ∀ index entry, (some index, entry) ∈ system.log → index < system.calls.length := by
  induction reached with
  | start engineStarted gateStarted => simp
  | move before moves writers => exact moves.writers writers

/-- What holds of new calls, which have written nothing, and is kept by the step of a move holds of
what all calls have written after it. -/
theorem Move.forall_written (moves : Move permitted system later)
    (writers : ∀ index entry, (some index, entry) ∈ system.log → index < system.calls.length)
    {property : Call → List LedgerRecord → Prop}
    (holds : ∀ (index : Nat) (call : Call), system.calls[index]? = some call →
      property call (system.written (some index)))
    (fresh : ∀ call, call.IsFresh → property call [])
    (kept : ∀ (now : Instant) (call next : Call) (records : List LedgerRecord),
      call ∈ system.calls → property call records →
      call.step? now system.gate = some (next, later.gate) →
      ∃ added, later.gate.engine.ledger = system.gate.engine.ledger.append added ∧
        property next (records ++ added)) :
    ∀ (index : Nat) (call : Call), later.calls[index]? = some call →
      property call (later.written (some index)) := by
  intro index other present
  cases moves with
  | @submit call new =>
      rcases Nat.lt_or_ge index system.calls.length with below | beyond
      · rw [List.getElem?_append_left below] at present
        exact holds index other present
      · rw [List.getElem?_append_right beyond] at present
        rw [List.mem_singleton.mp (List.mem_of_getElem? present)]
        have nothing := written_of_length_le writers beyond
        exact nothing.symm ▸ fresh call new
  | @step writer call next now gate found stepped =>
      obtain ⟨added, ledger, keeps⟩ := kept now call next _ (List.mem_of_getElem? found)
        (holds writer call found) stepped
      have grown : gate.engine.ledger = system.gate.engine.ledger.append added := ledger
      change property other ((system.moved (some writer) gate).written (some index))
      by_cases here : writer = index
      · subst here
        rw [List.getElem?_set_self (List.getElem?_eq_some_iff.mp found).1] at present
        cases present
        rw [written_moved grown, if_pos rfl]
        exact keeps
      · have apart : some writer ≠ some index := by simpa using here
        rw [List.getElem?_set_ne here] at present
        rw [written_moved_of_ne apart gate]
        exact holds index other present
  | @operate operation now allowed free =>
      have apart : (none : Option Nat) ≠ some index := nofun
      rw [written_moved_of_ne apart (system.gate.perform now operation)]
      exact holds index other present
  | refuse | serve | wait => exact holds index other present

theorem Move.trust (moves : Move permitted system later) :
    later.gate.engine.config = system.gate.engine.config := by
  cases moves with
  | submit | refuse | serve | wait => rfl
  | step found stepped => exact (Call.progress_of_step? stepped).config
  | @operate operation now allowed free =>
      rcases Gate.perform_cases system.gate now operation with
        ⟨asked, rfl, -⟩ | ⟨records, change⟩
      · have kept : (system.gate.engine.perform now asked).config = system.gate.engine.config := by
          rcases Engine.perform_cases now free with ⟨keys, same⟩ | ⟨_, _, _, _, -, same⟩
          · rw [same]
          · rw [same]
            rfl
        exact kept
      · have kept : (system.gate.perform now operation).engine.config =
            system.gate.engine.config := by
          rw [change.engine]
        exact kept

theorem writes_of_reachable (reached : system.Reachable permitted) :
    ∀ (index : Nat) (call : Call), system.calls[index]? = some call →
      call.Writes system.gate.engine system.gate.config (system.written (some index)) := by
  induction reached with
  | start engineStarted gateStarted => simp
  | @move system later before moves writes =>
      have config : later.gate.config = system.gate.config :=
        moves.config
      have recorded := recorded_of_reachable before
      have belongs := belongs_of_reachable before
      have orderly := (orderly_of_reachable before).calls
      have written := moves.forall_written (writers_of_reachable before) writes
        (fun _ fresh => Call.writes_of_isFresh fresh)
        fun _ call _ _ present kept stepped => kept.step recorded.keyed
          (recorded.held call present) (belongs call present) (orderly call present) stepped
      intro index call found
      rw [config]
      exact (written index call found).of_config moves.trust

omit [KeyProvider K] in
/-- What trails, verdicts and the ledger say of the calls of a system. -/
structure Coherent (system : System K) : Prop where
  reviews : ∀ (index : Nat) (unit : CodeUnit) (outcome : ReviewOutcome),
    system.calls[index]? = some (.review unit (.finished (.ok outcome))) →
      outcome.Coherent ∧ outcome.tier? system.gate.config.mode = some outcome.verdict.tier ∧
      outcome.verdict.Records system.gate.engine (system.written (some index))
        (outcome.update 1.0)
  resolutions : ∀ (index : Nat) (ruling : Ruling) (outcome : ReviewOutcome),
    system.calls[index]? = some (.resolution ruling (.finished (.ok outcome))) →
      outcome.Coherent ∧ outcome.verdict.tier = .approvalGate ∧
      outcome.verdict.Records system.gate.engine (system.written (some index))
        (outcome.update system.gate.config.pipeline.approvalCredit)
  failures : ∀ call ∈ system.calls, ∀ source target : ReviewState,
    call.result? ≠ some (.error (.invalidTransition source target))

/-- However calls are interleaved and whatever else is asked of the gate, every outcome has a trail
without gaps and repetitions that ends in its state, a verdict that fits the trail, and the outcome
for the author on record that fits both; and no call fails for want of a way between states. -/
theorem coherent_of_reachable (reached : system.Reachable permitted) : system.Coherent := by
  obtain ⟨-, orderly⟩ := orderly_of_reachable reached
  have writes := writes_of_reachable reached
  refine ⟨?_, ?_, ?_⟩
  · intro index unit outcome found
    obtain ⟨reaches, fits⟩ := orderly _ (List.mem_of_getElem? found)
    obtain ⟨promise, promised, recorded⟩ := writes index _ found
    cases promised
    exact ⟨fits.coherent reaches.canPassTo, fits.tier?_eq reaches, recorded⟩
  · intro index ruling outcome found
    obtain ⟨tier, decided, fits⟩ := orderly _ (List.mem_of_getElem? found)
    obtain ⟨promise, promised, recorded⟩ := writes index _ found
    cases promised
    refine ⟨fits.coherent ?_, tier, recorded⟩
    rw [tier]
    cases status : outcome.verdict.status with
    | held => exact absurd status decided
    | pass | fail => rfl
  · intro call present source target failed
    exact (orderly call present).not_isInvalidTransition failed ⟨source, target, rfl⟩

open ReviewGate.Small in
/-- A critical unit that nobody can verify is held, and somebody else rejects it. -/
theorem coherent_rejected : ∃ (system : System LocalKeys) (held rejected : Call),
    system.Reachable (fun _ => True) ∧ system.calls = [held, rejected] ∧
      held.trail? = some [.submitted, .tier1, .tier2, .tier3, .pendingApproval] ∧
      rejected.trail? = some [.submitted, .tier1, .tier2, .tier3, .pendingApproval, .rejected] ∧
      system.Coherent := by
  let critical : CodeUnit := { Small.unit with critical := some true }
  let review : Call := .review critical (.submitted critical)
  let ruling : Ruling := ⟨"approval-1", "bob", .reject, "too risky"⟩
  let resolution : Call := .resolution ruling (.submitted ruling)
  let gate : Gate LocalKeys := gateWith strict .empty none staffed
  have valid : strict.validate = .ok () := by rfl
  have started : System.Reachable (fun _ => True) ⟨gate, [], registered⟩ :=
    reachable_with valid (by decide) .empty none trivial
  have submitted := started.move (.submit (show review.IsFresh from rfl))
  have ends : ((review.advance? now 10 gate).bind fun held =>
      (resolution.advance? now 5 held.2).map fun answer => (held.1.trail?, answer.1.trail?)) =
      some (some [.submitted, .tier1, .tier2, .tier3, .pendingApproval],
        some [.submitted, .tier1, .tier2, .tier3, .pendingApproval, .rejected]) := by
    decide +kernel
  obtain ⟨⟨held, middle⟩, advanced, rest⟩ := Option.bind_eq_some_iff.mp ends
  obtain ⟨⟨rejected, later⟩, continued, same⟩ := Option.map_eq_some_iff.mp rest
  injection same with ofReview ofResolution
  obtain ⟨holding, reached, rfl, calls⟩ := reachable_of_advance? submitted rfl advanced
  let asking : System LocalKeys := { holding with calls := holding.calls ++ [resolution] }
  have asked : asking.Reachable fun _ => True :=
    reached.move (.submit (show resolution.IsFresh from rfl))
  have second : asking.calls[1]? = some resolution := by simp [asking, calls]
  have begun : Alone 1 asking asking := .refl
  obtain ⟨last, alone, -, changed⟩ := alone_of_advance? begun second continued
  have arrived := asked.alone alone
  refine ⟨last, held, rejected, arrived, ?_, ofReview, ofResolution,
    coherent_of_reachable arrived⟩
  simp [changed, asking, calls]

end System

end ReviewGate
