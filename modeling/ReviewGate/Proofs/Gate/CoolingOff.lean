import ReviewGate.Proofs.Gate.FailClosed
import ReviewGate.Proofs.Gate.Records

/-!
# Cooling off while reviews wait

A review reads the cooling-off of its author once, before it waits for a permit, and goes by what it
has read.  While it waits others may send its author into a window, so its reading can be out of
date by the time of its permit; it is so only where an entry has been written in between.
-/

namespace ReviewGate

variable {K : Type}

/-! ## Readings -/

theorem Instant.not_lt_of_le {first second deadline : Instant} (le : first ≤ second)
    (past : ¬ first < deadline) : ¬ second < deadline := by
  have back : second.before first = false := le
  have ended : first.before deadline = false := Bool.eq_false_iff.mpr past
  intro ahead
  have early : second.before deadline = true := ahead
  simp only [before, Bool.or_eq_true, Bool.and_eq_true, decide_eq_true_eq, Bool.or_eq_false_iff,
    Bool.and_eq_false_iff, decide_eq_false_iff_not] at back ended early
  omega

namespace Engine

/-- Only the window of an identity decides whether it is cooling off. -/
theorem isCoolingOff_eq_ok_iff {engine : Engine Float K} {identity : String} {now : Instant}
    {answer : Bool} :
    engine.isCoolingOff identity now = .ok answer ↔
      (engine.record? identity).isSome = true ∧
        ((engine.coolingOffUntil? identity).any fun deadline => decide (now < deadline)) =
          answer := by
  unfold isCoolingOff Engine.identity coolingOffUntil?
  cases engine.record? identity with
  | none => simp [Except.map]
  | some record => simp [Except.map, IdentityRecord.isCoolingOff]

theorem isCoolingOff_of_le {engine later : Engine Float K} {identity : String}
    {readAt now : Instant} (read : engine.isCoolingOff identity readAt = .ok false)
    (known : (later.record? identity).isSome = true)
    (window : later.coolingOffUntil? identity = engine.coolingOffUntil? identity)
    (le : readAt ≤ now) : later.isCoolingOff identity now = .ok false := by
  obtain ⟨-, ended⟩ := isCoolingOff_eq_ok_iff.mp read
  apply isCoolingOff_eq_ok_iff.mpr
  refine ⟨known, ?_⟩
  rw [window]
  cases deadline : engine.coolingOffUntil? identity with
  | none => rfl
  | some deadline =>
      rw [deadline] at ended
      simp only [Option.any_some, decide_eq_false_iff_not] at ended ⊢
      exact Instant.not_lt_of_le le ended

end Engine

/-! ## Windows -/

/-- A commit that waits to be written tells of the window that it opens. -/
def Phase.Tells : Phase → Prop
  | .writing prepared => prepared.coolingOffUntil.isSome = true →
      LedgerRecord.EnterCoolingOff prepared.identity prepared.records
  | _ => True

theorem Engine.Progress.tells {engine later : Engine Float K} {phase next : Phase}
    (progress : engine.Progress phase next later) : next.Tells := by
  cases progress with
  | quiet early =>
      rcases early with rfl | ⟨commit, rfl⟩
      · trivial
      · trivial
  | prepared free ready => exact enterCoolingOff_of_prepare ready
  | unready | refused | written | lost | settled | trailing => trivial

namespace System

variable {first system later : System K} {identity : String}

/-- The window of a known identity ends there, and no commit is about to change it. -/
structure Steady (identity : String) (deadline : Option Instant) (system : System K) : Prop where
  known : (system.gate.engine.record? identity).isSome = true
  window : system.gate.engine.coolingOffUntil? identity = deadline
  settling : ∀ call ∈ system.calls, ∀ prepared, call.phase = .settling prepared →
    prepared.identity = identity → prepared.coolingOffUntil = none

/-- Since another system something has been written.  Either it enters the identity into a window,
or the window of the identity is as it was. -/
def Since (first : System K) (identity : String) (system : System K) : Prop :=
  ∃ added, system.gate.engine.ledger.records = first.gate.engine.ledger.records ++ added ∧
    (LedgerRecord.EnterCoolingOff identity added ∨
      system.Steady identity (first.gate.engine.coolingOffUntil? identity))

theorem Since.grow (since : first.Since identity system) {added : List LedgerRecord}
    (ledger : later.gate.engine.ledger = system.gate.engine.ledger.append added)
    (next : ∀ deadline, system.Steady identity deadline →
      LedgerRecord.EnterCoolingOff identity added ∨ later.Steady identity deadline) :
    first.Since identity later := by
  obtain ⟨earlier, written, decided⟩ := since
  refine ⟨earlier ++ added, ?_, ?_⟩
  · rw [ledger, Ledger.records_append, written, List.append_assoc]
  · rcases decided with entered | steady
    · exact .inl (entered.mono (List.subset_append_left ..))
    · rcases next _ steady with enters | steady
      · exact .inl (enters.mono (List.subset_append_right ..))
      · exact .inr steady

/-- Nothing is written, and what was steady stays so. -/
theorem Since.idle (since : first.Since identity system)
    (ledger : later.gate.engine.ledger = system.gate.engine.ledger)
    (stays : ∀ deadline, system.Steady identity deadline → later.Steady identity deadline) :
    first.Since identity later := by
  have grown : later.gate.engine.ledger = system.gate.engine.ledger.append [] := by
    rw [ledger, Ledger.append_nil]
  exact since.grow grown fun deadline steady => .inr (stays deadline steady)

theorem Since.step (since : first.Since identity system) (recorded : system.Recorded)
    (tells : ∀ call ∈ system.calls, call.phase.Tells) {index : Nat} {call next : Call}
    {now : Instant} {gate : Gate K} (found : system.calls[index]? = some call)
    (stepped : call.step? now system.gate = some (next, gate)) :
    first.Since identity
      { system.moved (some index) gate with calls := system.calls.set index next } := by
  have progress := Call.progress_of_step? stepped
  have present := List.mem_of_getElem? found
  have stays : ∀ deadline, system.Steady identity deadline →
      (∀ prepared, next.phase = .settling prepared → prepared.identity = identity →
        prepared.coolingOffUntil = none) →
      Steady identity deadline
        { system.moved (some index) gate with calls := system.calls.set index next } := by
    intro deadline ⟨known, window, settling⟩ quiet
    refine ⟨progress.retains recorded.keyed identity known, ?_, ?_⟩
    · rw [← window]
      rcases progress.record? recorded.keyed identity with
        same | ⟨prepared, record, phase, about, there, settled⟩
      · exact congrArg (Option.bind · _) same
      · have silent := settling call present prepared phase about
        have after : gate.engine.coolingOffUntil? identity = record.coolingOffUntil := by
          rw [Engine.coolingOffUntil?_eq settled, Engine.coolingOffUntil_settledRecord, silent,
            Option.none_or]
        exact after.trans (Engine.coolingOffUntil?_eq there).symm
    · intro other membership
      rcases List.mem_or_eq_of_mem_set membership with old | rfl
      · exact settling other old
      · exact quiet
  -- A commit that opens a window comes to be settled only together with its entry.
  rcases progress.ledger with ⟨same, unsettled⟩ | ⟨prepared, writing, wrote, ledger⟩
  · refine since.idle same fun deadline steady => stays deadline steady ?_
    intro prepared settling
    exact absurd settling (unsettled prepared)
  · refine since.grow ledger fun deadline steady => ?_
    cases opens : prepared.coolingOffUntil with
    | none =>
        refine .inr (stays deadline steady ?_)
        intro other settling _
        rw [wrote] at settling
        cases settling
        exact opens
    | some ends =>
        by_cases about : prepared.identity = identity
        · have told := tells call present
          rw [writing] at told
          have enters := told (by rw [opens]; rfl)
          rw [about] at enters
          exact .inl enters
        · refine .inr (stays deadline steady ?_)
          intro other settling here
          rw [wrote] at settling
          cases settling
          exact absurd here about

theorem Locked.since_self (locked : first.Locked)
    (free : first.gate.engine.isHeld identity = false)
    (known : (first.gate.engine.record? identity).isSome = true) : first.Since identity first := by
  refine ⟨[], (List.append_nil _).symm, .inr ⟨known, rfl, ?_⟩⟩
  intro call present prepared settling about
  refine absurd ?_ (locked.free free present)
  rw [settling, ← about]
  rfl

variable [KeyProvider K] {permitted : Gate.Operation → Prop}

theorem Since.operate (since : first.Since identity system) (recorded : system.Recorded)
    (now : Instant) {operation : Gate.Operation} (free : operation.IsFree system.gate.engine) :
    first.Since identity (system.moved none (system.gate.perform now operation)) := by
  rcases Gate.perform_cases system.gate now operation with ⟨asked, rfl, -⟩ | ⟨records, change⟩
  · obtain ⟨records, ⟨ledger, retains, windows⟩, -⟩ :=
      Engine.written_perform recorded.keyed now free
    refine since.grow ledger fun deadline steady => ?_
    rcases windows identity with same | enters
    · exact .inr ⟨retains identity steady.known, same.trans steady.window, steady.settling⟩
    · exact .inl enters
  · have ledger : (system.gate.perform now operation).engine.ledger =
        system.gate.engine.ledger.append records := by
      rw [change.engine]
    have same : (system.gate.perform now operation).engine.record? identity =
        system.gate.engine.record? identity := by
      rw [change.engine]
      rfl
    refine since.grow ledger fun deadline steady => .inr ⟨?_, ?_, steady.settling⟩
    · exact (congrArg Option.isSome same).trans steady.known
    · exact (congrArg (Option.bind · _) same).trans steady.window

theorem Since.move (since : first.Since identity system) (recorded : system.Recorded)
    (tells : ∀ call ∈ system.calls, call.phase.Tells) (moves : Move permitted system later) :
    first.Since identity later := by
  cases moves with
  | submit fresh =>
      refine since.idle rfl fun deadline ⟨known, window, settling⟩ => ⟨known, window, ?_⟩
      intro call membership
      rcases List.mem_append.mp membership with old | new
      · exact settling call old
      · rw [List.mem_singleton.mp new, Call.phase_of_isFresh fresh]
        simp
  | step found stepped => exact since.step recorded tells found stepped
  | operate now allowed free => exact since.operate recorded now free
  | refuse | serve | wait =>
      exact since.idle rfl fun deadline ⟨known, window, settling⟩ => ⟨known, window, settling⟩

theorem tells_of_reachable (reached : system.Reachable permitted) :
    ∀ call ∈ system.calls, call.phase.Tells := by
  have fresh : ∀ call : Call, call.IsFresh → call.phase.Tells := by
    intro call fresh
    rw [Call.phase_of_isFresh fresh]
    trivial
  exact reached.forall_calls fresh fun _ _ _ _ _ _ stepped =>
    (Call.progress_of_step? stepped).tells

end System

/-! ## What a review makes of its reading -/

/-- Whoever passes by the scan alone is not cooling off. -/
def Opinion.Heeds (coolingOff : Bool) (opinion : Opinion) : Prop :=
  opinion.status = .pass → opinion.tier = .scan → coolingOff = false

def Verdict.Heeds (coolingOff : Bool) (verdict : Verdict) : Prop :=
  verdict.status = .pass → verdict.tier = .scan → coolingOff = false

namespace Dossier

variable {dossier : Dossier} {config : GateConfig}

theorem heeds_afterScan {report : ScanReport Float} {opinion : Opinion}
    (formed : (dossier.afterScan config report).2 = some opinion) :
    opinion.Heeds dossier.coolingOff := by
  have kept : ∀ findings : List Finding, (findings.foldl (fun dossier finding =>
      dossier.warn (findingWarning finding)) dossier).coolingOff = dossier.coolingOff := by
    intro findings
    apply List.foldlRecOn (motive := fun later : Dossier => later.coolingOff = dossier.coolingOff)
    · rfl
    · exact fun later same _ _ => same
  intro passes scanned
  unfold afterScan at formed
  split at formed
  · cases formed
    contradiction
  · dsimp only at formed
    split at formed
    · cases formed
      contradiction
    · split at formed
      · contradiction
      · rename_i steady
        rw [kept] at steady
        exact Bool.eq_false_iff.mpr steady

theorem tier_afterContracts {answer : Option (Except ServiceError ContractReport)}
    {opinion : Opinion} (formed : (dossier.afterContracts config answer).2 = some opinion) :
    opinion.tier = .contracts := by
  unfold afterContracts withoutChecker at formed
  split at formed
  · split at formed <;> cases formed
    rfl
  · split at formed <;> cases formed
    rfl
  · split at formed <;> cases formed
    rfl

theorem tier_afterDeep (result : DeepResult) : (dossier.afterDeep result).2.1.tier = .deep := by
  cases result with
  | pass => rfl
  | fail violations =>
      simp only [afterDeep, deepFailureOpinion]
      split <;> rfl
  | unavailable reason =>
      simp only [afterDeep, withoutDeep]
      split <;> rfl

end Dossier

theorem Opinion.heeds_of_tier {opinion : Opinion} {tier : Tier} (formed : opinion.tier = tier)
    (later : tier ≠ .scan) (coolingOff : Bool) : opinion.Heeds coolingOff := by
  intro _ scanned
  exact absurd (formed.symm.trans scanned) later

namespace Review

/-- A review that has scanned its unit goes by a reading. -/
def Heeds (coolingOff : Bool) : Review → Prop
  | .submitted _ | .staged .. | .queued .. | .admitted .. => False
  | .checking .. | .deepening .. | .finished (.error _) => True
  | .learning _ verdict _ => verdict.Heeds coolingOff
  | .committing emission _ | .writing emission _ | .settling emission _ _ | .filing emission _
  | .publishing emission _ _ => emission.verdict.Heeds coolingOff
  | .finished (.ok outcome) => outcome.verdict.Heeds coolingOff

end Review

namespace Gate

variable {gate : Gate K} {coolingOff : Bool}

theorem heeds_concludeDeep (gate : Gate K) (now : Instant) (dossier : Dossier)
    (result : Dossier.DeepResult) (coolingOff : Bool) :
    (gate.concludeDeep now dossier result).1.Heeds coolingOff :=
  Opinion.heeds_of_tier (Dossier.tier_afterDeep result) (by decide) coolingOff

theorem heeds_leaveContracts (now : Instant) (dossier : Dossier) {opinion : Option Opinion}
    (formed : ∀ some, opinion = .some some → some.tier = .contracts) :
    (gate.leaveContracts now dossier opinion).1.Heeds coolingOff := by
  unfold leaveContracts
  split
  · exact Opinion.heeds_of_tier (formed _ rfl) (by decide) coolingOff
  · split
    · split
      · unfold askVerifier
        split
        · exact gate.heeds_concludeDeep now _ _ coolingOff
        · split
          · exact gate.heeds_concludeDeep now _ _ coolingOff
          · trivial
      · trivial
    · have checked : dossier.contractsHoldOpinion.tier = .contracts := rfl
      exact Opinion.heeds_of_tier checked (by decide) coolingOff

theorem heeds_scanUnit (gate : Gate K) (now : Instant) (unit : CodeUnit) (stage : Stage)
    (coolingOff : Bool) : (gate.scanUnit now unit stage coolingOff).1.Heeds coolingOff := by
  unfold scanUnit
  dsimp only
  split
  · rename_i opinion formed
    exact Dossier.heeds_afterScan formed
  · split
    · unfold askChecker
      dsimp only
      split
      · exact heeds_leaveContracts now _ (by simp)
      · trivial
    · trivial

theorem heeds_emit (now : Instant) (dossier : Dossier) {verdict : Verdict}
    (heeds : verdict.Heeds coolingOff) : (gate.emit now dossier verdict).1.Heeds coolingOff := by
  unfold emit
  split
  · trivial
  · dsimp only
    split
    · trivial
    · exact heeds

theorem verdict_publish (gate : Gate K) (emission : Emission) (proposal : Proposal) :
    (gate.publish emission proposal).1.verdict = emission.verdict := by
  rw [publish_eq]
  split <;> rfl

end Gate

namespace Review

/-- A review keeps to the reading that it went by at its scan. -/
theorem Heeds.step {coolingOff : Bool} {now : Instant} {gate later : Gate K}
    {review next : Review} (heeds : review.Heeds coolingOff)
    (stepped : review.step? now gate = some (next, later)) : next.Heeds coolingOff := by
  cases step_of_step? stepped with
  | invalid | unknown | stage | lost | queue | grant | scan => exact heeds.elim
  | @check dossier due answer next later elapsed left =>
      have kept : (gate.leaveContracts now (dossier.afterContracts gate.config answer).1
          (dossier.afterContracts gate.config answer).2).1.Heeds coolingOff :=
        Gate.heeds_leaveContracts now _ fun _ => Dossier.tier_afterContracts
      rwa [left] at kept
  | @deepen dossier due answer next later elapsed concluded =>
      have kept := gate.heeds_concludeDeep now dossier (Dossier.deepResult gate.config answer)
        coolingOff
      rwa [concluded] at kept
  | @emit dossier verdict next later emitted =>
      have kept : (gate.emit now dossier verdict).1.Heeds coolingOff :=
        Gate.heeds_emit now dossier heeds
      rwa [emitted] at kept
  | unready | unwritten | unsettled => trivial
  | learn | prepare | write | settle | file | finish => exact heeds
  | @publish emission published score proposal left later applied =>
      have kept := gate.verdict_publish emission proposal
      rw [applied] at kept
      have heeds : published.verdict.Heeds coolingOff := kept ▸ heeds
      exact heeds

end Review

/-! ## Runs -/

namespace System

/-- One move after another, from a system in which no call has taken a step.  Where nothing is left
to be done, a run goes on waiting. -/
structure Run [KeyProvider K] (permitted : Gate.Operation → Prop) (run : Nat → System K) :
    Prop where
  begun : (run 0).Reachable permitted
  fresh : ∀ call ∈ (run 0).calls, call.IsFresh
  moves : ∀ moment, Move permitted (run moment) (run (moment + 1))

/-- At one moment of a run a review reads whether its author is cooling off, whose record nobody
holds, and until another moment it is queued with what it has read. -/
structure Queues (run : Nat → System K) (index : Nat) (unit : CodeUnit) (stage : Stage)
    (coolingOff : Bool) (ticket : Nat) (reading : Nat) (readAt : Instant) (last : Nat) :
    Prop where
  staged : (run reading).calls[index]? = some (.review unit (.staged unit stage))
  free : (run reading).gate.engine.isHeld unit.author = false
  read : (run reading).gate.engine.isCoolingOff unit.author readAt = .ok coolingOff
  queued : ∀ moment, reading < moment → moment ≤ last →
    (run moment).calls[index]? = some (.review unit (.queued unit stage coolingOff ticket))

/-- A review that has read whether its author is cooling off waits, and then it has its permit. -/
structure Admits (run : Nat → System K) (index : Nat) (unit : CodeUnit) (coolingOff : Bool)
    (ticket : Nat) (reading : Nat) (readAt : Instant) (admission : Nat) : Prop where
  ordered : reading < admission
  granted : (run admission).gate.permits.isGranted ticket = true
  waited : ∃ stage, Queues run index unit stage coolingOff ticket reading readAt admission ∧
    (run (admission + 1)).calls[index]? = some (.review unit (.admitted unit stage coolingOff))

variable [KeyProvider K] {permitted : Gate.Operation → Prop} {run : Nat → System K} {index : Nat}
  {unit : CodeUnit}

theorem Run.reachable (runs : Run permitted run) (moment : Nat) :
    (run moment).Reachable permitted := by
  induction moment with
  | zero => exact runs.begun
  | succ moment reached => exact reached.move (runs.moves moment)

theorem Run.since (runs : Run permitted run) {reading : Nat} {identity : String}
    (free : (run reading).gate.engine.isHeld identity = false)
    (known : ((run reading).gate.engine.record? identity).isSome = true) {moment : Nat}
    (later : reading ≤ moment) : (run reading).Since identity (run moment) := by
  induction later with
  | refl => exact (locked_of_reachable (runs.reachable reading)).since_self free known
  | @step moment later since =>
      have reached := runs.reachable moment
      exact since.move (recorded_of_reachable reached) (tells_of_reachable reached)
        (runs.moves moment)

end System

namespace Review

open ReviewGate.System

/-- What a run tells of a review that has come so far. -/
def Tracked (run : Nat → System K) (index : Nat) (unit : CodeUnit) (moment : Nat) : Review → Prop
  | .submitted asked | .staged asked _ => asked = unit
  | .queued asked stage coolingOff ticket => asked = unit ∧ ∃ reading readAt, reading < moment ∧
      Queues run index unit stage coolingOff ticket reading readAt moment
  | .admitted asked _ coolingOff => asked = unit ∧
      ∃ ticket reading readAt admission, admission < moment ∧
        Admits run index unit coolingOff ticket reading readAt admission
  | .finished (.error _) => True
  | review => ∃ coolingOff ticket reading readAt admission, admission < moment ∧
      Admits run index unit coolingOff ticket reading readAt admission ∧ review.Heeds coolingOff

variable {run : Nat → System K} {index : Nat} {unit : CodeUnit} {moment : Nat}
  {review next : Review}

theorem Heeds.tracked {coolingOff : Bool} (heeds : review.Heeds coolingOff) {ticket reading : Nat}
    {readAt : Instant} {admission : Nat} (earlier : admission < moment)
    (admits : Admits run index unit coolingOff ticket reading readAt admission) :
    review.Tracked run index unit moment := by
  cases review with
  | submitted | staged | queued | admitted => exact heeds.elim
  | finished result =>
      cases result with
      | error cause => trivial
      | ok outcome => exact ⟨coolingOff, ticket, reading, readAt, admission, earlier, admits, heeds⟩
  | checking | deepening | learning | committing | writing | settling | filing | publishing =>
      exact ⟨coolingOff, ticket, reading, readAt, admission, earlier, admits, heeds⟩

theorem Tracked.keep (tracked : review.Tracked run index unit moment)
    (present : (run (moment + 1)).calls[index]? = some (.review unit review)) :
    review.Tracked run index unit (moment + 1) := by
  have passed : (∃ coolingOff ticket reading readAt admission, admission < moment ∧
      Admits run index unit coolingOff ticket reading readAt admission ∧
        review.Heeds coolingOff) →
      review.Tracked run index unit (moment + 1) := by
    rintro ⟨coolingOff, ticket, reading, readAt, admission, earlier, admits, heeds⟩
    exact heeds.tracked (Nat.lt_succ_of_lt earlier) admits
  cases review with
  | submitted | staged => exact tracked
  | queued asked stage coolingOff ticket =>
      obtain ⟨rfl, reading, readAt, earlier, staged, free, read, queued⟩ := tracked
      refine ⟨rfl, reading, readAt, Nat.lt_succ_of_lt earlier, staged, free, read, ?_⟩
      intro between after before
      rcases Nat.lt_or_eq_of_le before with early | rfl
      · exact queued between after (Nat.le_of_lt_succ early)
      · exact present
  | admitted asked stage coolingOff =>
      obtain ⟨rfl, ticket, reading, readAt, admission, earlier, admits⟩ := tracked
      exact ⟨rfl, ticket, reading, readAt, admission, Nat.lt_succ_of_lt earlier, admits⟩
  | finished result =>
      cases result with
      | error cause => trivial
      | ok outcome => exact passed tracked
  | checking | deepening | learning | committing | writing | settling | filing | publishing =>
      exact passed tracked

theorem Tracked.step (tracked : review.Tracked run index unit moment) {now : Instant}
    {later : Gate K} (found : (run moment).calls[index]? = some (.review unit review))
    (stepped : review.step? now (run moment).gate = some (next, later))
    (landed : (run (moment + 1)).calls[index]? = some (.review unit next)) :
    next.Tracked run index unit (moment + 1) := by
  have passed : (∃ coolingOff ticket reading readAt admission, admission < moment ∧
      Admits run index unit coolingOff ticket reading readAt admission ∧
        review.Heeds coolingOff) →
      next.Tracked run index unit (moment + 1) := by
    rintro ⟨coolingOff, ticket, reading, readAt, admission, earlier, admits, heeds⟩
    exact (heeds.step stepped).tracked (Nat.lt_succ_of_lt earlier) admits
  cases step_of_step? stepped with
  | invalid | unknown | lost => trivial
  | stage => exact tracked
  | @queue asked stage coolingOff free read =>
      have same : asked = unit := tracked
      subst same
      refine ⟨rfl, moment, now, Nat.lt_succ_self moment, found, free, read, ?_⟩
      -- The next moment is the only one since the reading.
      intro between after before
      rw [Nat.le_antisymm before after]
      exact landed
  | @grant asked stage coolingOff ticket granted =>
      obtain ⟨rfl, reading, readAt, earlier, queues⟩ := tracked
      exact ⟨rfl, ticket, reading, readAt, moment, Nat.lt_succ_self moment, earlier, granted,
        stage, queues, landed⟩
  | @scan asked stage coolingOff next later scanned =>
      obtain ⟨rfl, ticket, reading, readAt, admission, earlier, admits⟩ := tracked
      have heeds := (run moment).gate.heeds_scanUnit now asked stage coolingOff
      rw [scanned] at heeds
      exact heeds.tracked (Nat.lt_succ_of_lt earlier) admits
  | check | deepen | learn | emit | unready | prepare | unwritten | write | unsettled | settle
  | file | publish | finish => exact passed tracked

theorem tracked_of_run [KeyProvider K] {permitted : Gate.Operation → Prop}
    (runs : Run permitted run) (present : (run moment).calls[index]? = some (.review unit review)) :
    review.Tracked run index unit moment := by
  induction moment generalizing review with
  | zero =>
      have begun : review = .submitted unit := runs.fresh _ (List.mem_of_getElem? present)
      rw [begun]
      rfl
  | succ moment inductionHypothesis =>
      rcases (runs.moves moment).review_cases present with
        rfl | stayed | ⟨before, now, found, stepped⟩
      · rfl
      · exact (inductionHypothesis stayed).keep present
      · exact (inductionHypothesis found).step found stepped present

end Review

/-! ## Direct acceptance -/

/-- The unit was accepted by the scan alone. -/
structure ReviewOutcome.IsDirect (outcome : ReviewOutcome) : Prop where
  accepted : outcome.state = .accepted
  scanned : outcome.verdict.tier = .scan

theorem ReviewOutcome.IsDirect.passes {outcome : ReviewOutcome} (direct : outcome.IsDirect)
    {setting : Setting} {unit : CodeUnit} {moments : List (Instant × Gate K)}
    (path : Review.Path setting unit moments (.finished (.ok outcome))) :
    outcome.verdict.status = .pass := by
  obtain ⟨case, library, -, -, emission, score, belongs, rfl⟩ := path.knows
  have state : emission.verdict.status.state = .accepted :=
    belongs.trail.symm.trans direct.accepted
  have same : (emission.outcome score).verdict.status = emission.verdict.status := rfl
  rw [same]
  cases status : emission.verdict.status with
  | pass => rfl
  | fail | held => simp [status, VerdictStatus.state] at state

theorem System.Run.admits_of_isDirect [KeyProvider K] {permitted : Gate.Operation → Prop}
    {run : Nat → System K} (runs : System.Run permitted run) {index moment : Nat} {unit : CodeUnit}
    {outcome : ReviewOutcome}
    (finished : (run moment).calls[index]? = some (.review unit (.finished (.ok outcome))))
    (direct : outcome.IsDirect) :
    ∃ ticket reading readAt admission, admission < moment ∧
      System.Admits run index unit false ticket reading readAt admission := by
  obtain ⟨coolingOff, ticket, reading, readAt, admission, earlier, admits, heeds⟩ :=
    Review.tracked_of_run runs finished
  obtain ⟨setting, moments, -, path, -⟩ :=
    System.path_of_reachable (runs.reachable moment) (List.mem_of_getElem? finished)
  obtain rfl : coolingOff = false := heeds (direct.passes path) direct.scanned
  exact ⟨ticket, reading, readAt, admission, earlier, admits⟩

/-! ## Turns -/

namespace System

theorem run_play [KeyProvider K] {permitted : Gate.Operation → Prop} {system : System K}
    (reached : system.Reachable permitted) (fresh : ∀ call ∈ system.calls, call.IsFresh)
    (now : Instant) (turns : Nat → Nat) : Run permitted (system.play now turns) :=
  ⟨reached, fresh, fun moment => move_turn permitted now (system.play now turns moment) _⟩

end System

/-! ## A small queue -/

namespace Small

/-- A policy under which reviews run one at a time. -/
def single : GateConfig :=
  { GateConfig.default with pipeline := { PipelineConfig.default with capacity := 1 } }

def ban : Rule :=
  ⟨"ban", "", .injection, .critical, true, .sequence ["run"], "", .manual, true, none, 1, now⟩

def bans : Library := ⟨1, [⟨ban, .shape (.sequence ["run"]), Matcher.compile_sequence (by simp)⟩]⟩

def banned : CodeUnit := ⟨"banned", "ann", "", "run", [], none⟩

/-- An author has submitted a unit that is banned and one that does nothing. -/
def submissions : System LocalKeys :=
  ⟨gateWith single bans none staffed,
    [.review banned (.submitted banned), .review unit (.submitted unit)], registered⟩

/-- The second review reads and queues while the first one runs. -/
def overtaken : Nat → System LocalKeys :=
  submissions.play now fun moment =>
    if moment < 3 then 0 else if moment < 5 then 1 else if moment < 12 then 0 else 1

theorem run_overtaken : System.Run (fun _ => True) overtaken := by
  have valid : single.validate = .ok () := by rfl
  have reached : System.Reachable (fun _ => True) ⟨gateWith single bans none staffed, [],
      registered⟩ := reachable_with valid (by decide) bans none trivial
  have first := reached.move (.submit (show (Call.review banned _).IsFresh from rfl))
  have second := first.move (.submit (show (Call.review unit _).IsFresh from rfl))
  refine System.run_play second ?_ now _
  simp [Call.IsFresh]

/-- The ticket of a review that waits for its permit. -/
def ticket? : Call → Option Nat
  | .review _ (.queued _ _ _ ticket) => some ticket
  | _ => none

/-- If the second review waits although its permit has been granted, its author is cooling off. -/
def isStale (system : System LocalKeys) : Bool :=
  (system.calls[1]?.bind ticket?).all fun ticket =>
    !system.gate.permits.isGranted ticket ||
      ((system.gate.engine.record? "ann").isSome &&
        (system.gate.engine.coolingOffUntil? "ann").any fun deadline => decide (now < deadline))

/-- The second review is over, and the scan alone has accepted its unit. -/
theorem finished_overtaken : ∃ outcome : ReviewOutcome,
    (overtaken 20).calls[1]? = some (.review unit (.finished (.ok outcome))) ∧
      outcome.IsDirect := by
  have ends : ((overtaken 20).calls[1]?.bind Call.reviewed?).map
      (fun reviewed => (reviewed.1, reviewed.2.state, reviewed.2.verdict.tier)) =
        some (unit, .accepted, .scan) := by decide +kernel
  obtain ⟨⟨asked, outcome⟩, found, same⟩ := Option.map_eq_some_iff.mp ends
  obtain ⟨call, present, reviewed⟩ := Option.bind_eq_some_iff.mp found
  injection same with about rest
  injection rest with accepted scanned
  rw [Call.eq_of_reviewed? reviewed, show asked = unit from about] at present
  exact ⟨outcome, present, accepted, scanned⟩

theorem isStale_overtaken : ∀ moment < 20, isStale (overtaken moment) = true := by
  decide +kernel

end Small

namespace System

variable [KeyProvider K] {permitted : Gate.Operation → Prop} {run : Nat → System K} {index : Nat}
  {unit : CodeUnit}

/-- Whatever is interleaved with it, a review that accepts its unit by the scan alone has read, when
nobody held the record of its author, that the author was not cooling off.  From then until it had
its permit the author was not cooling off either, at any time that is not earlier, unless an entry
written since enters the author into a window. -/
theorem Run.steady_of_isDirect (runs : Run permitted run) {moment : Nat}
    {outcome : ReviewOutcome}
    (finished : (run moment).calls[index]? = some (.review unit (.finished (.ok outcome))))
    (direct : outcome.IsDirect) :
    ∃ ticket reading readAt admission, admission < moment ∧
      Admits run index unit false ticket reading readAt admission ∧
      ∀ between, reading ≤ between → between ≤ admission →
        ∃ added, (run between).gate.engine.ledger.records =
            (run reading).gate.engine.ledger.records ++ added ∧
          (LedgerRecord.EnterCoolingOff unit.author added ∨ ∀ now, readAt ≤ now →
            (run between).gate.engine.isCoolingOff unit.author now = .ok false) := by
  obtain ⟨ticket, reading, readAt, admission, earlier, admits⟩ :=
    runs.admits_of_isDirect finished direct
  refine ⟨ticket, reading, readAt, admission, earlier, admits, ?_⟩
  intro between after before
  obtain ⟨-, -, stage, ⟨-, free, read, -⟩, -⟩ := admits
  have known := (Engine.isCoolingOff_eq_ok_iff.mp read).1
  obtain ⟨added, written, entered | steady⟩ := runs.since free known after
  · exact ⟨added, written, .inl entered⟩
  · refine ⟨added, written, .inr fun now forward => ?_⟩
    exact Engine.isCoolingOff_of_le read steady.known steady.window forward

/-- The author of a review is sent into a window while the review waits, and an entry says so. -/
theorem Run.steady_overtaken : ∃ outcome : ReviewOutcome,
    (Small.overtaken 20).calls[1]? = some (.review Small.unit (.finished (.ok outcome))) ∧
      outcome.IsDirect ∧
      ∃ ticket reading readAt admission, admission < 20 ∧
        Admits Small.overtaken 1 Small.unit false ticket reading readAt admission ∧
        ∀ between, reading ≤ between → between ≤ admission →
          ∃ added, (Small.overtaken between).gate.engine.ledger.records =
              (Small.overtaken reading).gate.engine.ledger.records ++ added ∧
            (LedgerRecord.EnterCoolingOff "ann" added ∨ ∀ now, readAt ≤ now →
              (Small.overtaken between).gate.engine.isCoolingOff "ann" now = .ok false) := by
  obtain ⟨outcome, finished, direct⟩ := Small.finished_overtaken
  exact ⟨outcome, finished, direct, Small.run_overtaken.steady_of_isDirect finished direct⟩

/-- With one permit and all tiers, a review accepts its unit by the scan alone although its author
is cooling off whenever its permit is granted and it still waits. -/
theorem stale_admission : ∃ (run : Nat → System LocalKeys) (moment : Nat)
    (outcome : ReviewOutcome), Run (fun _ => True) run ∧ (run 0).gate.config.mode = .full ∧
      (run 0).gate.config.pipeline.capacity = 1 ∧
      (run moment).calls[1]? = some (.review Small.unit (.finished (.ok outcome))) ∧
      outcome.IsDirect ∧
      ∃ ticket reading readAt admission, admission < moment ∧
        Admits run 1 Small.unit false ticket reading readAt admission ∧
        ∀ between, reading < between → between ≤ admission →
          (run between).gate.permits.isGranted ticket = true →
          (run between).gate.engine.isCoolingOff "ann" Small.now = .ok true := by
  obtain ⟨outcome, finished, direct⟩ := Small.finished_overtaken
  obtain ⟨ticket, reading, readAt, admission, earlier, admits⟩ :=
    Small.run_overtaken.admits_of_isDirect finished direct
  refine ⟨Small.overtaken, 20, outcome, Small.run_overtaken, rfl, rfl, finished, direct, ticket,
    reading, readAt, admission, earlier, admits, ?_⟩
  intro between after before granted
  obtain ⟨-, -, stage, queues, -⟩ := admits
  have stale := Small.isStale_overtaken between (Nat.lt_of_le_of_lt before earlier)
  rw [Small.isStale, queues.queued between after before] at stale
  simp only [Option.bind_some, Small.ticket?, Option.all_some, granted, Bool.not_true,
    Bool.false_or, Bool.and_eq_true] at stale
  exact Engine.isCoolingOff_eq_ok_iff.mpr stale

end System

end ReviewGate
