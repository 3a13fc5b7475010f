import ReviewGate.Proofs.Gate.FailClosed
import ReviewGate.Proofs.Gate.Steps

/-!
# Scans that block

Where a blocking rule matches, the scan decides alone: in every mode and for every author the review
is on its way to a rejection, and none of its steps asks the deep verifier.
-/

namespace ReviewGate

variable {K : Type}

/-! ## Where a review comes to -/

namespace Review

/-- Where a review comes to by steps at some moments, and how often these steps ask the deep
verifier. -/
def follow (unit : CodeUnit) (moments : List (Instant × Gate K)) : Option (Review × Nat) :=
  moments.foldlM (fun reached moment =>
    (step? moment.1 moment.2 reached.1).map fun answer =>
      (answer.1, reached.2 + (answer.2.verifierCalls - moment.2.verifierCalls)))
    (.submitted unit, 0)

theorem follow_concat {unit : CodeUnit} {moments : List (Instant × Gate K)} {review next : Review}
    {calls : Nat} {now : Instant} {gate later : Gate K}
    (followed : follow unit moments = some (review, calls))
    (stepped : review.step? now gate = some (next, later))
    (silent : later.verifierCalls = gate.verifierCalls) :
    follow unit (moments ++ [(now, gate)]) = some (next, calls) := by
  unfold follow at followed ⊢
  rw [List.foldlM_append, followed]
  simp [stepped, silent]

end Review

/-! ## Rejected by the scan -/

theorem Dossier.states_of_pass {dossier later : Dossier} {next : ReviewState}
    (passed : dossier.pass next = .ok later) :
    later.trail.states = dossier.trail.states ++ [next] := by
  obtain ⟨trail, advanced, same⟩ := bind_eq_ok_iff.mp passed
  cases same
  unfold Trail.advance at advanced
  split at advanced
  · rename_i found
    cases advanced
    unfold Trail.advance? at found
    split at found
    · cases found
      rfl
    · contradiction
  · contradiction

/-- A verdict of the scan that names the rules that block. -/
structure Verdict.Blocks (report : ScanReport Float) (verdict : Verdict) : Prop where
  status : verdict.status = .fail
  tier : verdict.tier = .scan
  rationale : verdict.rationale = "Hard-block rule matched: " ++
    ", ".intercalate (report.hardBlocks.map (·.ruleId))

/-- The scan has rejected the unit, and no other tier has seen it. -/
structure ReviewOutcome.Blocked (report : ScanReport Float) (outcome : ReviewOutcome) : Prop where
  state : outcome.state = .rejected
  trail : outcome.trail = [.submitted, .tier1, .rejected]
  verdict : outcome.verdict.Blocks report

structure Emission.Blocked (report : ScanReport Float) (emission : Emission) : Prop where
  trail : emission.dossier.trail.states = [.submitted, .tier1, .rejected]
  verdict : emission.verdict.Blocks report

theorem Emission.Blocked.outcome {report : ScanReport Float} {emission : Emission}
    (blocked : emission.Blocked report) (score : Float) : (emission.outcome score).Blocked report where
  state := by simp [Emission.outcome, Trail.current, blocked.trail]
  trail := blocked.trail
  verdict := blocked.verdict

theorem Emission.Blocked.publish {report : ScanReport Float} {emission : Emission}
    (blocked : emission.Blocked report) (gate : Gate K) (proposal : Proposal) :
    (gate.publish emission proposal).1.Blocked report ∧
      (gate.publish emission proposal).2.verifierCalls = gate.verifierCalls := by
  rw [Gate.publish_eq]
  split
  · exact ⟨⟨blocked.trail, blocked.verdict⟩, rfl⟩
  · exact ⟨blocked, rfl⟩

namespace Review

/-- A review that the scan has decided. -/
def Condemned (report : ScanReport Float) : Review → Prop
  | .learning dossier verdict left =>
      dossier.trail.states = [.submitted, .tier1] ∧ verdict.Blocks report ∧ left = []
  | .committing emission _ | .writing emission _ | .settling emission _ _ | .filing emission _
  | .publishing emission _ _ => emission.Blocked report
  | .finished (.ok outcome) => outcome.Blocked report
  | .finished (.error _) => True
  | _ => False

variable {now : Instant} {gate later : Gate K} {review next : Review} {report : ScanReport Float}

theorem condemned_of_scan {unit : CodeUnit} {stage : Stage} {coolingOff : Bool}
    (blocked : (gate.library.scan Float .low unit.source).isHardBlocked = true)
    (stepped : step? now gate (.admitted unit stage coolingOff) = some (next, later)) :
    next.Condemned (gate.library.scan Float .low unit.source) ∧
      later.verifierCalls = gate.verifierCalls := by
  simp only [step?, Gate.scanUnit, Dossier.afterScan, blocked, if_true, Option.some.injEq]
    at stepped
  cases stepped
  exact ⟨⟨rfl, ⟨rfl, rfl, rfl⟩, rfl⟩, rfl⟩

theorem condemned_emit (gate : Gate K) (now : Instant) {dossier : Dossier} {verdict : Verdict}
    (trail : dossier.trail.states = [.submitted, .tier1]) (blocks : verdict.Blocks report) :
    (gate.emit now dossier verdict).1.Condemned report ∧
      (gate.emit now dossier verdict).2.verifierCalls = gate.verifierCalls := by
  unfold Gate.emit
  split
  · exact ⟨trivial, rfl⟩
  · rename_i passed advanced
    have states := Dossier.states_of_pass advanced
    simp only [blocks.status, VerdictStatus.state, trail] at states
    simp only [Gate.requestFor, blocks.status, reduceCtorEq, if_false]
    split
    · exact ⟨trivial, rfl⟩
    · exact ⟨⟨states, blocks⟩, rfl⟩

/-- What the scan has decided stays decided, and the verifier is not asked. -/
theorem Condemned.step (condemned : review.Condemned report)
    (stepped : step? now gate review = some (next, later)) :
    next.Condemned report ∧ later.verifierCalls = gate.verifierCalls := by
  cases step_of_step? stepped with
  | invalid | unknown | stage | lost | queue | grant | scan | check | deepen =>
      exact condemned.elim
  | learn told => exact absurd condemned.2.2 (List.cons_ne_nil _ _)
  | emit emitted =>
      obtain ⟨trail, blocks, -⟩ := condemned
      have emits := condemned_emit gate now trail blocks
      rwa [emitted] at emits
  | unready | unwritten | unsettled => exact ⟨trivial, rfl⟩
  | prepare | write | settle | file => exact ⟨condemned, rfl⟩
  | @publish emission published score proposal left later applied =>
      have publishes := Emission.Blocked.publish condemned gate proposal
      rwa [applied] at publishes
  | @finish emission score => exact ⟨Emission.Blocked.outcome condemned score, rfl⟩

/-! ## On the way to the scan -/

/-- The steps before the scan do not ask the verifier. -/
theorem silent_of_early (early : 9 < review.stagesLeft)
    (stepped : step? now gate review = some (next, later)) :
    later.verifierCalls = gate.verifierCalls := by
  cases step_of_step? stepped with
  | invalid | unknown | stage | lost | queue | grant => rfl
  | _ => simp [stagesLeft] at early

/-- Within three steps a review is on the way to its scan, or it has failed. -/
theorem Knows.early {setting : Setting} {unit : CodeUnit} {moments : List (Instant × Gate K)}
    (knows : review.Knows setting unit moments) (short : moments.length ≤ 3) :
    (∃ result, review = .finished result) ∨ (moments.length < 3 ∧ 9 < review.stagesLeft) ∨
      ∃ stage coolingOff, review = .admitted unit stage coolingOff ∧ moments.length = 3 := by
  have unscanned : ∀ {case : Case} {library : Library}, ¬case.Seen library moments := by
    rintro case library ⟨-, -, ⟨fourth, found, -⟩, -⟩
    have below := (List.getElem?_eq_some_iff.mp found).1
    omega
  cases review with
  | submitted asked =>
      obtain ⟨rfl, rfl⟩ := knows
      exact .inr (.inl (by simp [stagesLeft]))
  | staged asked stage =>
      obtain ⟨rfl, first, rfl, -⟩ := knows
      exact .inr (.inl (by simp [stagesLeft]))
  | queued asked stage coolingOff ticket =>
      obtain ⟨rfl, first, second, rfl, -⟩ := knows
      exact .inr (.inl (by simp [stagesLeft]))
  | admitted asked stage coolingOff =>
      obtain ⟨rfl, first, second, third, rfl, -⟩ := knows
      exact .inr (.inr ⟨stage, coolingOff, rfl, rfl⟩)
  | finished result => exact .inl ⟨result, rfl⟩
  | checking | deepening | learning | committing | writing | settling | filing | publishing =>
      obtain ⟨case, library, -, seen, -⟩ := knows
      exact absurd seen unscanned

/-- Three steps lead to the scan.  Where it is blocked by the library of that moment, the review is
condemned, and no step has asked the verifier. -/
theorem Path.condemned {setting : Setting} {unit : CodeUnit} {moments : List (Instant × Gate K)}
    (path : Path setting unit moments review) :
    moments.length ≤ 3 ∧ follow unit moments = some (review, 0) ∨
      ∃ scan, moments[3]? = some scan ∧
        ((scan.2.library.scan Float .low unit.source).isHardBlocked = true →
          review.Condemned (scan.2.library.scan Float .low unit.source) ∧
            follow unit moments = some (review, 0)) := by
  induction path with
  | submitted => exact .inl ⟨Nat.zero_le 3, rfl⟩
  | @step moments review next now gate later before same stepped inductionHypothesis =>
      rcases inductionHypothesis with ⟨short, followed⟩ | ⟨scan, found, decided⟩
      · rcases before.knows.early short with
          ⟨result, rfl⟩ | ⟨shorter, early⟩ | ⟨stage, coolingOff, rfl, third⟩
        · contradiction
        · refine .inl ⟨?_, follow_concat followed stepped (silent_of_early early stepped)⟩
          rw [List.length_append, List.length_singleton]
          exact shorter
        · -- The fourth step is the scan itself.
          refine .inr ⟨(now, gate), ?_, fun blocked => ?_⟩
          · rw [← third]
            exact List.getElem?_concat_length
          · obtain ⟨condemned, silent⟩ := condemned_of_scan blocked stepped
            exact ⟨condemned, follow_concat followed stepped silent⟩
      · refine .inr ⟨scan, ?_, fun blocked => ?_⟩
        · rw [List.getElem?_append_left (List.getElem?_eq_some_iff.mp found).1]
          exact found
        · obtain ⟨condemned, followed⟩ := decided blocked
          obtain ⟨condemned, silent⟩ := condemned.step stepped
          exact ⟨condemned, follow_concat followed stepped silent⟩

/-- Where the scan is blocked, whatever comes before and after it, a review that comes to an outcome
is rejected by the scan without the verifier being asked. -/
theorem blocked_of_path {setting : Setting} {unit : CodeUnit} {moments : List (Instant × Gate K)}
    {outcome : ReviewOutcome} {scan : Instant × Gate K}
    (path : Path setting unit moments (.finished (.ok outcome))) (found : moments[3]? = some scan)
    (blocked : (scan.2.library.scan Float .low unit.source).isHardBlocked = true) :
    outcome.Blocked (scan.2.library.scan Float .low unit.source) ∧
      follow unit moments = some (.finished (.ok outcome), 0) := by
  rcases path.condemned with ⟨short, -⟩ | ⟨other, same, decided⟩
  · have below := (List.getElem?_eq_some_iff.mp found).1
    omega
  · rw [found] at same
    cases same
    exact decided blocked

end Review

end ReviewGate
