import Mathlib.Data.List.Forall2
import ReviewGate.Proofs.Gate.Activation
import ReviewGate.Proofs.Gate.Blocking
import ReviewGate.Proofs.Pattern.Proposal

/-!
# Warnings

A verdict tells all that its review has warned of up to then, and the case and the tiers it has
passed determine what that is.  Only where a violation of the deep tier teaches nothing is there a
warning after the verdict, and no verdict tells it.
-/

namespace ReviewGate

variable {K : Type}

/-! ## What there is to warn of -/

/-- Some line of the source has a token from which a rule can be made. -/
def CodeUnit.isTeachable (unit : CodeUnit) : Bool :=
  (Text.lines unit.source).any Trace.hasSignificantToken

namespace Case

variable (setting : Setting) (case : Case)

/-- The findings, unless they block, and what keeps the scan from deciding as usual. -/
def scanWarnings : List String :=
  if case.report.isHardBlocked then []
  else case.report.findings.map Dossier.findingWarning ++
    if setting.config.mode = .disabled then
      ["Verification disabled; only hard-block rules enforced"]
    else if case.coolingOff then ["Author is cooling off; direct acceptance suspended"]
    else []

def clauseWarnings : List String :=
  case.unit.constraints.unsupported.map fun clause => "Contract clause not modelled: " ++ clause

/-- Why there is no report about constraints that a checker was asked about. -/
def checkerFailure? : Option GateError :=
  if case.unit.constraints.isEmpty then none
  else
    match case.contractAnswer setting with
    | some (.ok _) => none
    | some (.error cause) => some (.service cause)
    | none => some (.timeout .contractCheck setting.config.pipeline.contractTimeout)

/-- The clauses set aside, and a checker without an answer where that does not reject the unit. -/
def contractWarnings : List String :=
  case.clauseWarnings ++
    if case.critical setting then []
    else (case.checkerFailure? setting).toList.map fun failure =>
      failure.message ++ "; continuing without contract check"

/-- What the deep tier comes to, where it is reached. -/
def deepResult : Dossier.DeepResult :=
  if setting.config.mode = .lite then .unavailable "Deep verification skipped in lite mode"
  else
    match setting.verifier with
    | none => .unavailable "No deep verifier configured"
    | some _ => Dossier.deepResult setting.config (case.deepAnswer setting)

/-- A missing answer of the deep tier, where that does not hold the unit. -/
def deepWarnings : List String :=
  if case.critical setting then []
  else
    match case.deepResult setting with
    | .unavailable reason => [reason ++ "; accepted without deep verification"]
    | _ => []

/-- All there is to warn of before the verdict, with the tiers that the unit has passed. -/
def warnings (states : List ReviewState) : List String :=
  case.scanWarnings setting ++
    (if .tier2 ∈ states then case.contractWarnings setting else []) ++
    if .tier3 ∈ states then case.deepWarnings setting else []

/-- The violations that the deep tier has found. -/
def lessons (states : List ReviewState) : List Violation :=
  if .tier3 ∈ states then
    match case.deepResult setting with
    | .fail violations => violations
    | _ => []
  else []

/-- The violations from which no rule can be learned. -/
def skipped (states : List ReviewState) : List Violation :=
  if case.unit.isTeachable then [] else case.lessons setting states

variable {setting case} {states : List ReviewState} {next : ReviewState}

theorem contractWarnings_eq_nil (unasked : case.unit.constraints.isEmpty = true) :
    case.contractWarnings setting = [] := by
  have supported : case.unit.constraints.unsupported = [] :=
    List.isEmpty_iff.mp (Bool.and_eq_true_iff.mp unasked).2
  simp [contractWarnings, clauseWarnings, supported, checkerFailure?, unasked]

theorem warnings_append (notContracts : next ≠ .tier2) (notDeep : next ≠ .tier3) :
    case.warnings setting (states ++ [next]) = case.warnings setting states := by
  simp [warnings, notContracts.symm, notDeep.symm]

theorem lessons_append (notDeep : next ≠ .tier3) :
    case.lessons setting (states ++ [next]) = case.lessons setting states := by
  simp [lessons, notDeep.symm]

end Case

/-- The warning about a violation from which no rule can be learned at a moment. -/
def Gate.skipWarning (gate : Gate K) (violation : Violation) : String :=
  "Rule synthesis skipped: " ++
    (LibraryError.invalidMatcher (Learner.ruleId violation.weakness gate.ids.next)
      .emptyShape).message

/-- A violation was skipped at one of the moments. -/
def SkippedAt (moments : List (Instant × Gate K)) (violation : Violation) (warning : String) :
    Prop :=
  ∃ moment ∈ moments, warning = moment.2.skipWarning violation

/-! ## Notes in a dossier -/

namespace Dossier

/-- The warnings so far and the states passed so far. -/
structure Noted (warnings : List String) (states : List ReviewState) (dossier : Dossier) :
    Prop where
  warnings : dossier.warnings = warnings
  states : dossier.trail.states = states

variable {warnings : List String} {states : List ReviewState} {dossier : Dossier}

theorem Noted.warn (noted : dossier.Noted warnings states) (warning : String) :
    (dossier.warn warning).Noted (warnings ++ [warning]) states :=
  ⟨congrArg (· ++ [warning]) noted.warnings, noted.states⟩

theorem Noted.foldl_warn {α : Type} (warning : α → String) (values : List α)
    (noted : dossier.Noted warnings states) :
    (values.foldl (fun dossier value => dossier.warn (warning value)) dossier).Noted
      (warnings ++ values.map warning) states := by
  induction values generalizing dossier warnings with
  | nil => simpa using noted
  | cons value rest inductionHypothesis =>
      simpa using inductionHypothesis (noted.warn (warning value))

theorem Noted.pass {later : Dossier} {next : ReviewState} (noted : dossier.Noted warnings states)
    (passed : dossier.pass next = .ok later) : later.Noted warnings (states ++ [next]) := by
  refine ⟨?_, ?_⟩
  · obtain ⟨trail, -, same⟩ := bind_eq_ok_iff.mp passed
    cases same
    exact noted.warnings
  · rw [states_of_pass passed, noted.states]

variable {setting : Setting} {case : Case}

theorem Noted.afterScan (belongs : dossier.Of setting case) (noted : dossier.Noted [] states) :
    (dossier.afterScan setting.config case.report).1.Noted (case.scanWarnings setting) states := by
  have findings := noted.foldl_warn findingWarning case.report.findings
  have known := (belongs.foldl_warn findingWarning case.report.findings).coolingOff
  rw [List.nil_append] at findings
  unfold Dossier.afterScan Case.scanWarnings
  -- All but a scan that blocks goes on with the dossier in which the findings are noted.
  generalize case.report.findings.foldl _ dossier = noticed at findings known
  split
  · exact ⟨noted.warnings, noted.states⟩
  · dsimp only
    rw [known]
    split
    · exact findings.warn _
    · split
      · exact findings.warn _
      · rw [List.append_nil]
        split <;> exact findings

theorem Noted.afterContracts (belongs : dossier.Of setting case)
    (asked : case.unit.constraints.isEmpty = false)
    (noted : dossier.Noted (warnings ++ case.clauseWarnings) states) :
    (dossier.afterContracts setting.config (case.contractAnswer setting)).1.Noted
      (warnings ++ case.contractWarnings setting) states := by
  have unchecked : ∀ failure, case.checkerFailure? setting = some failure →
      (dossier.withoutChecker failure).1.Noted (warnings ++ case.contractWarnings setting)
        states := by
    intro failure found
    unfold Dossier.withoutChecker Case.contractWarnings
    rw [belongs.critical, found, ← List.append_assoc]
    split
    · simpa using noted
    · exact noted.warn _
  unfold Dossier.afterContracts
  split
  · rename_i report answered
    have found : case.checkerFailure? setting = none := by
      simp [Case.checkerFailure?, asked, answered]
    have same : case.contractWarnings setting = case.clauseWarnings := by
      simp [Case.contractWarnings, found]
    rw [same]
    split <;> exact noted
  · rename_i cause answered
    exact unchecked _ (by simp [Case.checkerFailure?, asked, answered])
  · rename_i answered
    exact unchecked _ (by simp [Case.checkerFailure?, asked, answered])

theorem Noted.afterDeep (belongs : dossier.Of setting case)
    (noted : dossier.Noted warnings states) :
    (dossier.afterDeep (case.deepResult setting)).1.Noted (warnings ++ case.deepWarnings setting)
      states := by
  unfold Case.deepWarnings
  cases case.deepResult setting with
  | pass => exact ⟨noted.warnings.trans (by simp), noted.states⟩
  | fail violations => exact ⟨noted.warnings.trans (by simp), noted.states⟩
  | unavailable reason =>
      simp only [Dossier.afterDeep, Dossier.withoutDeep, belongs.critical]
      split
      · exact ⟨noted.warnings.trans (by simp), noted.states⟩
      · exact ⟨congrArg (· ++ [_]) noted.warnings, noted.states⟩

/-- The verdict tells what there was to warn of.  The violations learned from since then have added
their warnings, where nothing can be learned from them. -/
structure Recounts (setting : Setting) (case : Case) (moments : List (Instant × Gate K))
    (verdict : Verdict) (left : List Violation) (dossier : Dossier) : Prop where
  told : verdict.warnings = case.warnings setting dossier.trail.states
  untold : ∃ learned late, case.lessons setting dossier.trail.states = learned ++ left ∧
    dossier.warnings = verdict.warnings ++ late ∧
    List.Forall₂ (SkippedAt moments) (if case.unit.isTeachable then [] else learned) late

end Dossier

/-- Of all that was raised in a case, the verdict tells what there was to warn of with the tiers
passed, and the rest are the skipped violations. -/
structure ReviewOutcome.Tells (setting : Setting) (case : Case)
    (moments : List (Instant × Gate K)) (raised : List String) (outcome : ReviewOutcome) :
    Prop where
  told : outcome.verdict.warnings = case.warnings setting outcome.trail
  untold : ∃ late, raised = outcome.verdict.warnings ++ late ∧
    List.Forall₂ (SkippedAt moments) (case.skipped setting outcome.trail) late
  told_iff : outcome.verdict.warnings = raised ↔ case.skipped setting outcome.trail = []

/-! ## Warnings of a review in progress -/

namespace Review

/-- What a review has warned of. -/
def Warns (setting : Setting) (case : Case) (moments : List (Instant × Gate K)) : Review → Prop
  | .checking dossier _ _ =>
      dossier.Noted (case.scanWarnings setting ++ case.clauseWarnings)
        [.submitted, .tier1, .tier2]
  | .deepening dossier _ _ =>
      dossier.Noted (case.scanWarnings setting ++ case.contractWarnings setting)
          [.submitted, .tier1, .tier2, .tier3] ∧
        case.deepResult setting = Dossier.deepResult setting.config (case.deepAnswer setting)
  | .learning dossier verdict left => dossier.Recounts setting case moments verdict left
  | .committing emission _ | .writing emission _ | .settling emission _ _ | .filing emission _
  | .publishing emission _ _ =>
      emission.dossier.Recounts setting case moments emission.verdict []
  | _ => True

end Review

namespace Gate

variable {gate : Gate K} {setting : Setting} {case : Case} {dossier : Dossier}
  {moments : List (Instant × Gate K)}

theorem warns_opine {warnings : List String} {states : List ReviewState}
    {toLearn : List Violation} (noted : dossier.Noted warnings states)
    (complete : case.warnings setting states = warnings)
    (lessons : case.lessons setting states = toLearn) (gate : Gate K) (now : Instant)
    (opinion : Opinion) :
    (gate.opine now dossier opinion toLearn).1.Warns setting case moments := by
  obtain ⟨rfl, rfl⟩ := noted
  exact ⟨complete.symm, [], [], lessons, (List.append_nil _).symm, by simp⟩

theorem warns_concludeDeep (belongs : dossier.Of setting case)
    (noted : dossier.Noted (case.scanWarnings setting ++ case.contractWarnings setting)
      [.submitted, .tier1, .tier2, .tier3]) (gate : Gate K) (now : Instant) :
    (gate.concludeDeep now dossier (case.deepResult setting)).1.Warns setting case moments := by
  refine warns_opine (noted.afterDeep belongs) (by simp [Case.warnings]) ?_ gate now _
  unfold Case.lessons
  rw [if_pos (by decide)]
  cases case.deepResult setting <;> rfl

theorem warns_askVerifier (belongs : dossier.Of setting case)
    (config : gate.config = setting.config) (verifier : gate.verifier = setting.verifier)
    (noted : dossier.Noted (case.scanWarnings setting ++ case.contractWarnings setting)
      [.submitted, .tier1, .tier2, .tier3]) (now : Instant) :
    (gate.askVerifier now dossier).1.Warns setting case moments := by
  unfold askVerifier
  rw [config, verifier]
  split
  · rename_i lite
    have result : case.deepResult setting =
        .unavailable "Deep verification skipped in lite mode" := if_pos lite
    rw [← result]
    exact warns_concludeDeep belongs noted gate now
  · rename_i asks
    split
    · rename_i absent
      have result : case.deepResult setting = .unavailable "No deep verifier configured" := by
        rw [Case.deepResult, if_neg asks, absent]
      rw [← result]
      exact warns_concludeDeep belongs noted gate now
    · rename_i service present
      exact ⟨noted, by rw [Case.deepResult, if_neg asks, present]⟩

theorem warns_leaveContracts (belongs : dossier.Of setting case)
    (config : gate.config = setting.config) (verifier : gate.verifier = setting.verifier)
    (noted : dossier.Noted (case.scanWarnings setting ++ case.contractWarnings setting)
      [.submitted, .tier1, .tier2]) (now : Instant) (opinion : Option Opinion) :
    (gate.leaveContracts now dossier opinion).1.Warns setting case moments := by
  have complete : case.warnings setting [.submitted, .tier1, .tier2] =
      case.scanWarnings setting ++ case.contractWarnings setting := by
    simp [Case.warnings]
  have nothing : case.lessons setting [.submitted, .tier1, .tier2] = [] := by
    simp [Case.lessons]
  unfold leaveContracts
  split
  · exact warns_opine noted complete nothing gate now _
  · split
    · split
      · rename_i passed advanced
        exact warns_askVerifier (belongs.pass advanced).1 config verifier (noted.pass advanced) now
      · trivial
    · exact warns_opine noted complete nothing gate now _

theorem warns_askChecker (belongs : dossier.Of setting case)
    (config : gate.config = setting.config)
    (verifier : case.unit.constraints.isEmpty = true → gate.verifier = setting.verifier)
    (noted : dossier.Noted (case.scanWarnings setting) [.submitted, .tier1, .tier2])
    (now : Instant) : (gate.askChecker now dossier).1.Warns setting case moments := by
  unfold askChecker
  dsimp only
  split
  · rename_i unasked
    rw [belongs.unit] at unasked
    refine warns_leaveContracts belongs config (verifier unasked) ?_ now none
    rwa [Case.contractWarnings_eq_nil unasked, List.append_nil]
  · have warned := noted.foldl_warn ("Contract clause not modelled: " ++ ·)
      case.unit.constraints.unsupported
    unfold Dossier.warnUnmodelled
    rw [belongs.unit]
    exact warned

theorem warns_scanUnit {unit : CodeUnit} {stage : Stage} {coolingOff : Bool}
    (meets : setting.MetBy gate (.admitted unit stage coolingOff))
    (moments : List (Instant × Gate K)) (now : Instant) :
    (gate.scanUnit now unit stage coolingOff).1.Warns setting
      ⟨unit, stage, coolingOff, gate.library.scan Float .low unit.source⟩ moments := by
  have begun := Dossier.of_ofScan setting unit stage coolingOff
    (gate.library.scan Float .low unit.source)
  have noted : (Dossier.ofScan setting.config unit stage coolingOff
      (gate.library.scan Float .low unit.source)).Noted [] [.submitted, .tier1] := ⟨rfl, rfl⟩
  have scanned := begun.afterScan.1
  have warned := noted.afterScan begun
  unfold scanUnit
  rw [meets.config]
  dsimp only
  split
  · exact warns_opine warned (by simp [Case.warnings]) (by simp [Case.lessons]) gate now _
  · split
    · rename_i passed advanced
      exact warns_askChecker (scanned.pass advanced).1 meets.config meets.verifier
        (warned.pass advanced) now
    · trivial

end Gate

/-! ## Skipped violations -/

theorem CodeUnit.isTeachable_eq_false_iff (unit : CodeUnit) (violation : Violation)
    (verdictId : String) (trigger : Trigger) :
    unit.isTeachable = false ↔
      (Trace.ofViolation unit.source violation verdictId trigger).offendingLine? = none := by
  rw [Trace.offendingLine?_eq_none_iff, isTeachable, List.any_eq_false]
  simp [Trace.ofViolation]

namespace Learner

variable {trace : Trace} (learner : Learner) (now : Instant) (ids : Ids)

theorem propose_of_missing (missing : trace.offendingLine? = none) :
    (learner.propose now ids trace).1 =
      .error (.invalidMatcher (ruleId trace.weakness ids.next) .emptyShape) := by
  simp [propose, proposeAs, missing]

theorem exists_propose_of_found {line : String} (found : trace.offendingLine? = some line) :
    ∃ proposal, (learner.propose now ids trace).1 = .ok proposal := by
  unfold propose proposeAs
  simp only [found]
  split
  · split <;> exact ⟨_, rfl⟩
  · exact ⟨_, rfl⟩

end Learner

/-- A violation is skipped where no line of the source has a token to learn from, and only there. -/
theorem Gate.noted_learnFrom (gate : Gate K) (now : Instant) (dossier : Dossier)
    (verdict : Verdict) (violation : Violation) :
    (gate.learnFrom now dossier verdict violation).1.Noted
      (dossier.warnings ++ if dossier.unit.isTeachable then [] else [gate.skipWarning violation])
      dossier.trail.states := by
  have missing := dossier.unit.isTeachable_eq_false_iff violation verdict.id .deepVerification
  unfold learnFrom
  cases teachable : dossier.unit.isTeachable with
  | true =>
      obtain ⟨line, found⟩ : ∃ line, (Trace.ofViolation dossier.unit.source violation verdict.id
          .deepVerification).offendingLine? = some line := by
        refine Option.ne_none_iff_exists'.mp fun none => ?_
        rw [missing.mpr none] at teachable
        contradiction
      obtain ⟨proposal, proposed⟩ := gate.learner.exists_propose_of_found now gate.ids found
      simp only [proposed]
      exact ⟨(List.append_nil _).symm, rfl⟩
  | false =>
      simp only [gate.learner.propose_of_missing now gate.ids (missing.mp teachable)]
      exact ⟨rfl, rfl⟩

namespace Dossier.Recounts

variable {setting : Setting} {case : Case} {moments : List (Instant × Gate K)} {verdict : Verdict}
  {left : List Violation} {dossier : Dossier}

theorem append (recounts : dossier.Recounts setting case moments verdict left)
    (moment : Instant × Gate K) :
    dossier.Recounts setting case (moments ++ [moment]) verdict left := by
  obtain ⟨told, learned, late, lessons, warnings, skipped⟩ := recounts
  refine ⟨told, learned, late, lessons, warnings, skipped.imp ?_⟩
  rintro violation warning ⟨earlier, membership, same⟩
  exact ⟨earlier, List.mem_append_left _ membership, same⟩

theorem learnFrom {violation : Violation}
    (recounts : dossier.Recounts setting case moments verdict (violation :: left))
    (belongs : dossier.Of setting case) (gate : Gate K) (now : Instant) :
    (gate.learnFrom now dossier verdict violation).1.Recounts setting case
      (moments ++ [(now, gate)]) verdict left := by
  obtain ⟨told, learned, late, lessons, warnings, skipped⟩ := recounts.append (now, gate)
  obtain ⟨noted, states⟩ := gate.noted_learnFrom now dossier verdict violation
  rw [belongs.unit] at noted
  refine ⟨?told, learned ++ [violation],
    late ++ if case.unit.isTeachable then [] else [gate.skipWarning violation],
    ?lessons, ?warnings, ?skipped⟩
  case told => rw [states, told]
  case lessons => rw [states, lessons, List.append_assoc, List.singleton_append]
  case warnings => rw [noted, warnings, List.append_assoc]
  case skipped =>
    cases teachable : case.unit.isTeachable with
    | true => simpa [teachable] using skipped
    | false =>
        simp only [teachable, Bool.false_eq_true, if_false] at skipped ⊢
        have last : SkippedAt (moments ++ [(now, gate)]) violation (gate.skipWarning violation) :=
          ⟨(now, gate), List.mem_append_right _ (List.mem_singleton_self _), rfl⟩
        exact List.rel_append skipped (.cons last .nil)

/-- A decision passes no tier. -/
theorem pass {later : Dossier} {status : VerdictStatus}
    (recounts : dossier.Recounts setting case moments verdict left)
    (passed : dossier.pass status.state = .ok later) :
    later.Recounts setting case moments verdict left := by
  obtain ⟨noted, states⟩ : later.Noted dossier.warnings _ := Noted.pass ⟨rfl, rfl⟩ passed
  obtain ⟨told, learned, late, lessons, warnings, skipped⟩ := recounts
  have notContracts : status.state ≠ .tier2 := by cases status <;> decide
  have notDeep : status.state ≠ .tier3 := by cases status <;> decide
  refine ⟨?_, learned, late, ?_, noted.trans warnings, skipped⟩
  · rw [states, Case.warnings_append notContracts notDeep, told]
  · rw [states, Case.lessons_append notDeep, lessons]

end Dossier.Recounts

theorem Emission.tells_outcome {setting : Setting} {case : Case}
    {moments : List (Instant × Gate K)} {emission : Emission}
    (recounts : emission.dossier.Recounts setting case moments emission.verdict [])
    (score : Float) :
    (emission.outcome score).Tells setting case moments emission.dossier.warnings := by
  obtain ⟨told, learned, late, lessons, warnings, skipped⟩ := recounts
  rw [List.append_nil] at lessons
  have untold : List.Forall₂ (SkippedAt moments)
      (case.skipped setting emission.dossier.trail.states) late := by
    rwa [Case.skipped, lessons]
  refine ⟨told, ⟨late, warnings, untold⟩, ?_⟩
  rw [warnings]
  refine List.self_eq_append_right.trans ⟨?_, fun none => ?_⟩
  · rintro rfl
    exact List.forall₂_nil_right_iff.mp untold
  · change case.skipped setting emission.dossier.trail.states = [] at none
    rw [none] at untold
    exact List.forall₂_nil_left_iff.mp untold

namespace Gate

variable {setting : Setting} {case : Case} {moments : List (Instant × Gate K)}

theorem warns_emit {dossier : Dossier} {verdict : Verdict}
    (recounts : dossier.Recounts setting case moments verdict []) (gate : Gate K)
    (now : Instant) :
    (gate.emit now dossier verdict).1.Warns setting case moments := by
  unfold emit
  split
  · trivial
  · rename_i passed advanced
    dsimp only
    split
    · trivial
    · exact recounts.pass advanced

/-- Publishing warns of nothing. -/
theorem warns_publish {emission : Emission}
    (recounts : emission.dossier.Recounts setting case moments emission.verdict [])
    (gate : Gate K) (proposal : Proposal) :
    (gate.publish emission proposal).1.dossier.Recounts setting case moments
      (gate.publish emission proposal).1.verdict [] := by
  rw [publish_eq]
  split
  · exact ⟨recounts.told, recounts.untold⟩
  · exact recounts

end Gate

/-! ## Runs -/

namespace Review

variable {now : Instant} {gate later : Gate K} {review next : Review}
  {moments : List (Instant × Gate K)}

theorem Warns.step {setting : Setting} {case : Case} (warns : review.Warns setting case moments)
    (belongs : review.Of setting case) (meets : setting.MetBy gate review)
    (stepped : review.step? now gate = some (next, later)) :
    next.Warns setting case (moments ++ [(now, gate)]) := by
  cases step_of_step? stepped with
  | invalid | unknown | stage | lost | queue | grant | scan => exact belongs.elim
  | check elapsed left =>
      obtain ⟨kept, asked, rfl⟩ := belongs
      rw [meets.config] at left
      have landed : (gate.leaveContracts now _ _).1 = next := congrArg Prod.fst left
      rw [← landed]
      exact Gate.warns_leaveContracts (kept.afterContracts asked).1 meets.config
        (meets.verifier trivial) (warns.afterContracts kept asked) now _
  | deepen elapsed concluded =>
      obtain ⟨kept, rfl⟩ := belongs
      obtain ⟨noted, result⟩ := warns
      rw [meets.config] at concluded
      cases concluded
      have concludes : Warns setting case (moments ++ [(now, gate)]) _ :=
        Gate.warns_concludeDeep kept noted gate now
      rwa [result] at concludes
  | @learn dossier learned verdict violation left later told =>
      have recounts := Dossier.Recounts.learnFrom warns belongs.1 gate now
      rwa [told] at recounts
  | emit emitted =>
      have emits := Gate.warns_emit (Dossier.Recounts.append warns (now, gate)) gate now
      rwa [emitted] at emits
  | unready | unwritten | unsettled | finish => trivial
  | prepare | write | settle | file => exact Dossier.Recounts.append warns (now, gate)
  | @publish emission published score proposal left later applied =>
      have publishes := Gate.warns_publish (Dossier.Recounts.append warns (now, gate)) gate proposal
      rwa [applied] at publishes

/-- What a review has warned of belongs to the case that it has seen. -/
def Warned (setting : Setting) (unit : CodeUnit) (moments : List (Instant × Gate K)) :
    Review → Prop
  | .submitted _ | .staged .. | .queued .. | .admitted .. | .finished _ => True
  | course => ∃ (case : Case) (library : Library), case.unit = unit ∧
      case.Seen library moments ∧ course.Of setting case ∧ course.Warns setting case moments

theorem warned_of_case {setting : Setting} {case : Case} {library : Library}
    (seen : case.Seen library moments) (belongs : review.Of setting case)
    (warns : review.Warns setting case moments) : review.Warned setting case.unit moments := by
  cases review with
  | submitted | staged | queued | admitted | finished => trivial
  | checking | deepening | learning | committing | writing | settling | filing | publishing =>
      exact ⟨case, library, rfl, seen, belongs, warns⟩

theorem Warned.step {setting : Setting} {unit : CodeUnit}
    (warned : review.Warned setting unit moments) (knows : review.Knows setting unit moments)
    (meets : setting.MetBy gate review) (stepped : review.step? now gate = some (next, later)) :
    next.Warned setting unit (moments ++ [(now, gate)]) := by
  have decided : (∃ (case : Case) (library : Library), case.unit = unit ∧
      case.Seen library moments ∧ review.Of setting case ∧ review.Warns setting case moments) →
      next.Warned setting unit (moments ++ [(now, gate)]) := by
    rintro ⟨case, library, rfl, seen, belongs, warns⟩
    exact warned_of_case (seen.append _) (of_step? belongs meets stepped)
      (warns.step belongs meets stepped)
  cases step_of_step? stepped with
  | invalid | unknown | lost | stage | queue | grant => trivial
  | @scan asked stage coolingOff next later scanned =>
      obtain ⟨rfl, seen⟩ := knows.seen now gate
      have belongs := Gate.of_scanUnit meets now
      have warns := Gate.warns_scanUnit meets (moments ++ [(now, gate)]) now
      rw [scanned] at belongs warns
      exact warned_of_case seen belongs warns
  | check | deepen | learn | emit | unready | prepare | unwritten | write | unsettled | settle
  | file | publish | finish => exact decided warned

theorem Path.warned {setting : Setting} {unit : CodeUnit}
    (path : Path setting unit moments review) : review.Warned setting unit moments := by
  induction path with
  | submitted => trivial
  | step before meets stepped warned => exact warned.step before.knows meets stepped

/-- A review that comes to an outcome has published its last rule right before. -/
theorem publishing_of_step? {outcome : ReviewOutcome}
    (stepped : review.step? now gate = some (.finished (.ok outcome), later)) :
    ∃ (emission : Emission) (score : Float),
      review = .publishing emission score [] ∧ outcome = emission.outcome score := by
  -- The tiers and the way to the commit end in a review that has not committed yet.
  have late : ∀ {answer : Review × Gate K}, gate.Quiet answer →
      answer ≠ (.finished (.ok outcome), later) := by
    rintro answer ⟨-, early⟩ rfl
    rcases early with before | ⟨commit, asking⟩
    · cases before
    · cases asking
  cases step_of_step? stepped with
  | scan scanned => exact absurd scanned (late (gate.quiet_scanUnit now _ _ _))
  | check elapsed left => exact absurd left (late (gate.quiet_leaveContracts now _ _))
  | deepen elapsed concluded => exact absurd concluded (late (gate.quiet_concludeDeep now _ _))
  | emit emitted => exact absurd emitted (late (gate.quiet_emit now _ _))
  | finish => exact ⟨_, _, rfl, rfl⟩

/-- The verdict of every review tells exactly what there was to warn of in its case with the tiers
that it has passed.  What the review has warned of besides are the violations skipped after the
verdict, so the verdict tells all of it if and only if none was skipped. -/
theorem tells_of_path {setting : Setting} {unit : CodeUnit} {outcome : ReviewOutcome}
    (path : Path setting unit moments (.finished (.ok outcome))) :
    ∃ (case : Case) (library : Library) (earlier : List (Instant × Gate K))
      (last : Instant × Gate K) (emission : Emission) (score : Float),
      case.unit = unit ∧ case.Seen library moments ∧ moments = earlier ++ [last] ∧
      Path setting unit earlier (.publishing emission score []) ∧
      outcome = emission.outcome score ∧
      outcome.Tells setting case moments emission.dossier.warnings := by
  cases path with
  | @step earlier review _ now gate later before meets stepped =>
      obtain ⟨emission, score, rfl, rfl⟩ := publishing_of_step? stepped
      obtain ⟨case, library, about, seen, -, warns⟩ := before.warned
      exact ⟨case, library, earlier, (now, gate), emission, score, about, seen.append _, rfl,
        before, rfl, emission.tells_outcome (Dossier.Recounts.append warns (now, gate)) score⟩

end Review

/-! ## Small reviews -/

namespace Small

/-- What a review that has published its last rule has warned of, and what its verdict tells. -/
def accounts? : Call → Option (List String × List String)
  | .review _ (.publishing emission _ []) =>
      some (emission.dossier.warnings, emission.verdict.warnings)
  | _ => none

theorem exists_emission_of_accounts? {call : Call} {warnings told : List String}
    (accounts : accounts? call = some (warnings, told)) :
    ∃ unit emission score, call = .review unit (.publishing emission score []) ∧
      emission.dossier.warnings = warnings ∧ emission.verdict.warnings = told := by
  unfold accounts? at accounts
  split at accounts
  · cases accounts
    exact ⟨_, _, _, rfl, rfl, rfl⟩
  · contradiction

/-- A review that goes on alone until it is finished. -/
theorem exists_paths_of_accounts? (verifier : Option DeepVerifier) (unit : CodeUnit) (count : Nat)
    (warnings told : List String)
    (ends : (((Call.review unit (.submitted unit)).advance? now count
      (gateWith strict .empty verifier staffed)).bind fun answer => accounts? answer.1) =
        some (warnings, told)) :
    ∃ (setting : Setting) (asked : CodeUnit) (moments : List (Instant × Gate LocalKeys))
      (last : Instant × Gate LocalKeys) (emission : Emission) (score : Float),
      Review.Path setting asked moments (.publishing emission score []) ∧
      Review.Path setting asked (moments ++ [last]) (.finished (.ok (emission.outcome score))) ∧
      emission.dossier.warnings = warnings ∧ emission.verdict.warnings = told := by
  let call : Call := .review unit (.submitted unit)
  have started : System.Reachable (fun _ => True)
      ⟨gateWith strict .empty verifier staffed, [], registered⟩ :=
    reachable_with (show strict.validate = .ok () by rfl) (by decide) .empty verifier trivial
  have submitted := started.move (.submit (show call.IsFresh from rfl))
  obtain ⟨⟨next, later⟩, advanced, accounts⟩ := Option.bind_eq_some_iff.mp ends
  obtain ⟨asked, emission, score, rfl, raised, tells⟩ := exists_emission_of_accounts? accounts
  obtain ⟨system, reached, rfl, calls⟩ := System.reachable_of_advance? submitted rfl advanced
  have present : Call.review asked (.publishing emission score []) ∈ system.calls := by
    rw [calls]
    exact List.mem_singleton_self _
  obtain ⟨setting, moments, config, path, -⟩ := System.path_of_reachable reached present
  have finishes : Review.Path setting asked (moments ++ [(now, system.gate)])
      (.finished (.ok (emission.outcome score))) := path.step ⟨config.symm, nofun, nofun⟩ rfl
  exact ⟨_, asked, moments, (now, system.gate), emission, score, path, finishes, raised, tells⟩

end Small

namespace Review

open ReviewGate.Small

/-- Without a verifier a unit is accepted with a warning, told after the one about a clause. -/
theorem tells_unverified : ∃ (setting : Setting) (unit : CodeUnit)
    (moments : List (Instant × Gate LocalKeys)) (outcome : ReviewOutcome),
    Path setting unit moments (.finished (.ok outcome)) ∧
    outcome.verdict.warnings = ["Contract clause not modelled: x is fine",
      "No deep verifier configured; accepted without deep verification"] ∧
    ∃ (case : Case) (library : Library) (earlier : List (Instant × Gate LocalKeys))
      (last : Instant × Gate LocalKeys) (emission : Emission) (score : Float),
      case.unit = unit ∧ case.Seen library moments ∧ moments = earlier ++ [last] ∧
      Path setting unit earlier (.publishing emission score []) ∧
      outcome = emission.outcome score ∧
      outcome.Tells setting case moments emission.dossier.warnings := by
  let warnings := ["Contract clause not modelled: x is fine",
    "No deep verifier configured; accepted without deep verification"]
  obtain ⟨setting, unit, moments, last, emission, score, -, path, -, told⟩ :=
    exists_paths_of_accounts? none { Small.unit with contracts := ["x is fine"] } 10 warnings
      warnings (by decide +kernel)
  exact ⟨setting, unit, moments ++ [last], _, path, told, tells_of_path path⟩

/-- A violation of a unit without any token teaches nothing, and the verdict does not tell so. -/
theorem not_told : ∃ (setting : Setting) (unit : CodeUnit)
    (moments : List (Instant × Gate LocalKeys)) (last : Instant × Gate LocalKeys)
    (emission : Emission) (score : Float),
    Path setting unit moments (.publishing emission score []) ∧
    Path setting unit (moments ++ [last]) (.finished (.ok (emission.outcome score))) ∧
    emission.dossier.warnings =
      ["Rule synthesis skipped: Invalid matcher for rule INJ-SYN-1: Shape predicate is empty"] ∧
    (emission.outcome score).verdict.warnings = [] :=
  exists_paths_of_accounts? (some (failing 1)) Small.unit 11 _ _ (by decide +kernel)

end Review

end ReviewGate
