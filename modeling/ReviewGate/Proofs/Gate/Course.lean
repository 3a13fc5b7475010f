import ReviewGate.Proofs.Gate.Progress

/-!
# The course of reviews and resolutions

What a review decides depends on its case alone: the unit, the standing of its author when the
review began, the scan, and the answers of the services.  What a resolution decides depends on the
request and the ruling.
-/

namespace ReviewGate

variable {K : Type}

/-! ## The case -/

/-- What a review is decided by: the policy of the gate, and the services as they are when the review
asks them. -/
structure Setting where
  config : GateConfig
  checker : ContractChecker
  verifier : Option DeepVerifier

def Gate.setting (gate : Gate K) : Setting := ⟨gate.config, gate.checker, gate.verifier⟩

theorem Gate.Alike.setting {gate later : Gate K} (alike : gate.Alike later) :
    later.setting = gate.setting := by
  simp [Gate.setting, alike.config, alike.checker, alike.verifier]

/-- What no step changes, and that the requests change by one at most. -/
structure Gate.Frame (gate later : Gate K) : Prop where
  ids : gate.ids.Later later.ids
  setting : later.setting = gate.setting
  requests : later.approvals.requests = gate.approvals.requests ∨ ∃ request : ApprovalRequest,
    later.approvals.requests = gate.approvals.requests.insert request.id request

/-- What a review knows when it has scanned its unit. -/
structure Case where
  unit : CodeUnit
  /-- The stage of the author when the review began. -/
  stage : Stage
  /-- Whether the author was cooling off when the review began. -/
  coolingOff : Bool
  report : ScanReport Float

namespace Case

/-- Whether the unit is judged critical. -/
def critical (setting : Setting) (case : Case) : Bool :=
  setting.config.criticality.isCritical case.unit case.report.findings

/-- The risk is below what is accepted at once from an author of the stage. -/
def LowRisk (setting : Setting) (case : Case) : Prop :=
  case.report.risk < setting.config.pipeline.acceptance.get case.stage

/-- What the checker says within its bound. -/
def contractAnswer (setting : Setting) (case : Case) :
    Option (Except ServiceError ContractReport) :=
  (setting.checker case.unit.constraints).within setting.config.pipeline.contractTimeout

/-- What the deep verifier says within its bound, where it may be asked. -/
def deepAnswer (setting : Setting) (case : Case) : Option (Except ServiceError DeepReport) :=
  if setting.config.mode = .lite then none
  else setting.verifier.bind fun verifier =>
    (verifier case.unit.source setting.config.pipeline.deepTimeout).within
      setting.config.pipeline.deepTimeout

/-- The grounds on which a status is reached. -/
inductive Grounds (setting : Setting) (case : Case) : VerdictStatus → Prop where
  | hardBlock (blocked : case.report.isHardBlocked = true) : Grounds setting case .fail
  | bypass (disabled : setting.config.mode = .disabled) : Grounds setting case .pass
  | lowRisk (steady : case.coolingOff = false) (low : case.LowRisk setting) :
      Grounds setting case .pass
  | contradiction {report : ContractReport} (asked : case.unit.constraints.isEmpty = false)
      (answered : case.contractAnswer setting = some (.ok report))
      (contradicts : report.satisfiable = false) : Grounds setting case .fail
  | noChecker (critical : case.critical setting = true)
      (asked : case.unit.constraints.isEmpty = false)
      (silent : ∀ report, case.contractAnswer setting ≠ some (.ok report)) :
      Grounds setting case .fail
  | contractsHold (ordinary : case.critical setting = false) : Grounds setting case .pass
  | deepPass {report : DeepReport} (answered : case.deepAnswer setting = some (.ok report))
      (passes : report.status = .pass) : Grounds setting case .pass
  | deepFail {report : DeepReport} (ordinary : case.critical setting = false)
      (answered : case.deepAnswer setting = some (.ok report))
      (fails : report.status = .fail) : Grounds setting case .fail
  | unverified (ordinary : case.critical setting = false) : Grounds setting case .pass
  | held (critical : case.critical setting = true) : Grounds setting case .held

end Case

namespace Dossier

/-- The dossier belongs to a case. -/
structure Of (setting : Setting) (case : Case) (dossier : Dossier) : Prop where
  unit : dossier.unit = case.unit
  stage : dossier.stage = case.stage
  coolingOff : dossier.coolingOff = case.coolingOff
  critical : dossier.critical = case.critical setting
  risk : dossier.risk = case.report.risk

variable {setting : Setting} {case : Case} {dossier : Dossier}

theorem of_ofScan (setting : Setting) (unit : CodeUnit) (stage : Stage) (coolingOff : Bool)
    (report : ScanReport Float) :
    Of setting ⟨unit, stage, coolingOff, report⟩
      (ofScan setting.config unit stage coolingOff report) := ⟨rfl, rfl, rfl, rfl, rfl⟩

theorem Of.warn (belongs : dossier.Of setting case) (warning : String) :
    (dossier.warn warning).Of setting case :=
  ⟨belongs.unit, belongs.stage, belongs.coolingOff, belongs.critical, belongs.risk⟩

theorem Of.foldl_warn {α : Type} (warning : α → String) (values : List α)
    (belongs : dossier.Of setting case) :
    (values.foldl (fun dossier value => dossier.warn (warning value)) dossier).Of setting case := by
  induction values generalizing dossier with
  | nil => exact belongs
  | cons value rest inductionHypothesis =>
      exact inductionHypothesis (belongs.warn (warning value))

theorem Of.pass {later : Dossier} {next : ReviewState} (belongs : dossier.Of setting case)
    (passed : dossier.pass next = .ok later) :
    later.Of setting case ∧ later.trail.current = next := by
  unfold Dossier.pass at passed
  cases advanced : dossier.trail.advance next with
  | error cause => simp [advanced, bind, Except.bind] at passed
  | ok trail =>
      have reached : trail.current = next := by
        unfold Trail.advance at advanced
        split at advanced
        · rename_i found
          cases advanced
          exact Trail.current_of_advance? found
        · contradiction
      simp only [advanced, bind, Except.bind, pure, Except.pure] at passed
      cases passed
      exact ⟨⟨belongs.unit, belongs.stage, belongs.coolingOff, belongs.critical, belongs.risk⟩,
        reached⟩

/-! ## What each tier comes to -/

theorem Of.afterScan (belongs : dossier.Of setting case) :
    (dossier.afterScan setting.config case.report).1.Of setting case ∧
      ∀ opinion, (dossier.afterScan setting.config case.report).2 = some opinion →
        case.Grounds setting opinion.status := by
  unfold Dossier.afterScan
  split
  · rename_i blocked
    refine ⟨⟨belongs.unit, belongs.stage, belongs.coolingOff, belongs.critical, belongs.risk⟩, ?_⟩
    rintro opinion ⟨⟩
    exact .hardBlock blocked
  · have warned := belongs.foldl_warn findingWarning case.report.findings
    generalize case.report.findings.foldl _ dossier = noted at warned
    dsimp only
    split
    · rename_i disabled
      refine ⟨warned.warn _, ?_⟩
      rintro opinion ⟨⟩
      exact .bypass disabled
    · split
      · exact ⟨warned.warn _, by simp⟩
      · rename_i steady
        split
        · rename_i low
          refine ⟨warned, ?_⟩
          rintro opinion ⟨⟩
          refine .lowRisk ?_ ?_
          · rw [← warned.coolingOff]
            simpa using steady
          · rw [warned.stage, warned.risk] at low
            exact low
        · exact ⟨warned, by simp⟩

theorem Of.withoutChecker (belongs : dossier.Of setting case) (failure : GateError)
    (asked : case.unit.constraints.isEmpty = false)
    (silent : ∀ report, case.contractAnswer setting ≠ some (.ok report)) :
    (dossier.withoutChecker failure).1.Of setting case ∧
      ∀ opinion, (dossier.withoutChecker failure).2 = some opinion →
        case.Grounds setting opinion.status := by
  unfold Dossier.withoutChecker
  split
  · rename_i critical
    refine ⟨belongs, ?_⟩
    rintro opinion ⟨⟩
    exact .noChecker (belongs.critical.symm.trans critical) asked silent
  · exact ⟨belongs.warn _, by simp⟩

theorem Of.afterContracts (belongs : dossier.Of setting case)
    (asked : case.unit.constraints.isEmpty = false) :
    (dossier.afterContracts setting.config (case.contractAnswer setting)).1.Of setting case ∧
      ∀ opinion,
        (dossier.afterContracts setting.config (case.contractAnswer setting)).2 = some opinion →
          case.Grounds setting opinion.status := by
  unfold Dossier.afterContracts
  cases answered : case.contractAnswer setting with
  | none => exact belongs.withoutChecker _ asked (by simp [answered])
  | some answer =>
      cases answer with
      | error cause => exact belongs.withoutChecker _ asked (by simp [answered])
      | ok report =>
          cases satisfiable : report.satisfiable with
          | true => simpa [satisfiable] using belongs
          | false =>
              simp only [satisfiable]
              refine ⟨belongs, ?_⟩
              rintro opinion ⟨⟩
              exact .contradiction asked answered satisfiable

theorem Of.critical_eq_false {config : GateConfig} (belongs : dossier.Of setting case)
    (elevated : ¬ dossier.isElevated config = true) : case.critical setting = false := by
  rw [← belongs.critical]
  unfold isElevated at elevated
  cases critical : dossier.critical with
  | false => rfl
  | true => simp [critical] at elevated

/-- The deep tier takes a result from the answer of the verifier. -/
def DeepResult.From (setting : Setting) (case : Case) (result : DeepResult) : Prop :=
  match result with
  | .pass => ∃ report, case.deepAnswer setting = some (.ok report) ∧ report.status = .pass
  | .fail _ => ∃ report, case.deepAnswer setting = some (.ok report) ∧ report.status = .fail
  | .unavailable _ => True

theorem from_deepResult (setting : Setting) (case : Case) :
    (deepResult setting.config (case.deepAnswer setting)).From setting case := by
  unfold deepResult
  cases answered : case.deepAnswer setting with
  | none => trivial
  | some answer =>
      cases answer with
      | error cause => trivial
      | ok report =>
          cases status : report.status with
          | pass =>
              simp only [status]
              exact ⟨report, answered, status⟩
          | fail =>
              simp only [status]
              exact ⟨report, answered, status⟩
          | timeout =>
              simp only [status]
              trivial

theorem Of.afterDeep (belongs : dossier.Of setting case) {result : DeepResult}
    (follows : result.From setting case) :
    (dossier.afterDeep result).1.Of setting case ∧
      case.Grounds setting (dossier.afterDeep result).2.1.status := by
  cases result with
  | pass =>
      obtain ⟨report, answered, passes⟩ := follows
      exact ⟨⟨belongs.unit, belongs.stage, belongs.coolingOff, belongs.critical, belongs.risk⟩,
        .deepPass answered passes⟩
  | fail violations =>
      obtain ⟨report, answered, fails⟩ := follows
      refine ⟨⟨belongs.unit, belongs.stage, belongs.coolingOff, belongs.critical, belongs.risk⟩, ?_⟩
      simp only [Dossier.afterDeep, deepFailureOpinion]
      split
      · rename_i critical
        exact .held (belongs.critical.symm.trans critical)
      · rename_i ordinary
        refine .deepFail ?_ answered fails
        rw [← belongs.critical]
        simpa using ordinary
  | unavailable reason =>
      simp only [Dossier.afterDeep, withoutDeep]
      split
      · rename_i critical
        exact ⟨⟨belongs.unit, belongs.stage, belongs.coolingOff, belongs.critical, belongs.risk⟩,
          .held (belongs.critical.symm.trans critical)⟩
      · rename_i ordinary
        refine ⟨⟨belongs.unit, belongs.stage, belongs.coolingOff, belongs.critical,
          belongs.risk⟩, .unverified ?_⟩
        rw [← belongs.critical]
        simpa using ordinary

end Dossier

/-! ## What a step asks -/

namespace Review

/-- Whether the next step of a review asks the checker. -/
def AsksChecker : Review → Prop
  | .admitted unit .. => unit.constraints.isEmpty = false
  | _ => False

/-- Whether the next step of a review may ask the deep verifier. -/
def AsksVerifier : Review → Prop
  | .admitted unit .. => unit.constraints.isEmpty = true
  | .checking .. => True
  | _ => False

end Review

/-- For the next step of a review a gate has the policy of a setting, and the service that the step
asks. -/
structure Setting.MetBy (setting : Setting) (gate : Gate K) (review : Review) : Prop where
  config : gate.config = setting.config
  checker : review.AsksChecker → gate.checker = setting.checker
  verifier : review.AsksVerifier → gate.verifier = setting.verifier

theorem Gate.meets_setting (gate : Gate K) (review : Review) : gate.setting.MetBy gate review :=
  ⟨rfl, fun _ => rfl, fun _ => rfl⟩

/-! ## What a review in progress knows -/

namespace Verdict

/-- A verdict that a case has grounds for. -/
structure On (setting : Setting) (case : Case) (verdict : Verdict) : Prop where
  unit : verdict.unitId = case.unit.id
  author : verdict.identity = case.unit.author
  grounds : case.Grounds setting verdict.status

end Verdict

/-- A verdict on its way into the ledger that belongs to a case. -/
structure Emission.Of (setting : Setting) (case : Case) (emission : Emission) : Prop where
  dossier : emission.dossier.Of setting case
  verdict : emission.verdict.On setting case
  trail : emission.dossier.trail.current = emission.verdict.status.state
  request : emission.request.isSome = true ↔ emission.verdict.status = .held

namespace Review

/-- A review that has scanned its unit belongs to a case. -/
def Of (setting : Setting) (case : Case) : Review → Prop
  | .submitted _ | .staged .. | .queued .. | .admitted .. => False
  | .checking dossier _ answer =>
      dossier.Of setting case ∧ case.unit.constraints.isEmpty = false ∧
        answer = case.contractAnswer setting
  | .deepening dossier _ answer =>
      dossier.Of setting case ∧ answer = case.deepAnswer setting
  | .learning dossier verdict _ => dossier.Of setting case ∧ verdict.On setting case
  | .committing emission commit =>
      emission.Of setting case ∧
        ∃ (K : Type) (gate : Gate K) (now : Instant), commit = gate.verdictCommit now emission
  | .writing emission _ | .settling emission _ _ | .filing emission _ | .publishing emission _ _ =>
      emission.Of setting case
  | .finished (.ok outcome) =>
      ∃ (emission : Emission) (score : Float),
        emission.Of setting case ∧ outcome = emission.outcome score
  | .finished (.error _) => True

end Review

namespace Gate

variable {gate : Gate K} {setting : Setting} {case : Case} {dossier : Dossier}

theorem of_opine (belongs : dossier.Of setting case) (gate : Gate K) (now : Instant)
    {opinion : Opinion} (grounds : case.Grounds setting opinion.status)
    (toLearn : List Violation) : (gate.opine now dossier opinion toLearn).1.Of setting case :=
  ⟨belongs, congrArg CodeUnit.id belongs.unit, congrArg CodeUnit.author belongs.unit, grounds⟩

theorem of_concludeDeep (belongs : dossier.Of setting case) (gate : Gate K) (now : Instant)
    {result : Dossier.DeepResult} (follows : result.From setting case) :
    (gate.concludeDeep now dossier result).1.Of setting case := by
  obtain ⟨kept, grounds⟩ := belongs.afterDeep follows
  exact of_opine kept gate now grounds _

theorem of_askVerifier (belongs : dossier.Of setting case) (config : gate.config = setting.config)
    (verifier : gate.verifier = setting.verifier) (now : Instant) :
    (gate.askVerifier now dossier).1.Of setting case := by
  unfold askVerifier
  split
  · exact of_concludeDeep belongs gate now trivial
  · rename_i notLite
    split
    · exact of_concludeDeep belongs gate now trivial
    · rename_i service found
      have asks : ¬setting.config.mode = .lite := config ▸ notLite
      refine ⟨belongs, ?_⟩
      simp only [Case.deepAnswer, if_neg asks, ← verifier, found, Option.bind_some, belongs.unit,
        config]

theorem of_leaveContracts (belongs : dossier.Of setting case)
    (config : gate.config = setting.config) (verifier : gate.verifier = setting.verifier)
    (now : Instant) {opinion : Option Opinion}
    (grounds : ∀ reached, opinion = some reached → case.Grounds setting reached.status) :
    (gate.leaveContracts now dossier opinion).1.Of setting case := by
  unfold leaveContracts
  split
  · rename_i reached
    exact of_opine belongs gate now (grounds reached rfl) []
  · split
    · split
      · rename_i passed advanced
        exact of_askVerifier (belongs.pass advanced).1 config verifier now
      · trivial
    · rename_i calm
      exact of_opine belongs gate now (.contractsHold (belongs.critical_eq_false calm)) []

theorem of_askChecker (belongs : dossier.Of setting case) (config : gate.config = setting.config)
    (checker : case.unit.constraints.isEmpty = false → gate.checker = setting.checker)
    (verifier : case.unit.constraints.isEmpty = true → gate.verifier = setting.verifier)
    (now : Instant) : (gate.askChecker now dossier).1.Of setting case := by
  unfold askChecker
  dsimp only
  split
  · rename_i none
    rw [belongs.unit] at none
    exact of_leaveContracts belongs config (verifier none) now (by simp)
  · rename_i asked
    rw [belongs.unit] at asked
    have asked := Bool.eq_false_iff.mpr asked
    refine ⟨belongs.foldl_warn _ _, asked, ?_⟩
    simp only [Case.contractAnswer, belongs.unit, checker asked, config]

theorem of_scanUnit {unit : CodeUnit} {stage : Stage} {coolingOff : Bool}
    (meets : setting.MetBy gate (.admitted unit stage coolingOff)) (now : Instant) :
    (gate.scanUnit now unit stage coolingOff).1.Of setting
      ⟨unit, stage, coolingOff, gate.library.scan Float .low unit.source⟩ := by
  obtain ⟨config, checker, verifier⟩ := meets
  unfold scanUnit
  have opened := Dossier.of_ofScan setting unit stage coolingOff
    (gate.library.scan Float .low unit.source)
  obtain ⟨scanned, grounds⟩ := opened.afterScan
  rw [← config] at scanned grounds
  dsimp only
  split
  · rename_i opinion reached
    exact of_opine scanned gate now (grounds opinion reached) []
  · split
    · rename_i passed advanced
      exact of_askChecker (scanned.pass advanced).1 config checker verifier now
    · trivial

theorem of_learnFrom (belongs : dossier.Of setting case) (gate : Gate K) (now : Instant)
    (verdict : Verdict) (violation : Violation) :
    (gate.learnFrom now dossier verdict violation).1.Of setting case := by
  unfold learnFrom
  dsimp only
  split
  · exact ⟨belongs.unit, belongs.stage, belongs.coolingOff, belongs.critical, belongs.risk⟩
  · exact belongs.warn _

theorem requestFor_isSome_iff (gate : Gate K) (now : Instant) (dossier : Dossier)
    (verdict : Verdict) :
    (gate.requestFor now dossier verdict).1.isSome = true ↔ verdict.status = .held := by
  unfold requestFor
  split <;> simp_all

theorem of_emit (belongs : dossier.Of setting case) (gate : Gate K) (now : Instant)
    {verdict : Verdict} (concerns : verdict.On setting case) :
    (gate.emit now dossier verdict).1.Of setting case := by
  unfold emit
  split
  · trivial
  · rename_i passed advanced
    obtain ⟨kept, reached⟩ := belongs.pass advanced
    dsimp only
    split
    · trivial
    · exact ⟨⟨kept, concerns, reached, gate.requestFor_isSome_iff now passed verdict⟩,
        K, _, now, rfl⟩

theorem of_publish {emission : Emission} (belongs : emission.Of setting case)
    (gate : Gate K) (proposal : Proposal) :
    (gate.publish emission proposal).1.Of setting case := by
  rw [publish_eq]
  split
  · obtain ⟨⟨unit, stage, coolingOff, critical, risk⟩, verdict, trail, request⟩ := belongs
    exact ⟨⟨unit, stage, coolingOff, critical, risk⟩, verdict, trail, request⟩
  · exact belongs

end Gate

namespace Review

/-- No step changes what the gate decides by; until the commit has taken effect neither the library
nor the requests change. -/
theorem frame_of_step? {now : Instant} {gate later : Gate K} {review next : Review}
    (stepped : step? now gate review = some (next, later)) :
    gate.Frame later ∧
      (next.phase ≠ .after → later.learner = gate.learner ∧ later.approvals = gate.approvals) := by
  have settled : ∀ {answer : Review × Gate K}, gate.Quiet answer → answer = (next, later) →
      gate.Frame later ∧
        (next.phase ≠ .after → later.learner = gate.learner ∧ later.approvals = gate.approvals) := by
    rintro answer quiet rfl
    obtain ⟨alike, -⟩ := quiet
    exact ⟨⟨alike.ids, alike.setting, .inl (congrArg ApprovalGate.requests alike.approvals)⟩,
      fun _ => ⟨alike.learner, alike.approvals⟩⟩
  cases step_of_step? stepped with
  | invalid | unknown | stage | lost | queue | grant | unready | prepare | unwritten | write
  | unsettled | settle | finish =>
      exact ⟨⟨.refl gate.ids, rfl, .inl rfl⟩, fun _ => ⟨rfl, rfl⟩⟩
  | scan scanned => exact settled (gate.quiet_scanUnit now _ _ _) scanned
  | check elapsed left => exact settled (gate.quiet_leaveContracts now _ _) left
  | deepen elapsed concluded => exact settled (gate.quiet_concludeDeep now _ _) concluded
  | @learn dossier learned verdict violation left later told =>
      have alike := gate.alike_learnFrom now dossier verdict violation
      rw [told] at alike
      exact settled ⟨alike, .inl rfl⟩ rfl
  | emit emitted => exact settled (gate.quiet_emit now _ _) emitted
  | @file emission score =>
      refine ⟨⟨.refl gate.ids, rfl, ?_⟩, fun unfinished => absurd rfl unfinished⟩
      cases emission.request with
      | none => exact .inl rfl
      | some request => exact .inr ⟨request, rfl⟩
  | publish applied =>
      have kept : gate.Frame later := by
        rw [Gate.publish_eq] at applied
        split at applied <;> cases applied <;> exact ⟨.refl gate.ids, rfl, .inl rfl⟩
      exact ⟨kept, fun unfinished => absurd rfl unfinished⟩

/-- Every step keeps a review one of its case. -/
theorem of_step? {setting : Setting} {now : Instant} {gate later : Gate K} {review next : Review}
    {case : Case} (belongs : review.Of setting case) (meets : setting.MetBy gate review)
    (stepped : step? now gate review = some (next, later)) : next.Of setting case := by
  cases step_of_step? stepped with
  | invalid | unknown | stage | lost | queue | grant | scan => exact belongs.elim
  | check elapsed left =>
      obtain ⟨kept, asked, rfl⟩ := belongs
      obtain ⟨checked, grounds⟩ := kept.afterContracts asked
      rw [← meets.config] at checked grounds
      have landed : (gate.leaveContracts now _ _).1 = next := congrArg Prod.fst left
      rw [← landed]
      exact Gate.of_leaveContracts checked meets.config (meets.verifier trivial) now grounds
  | deepen elapsed concluded =>
      obtain ⟨kept, rfl⟩ := belongs
      cases concluded
      rw [meets.config]
      exact Gate.of_concludeDeep kept gate now (Dossier.from_deepResult setting case)
  | @learn dossier learned verdict violation left later told =>
      obtain ⟨kept, concerns⟩ := belongs
      have belongs := Gate.of_learnFrom kept gate now verdict violation
      rw [told] at belongs
      exact ⟨belongs, concerns⟩
  | emit emitted =>
      obtain ⟨kept, concerns⟩ := belongs
      have belongs := Gate.of_emit kept gate now concerns
      rwa [emitted] at belongs
  | unready | unwritten | unsettled => trivial
  | prepare => exact belongs.1
  | write | settle | file => exact belongs
  | @publish emission published score proposal left later applied =>
      have kept := Gate.of_publish belongs gate proposal
      rwa [applied] at kept
  | @finish emission score => exact ⟨emission, score, belongs, rfl⟩

/-- A review is about a unit. -/
def About (setting : Setting) (unit : CodeUnit) : Review → Prop
  | .submitted asked | .staged asked _ | .queued asked _ _ _ | .admitted asked _ _ => asked = unit
  | course => ∃ case : Case, case.unit = unit ∧ course.Of setting case

theorem About.of_case {setting : Setting} {case : Case} {review : Review}
    (belongs : review.Of setting case) : review.About setting case.unit := by
  cases review with
  | submitted | staged | queued | admitted => exact belongs.elim
  | checking | deepening | learning | committing | writing | settling | filing | publishing
  | finished => exact ⟨case, rfl, belongs⟩

/-- A review that fails is about any unit. -/
theorem about_failure (setting : Setting) (unit : CodeUnit) (cause : GateError) :
    (Review.finished (.error cause)).About setting unit :=
  ⟨⟨unit, .calculusBased, false, ⟨[], 0, 0⟩⟩, rfl, trivial⟩

theorem about_of_step? {setting : Setting} {now : Instant} {gate later : Gate K}
    {review next : Review} {unit : CodeUnit} (concerns : review.About setting unit)
    (meets : setting.MetBy gate review) (stepped : step? now gate review = some (next, later)) :
    next.About setting unit := by
  have later : (∃ case : Case, case.unit = unit ∧ review.Of setting case) →
      next.About setting unit := by
    rintro ⟨case, rfl, belongs⟩
    exact .of_case (of_step? belongs meets stepped)
  cases step_of_step? stepped with
  | invalid | unknown | lost => exact about_failure ..
  | stage | queue | grant => exact concerns
  | @scan asked stage coolingOff next later scanned =>
      have same : asked = unit := concerns
      subst same
      have belongs := Gate.of_scanUnit meets now
      rw [scanned] at belongs
      exact .of_case belongs
  | check | deepen | learn | emit | unready | prepare | unwritten | write | unsettled | settle
  | file | publish | finish => exact later concerns

/-- Whatever the services have become, what a review is about fits a gate of the policy. -/
theorem About.exists_meets {setting : Setting} {unit : CodeUnit} {review : Review}
    (concerns : review.About setting unit) {gate : Gate K} (config : gate.config = setting.config) :
    ∃ other : Setting, other.config = setting.config ∧ review.About other unit ∧
      other.MetBy gate review := by
  cases review with
  | admitted asked stage coolingOff => exact ⟨gate.setting, config, concerns, gate.meets_setting _⟩
  | checking dossier due answer =>
      obtain ⟨case, same, ⟨about, stage, coolingOff, critical, risk⟩, asked, answered⟩ := concerns
      exact ⟨{ setting with verifier := gate.verifier }, rfl,
        ⟨case, same, ⟨about, stage, coolingOff, critical, risk⟩, asked, answered⟩,
        config, nofun, fun _ => rfl⟩
  | _ => exact ⟨setting, rfl, concerns, config, nofun, nofun⟩

end Review

/-! ## What a resolution in progress knows -/

namespace ApprovalGate

/-- Every request is stored under its own id. -/
def Keyed (approvals : ApprovalGate) : Prop :=
  ∀ id request, approvals.get? id = some request → request.id = id

theorem Keyed.of_requests {approvals later : ApprovalGate} (keyed : approvals.Keyed)
    (requests : later.requests = approvals.requests ∨ ∃ request : ApprovalRequest,
      later.requests = approvals.requests.insert request.id request) : later.Keyed := by
  intro id found present
  unfold get? at present
  rcases requests with same | ⟨request, inserted⟩
  · rw [same] at present
    exact keyed id found present
  · rw [inserted, Table.get?_insert] at present
    split at present
    · cases present
      assumption
    · exact keyed id found present

theorem get?_of_claimable {approvals : ApprovalGate} {ruling : Ruling} {request : ApprovalRequest}
    (claimable : approvals.claimable ruling = .ok request) :
    approvals.get? ruling.requestId = some request := by
  unfold ApprovalGate.claimable at claimable
  split at claimable
  · contradiction
  · split at claimable
    · contradiction
    · rename_i found
      split at claimable
      · contradiction
      · split at claimable
        · contradiction
        · split at claimable
          · contradiction
          · cases claimable
            exact found

end ApprovalGate

/-- A decision on its way into the ledger that carries out a ruling. -/
structure Settlement.Of (ruling : Ruling) (settlement : Settlement) : Prop where
  resolved : ∃ (request : ApprovalRequest) (now : Instant),
    settlement.resolved = request.resolve now ruling
  verdict : ∃ id now, settlement.verdict = settlement.resolved.finalVerdict id now
  trail : settlement.trail.current = settlement.verdict.status.state

namespace Resolution

/-- A resolution carries out a ruling. -/
def Of (ruling : Ruling) : Resolution → Prop
  | .submitted asked => asked = ruling
  | .committing settlement commit =>
      settlement.Of ruling ∧
        ∃ (K : Type) (gate : Gate K) (now : Instant), commit = gate.resolutionCommit now settlement
  | .writing settlement _ | .settling settlement _ _ | .storing settlement _ =>
      settlement.Of ruling
  | .finished (.ok outcome) =>
      ∃ (settlement : Settlement) (score : Float),
        settlement.Of ruling ∧ outcome = settlement.outcome score
  | .finished (.error _) => True

/-- What a resolution knows of the claims, which begin as they were before it. -/
def Claims (first claims : List String) : Resolution → Prop
  | .submitted _ => claims = first
  | .committing settlement _ | .writing settlement _ | .settling settlement _ _ =>
      claims = settlement.resolved.id :: first
  | .storing .. | .finished (.ok _) => True
  | .finished (.error _) => claims = first

theorem frame_finalize (gate : Gate K) (now : Instant) (resolved : ApprovalRequest) :
    gate.ids.Later (gate.finalize now resolved).2.ids ∧
      (gate.finalize now resolved).2.setting = gate.setting ∧
      (gate.finalize now resolved).2.learner = gate.learner ∧
      (gate.finalize now resolved).2.approvals.requests = gate.approvals.requests := by
  unfold Gate.finalize
  split
  · exact ⟨.refl gate.ids, rfl, rfl, rfl⟩
  · dsimp only
    split <;> exact ⟨gate.ids.later_advance, rfl, rfl, rfl⟩

theorem claims_giveUp {gate : Gate K} {id : String} {first : List String}
    (claimed : gate.approvals.claims = id :: first) (cause : GateError) :
    (gate.giveUp id cause).1.Claims first (gate.giveUp id cause).2.approvals.claims := by
  simp [Claims, Gate.giveUp, ApprovalGate.unclaim, claimed]

theorem claims_finalize (gate : Gate K) {resolved : ApprovalRequest} {first : List String}
    (claimed : gate.approvals.claims = resolved.id :: first) (now : Instant) :
    (gate.finalize now resolved).1.Claims first (gate.finalize now resolved).2.approvals.claims := by
  unfold Gate.finalize
  split
  · exact claims_giveUp claimed _
  · dsimp only
    split
    · exact claims_giveUp claimed _
    · exact claimed

/-- A resolution leaves the library alone, and the requests until its commit has taken effect. -/
theorem frame_of_step? {now : Instant} {gate later : Gate K} {resolution next : Resolution}
    (stepped : step? now gate resolution = some (next, later)) :
    gate.Frame later ∧ later.learner = gate.learner ∧
      (next.phase ≠ .after → later.approvals.requests = gate.approvals.requests) := by
  cases step_of_step? stepped with
  | @claim asked resolved approvals next later claimed finalized =>
      have requests : approvals.requests = gate.approvals.requests := by
        obtain ⟨request, -, made⟩ := bind_eq_ok_iff.mp claimed
        cases made
        rfl
      have frame := frame_finalize { gate with approvals } now resolved
      rw [finalized] at frame
      obtain ⟨ids, setting, learner, same⟩ := frame
      exact ⟨⟨ids, setting, .inl (same.trans requests)⟩, learner, fun _ => same.trans requests⟩
  | refuse | unready | prepare | unwritten | write | unsettled | settle =>
      exact ⟨⟨.refl gate.ids, rfl, .inl rfl⟩, rfl, fun _ => rfl⟩
  | @store settlement score =>
      exact ⟨⟨.refl gate.ids, rfl, .inr ⟨settlement.resolved, rfl⟩⟩, rfl,
        fun unfinished => absurd rfl unfinished⟩

/-- Until it succeeds a resolution adds its own claim, and it gives that up when it fails. -/
theorem claims_of_step? {now : Instant} {gate later : Gate K} {resolution next : Resolution}
    {first : List String} (keyed : gate.approvals.Keyed)
    (claims : resolution.Claims first gate.approvals.claims)
    (stepped : step? now gate resolution = some (next, later)) :
    next.Claims first later.approvals.claims := by
  cases step_of_step? stepped with
  | refuse => exact claims
  | @claim asked resolved approvals next later claimed finalized =>
      obtain ⟨request, claimable, made⟩ := bind_eq_ok_iff.mp claimed
      have found := ApprovalGate.get?_of_claimable claimable
      have owned : request.id = asked.requestId := keyed _ _ found
      cases made
      have begun : asked.requestId :: gate.approvals.claims =
          (request.resolve now asked).id :: first := by
        rw [claims, ← owned]
        rfl
      have carried := claims_finalize { gate with approvals := { gate.approvals with
        claims := asked.requestId :: gate.approvals.claims } } begun now
      rwa [finalized] at carried
  | unready | unwritten | unsettled => exact claims_giveUp claims _
  | prepare | write => exact claims
  | settle | store => trivial

theorem of_finalize (ruling : Ruling) (request : ApprovalRequest) (gate : Gate K)
    (claimedAt now : Instant) :
    (gate.finalize now (request.resolve claimedAt ruling)).1.Of ruling := by
  unfold Gate.finalize
  split
  · trivial
  · rename_i trail advanced
    dsimp only
    split
    · trivial
    · refine ⟨⟨⟨request, claimedAt, rfl⟩, ⟨_, now, rfl⟩, ?_⟩, K, _, now, rfl⟩
      unfold Trail.advance at advanced
      split at advanced
      · rename_i found
        cases advanced
        exact Trail.current_of_advance? found
      · contradiction

theorem of_step? {now : Instant} {gate later : Gate K} {resolution next : Resolution}
    {ruling : Ruling} (belongs : resolution.Of ruling)
    (stepped : step? now gate resolution = some (next, later)) : next.Of ruling := by
  cases step_of_step? stepped with
  | @claim asked resolved approvals next later claimed finalized =>
      have same : asked = ruling := belongs
      subst same
      obtain ⟨request, -, made⟩ := bind_eq_ok_iff.mp claimed
      cases made
      have carried := of_finalize asked request
        { gate with approvals := { gate.approvals with
          claims := asked.requestId :: gate.approvals.claims } } now now
      rwa [finalized] at carried
  | refuse | unready | unwritten | unsettled => trivial
  | prepare => exact belongs.1
  | write | settle => exact belongs
  | @store settlement score => exact ⟨settlement, score, belongs, rfl⟩

end Resolution

end ReviewGate
