import ReviewGate.Proofs.Gate.System
import ReviewGate.Proofs.Pattern.Scan

/-!
# A gate that fails closed

Whatever the services do and whatever happens between its steps, a review accepts a critical unit
only on low risk from a steady author or on a proof that came in time, holds only critical units,
and rejects only on evidence or, for critical units, for want of a checker.
-/

namespace ReviewGate

variable {K : Type}

/-! ## Paths of reviews -/

/-- The steps by which a review of a unit has come to where it is, each with its time and the gate
as it was then.  Between the steps anything may happen to the gate but a change of its policy; what
the services answer counts where the review asks them. -/
inductive Review.Path (setting : Setting) (unit : CodeUnit) :
    List (Instant × Gate K) → Review → Prop
  | submitted : Path setting unit [] (.submitted unit)
  | step {moments : List (Instant × Gate K)} {review next : Review} {now : Instant}
      {gate later : Gate K} (before : Path setting unit moments review)
      (meets : setting.MetBy gate review)
      (stepped : review.step? now gate = some (next, later)) :
      Path setting unit (moments ++ [(now, gate)]) next

/-- A case is what a review has seen: the stage of the author at the first step, its cooling-off at
the second, and the scan with the library at the fourth. -/
structure Case.Seen (case : Case) (library : Library) (moments : List (Instant × Gate K)) :
    Prop where
  stage : ∃ first, moments[0]? = some first ∧
    first.2.engine.stage case.unit.author = .ok case.stage
  coolingOff : ∃ second, moments[1]? = some second ∧
    second.2.engine.isCoolingOff case.unit.author second.1 = .ok case.coolingOff
  snapshot : ∃ fourth, moments[3]? = some fourth ∧ fourth.2.library = library
  report : case.report = library.scan Float .low case.unit.source

theorem Case.Seen.append {case : Case} {library : Library} {moments : List (Instant × Gate K)}
    (seen : case.Seen library moments) (moment : Instant × Gate K) :
    case.Seen library (moments ++ [moment]) := by
  have kept : ∀ {index : Nat} {old : Instant × Gate K}, moments[index]? = some old →
      (moments ++ [moment])[index]? = some old := by
    intro index old present
    rw [List.getElem?_append_left (List.getElem?_eq_some_iff.mp present).1]
    exact present
  obtain ⟨⟨first, begun, stage⟩, ⟨second, followed, coolingOff⟩, ⟨fourth, scanned, same⟩, report⟩ :=
    seen
  exact ⟨⟨first, kept begun, stage⟩, ⟨second, kept followed, coolingOff⟩,
    ⟨fourth, kept scanned, same⟩, report⟩

namespace Review

/-- What a review knows, and when it has learned it. -/
def Knows (setting : Setting) (unit : CodeUnit) (moments : List (Instant × Gate K)) :
    Review → Prop
  | .submitted asked => asked = unit ∧ moments = []
  | .staged asked stage => asked = unit ∧
      ∃ first, moments = [first] ∧ first.2.engine.stage unit.author = .ok stage
  | .queued asked stage coolingOff _ => asked = unit ∧
      ∃ first second, moments = [first, second] ∧
        first.2.engine.stage unit.author = .ok stage ∧
        second.2.engine.isCoolingOff unit.author second.1 = .ok coolingOff
  | .admitted asked stage coolingOff => asked = unit ∧
      ∃ first second third, moments = [first, second, third] ∧
        first.2.engine.stage unit.author = .ok stage ∧
        second.2.engine.isCoolingOff unit.author second.1 = .ok coolingOff
  | .finished (.error _) => True
  | course => ∃ (case : Case) (library : Library),
      case.unit = unit ∧ case.Seen library moments ∧ course.Of setting case

theorem knows_of_case {setting : Setting} {case : Case} {library : Library}
    {moments : List (Instant × Gate K)} (seen : case.Seen library moments) {review : Review}
    (belongs : review.Of setting case) : review.Knows setting case.unit moments := by
  cases review with
  | submitted | staged | queued | admitted => exact belongs.elim
  | finished result =>
      cases result with
      | error cause => trivial
      | ok outcome => exact ⟨case, library, rfl, seen, belongs⟩
  | checking | deepening | learning | committing | writing | settling | filing | publishing =>
      exact ⟨case, library, rfl, seen, belongs⟩

/-- The fourth step of a review scans its unit. -/
theorem Knows.seen {setting : Setting} {unit asked : CodeUnit} {stage : Stage} {coolingOff : Bool}
    {moments : List (Instant × Gate K)}
    (knows : (Review.admitted asked stage coolingOff).Knows setting unit moments) (now : Instant)
    (gate : Gate K) :
    asked = unit ∧
      Case.Seen ⟨asked, stage, coolingOff, gate.library.scan Float .low asked.source⟩ gate.library
        (moments ++ [(now, gate)]) := by
  obtain ⟨rfl, first, second, third, rfl, staged, answered⟩ := knows
  exact ⟨rfl, ⟨first, rfl, staged⟩, ⟨second, rfl, answered⟩, ⟨(now, gate), rfl, rfl⟩, rfl⟩

theorem Knows.step {setting : Setting} {unit : CodeUnit} {moments : List (Instant × Gate K)}
    {review next : Review} {now : Instant} {gate later : Gate K}
    (knows : review.Knows setting unit moments) (meets : setting.MetBy gate review)
    (stepped : review.step? now gate = some (next, later)) :
    next.Knows setting unit (moments ++ [(now, gate)]) := by
  have decided : (∃ (case : Case) (library : Library),
      case.unit = unit ∧ case.Seen library moments ∧ review.Of setting case) →
      next.Knows setting unit (moments ++ [(now, gate)]) := by
    rintro ⟨case, library, rfl, seen, belongs⟩
    exact knows_of_case (seen.append _) (of_step? belongs meets stepped)
  cases step_of_step? stepped with
  | invalid | unknown | lost => trivial
  | stage valid free staged =>
      obtain ⟨rfl, rfl⟩ := knows
      exact ⟨rfl, (now, gate), rfl, staged⟩
  | queue free answered =>
      obtain ⟨rfl, first, rfl, staged⟩ := knows
      exact ⟨rfl, first, (now, gate), rfl, staged, answered⟩
  | grant granted =>
      obtain ⟨rfl, first, second, rfl, staged, answered⟩ := knows
      exact ⟨rfl, first, second, (now, gate), rfl, staged, answered⟩
  | @scan asked stage coolingOff next later scanned =>
      obtain ⟨rfl, seen⟩ := knows.seen now gate
      have belongs := Gate.of_scanUnit meets now
      rw [scanned] at belongs
      exact knows_of_case seen belongs
  | check | deepen | learn | emit | unready | prepare | unwritten | write | unsettled | settle
  | file | publish | finish => exact decided knows

theorem Path.knows {setting : Setting} {unit : CodeUnit} {moments : List (Instant × Gate K)}
    {review : Review} (path : Path setting unit moments review) :
    review.Knows setting unit moments := by
  induction path with
  | submitted => exact ⟨rfl, rfl⟩
  | step before meets stepped knows => exact knows.step meets stepped

/-! ## Services on the way -/

theorem stagesLeft_lt_of_step? {now : Instant} {gate later : Gate K} {review next : Review}
    (early : 7 ≤ next.stagesLeft) (stepped : review.step? now gate = some (next, later)) :
    next.stagesLeft < review.stagesLeft := by
  rcases closer_of_step? stepped with less | ⟨same, repeats⟩
  · exact less
  · rw [same] at early
    cases review with
    | learning | publishing => simp [stagesLeft] at early
    | _ => simp [repeatsLeft] at repeats

/-- Before the scan no service is asked. -/
theorem Path.of_unscanned {setting other : Setting} {unit : CodeUnit}
    {moments : List (Instant × Gate K)} {review : Review}
    (path : Path setting unit moments review) (config : other.config = setting.config)
    (unscanned : 9 ≤ review.stagesLeft) : Path other unit moments review := by
  induction path with
  | submitted => exact .submitted
  | @step moments review next now gate later before meets stepped inductionHypothesis =>
      have less := stagesLeft_lt_of_step? (by omega) stepped
      refine .step (inductionHypothesis (by omega)) ?_ stepped
      cases review with
      | submitted | staged | queued => exact ⟨meets.config.trans config.symm, nofun, nofun⟩
      | _ => exact absurd (Nat.lt_of_le_of_lt unscanned less) (by simp [stagesLeft])

/-- While a review waits for the checker, the deep verifier has not been asked. -/
theorem Path.of_checking {setting other : Setting} {unit : CodeUnit}
    {moments : List (Instant × Gate K)} {dossier : Dossier} {due : Nat}
    {answer : Option (Except ServiceError ContractReport)}
    (path : Path setting unit moments (.checking dossier due answer))
    (config : other.config = setting.config) (checker : other.checker = setting.checker) :
    Path other unit moments (.checking dossier due answer) := by
  cases path with
  | @step moments review _ now gate later before meets stepped =>
      have less : 8 < review.stagesLeft := stagesLeft_lt_of_step? (by simp [stagesLeft]) stepped
      refine .step (before.of_unscanned config less) ⟨meets.config.trans config.symm, ?_, ?_⟩ stepped
      · exact fun asks => (meets.checker asks).trans checker.symm
      · intro asks
        cases review with
        | admitted asked stage coolingOff =>
            have belongs := Gate.of_scanUnit meets now
            have scanned : gate.scanUnit now asked stage coolingOff = _ := Option.some.inj stepped
            rw [scanned] at belongs
            have some : asked.constraints.isEmpty = false := belongs.2.1
            rw [show asked.constraints.isEmpty = true from asks] at some
            cases some
        | checking => simp [stagesLeft] at less
        | _ => cases asks

/-- Whatever the services have become, the way of a review fits a gate of the policy. -/
theorem Path.exists_meets {setting : Setting} {unit : CodeUnit}
    {moments : List (Instant × Gate K)} {review : Review}
    (path : Path setting unit moments review) {gate : Gate K}
    (config : gate.config = setting.config) :
    ∃ other : Setting, other.config = setting.config ∧ Path other unit moments review ∧
      other.MetBy gate review := by
  cases review with
  | admitted asked stage coolingOff =>
      exact ⟨gate.setting, config, path.of_unscanned config (Nat.le_refl 9), gate.meets_setting _⟩
  | checking dossier due answer =>
      exact ⟨{ setting with verifier := gate.verifier }, rfl, path.of_checking rfl rfl,
        config, nofun, fun _ => rfl⟩
  | _ => exact ⟨setting, rfl, path, config, nofun, nofun⟩

end Review

/-! ## Evidence -/

namespace Case

/-- An active rule that blocks matches the source. -/
def HardBlocked (library : Library) (case : Case) : Prop :=
  ∃ entry ∈ library.rules, entry.rule.active = true ∧ entry.rule.hardBlock = true ∧
    entry.matcher.matchesSource case.unit.source = true

/-- The checker was asked and found, within its bound, that the constraints contradict each other. -/
def Contradicted (setting : Setting) (case : Case) : Prop :=
  case.unit.constraints.isEmpty = false ∧ ∃ millis report,
    setting.checker case.unit.constraints = .after millis (.ok report) ∧
    millis ≤ setting.config.pipeline.contractTimeout ∧ report.satisfiable = false

/-- The checker was asked, and it failed or its time was over first. -/
def Unchecked (setting : Setting) (case : Case) : Prop :=
  case.unit.constraints.isEmpty = false ∧ ∀ millis report,
    setting.checker case.unit.constraints = .after millis (.ok report) →
    setting.config.pipeline.contractTimeout < millis

/-- The deep verifier came to a result within its bound. -/
def DeepAnswered (setting : Setting) (case : Case) (status : DeepStatus) : Prop :=
  setting.config.mode ≠ .lite ∧ ∃ verifier millis report, setting.verifier = some verifier ∧
    verifier case.unit.source setting.config.pipeline.deepTimeout = .after millis (.ok report) ∧
    millis ≤ setting.config.pipeline.deepTimeout ∧ report.status = status

end Case

theorem Reply.within_eq_some_iff {α : Type} {bound : Nat} {reply : Reply α}
    {answer : Except ServiceError α} :
    reply.within bound = some answer ↔ ∃ millis, reply = .after millis answer ∧ millis ≤ bound := by
  cases reply with
  | never => simp [within]
  | after millis given =>
      simp only [within, Reply.after.injEq]
      by_cases early : millis ≤ bound
      · rw [if_pos early, Option.some.injEq]
        constructor
        · rintro rfl
          exact ⟨millis, ⟨rfl, rfl⟩, early⟩
        · rintro ⟨_, ⟨-, rfl⟩, -⟩
          rfl
      · rw [if_neg early]
        constructor
        · nofun
        · rintro ⟨_, ⟨rfl, -⟩, inTime⟩
          exact absurd inTime early

namespace Case

variable {setting : Setting} {case : Case}

theorem contradicted_of_answer {report : ContractReport}
    (asked : case.unit.constraints.isEmpty = false)
    (answered : case.contractAnswer setting = some (.ok report))
    (contradicts : report.satisfiable = false) : case.Contradicted setting := by
  obtain ⟨millis, given, early⟩ := Reply.within_eq_some_iff.mp answered
  exact ⟨asked, millis, report, given, early, contradicts⟩

theorem unchecked_of_silence (asked : case.unit.constraints.isEmpty = false)
    (silent : ∀ report, case.contractAnswer setting ≠ some (.ok report)) :
    case.Unchecked setting := by
  refine ⟨asked, ?_⟩
  intro millis report given
  rcases Nat.lt_or_ge setting.config.pipeline.contractTimeout millis with late | early
  · exact late
  · exact absurd (Reply.within_eq_some_iff.mpr ⟨millis, given, early⟩) (silent report)

theorem deepAnswered_of_answer {report : DeepReport}
    (answered : case.deepAnswer setting = some (.ok report)) :
    case.DeepAnswered setting report.status := by
  unfold deepAnswer at answered
  split at answered
  · contradiction
  · rename_i notLite
    obtain ⟨verifier, found, within⟩ := Option.bind_eq_some_iff.mp answered
    obtain ⟨millis, given, early⟩ := Reply.within_eq_some_iff.mp within
    exact ⟨notLite, verifier, millis, report, found, given, early, rfl⟩

/-! ## Outcomes -/

/-- An outcome that fails closed in its case. -/
structure FailsClosed (setting : Setting) (library : Library) (case : Case)
    (outcome : ReviewOutcome) : Prop where
  judged : outcome.critical = case.critical setting
  accepted : setting.config.mode ≠ .disabled → outcome.critical = true →
    outcome.state = .accepted →
      (case.coolingOff = false ∧ case.LowRisk setting) ∨ case.DeepAnswered setting .pass
  ordinary : outcome.critical = false → outcome.state ≠ .pendingApproval
  rejected : outcome.state = .rejected →
    case.HardBlocked library ∨ case.Contradicted setting ∨
      (outcome.critical = true ∧ case.Unchecked setting) ∨
      (outcome.critical = false ∧ case.DeepAnswered setting .fail)

theorem accepted_of_grounds (grounds : case.Grounds setting .pass)
    (active : setting.config.mode ≠ .disabled) (critical : case.critical setting = true) :
    (case.coolingOff = false ∧ case.LowRisk setting) ∨ case.DeepAnswered setting .pass := by
  cases grounds with
  | bypass disabled => exact absurd disabled active
  | lowRisk steady low => exact .inl ⟨steady, low⟩
  | contractsHold ordinary => simp [critical] at ordinary
  | deepPass answered passes =>
      rw [← passes]
      exact .inr (deepAnswered_of_answer answered)
  | unverified ordinary => simp [critical] at ordinary

theorem rejected_of_grounds (grounds : case.Grounds setting .fail) {library : Library}
    (scanned : case.report = library.scan Float .low case.unit.source) :
    case.HardBlocked library ∨ case.Contradicted setting ∨
      (case.critical setting = true ∧ case.Unchecked setting) ∨
      (case.critical setting = false ∧ case.DeepAnswered setting .fail) := by
  cases grounds with
  | hardBlock blocked =>
      rw [scanned, Library.isHardBlocked_scan_iff] at blocked
      obtain ⟨entry, active, -, blocking, matching⟩ := blocked
      obtain ⟨present, switchedOn⟩ := (Library.mem_active_iff ..).mp active
      exact .inl ⟨entry, present, switchedOn, blocking, matching⟩
  | contradiction asked answered contradicts =>
      exact .inr (.inl (contradicted_of_answer asked answered contradicts))
  | noChecker critical asked silent =>
      exact .inr (.inr (.inl ⟨critical, unchecked_of_silence asked silent⟩))
  | deepFail ordinary answered fails =>
      refine .inr (.inr (.inr ⟨ordinary, ?_⟩))
      rw [← fails]
      exact deepAnswered_of_answer answered

theorem failsClosed_of_outcome {library : Library} {emission : Emission}
    (scanned : case.report = library.scan Float .low case.unit.source)
    (belongs : emission.Of setting case) (score : Float) :
    case.FailsClosed setting library (emission.outcome score) := by
  obtain ⟨dossier, ⟨-, -, grounds⟩, trail, -⟩ := belongs
  have judged : (emission.outcome score).critical = case.critical setting := dossier.critical
  have reached : (emission.outcome score).state = emission.verdict.status.state := trail
  generalize emission.verdict.status = status at grounds reached
  refine ⟨judged, ?_, ?_, ?_⟩
  · intro active critical accepted
    cases status with
    | pass => exact accepted_of_grounds grounds active (judged.symm.trans critical)
    | _ => simp [reached, VerdictStatus.state] at accepted
  · intro ordinary pending
    cases status with
    | held =>
        cases grounds with
        | held critical => simp [judged, critical] at ordinary
    | _ => simp [reached, VerdictStatus.state] at pending
  · intro rejected
    rw [judged]
    cases status with
    | fail => exact rejected_of_grounds grounds scanned
    | _ => simp [reached, VerdictStatus.state] at rejected

end Case

/-- Every review that comes to an outcome fails closed, by what it has seen of its author and of the
library on the way. -/
theorem Review.failsClosed_of_path {setting : Setting} {unit : CodeUnit}
    {moments : List (Instant × Gate K)} {outcome : ReviewOutcome}
    (path : Path setting unit moments (.finished (.ok outcome))) :
    ∃ (case : Case) (library : Library), case.unit = unit ∧ case.Seen library moments ∧
      case.FailsClosed setting library outcome := by
  obtain ⟨case, library, about, seen, emission, score, belongs, rfl⟩ := path.knows
  exact ⟨case, library, about, seen, Case.failsClosed_of_outcome seen.report belongs score⟩

/-! ## Paths in a system -/

namespace System

variable [KeyProvider K] {permitted : Gate.Operation → Prop}

/-- No move changes the policy of a gate. -/
theorem Move.config {system later : System K} (moves : Move permitted system later) :
    later.gate.config = system.gate.config := by
  cases moves with
  | submit | refuse | serve | wait => rfl
  | step found stepped =>
      rcases Call.step?_cases stepped with
        ⟨unit, course, following, rfl, rfl, taken⟩ | ⟨ruling, course, following, rfl, rfl, taken⟩
      · exact congrArg Setting.config (Review.frame_of_step? taken).1.setting
      · exact congrArg Setting.config (Resolution.frame_of_step? taken).1.setting
  | @operate operation now allowed free =>
      rcases Gate.perform_cases system.gate now operation with ⟨asked, -, same⟩ | ⟨records, change⟩
      · have kept : (system.gate.perform now operation).config = system.gate.config := by
          rw [same]
        exact kept
      · exact change.config

/-- Every review in a system has come to where it is on a path whose gates are those of the run. -/
theorem path_of_reachable {system : System K} (reached : system.Reachable permitted)
    {unit : CodeUnit} {review : Review} (present : Call.review unit review ∈ system.calls) :
    ∃ (setting : Setting) (moments : List (Instant × Gate K)),
      setting.config = system.gate.config ∧ Review.Path setting unit moments review ∧
      ∀ moment ∈ moments, ∃ earlier : System K,
        earlier.Reachable permitted ∧ earlier.gate = moment.2 := by
  induction reached generalizing unit review with
  | start engineStarted gateStarted => simp at present
  | @move system later before moves paths =>
      rw [moves.config]
      obtain ⟨index, place⟩ := List.mem_iff_getElem?.mp present
      rcases moves.review_cases place with rfl | stayed | ⟨earlier, now, found, taken⟩
      · exact ⟨system.gate.setting, [], rfl, .submitted, by simp⟩
      · exact paths (List.mem_of_getElem? stayed)
      · obtain ⟨setting, moments, config, path, along⟩ := paths (List.mem_of_getElem? found)
        -- The services may have changed since the last step of the review.
        obtain ⟨other, same, path, meets⟩ := path.exists_meets config.symm
        refine ⟨other, _, same.trans config, path.step meets taken, ?_⟩
        intro moment membership
        rcases List.mem_append.mp membership with old | new
        · exact along moment old
        · rw [List.mem_singleton.mp new]
          exact ⟨system, before, rfl⟩

end System

namespace Small

def critical : CodeUnit := { unit with critical := some true }

/-- The verifier cannot be reached. -/
def outage : DeepVerifier := fun _ _ => .now (.error (.unavailable "outage"))

/-- A critical unit has been reviewed during an outage. -/
def interrupted : System LocalKeys :=
  System.play now (fun _ => 0)
    ⟨gateWith strict .empty (some outage) staffed, [.review critical (.submitted critical)],
      registered⟩ 12

/-- The same unit has been reviewed again after the outage. -/
def restored : System LocalKeys :=
  System.play now (fun _ => 1)
    { interrupted with
      gate := { interrupted.gate with
        checker := intervalChecker
        verifier := interrupted.gate.verifier.map fun _ _ _ => .now (.ok .pass) }
      calls := interrupted.calls ++ [.review critical (.submitted critical)] } 12

theorem reachable_restored : restored.Reachable fun _ => True := by
  have valid : strict.validate = .ok () := by rfl
  have reached : System.Reachable (fun _ => True)
      ⟨gateWith strict .empty (some outage) staffed, [], registered⟩ :=
    reachable_with valid (by decide) .empty (some outage) trivial
  have submitted := reached.move (.submit (show (Call.review critical _).IsFresh from rfl))
  have first : interrupted.Reachable fun _ => True := submitted.play now _ 12
  have served := first.move (.serve intervalChecker fun _ _ => .now (.ok .pass))
  exact (served.move (.submit (show (Call.review critical _).IsFresh from rfl))).play now _ 12

end Small

open ReviewGate.Small in
/-- During an outage of the verifier a critical unit is held, and afterwards it is accepted.  Both
reviews fail closed, each under the services that it has met. -/
theorem Review.failsClosed_across_outage :
    ∃ (before after : Setting) (first second : List (Instant × Gate LocalKeys))
      (held passed : ReviewOutcome),
      restored.calls = [.review critical (.finished (.ok held)),
        .review critical (.finished (.ok passed))] ∧
      (held.state = .pendingApproval ∧ held.critical = true) ∧
      (passed.state = .accepted ∧ passed.critical = true) ∧
      before.config.mode = .full ∧ after.config = before.config ∧
      (Path before critical first (.finished (.ok held)) ∧
        ∃ (case : Case) (library : Library), case.unit = critical ∧ case.Seen library first ∧
          case.FailsClosed before library held) ∧
      Path after critical second (.finished (.ok passed)) ∧
        ∃ (case : Case) (library : Library), case.unit = critical ∧ case.Seen library second ∧
          case.FailsClosed after library passed := by
  have ends : restored.calls.map Call.ending? =
      [some (critical, .pendingApproval), some (critical, .accepted)] := by decide +kernel
  have mode : restored.gate.config.mode = .full := by decide +kernel
  have marked : restored.calls.all (fun call =>
      call.reviewed?.all fun reviewed => reviewed.2.critical) = true := by decide +kernel
  obtain ⟨one, others, calls, ended, rest⟩ := List.map_eq_cons_iff.mp ends
  obtain ⟨other, last, found, endedToo, nothing⟩ := List.map_eq_cons_iff.mp rest
  obtain ⟨held, rfl, pending⟩ := Call.exists_of_ending? ended
  obtain ⟨passed, rfl, accepted⟩ := Call.exists_of_ending? endedToo
  rw [found, List.map_eq_nil_iff.mp nothing] at calls
  obtain ⟨before, first, config, path, -⟩ := System.path_of_reachable reachable_restored
    (calls ▸ List.mem_cons_self)
  obtain ⟨after, second, configToo, pathToo, -⟩ := System.path_of_reachable reachable_restored
    (calls ▸ List.mem_cons_of_mem _ List.mem_cons_self)
  rw [calls] at marked
  simp only [List.all_cons, Call.reviewed?, Option.all_some, List.all_nil, Bool.and_true,
    Bool.and_eq_true] at marked
  exact ⟨before, after, first, second, held, passed, calls, ⟨pending, marked.1⟩,
    ⟨accepted, marked.2⟩, config ▸ mode, configToo.trans config.symm,
    ⟨path, failsClosed_of_path path⟩, pathToo, failsClosed_of_path pathToo⟩

end ReviewGate
