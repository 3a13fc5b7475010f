import ReviewGate.Proofs.Gate.Activation
import ReviewGate.Proofs.Gate.Blocking
import ReviewGate.Proofs.Pattern.Lasting

/-!
# Lessons

What the deep tier has found in a unit teaches the scan.  As long as the rule is not switched off,
every scan finds it where the line comes up again.  If learned rules block, the scan rejects every
unit with the line, whoever the author is and whatever has happened in between.
-/

namespace ReviewGate

variable {K : Type}

/-! ## Learners that change -/

/-- The policy of learning stays, and the library changes only as permitted. -/
structure Learner.Evolves (permitted : String → Prop) (learner later : Learner) : Prop where
  config : later.config = learner.config
  library : learner.library.Later permitted later.library

namespace Learner

variable {permitted : String → Prop} {learner later : Learner}

theorem Evolves.refl (learner : Learner) : learner.Evolves permitted learner := ⟨rfl, .refl⟩

theorem evolves_of_same (config : later.config = learner.config)
    (library : later.library = learner.library) : learner.Evolves permitted later := by
  refine ⟨config, ?_⟩
  rw [library]
  exact .refl

theorem evolves_of_insert {rule : Rule} (config : later.config = learner.config)
    (inserted : learner.library.insert rule = .ok later.library) :
    learner.Evolves permitted later :=
  ⟨config, .single (.insert inserted)⟩

theorem evolves_apply {proposal : Proposal} {learned : Learned}
    (applied : learner.apply proposal = .ok (learned, later)) :
    learner.Evolves permitted later := by
  obtain ⟨config, -, ⟨same, -⟩ | ⟨rule, -, -, inserted, -⟩⟩ := apply_cases applied
  · exact evolves_of_same config same
  · exact evolves_of_insert config inserted

theorem evolves_activateReview {reviewId : String} {revised : Option Matcher} {rule : Rule}
    (activated : learner.activateReview reviewId revised = .ok (rule, later)) :
    learner.Evolves permitted later := by
  obtain ⟨config, -, item, matcher, -, -, -, -, inserted⟩ := activateReview_cases activated
  exact evolves_of_insert config inserted

end Learner

namespace Gate

/-- Callers may switch off the rule of an id. -/
def Operation.Switches (permitted : Operation → Prop) (ruleId : String) : Prop :=
  ∃ successor, permitted (.deactivate ruleId successor)

theorem evolves_applyProposal {permitted : String → Prop} {learner : Learner} {gate : Gate K}
    (same : gate.learner = learner) (proposal : Proposal) :
    learner.Evolves permitted (gate.applyProposal proposal).2.learner := by
  rw [← same]
  rw [applyProposal_eq]
  split
  · rename_i learned learner applied
    exact Learner.evolves_apply applied
  · exact .refl _

theorem evolves_learnFromProduction {permitted : String → Prop} (gate : Gate K) (now : Instant)
    (fragment : String) (violation : Violation) (sourceVerdict : String) :
    gate.learner.Evolves permitted
      (gate.learnFromProduction now fragment violation sourceVerdict).2.learner := by
  unfold learnFromProduction
  dsimp only
  split
  · exact .refl _
  · rename_i proposal proposed
    split
    · refine evolves_applyProposal ?_ proposal
      rfl
    · split
      · exact .refl _
      · rename_i wrote written
        refine evolves_applyProposal ?_ proposal
        rw [writeEvents_eq_ok written]

theorem Tells.evolves {permitted : String → Prop} {gate : Gate K} {type : EventType}
    {changes : Rule → Learner → Prop} {answer : Except GateError Rule × Gate K}
    (tells : gate.Tells type changes answer)
    (evolves : ∀ rule later, changes rule later → gate.learner.Evolves permitted later) :
    gate.learner.Evolves permitted answer.2.learner := by
  cases tells with
  | refused other => exact .refl _
  | unwritten changed refusal => exact evolves _ _ changed
  | written changed ofType named => exact evolves _ _ changed

/-- An operation switches rules off only where callers may. -/
theorem evolves_perform [KeyProvider K] {permitted : Operation → Prop} (gate : Gate K)
    (now : Instant) {operation : Operation} (allowed : permitted operation) :
    gate.learner.Evolves (Operation.Switches permitted) (gate.perform now operation).learner := by
  cases operation with
  | engine asked => exact .refl _
  | addKnownGood sample => exact Learner.evolves_of_same rfl rfl
  | learn fragment violation sourceVerdict => exact evolves_learnFromProduction ..
  | activate reviewId revised =>
      exact (gate.tells_activateReview now reviewId revised).evolves
        fun _ _ activated => Learner.evolves_activateReview activated
  | discard reviewId =>
      rw [perform, discardReviewInPlace]
      rcases gate.learner.discardReviewInPlace_cases reviewId with
        ⟨cause, -, failed⟩ | ⟨item, -, discarded⟩
      · rw [failed]
        exact .refl _
      · rw [discarded]
        exact Learner.evolves_of_same rfl rfl
  | deactivate ruleId successor =>
      apply (gate.tells_deactivateRule now ruleId successor).evolves
      rintro rule _ ⟨library, deactivated, rfl⟩
      exact ⟨rfl, .single (.deactivate ⟨successor, allowed⟩ deactivated)⟩

end Gate

theorem Review.evolves_of_step? {permitted : String → Prop} {now : Instant} {gate later : Gate K}
    {review next : Review} (stepped : review.step? now gate = some (next, later)) :
    gate.learner.Evolves permitted later.learner := by
  rcases learner_of_step? stepped with same | ⟨emission, published, proposal, applied⟩
  · rw [same]
    exact .refl _
  · rw [Gate.publish_eq] at applied
    split at applied
    · rename_i learned learner learns
      cases applied
      exact Learner.evolves_apply learns
    · cases applied
      exact .refl _

/-! ## What a review has learned -/

/-- A verdict of the deep tier names a violation from which the rule was learned. -/
structure Verdict.Teaches (config : LearningConfig) (unit : CodeUnit) (verdict : Verdict)
    (rule : Rule) : Prop where
  tier : verdict.tier = .deep
  lesson : ∃ violation ∈ verdict.violations, ∃ line, rule.LearnedFrom config
    (.ofViolation unit.source violation verdict.id .deepVerification) line

theorem Verdict.Teaches.publish {config : LearningConfig} {unit : CodeUnit} {verdict : Verdict}
    {rule : Rule} (teaches : verdict.Teaches config unit rule) (version : Nat) :
    verdict.Teaches config unit { rule with version := version } := by
  obtain ⟨tier, violation, told, line, learned⟩ := teaches
  exact ⟨tier, violation, told, line, learned.publish version⟩

namespace Review

/-- The verdict of a review, once there is one. -/
def verdict? : Review → Option Verdict
  | .learning _ verdict _ => some verdict
  | .committing emission _ | .writing emission _ | .settling emission _ _ | .filing emission _
  | .publishing emission _ _ => some emission.verdict
  | .finished (.ok outcome) => some outcome.verdict
  | _ => none

/-- What a review has published. -/
def learned : Review → List Learned
  | .checking dossier _ _ | .deepening dossier _ _ | .learning dossier _ _ => dossier.learned
  | .committing emission _ | .writing emission _ | .settling emission _ _ | .filing emission _
  | .publishing emission _ _ => emission.dossier.learned
  | .finished (.ok outcome) => outcome.learned
  | _ => []

/-- Rules are learned from violations of the deep tier, and they last once they are published. -/
structure Taught (config : LearningConfig) (permitted : String → Prop) (library : Library)
    (unit : CodeUnit) (review : Review) : Prop where
  left : ∀ dossier verdict left, review = .learning dossier verdict left →
    left ⊆ verdict.violations ∧ (left ≠ [] → verdict.tier = .deep)
  proposals : ∀ rule, .activate rule ∈ review.proposals →
    ∃ verdict, review.verdict? = some verdict ∧ verdict.Teaches config unit rule
  learned : ∀ rule version, .activated rule version ∈ review.learned →
    library.Lasts permitted rule ∧
      ∃ verdict, review.verdict? = some verdict ∧ verdict.Teaches config unit rule

variable {config : LearningConfig} {permitted : String → Prop} {library : Library}
  {unit : CodeUnit} {review next : Review}

theorem Taught.later {last : Library} (taught : review.Taught config permitted library unit)
    (changes : library.Later permitted last) : review.Taught config permitted last unit where
  left := taught.left
  proposals := taught.proposals
  learned rule version membership :=
    have ⟨lasts, teaches⟩ := taught.learned rule version membership
    ⟨lasts.later changes, teaches⟩

theorem taught_of_nothing (proposals : review.proposals = []) (learned : review.learned = [])
    (past : ∀ dossier verdict left, review ≠ .learning dossier verdict left) :
    review.Taught config permitted library unit where
  left dossier verdict left same := absurd same (past dossier verdict left)
  proposals := by simp [proposals]
  learned := by simp [learned]

theorem Taught.carry (taught : review.Taught config permitted library unit)
    (proposals : next.proposals ⊆ review.proposals) (learned : next.learned = review.learned)
    (verdict : next.verdict? = review.verdict?)
    (past : ∀ dossier verdict left, next ≠ .learning dossier verdict left) :
    next.Taught config permitted library unit where
  left dossier verdict left same := absurd same (past dossier verdict left)
  proposals rule membership := verdict ▸ taught.proposals rule (proposals membership)
  learned rule version membership := verdict ▸ taught.learned rule version (learned ▸ membership)

theorem Considers.learned_subset {dossier : Dossier} (considers : next.Considers dossier) :
    next.learned ⊆ dossier.learned := by
  cases considers with
  | refused cause => exact List.nil_subset _
  | checking notes | deepening notes | concluded notes =>
      rw [← notes.learned]
      exact List.Subset.refl _

/-- A tier that comes to a verdict leaves what the deep tier has found to learn from. -/
theorem Considers.taught {dossier : Dossier} (considers : next.Considers dossier)
    (unproposed : ∀ rule, .activate rule ∉ dossier.proposals)
    (unlearned : ∀ rule version, .activated rule version ∉ dossier.learned) :
    next.Taught config permitted library unit where
  left := by
    rintro later verdict left rfl
    cases considers with
    | concluded notes told deep => exact ⟨told, deep⟩
  proposals rule membership := absurd (considers.proposes.proposals membership) (unproposed rule)
  learned rule version membership :=
    absurd (considers.learned_subset membership) (unlearned rule version)

theorem Taught.considered {dossier : Dossier}
    (taught : review.Taught config permitted library unit) (none : review.verdict? = none)
    (proposals : review.proposals = dossier.proposals) (learned : review.learned = dossier.learned)
    (considers : next.Considers dossier) : next.Taught config permitted library unit := by
  refine considers.taught ?_ ?_
  · intro rule membership
    obtain ⟨verdict, some, -⟩ := taught.proposals rule (proposals ▸ membership)
    rw [none] at some
    contradiction
  · intro rule version membership
    obtain ⟨-, verdict, some, -⟩ := taught.learned rule version (learned ▸ membership)
    rw [none] at some
    contradiction

variable {now : Instant} {gate later : Gate K}

theorem Taught.learnFrom {dossier learned : Dossier} {verdict : Verdict} {violation : Violation}
    {left : List Violation}
    (taught : (Review.learning dossier verdict (violation :: left)).Taught gate.learner.config
      permitted library unit)
    (told : gate.learnFrom now dossier verdict violation = (learned, later))
    (same : dossier.unit = unit) :
    (Review.learning learned verdict left).Taught gate.learner.config permitted library unit := by
  obtain ⟨included, deep⟩ := taught.left _ _ _ rfl
  have found : verdict.tier = .deep := deep (List.cons_ne_nil _ _)
  have rest : ∀ dossier' verdict' left',
      Review.learning learned verdict left = .learning dossier' verdict' left' →
      left' ⊆ verdict'.violations ∧ (left' ≠ [] → verdict'.tier = .deep) := by
    rintro _ _ _ ⟨⟩
    exact ⟨fun other membership => included (List.mem_cons_of_mem _ membership), fun _ => found⟩
  unfold Gate.learnFrom at told
  dsimp only at told
  split at told
  · rename_i proposal proposed
    cases told
    refine ⟨rest, ?_, taught.learned⟩
    intro rule membership
    rcases List.mem_append.mp membership with old | new
    · exact taught.proposals rule old
    · rw [← List.mem_singleton.mp new] at proposed
      obtain ⟨line, lesson⟩ := Learner.learnedFrom_of_propose proposed
      rw [same] at lesson
      exact ⟨verdict, rfl, found, violation, included List.mem_cons_self, line, lesson⟩
  · cases told
    exact ⟨rest, taught.proposals, taught.learned⟩

theorem Taught.emit {dossier : Dossier} {verdict : Verdict}
    (taught : (Review.learning dossier verdict []).Taught config permitted library unit)
    (emitted : gate.emit now dossier verdict = (next, later))
    (failed : ∀ cause, (Review.finished (.error cause)).Taught config permitted library unit) :
    next.Taught config permitted library unit := by
  unfold Gate.emit at emitted
  split at emitted
  · cases emitted
    exact failed _
  · rename_i passed advanced
    have notes := Dossier.annotates_pass advanced
    dsimp only at emitted
    split at emitted <;> cases emitted
    · exact failed _
    · refine taught.carry ?_ notes.learned rfl (by simp)
      simp only [Review.proposals, notes.proposals]
      exact List.Subset.refl _

/-- A rule that is published lasts from then on. -/
theorem Taught.publish {emission published : Emission} {score : Float} {proposal : Proposal}
    {left : List Proposal}
    (taught : (Review.publishing emission score (proposal :: left)).Taught config permitted
      later.library unit)
    (applied : gate.publish emission proposal = (published, later)) :
    (Review.publishing published score left).Taught config permitted later.library unit := by
  rw [Gate.publish_eq] at applied
  split at applied
  · rename_i latest learner learns
    cases applied
    refine ⟨by simp, ?_, ?_⟩
    · intro rule membership
      exact taught.proposals rule (List.mem_cons_of_mem _ membership)
    · intro rule version membership
      rcases List.mem_append.mp membership with old | new
      · exact taught.learned rule version old
      · -- What is reported as activated is what the insertion has made of the proposed rule.
        rw [← List.mem_singleton.mp new] at learns
        obtain ⟨-, -, ⟨-, other⟩ | ⟨proposed, rfl, -, inserted, same⟩⟩ :=
          Learner.apply_cases learns
        · exact absurd rfl (other rule version)
        · cases same
          obtain ⟨verdict, named, teaches⟩ := taught.proposals proposed List.mem_cons_self
          exact ⟨.inl (Library.live_of_insert inserted), verdict, named, teaches.publish _⟩
  · cases applied
    exact taught.carry (List.subset_cons_self _ _) rfl rfl (by simp)

/-- What every step of a review leaves: one case for each. -/
theorem Taught.step (taught : review.Taught gate.learner.config permitted gate.library unit)
    (about : ∀ dossier verdict left, review = .learning dossier verdict left →
      dossier.unit = unit)
    (stepped : review.step? now gate = some (next, later)) :
    next.Taught gate.learner.config permitted later.library unit := by
  -- What was published before lasts through the step, whatever that does to the library.
  have carried := taught.later (evolves_of_step? stepped).library
  have failed : ∀ cause, (Review.finished (.error cause)).Taught gate.learner.config permitted
      later.library unit := fun cause => taught_of_nothing rfl rfl (by simp)
  cases step_of_step? stepped with
  | invalid | unknown | lost | unready | unwritten | unsettled => exact failed _
  | stage | queue | grant => exact taught_of_nothing rfl rfl (by simp)
  | scan =>
      exact (considers_of_admitted stepped).taught (by simp [Dossier.ofScan])
        (by simp [Dossier.ofScan])
  | check => exact carried.considered rfl rfl rfl (considers_of_checking stepped)
  | deepen => exact carried.considered rfl rfl rfl (considers_of_deepening stepped)
  | learn told => exact carried.learnFrom told (about _ _ _ rfl)
  | emit emitted => exact carried.emit emitted failed
  | prepare | write | settle | file => exact carried.carry (List.Subset.refl _) rfl rfl (by simp)
  | publish applied => exact carried.publish applied
  | finish => exact carried.carry (List.nil_subset _) rfl rfl (by simp)

/-- The unit that a review learns from is the one that it is about. -/
theorem Path.unit_eq {setting : Setting} {moments : List (Instant × Gate K)} {dossier : Dossier}
    {verdict : Verdict} {left : List Violation}
    (path : Path setting unit moments (.learning dossier verdict left)) :
    dossier.unit = unit := by
  obtain ⟨case, library, same, -, belongs, -⟩ := path.knows
  exact belongs.unit.trans same

end Review

/-! ## Systems -/

namespace System

variable [KeyProvider K] {permitted : Gate.Operation → Prop} {system later : System K}

theorem Move.evolves (moves : Move permitted system later) :
    system.gate.learner.Evolves (Gate.Operation.Switches permitted) later.gate.learner := by
  cases moves with
  | submit fresh => exact .refl _
  | step found stepped =>
      rcases Call.step?_cases stepped with
        ⟨unit, course, following, rfl, rfl, taken⟩ | ⟨ruling, course, following, rfl, rfl, taken⟩
      · exact Review.evolves_of_step? taken
      · have same := (Resolution.frame_of_step? taken).2.1
        exact Learner.evolves_of_same (congrArg Learner.config same) (congrArg Learner.library same)
  | operate now allowed free => exact system.gate.evolves_perform now allowed
  | refuse | serve | wait => exact .refl _

/-- All reviews of a gate learn by the policy of the gate. -/
theorem config_of_reachable (reached : system.Reachable permitted) :
    system.gate.learner.config = system.gate.config.learning := by
  induction reached with
  | start engineStarted gateStarted =>
      rw [Gate.eq_of_start gateStarted]
      rfl
  | @move system later before moves same =>
      rw [moves.evolves.config, same, moves.config]

/-- Whatever a review has published lasts. -/
theorem taught_of_reachable (reached : system.Reachable permitted) {unit : CodeUnit}
    {review : Review} (present : Call.review unit review ∈ system.calls) :
    review.Taught system.gate.learner.config (Gate.Operation.Switches permitted)
      system.gate.library unit := by
  induction reached generalizing unit review with
  | start engineStarted gateStarted => simp at present
  | @move system later before moves taught =>
      obtain ⟨config, library⟩ := moves.evolves
      rw [config]
      obtain ⟨index, place⟩ := List.mem_iff_getElem?.mp present
      rcases moves.review_cases place with rfl | stayed | ⟨earlier, now, found, taken⟩
      · exact Review.taught_of_nothing rfl rfl (by simp)
      · exact (taught (List.mem_of_getElem? stayed)).later library
      · have known := List.mem_of_getElem? found
        refine (taught known).step ?_ taken
        rintro dossier verdict left rfl
        obtain ⟨setting, moments, -, path, -⟩ := path_of_reachable before known
        exact path.unit_eq

end System

/-! ## The lesson of a failure -/

/-- Whatever the setting of a gate, a review that scans a unit with the line by this library and comes
to an outcome is rejected by the scan, which names the rule; none of its steps asks the deep
verifier. -/
def Library.Rejects (library : Library) (rule : Rule) (line : String) : Prop :=
  ∀ (K : Type) (setting : Setting) (unit : CodeUnit) (moments : List (Instant × Gate K))
    (scan : Instant × Gate K) (outcome : ReviewOutcome), line ∈ Text.lines unit.source →
    Review.Path setting unit moments (.finished (.ok outcome)) → moments[3]? = some scan →
    scan.2.library = library →
      rule.id ∈ (library.scan Float .low unit.source).hardBlocks.map (·.ruleId) ∧
        outcome.Blocked (library.scan Float .low unit.source) ∧
        Review.follow unit moments = some (.finished (.ok outcome), 0)

theorem Library.Flags.rejects {library : Library} {rule : Rule} {line : String}
    (flags : library.Flags rule line) (blocking : rule.hardBlock = true) :
    library.Rejects rule line := by
  rintro K setting unit moments scan outcome present path found rfl
  obtain ⟨blocked, named⟩ := flags.blocks blocking present Float
  exact ⟨named, Review.blocked_of_path path found blocked⟩

/-- The lesson is there: every scan finds the rule in the line, and where learned rules block, every
review of such a unit is rejected by the scan. -/
structure Library.Remembers (config : LearningConfig) (library : Library) (rule : Rule)
    (line : String) : Prop where
  live : library.Live rule
  flags : library.Flags rule line
  rejects : config.hardBlock = true → library.Rejects rule line

theorem Library.remembers_of_live {config : LearningConfig} {trace : Trace} {library : Library}
    {rule : Rule} {line : String} (live : library.Live rule)
    (learned : rule.LearnedFrom config trace line) : library.Remembers config rule line := by
  have flags := flags_of_live live learned
  refine ⟨live, flags, fun blocking => flags.rejects ?_⟩
  obtain ⟨-, id, now, shape, version, -, -, rfl⟩ := learned
  exact blocking

namespace System

/-- In every state since a review has reported a rule as activated: the rule was learned from the
offending line of a violation of the deep tier, and whatever else is done to the library, it
remembers the rule unless callers have switched it off. -/
theorem remembers_of_reachable [KeyProvider K] {permitted : Gate.Operation → Prop}
    {system : System K} (reached : system.Reachable permitted) {unit : CodeUnit}
    {outcome : ReviewOutcome} {rule : Rule} {version : Nat}
    (reviewed : Call.review unit (.finished (.ok outcome)) ∈ system.calls)
    (activated : .activated rule version ∈ outcome.learned) :
    outcome.verdict.tier = .deep ∧ ∃ violation ∈ outcome.verdict.violations, ∃ line,
      rule.LearnedFrom system.gate.config.learning
        (.ofViolation unit.source violation outcome.verdict.id .deepVerification) line ∧
      ∀ library, system.gate.library.Later (Gate.Operation.Switches permitted) library →
        library.Remembers system.gate.config.learning rule line ∨
          library.SwitchedOff rule.id ∧ Gate.Operation.Switches permitted rule.id := by
  obtain ⟨lasts, verdict, same, tier, violation, told, line, learned⟩ :=
    (taught_of_reachable reached reviewed).learned rule version activated
  cases same
  rw [config_of_reachable reached] at learned
  refine ⟨tier, violation, told, line, learned, fun library changes => ?_⟩
  rcases lasts.later changes with live | off
  · exact .inl (Library.remembers_of_live live learned)
  · exact .inr off

end System

namespace Small

/-- The policy under which every unit is verified deeply, with learned rules that block. -/
def blocking : GateConfig := { strict with learning := { strict.learning with hardBlock := true } }

/-- The rule that a review has published first. -/
def firstLesson? (call : Call) : Option (Rule × Nat) :=
  call.reviewed?.bind fun reviewed => reviewed.2.learned.head?.bind fun
    | .activated rule version => some (rule, version)
    | _ => none

theorem activated_of_firstLesson? {call : Call} {rule : Rule} {version : Nat}
    (first : firstLesson? call = some (rule, version)) :
    ∃ unit outcome, call = .review unit (.finished (.ok outcome)) ∧
      .activated rule version ∈ outcome.learned := by
  obtain ⟨⟨unit, outcome⟩, reviewed, found⟩ := Option.bind_eq_some_iff.mp first
  obtain ⟨learned, head, same⟩ := Option.bind_eq_some_iff.mp found
  refine ⟨unit, outcome, Call.eq_of_reviewed? reviewed, List.mem_of_mem_head? ?_⟩
  split at same
  · cases same
    exact head
  · contradiction

end Small

namespace System

open ReviewGate.Small

/-- A failed call teaches the scan a rule that blocks. -/
theorem remembers_payload : ∃ (system : System LocalKeys) (unit : CodeUnit)
    (outcome : ReviewOutcome) (rule : Rule) (version : Nat), system.Reachable (fun _ => True) ∧
      system.gate.config.learning.hardBlock = true ∧
      Call.review unit (.finished (.ok outcome)) ∈ system.calls ∧
      .activated rule version ∈ outcome.learned ∧
      outcome.verdict.tier = .deep ∧ ∃ violation ∈ outcome.verdict.violations, ∃ line,
        rule.LearnedFrom system.gate.config.learning
          (.ofViolation unit.source violation outcome.verdict.id .deepVerification) line ∧
        ∀ library, system.gate.library.Later (Gate.Operation.Switches fun _ => True) library →
          library.Remembers system.gate.config.learning rule line ∨
            library.SwitchedOff rule.id ∧ Gate.Operation.Switches (fun _ => True) rule.id := by
  let gate : Gate LocalKeys := gateWith blocking .empty (some (failing 1)) staffed
  let call : Call := .review payload (.submitted payload)
  have valid : blocking.validate = .ok () := by rfl
  have started : System.Reachable (fun _ => True) ⟨gate, [], registered⟩ :=
    reachable_with valid (by decide) .empty (some (failing 1)) trivial
  have submitted := started.move (.submit (show call.IsFresh from rfl))
  have ends : ((call.advance? now 13 gate).bind fun answer =>
      (firstLesson? answer.1).map fun _ => answer.2.config.learning.hardBlock) = some true := by
    decide +kernel
  obtain ⟨⟨next, later⟩, advanced, found⟩ := Option.bind_eq_some_iff.mp ends
  obtain ⟨⟨rule, version⟩, first, blocks⟩ := Option.map_eq_some_iff.mp found
  obtain ⟨unit, outcome, rfl, activated⟩ := activated_of_firstLesson? first
  obtain ⟨system, reached, rfl, calls⟩ := reachable_of_advance? submitted rfl advanced
  have reviewed : Call.review unit (.finished (.ok outcome)) ∈ system.calls := by
    rw [calls]
    exact List.mem_singleton_self _
  exact ⟨system, unit, outcome, rule, version, reached, blocks, reviewed, activated,
    remembers_of_reachable reached reviewed activated⟩

end System

end ReviewGate
