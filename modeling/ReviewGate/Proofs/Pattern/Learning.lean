import ReviewGate.Pattern.Learning
import ReviewGate.Proofs.Data.Laws

/-!
# Rules that are learned

A learned shape has a token, so it can be compiled.  Publishing it adds it to the library, unless a
rule with its matcher is active or a rule with its id is there.
-/

namespace ReviewGate

/-! ## Rules in a library -/

theorem CompiledRule.ofRule_of_compile {rule : Rule} {matcher : CompiledMatcher}
    (compiles : rule.matcher.compile = .ok matcher) : ∃ entry, ofRule rule = .ok entry := by
  unfold ofRule
  split
  · exact ⟨_, rfl⟩
  · rename_i cause failed
    rw [compiles] at failed
    contradiction

namespace Library

theorem isSome_get?_iff {library : Library} {ruleId : String} :
    (library.get? ruleId).isSome = true ↔ ∃ entry ∈ library.rules, entry.rule.id = ruleId := by
  simp [get?]

/-! ### Changes that fail -/

theorem spares_insertInPlace (library : Library) (rule : Rule) :
    Spares library (library.insertInPlace rule) := by
  unfold insertInPlace
  split
  · exact spares_same library _
  · dsimp only
    split
    · exact spares_same library _
    · exact spares_ok library _ _

theorem spares_deactivateInPlace (library : Library) (ruleId : String)
    (successor : Option String) : Spares library (library.deactivateInPlace ruleId successor) := by
  unfold deactivateInPlace
  split
  · exact spares_same library _
  · exact spares_ok library _ _

theorem spares_supersedeInPlace (library : Library) (ruleId : String) (replacement : Rule) :
    Spares library (library.supersedeInPlace ruleId replacement) := by
  unfold supersedeInPlace
  split
  · exact spares_same library _
  · split
    · exact spares_same library _
    · dsimp only
      split
      · exact spares_same library _
      · exact spares_ok library _ _

/-- Inserting tells the version of the library that it leaves. -/
theorem insertInPlace_eq (library : Library) (rule : Rule) : library.insertInPlace rule =
    match library.insert rule with
    | .ok later => (.ok later.version, later)
    | .error cause => (.error cause, library) := by
  unfold insert insertInPlace
  split
  · rfl
  · dsimp only
    cases CompiledRule.ofRule { rule with version := library.version + 1 } <;> rfl

theorem insert_eq_ok {library later : Library} {rule : Rule}
    (inserted : library.insert rule = .ok later) :
    ∃ entry, entry.rule = { rule with version := library.version + 1 } ∧
      later = ⟨library.version + 1, library.rules ++ [entry]⟩ := by
  unfold insert insertInPlace at inserted
  split at inserted
  · cases inserted
  · dsimp only at inserted
    split at inserted
    · cases inserted
    · rename_i entry made
      cases inserted
      exact ⟨entry, CompiledRule.rule_of_ofRule made, rfl⟩

theorem deactivate_eq_ok {library later : Library} {ruleId : String} {successor : Option String}
    {rule : Rule} (deactivated : library.deactivate ruleId successor = .ok (rule, later)) :
    later = ⟨library.version + 1, switchOff ruleId successor library.rules⟩ := by
  replace deactivated := together_eq_ok_iff.mp deactivated
  unfold deactivateInPlace at deactivated
  split at deactivated
  · cases deactivated
  · cases deactivated
    rfl

theorem supersede_eq_ok {library later : Library} {ruleId : String} {replacement : Rule}
    (superseded : library.supersede ruleId replacement = .ok later) :
    ∃ entry, later = ⟨library.version + 1,
      switchOff ruleId (some replacement.id) library.rules ++ [entry]⟩ := by
  unfold supersede supersedeInPlace at superseded
  split at superseded
  · cases superseded
  · split at superseded
    · cases superseded
    · dsimp only at superseded
      split at superseded
      · cases superseded
      · rename_i entry made
        cases superseded
        exact ⟨entry, rfl⟩

theorem present_of_insert {library later : Library} {rule : Rule}
    (inserted : library.insert rule = .ok later) :
    ∃ entry ∈ later.rules, entry.rule.id = rule.id := by
  obtain ⟨entry, same, rfl⟩ := insert_eq_ok inserted
  exact ⟨entry, by simp, by rw [same]⟩

/-- A rule that can be compiled is refused only where its id is there already. -/
theorem present_of_insert_eq_error {library : Library} {rule : Rule} {cause : LibraryError}
    {matcher : CompiledMatcher} (compiles : rule.matcher.compile = .ok matcher)
    (refused : library.insert rule = .error cause) :
    ∃ entry ∈ library.rules, entry.rule.id = rule.id := by
  rw [← isSome_get?_iff]
  unfold insert insertInPlace at refused
  split at refused
  · assumption
  · have compilable : { rule with version := library.version + 1 }.matcher.compile = .ok matcher :=
      compiles
    obtain ⟨entry, made⟩ := CompiledRule.ofRule_of_compile compilable
    dsimp only at refused
    rw [made] at refused
    cases refused

theorem mem_of_findByMatcher? {library : Library} {matcher : Matcher} {rule : Rule}
    (found : library.findByMatcher? matcher = some rule) :
    ∃ entry ∈ library.rules, entry.rule = rule ∧ rule.active = true ∧ rule.matcher = matcher := by
  obtain ⟨entry, present, rfl⟩ := Option.map_eq_some_iff.mp found
  obtain ⟨membership, active⟩ := List.mem_filter.mp (List.mem_of_find?_eq_some present)
  have same := List.find?_some present
  exact ⟨entry, membership, rfl, active, by simpa using same⟩

/-- The matchers of the active rules. -/
def liveMatchers (library : Library) : List Matcher :=
  library.active.map fun entry => entry.rule.matcher

theorem findByMatcher?_eq_none_iff {library : Library} {matcher : Matcher} :
    library.findByMatcher? matcher = none ↔ matcher ∉ library.liveMatchers := by
  simp [findByMatcher?, liveMatchers]

theorem liveMatchers_insert {library later : Library} {rule : Rule}
    (inserted : library.insert rule = .ok later) : later.liveMatchers =
      library.liveMatchers ++ if rule.active then [rule.matcher] else [] := by
  obtain ⟨entry, made, rfl⟩ := insert_eq_ok inserted
  have last : entry.rule.active = rule.active ∧ entry.rule.matcher = rule.matcher := by simp [made]
  obtain ⟨switched, same⟩ := last
  rw [liveMatchers, active, List.filter_append, List.map_append, liveMatchers, active]
  cases on : rule.active <;> simp [switched, same, on]

end Library

/-! ## Learned shapes -/

namespace Learner

theorem keptTokens_all (tokens : List String) :
    keptTokens tokens (List.replicate tokens.length true) = tokens := by
  induction tokens with
  | nil => rfl
  | cons token rest inductionHypothesis =>
      simpa [keptTokens, List.replicate_succ] using inductionHypothesis

theorem keptTokens_dropToken_ne_nil {config : LearningConfig} {sample tokens : List String}
    {kept : List Bool} (nonempty : keptTokens tokens kept ≠ []) (index : Nat) :
    keptTokens tokens (dropToken config sample tokens kept index) ≠ [] := by
  unfold dropToken
  dsimp only
  split
  · rename_i viable
    intro none
    simp [isViable, none] at viable
  · exact nonempty

/-- Shrinking leaves a token. -/
theorem minimize_ne_nil {config : LearningConfig} {sample tokens : List String}
    (nonempty : tokens ≠ []) : minimize config sample tokens ≠ [] := by
  have kept : ∀ (order : List Nat) (kept : List Bool), keptTokens tokens kept ≠ [] →
      keptTokens tokens (order.foldl (dropToken config sample tokens) kept) ≠ [] := by
    intro order
    induction order with
    | nil => exact fun _ => id
    | cons index rest inductionHypothesis =>
        intro kept left
        exact inductionHypothesis _ (keptTokens_dropToken_ne_nil left index)
  apply kept
  rw [keptTokens_all]
  exact nonempty

theorem ofLine_ne_nil_of_offendingLine? {trace : Trace} {line : String}
    (found : trace.offendingLine? = some line) : Token.ofLine line ≠ [] := by
  have significant : Trace.hasSignificantToken line = true := by
    unfold Trace.offendingLine? at found
    rcases Option.or_eq_some_iff.mp found with hinted | ⟨-, first⟩
    · split at hinted
      · exact (Option.filter_eq_some_iff.mp hinted).2
      · contradiction
    · exact List.find?_some first
  intro none
  simp [Trace.hasSignificantToken, none] at significant

/-- What is proposed for activation can be compiled, and no active rule has its matcher. -/
theorem new_of_propose {learner : Learner} {now : Instant} {ids : Ids} {trace : Trace} {rule : Rule}
    (proposed : (learner.propose now ids trace).1 = .ok (.activate rule)) :
    (∃ matcher, rule.matcher.compile = .ok matcher) ∧
      learner.library.findByMatcher? rule.matcher = none := by
  unfold propose proposeAs at proposed
  dsimp only at proposed
  split at proposed
  · contradiction
  · rename_i line found
    split at proposed
    · split at proposed
      · cases proposed
      · rename_i new
        cases proposed
        exact ⟨⟨_, Matcher.compile_sequence
          (minimize_ne_nil (ofLine_ne_nil_of_offendingLine? found))⟩, new⟩
    · cases proposed

end Learner

/-! ## Publishing -/

namespace Learner

/-! ### Changes that fail -/

theorem spares_applyInPlace (learner : Learner) (proposal : Proposal) :
    Spares learner (learner.applyInPlace proposal) := by
  cases proposal with
  | activate rule =>
      simp only [applyInPlace, Library.insertInPlace_eq]
      split
      · exact spares_ok learner _ _
      · cases learner.library.insert rule with
        | error cause => exact spares_same learner _
        | ok library => exact spares_ok learner _ _
  | queue item => exact spares_ok learner _ _
  | duplicate ruleId => exact spares_ok learner _ _

theorem spares_learnInPlace (learner : Learner) (now : Instant) (ids : Ids) (trace : Trace) :
    Spares learner (learner.learnInPlace now ids trace).1 := by
  unfold learnInPlace
  split
  · exact spares_same learner _
  · exact learner.spares_applyInPlace _

theorem spares_activateReviewInPlace (learner : Learner) (reviewId : String)
    (revised : Option Matcher) :
    Spares learner (learner.activateReviewInPlace reviewId revised) := by
  unfold activateReviewInPlace
  split
  · exact spares_same learner _
  · dsimp only
    split
    · exact spares_same learner _
    · split
      · exact spares_same learner _
      · rw [Library.insertInPlace_eq]
        cases learner.library.insert _ with
        | error cause => exact spares_same learner _
        | ok library => exact spares_ok learner _ _

theorem applyInPlace_eq (learner : Learner) (proposal : Proposal) :
    learner.applyInPlace proposal = apart learner (learner.apply proposal) :=
  (learner.spares_applyInPlace proposal).eq_apart

theorem activateReviewInPlace_eq (learner : Learner) (reviewId : String)
    (revised : Option Matcher) :
    learner.activateReviewInPlace reviewId revised =
      apart learner (learner.activateReview reviewId revised) :=
  (learner.spares_activateReviewInPlace reviewId revised).eq_apart

/-- Discarding a candidate fails and leaves the learner, or it concerns the queue alone. -/
theorem discardReviewInPlace_cases (learner : Learner) (reviewId : String) :
    (∃ cause, learner.review? reviewId = .error cause ∧
        learner.discardReviewInPlace reviewId = (.error cause, learner)) ∨
      ∃ item, learner.review? reviewId = .ok item ∧ learner.discardReviewInPlace reviewId =
        (.ok item, { learner with reviews := learner.withoutReview reviewId }) := by
  unfold discardReviewInPlace
  split
  · rename_i cause absent
    exact .inl ⟨cause, absent, rfl⟩
  · rename_i item waiting
    exact .inr ⟨item, waiting, rfl⟩

variable {learner later : Learner} {learned : Learned}

/-- What is learned has been proposed and applied. -/
theorem learn_eq_ok {now : Instant} {ids : Ids} {trace : Trace}
    (done : (learner.learn now ids trace).1 = .ok (learned, later)) :
    ∃ proposal, (learner.propose now ids trace).1 = .ok proposal ∧
      learner.apply proposal = .ok (learned, later) := by
  simp only [learn, learnInPlace] at done
  split at done
  · contradiction
  · rename_i proposal rest proposed
    exact ⟨proposal, by rw [proposed], done⟩

/-- Only a proposal to activate a rule changes the library: the rule is inserted where no active rule
has its matcher, and it is reported as it was inserted. -/
theorem apply_cases {proposal : Proposal}
    (applied : learner.apply proposal = .ok (learned, later)) :
    later.config = learner.config ∧ later.knownGood = learner.knownGood ∧
      ((later.library = learner.library ∧ ∀ rule version, learned ≠ .activated rule version) ∨
        ∃ rule, proposal = .activate rule ∧
          learner.library.findByMatcher? rule.matcher = none ∧
          learner.library.insert rule = .ok later.library ∧
          learned = .activated { rule with version := later.library.version }
            later.library.version) := by
  replace applied := together_eq_ok_iff.mp applied
  cases proposal with
  | activate rule =>
      simp only [applyInPlace, Library.insertInPlace_eq] at applied
      split at applied
      · cases applied
        exact ⟨rfl, rfl, .inl ⟨rfl, by simp⟩⟩
      · rename_i new
        cases inserted : learner.library.insert rule with
        | error cause =>
            rw [inserted] at applied
            cases applied
        | ok library =>
            rw [inserted] at applied
            cases applied
            exact ⟨rfl, rfl, .inr ⟨rule, rfl, new, inserted, rfl⟩⟩
  | queue item | duplicate ruleId =>
      cases applied
      exact ⟨rfl, rfl, .inl ⟨rfl, by simp⟩⟩

/-- A rule to be activated is left out for an active one with its matcher.  Otherwise it is there by
its id afterwards, whether it is published now or was there before. -/
theorem apply_activate_cases (learner : Learner) {rule : Rule}
    (compiles : ∃ matcher, rule.matcher.compile = .ok matcher) :
    (∃ faster, learner.library.findByMatcher? rule.matcher = some faster ∧
      learner.apply (.activate rule) = .ok (.duplicate faster.id, learner)) ∨
    learner.library.findByMatcher? rule.matcher = none ∧
      ((∃ learned later, learner.apply (.activate rule) = .ok (learned, later) ∧
        ∃ entry ∈ later.library.rules, entry.rule.id = rule.id) ∨
      ∃ cause, learner.apply (.activate rule) = .error cause ∧
        ∃ entry ∈ learner.library.rules, entry.rule.id = rule.id) := by
  simp only [apply, applyInPlace, Library.insertInPlace_eq]
  cases learner.library.findByMatcher? rule.matcher with
  | some faster => exact .inl ⟨faster, rfl, rfl⟩
  | none =>
      refine .inr ⟨rfl, ?_⟩
      cases inserted : learner.library.insert rule with
      | ok library => exact .inl ⟨_, _, rfl, Library.present_of_insert inserted⟩
      | error cause =>
          obtain ⟨matcher, compiled⟩ := compiles
          exact .inr ⟨cause, rfl, Library.present_of_insert_eq_error compiled inserted⟩

/-- A queued candidate that becomes live was silent on the sample when it was inserted. -/
theorem activateReview_cases {reviewId : String} {revised : Option Matcher} {rule : Rule}
    (activated : learner.activateReview reviewId revised = .ok (rule, later)) :
    later.config = learner.config ∧ later.knownGood = learner.knownGood ∧
      ∃ item matcher, learner.review? reviewId = .ok item ∧
        rule = { reviewedRule item revised with version := later.library.version } ∧
        (reviewedRule item revised).matcher.compile = .ok matcher ∧
        matchingSamples matcher learner.sample = [] ∧
        learner.library.insert (reviewedRule item revised) = .ok later.library := by
  replace activated := together_eq_ok_iff.mp activated
  unfold activateReviewInPlace at activated
  split at activated
  · cases activated
  · rename_i item waiting
    dsimp only at activated
    split at activated
    · cases activated
    · rename_i entry made
      split at activated
      · cases activated
      · rename_i silent
        rw [Library.insertInPlace_eq] at activated
        cases inserted : learner.library.insert (reviewedRule item revised) with
        | error cause =>
            rw [inserted] at activated
            cases activated
        | ok library =>
            rw [inserted] at activated
            cases activated
            refine ⟨rfl, rfl, item, entry.matcher, waiting, rfl, ?_, silent, inserted⟩
            rw [← CompiledRule.rule_of_ofRule made]
            exact entry.compiled

end Learner

end ReviewGate
