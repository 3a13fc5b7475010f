import ReviewGate.Proofs.Pattern.Lifecycle
import ReviewGate.Proofs.Pattern.Proposal

/-!
# Candidates that wait

A candidate comes into the queue when its proposal is applied.  It leaves the queue when it is
discarded, or when it is activated and the library gets its rule.  An activation that fails changes
neither the queue nor the library, so every candidate that was queued is in one of the three places,
as often as it was queued.
-/

namespace ReviewGate.Learner

/-! ## Candidates by their ids -/

/-- The first item of an id, with the items before and after it. -/
structure Finds (learner : Learner) (reviewId : String) (before : List ReviewItem)
    (item : ReviewItem) (after : List ReviewItem) : Prop where
  parts : learner.reviews = before ++ item :: after
  named : item.id = reviewId
  first : ∀ other ∈ before, other.id ≠ reviewId

theorem exists_finds {learner : Learner} {reviewId : String} {item : ReviewItem}
    (waiting : learner.review? reviewId = .ok item) :
    ∃ before after, learner.Finds reviewId before item after ∧
      learner.withoutReview reviewId = before ++ after := by
  unfold review? at waiting
  split at waiting
  · rename_i found
    cases waiting
    obtain ⟨named, before, after, parts, first⟩ := List.find?_eq_some_iff_append.mp found
    have named : item.id = reviewId := by simpa using named
    have first : ∀ other ∈ before, other.id ≠ reviewId := by simpa using first
    refine ⟨before, after, ⟨parts, named, first⟩, ?_⟩
    rw [withoutReview, parts, List.eraseP_append_right _ (by simpa using first)]
    simp [named]
  · contradiction

theorem unknown_of_review?_eq_error {learner : Learner} {reviewId : String} {cause : LibraryError}
    (refused : learner.review? reviewId = .error cause) :
    cause = .unknownReview reviewId ∧ ∀ item ∈ learner.reviews, item.id ≠ reviewId := by
  unfold review? at refused
  split at refused
  · contradiction
  · rename_i absent
    cases refused
    exact ⟨rfl, by simpa using absent⟩

/-! ## Acts on a learner -/

/-- What is done to a learner and to the library that it shares. -/
inductive Act where
  /-- Any proposal, whenever and by whomever it was made. -/
  | apply (proposal : Proposal)
  | learn (now : Instant) (ids : Ids) (trace : Trace)
  | addKnownGood (code : String)
  | activate (reviewId : String) (revised : Option Matcher)
  | discard (reviewId : String)
  | edit (edit : Library.Edit)

/-- What happens to a candidate. -/
inductive Deed where
  | queued (item : ReviewItem)
  | discarded (item : ReviewItem)
  | activated (item : ReviewItem)
  deriving DecidableEq

namespace Deed

def queued? : Deed → Option ReviewItem
  | queued item => some item
  | _ => none

def ofLearned : Learned → List Deed
  | .queued item => [queued item]
  | _ => []

end Deed

/-- The learner that a change leaves, and what the change did to a candidate unless it failed. -/
def settle {Answer : Type} (deeds : Answer → List Deed) :
    Except LibraryError Answer × Learner → Learner × List Deed
  | (.ok answer, later) => (later, deeds answer)
  | (.error _, later) => (later, [])

/-- The learner after an act, and what the act did to a candidate. -/
def act (learner : Learner) : Act → Learner × List Deed
  | .apply proposal => settle Deed.ofLearned (learner.applyInPlace proposal)
  | .learn now ids trace => settle Deed.ofLearned (learner.learnInPlace now ids trace).1
  | .addKnownGood code => (learner.addKnownGood code, [])
  | .activate reviewId revised =>
      settle (fun _ => (learner.review? reviewId).toOption.toList.map Deed.activated)
        (learner.activateReviewInPlace reviewId revised)
  | .discard reviewId =>
      settle (fun item => [.discarded item]) (learner.discardReviewInPlace reviewId)
  | .edit edit => ({ learner with library := learner.library.edit edit }, [])

/-- The learner after some acts, and all that they did to candidates. -/
def run (learner : Learner) (acts : List Act) : Learner × List Deed :=
  acts.foldl (fun reached act => ((reached.1.act act).1, reached.2 ++ (reached.1.act act).2))
    (learner, [])

theorem run_concat (learner : Learner) (acts : List Act) (last : Act) :
    learner.run (acts ++ [last]) =
      (((learner.run acts).1.act last).1,
        (learner.run acts).2 ++ ((learner.run acts).1.act last).2) := by
  simp [run]

/-! ## Activations -/

/-- What comes of activating a candidate: the answer, the learner afterwards, and what happened to
the candidate. -/
inductive Activation (learner : Learner) (reviewId : String) (revised : Option Matcher) :
    Except LibraryError Rule → Learner × List Deed → Prop where
  | unknown (absent : ∀ item ∈ learner.reviews, item.id ≠ reviewId) :
      Activation learner reviewId revised (.error (.unknownReview reviewId)) (learner, [])
  | broken {before after : List ReviewItem} {item : ReviewItem} {cause : MatcherError}
      (finds : learner.Finds reviewId before item after)
      (fails : (revised.getD item.candidate.matcher).compile = .error cause) :
      Activation learner reviewId revised (.error (.invalidMatcher item.candidate.id cause))
        (learner, [])
  | contained {before after : List ReviewItem} {item : ReviewItem} {matcher : CompiledMatcher}
      {place : Nat} {code : String} (finds : learner.Finds reviewId before item after)
      (compiles : (revised.getD item.candidate.matcher).compile = .ok matcher)
      (known : learner.sample[place]? = some code) (matching : matcher.matchesSource code = true)
      (first : ∀ earlier < place, ∀ other, learner.sample[earlier]? = some other →
        matcher.matchesSource other = false) :
      Activation learner reviewId revised (.error (.containment item.candidate.id place))
        (learner, [])
  | taken {before after : List ReviewItem} {item : ReviewItem} {matcher : CompiledMatcher}
      (finds : learner.Finds reviewId before item after)
      (compiles : (revised.getD item.candidate.matcher).compile = .ok matcher)
      (silent : ∀ code ∈ learner.sample, matcher.matchesSource code = false)
      (present : item.candidate.id ∈ learner.library.ids) :
      Activation learner reviewId revised (.error (.duplicateRule item.candidate.id)) (learner, [])
  /-- The item leaves the queue, and its rule comes last into the library, at the next version. -/
  | made {before after : List ReviewItem} {item : ReviewItem} {entry : CompiledRule}
      (finds : learner.Finds reviewId before item after)
      (rule : entry.rule = { item.candidate with
        matcher := revised.getD item.candidate.matcher
        active := true
        version := learner.library.version + 1 })
      (silent : ∀ code ∈ learner.sample, entry.matcher.matchesSource code = false)
      (new : item.candidate.id ∉ learner.library.ids) :
      Activation learner reviewId revised (.ok entry.rule)
        ({ learner with
            library := ⟨learner.library.version + 1, learner.library.rules ++ [entry]⟩
            reviews := before ++ after }, [.activated item])

theorem first_of_matchingSamples {matcher : CompiledMatcher} {sample : List String} {place : Nat}
    {others : List Nat} (matched : matchingSamples matcher sample = place :: others) :
    (∃ code, sample[place]? = some code ∧ matcher.matchesSource code = true) ∧
      ∀ earlier < place, ∀ other, sample[earlier]? = some other →
        matcher.matchesSource other = false := by
  constructor
  · apply mem_matchingSamples_iff.mp
    rw [matched]
    exact List.mem_cons_self
  · intro earlier less other found
    by_contra matching
    rw [Bool.not_eq_false] at matching
    have listed := mem_matchingSamples_iff.mpr ⟨other, found, matching⟩
    have increasing := matchingSamples_increasing matcher sample
    rw [matched] at listed increasing
    rcases List.mem_cons.mp listed with rfl | behind
    · omega
    · have more := (List.pairwise_cons.mp increasing).1 earlier behind
      omega

theorem ofRule_of_compile_eq_error {rule : Rule} {cause : MatcherError}
    (fails : rule.matcher.compile = .error cause) :
    CompiledRule.ofRule rule = .error (.invalidMatcher rule.id cause) := by
  unfold CompiledRule.ofRule
  split
  · rename_i matcher compiles
    cases fails.symm.trans compiles
  · rename_i other failed
    cases fails.symm.trans failed
    rfl

/-- A candidate with a matcher that compiles is checked against the sample and inserted. -/
theorem activateReviewInPlace_of_compile {learner : Learner} {reviewId : String}
    {item : ReviewItem} {revised : Option Matcher} {matcher : CompiledMatcher}
    (waiting : learner.review? reviewId = .ok item)
    (compiles : (revised.getD item.candidate.matcher).compile = .ok matcher) :
    learner.activateReviewInPlace reviewId revised =
      match matchingSamples matcher learner.sample with
      | place :: _ => (.error (.containment item.candidate.id place), learner)
      | [] =>
          match learner.library.insert (reviewedRule item revised) with
          | .error cause => (.error cause, learner)
          | .ok library =>
              (.ok { reviewedRule item revised with version := library.version },
                { learner with library, reviews := learner.withoutReview reviewId }) := by
  have compiles : (reviewedRule item revised).matcher.compile = .ok matcher := compiles
  obtain ⟨entry, made⟩ := CompiledRule.ofRule_of_compile compiles
  have same : entry.matcher = matcher := by
    have compiled := entry.compiled
    rw [CompiledRule.rule_of_ofRule made] at compiled
    cases compiled.symm.trans compiles
    rfl
  subst same
  simp only [activateReviewInPlace, waiting, made, Library.insertInPlace_eq]
  cases matchingSamples entry.matcher learner.sample with
  | nil => cases learner.library.insert (reviewedRule item revised) <;> rfl
  | cons place others => rfl

theorem insert_of_mem_ids {library : Library} {rule : Rule} (present : rule.id ∈ library.ids) :
    library.insert rule = .error (.duplicateRule rule.id) := by
  rw [Library.insert, Library.insertInPlace,
    if_pos (Library.isSome_get?_iff_mem_ids.mpr present)]
  rfl

/-- A rule with a new id and a matcher that compiles comes last into the library. -/
theorem exists_insert {library : Library} (rule : Rule) {matcher : CompiledMatcher}
    (new : rule.id ∉ library.ids) (compiles : rule.matcher.compile = .ok matcher) :
    ∃ entry : CompiledRule, entry.rule = { rule with version := library.version + 1 } ∧
      entry.matcher = matcher ∧
      library.insert rule = .ok ⟨library.version + 1, library.rules ++ [entry]⟩ := by
  cases Library.settles_insert library rule with
  | failed cause refused unfit =>
      refine absurd ⟨?_, ?_⟩ unfit
      · rintro _ ⟨⟩
        exact ⟨new, matcher, compiles⟩
      · rintro _ ⟨⟩
  | made published admits publishes =>
      cases publishes with
      | @insert _ entry new made =>
          have compiled := entry.compiled
          rw [made] at compiled
          cases compiled.symm.trans compiles
          exact ⟨entry, made, rfl, published⟩

/-- A candidate is refused where its rule cannot be compiled, and otherwise checked against the
sample and against the ids of the library. -/
theorem activation_of_waiting {learner : Learner} {reviewId : String} {item : ReviewItem}
    (waiting : learner.review? reviewId = .ok item) (revised : Option Matcher) :
    learner.Activation reviewId revised (Prod.fst <$> learner.activateReview reviewId revised)
      (learner.act (.activate reviewId revised)) := by
  obtain ⟨before, after, finds, rest⟩ := exists_finds waiting
  rw [act, activateReview]
  cases compiles : (revised.getD item.candidate.matcher).compile with
  | error cause =>
      have broken : CompiledRule.ofRule (reviewedRule item revised) =
          .error (.invalidMatcher item.candidate.id cause) :=
        ofRule_of_compile_eq_error compiles
      simp only [activateReviewInPlace, waiting, broken]
      exact .broken finds compiles
  | ok matcher =>
      rw [activateReviewInPlace_of_compile waiting compiles]
      cases matched : matchingSamples matcher learner.sample with
      | cons place others =>
          obtain ⟨⟨code, known, matching⟩, first⟩ := first_of_matchingSamples matched
          exact .contained finds compiles known matching first
      | nil =>
          have silent := matchingSamples_isEmpty_iff.mp (List.isEmpty_iff.mpr matched)
          by_cases present : item.candidate.id ∈ learner.library.ids
          · have taken : learner.library.insert (reviewedRule item revised) =
                .error (.duplicateRule item.candidate.id) := insert_of_mem_ids present
            dsimp only
            rw [taken]
            exact .taken finds compiles silent present
          · obtain ⟨entry, made, rfl, inserted⟩ :=
              exists_insert (reviewedRule item revised) present compiles
            dsimp only
            rw [inserted, rest, waiting]
            dsimp only
            rw [← made]
            exact .made finds made silent present

theorem activation (learner : Learner) (reviewId : String) (revised : Option Matcher) :
    learner.Activation reviewId revised (Prod.fst <$> learner.activateReview reviewId revised)
      (learner.act (.activate reviewId revised)) := by
  cases waiting : learner.review? reviewId with
  | error cause =>
      obtain ⟨rfl, absent⟩ := unknown_of_review?_eq_error waiting
      rw [act, activateReview, activateReviewInPlace, waiting]
      exact .unknown absent
  | ok item => exact activation_of_waiting waiting revised

/-! ## One act -/

/-- What an act does to the queue: nothing, or one item joins it at the end or leaves it. -/
inductive Moves (learner : Learner) : Learner × List Deed → Prop where
  | stays {later : Learner} (same : later.reviews = learner.reviews) : Moves learner (later, [])
  | joins {later : Learner} {item : ReviewItem} (last : later.reviews = learner.reviews ++ [item]) :
      Moves learner (later, [.queued item])
  | leaves {later : Learner} {before after : List ReviewItem} {item : ReviewItem} {deed : Deed}
      (there : learner.reviews = before ++ item :: after) (rest : later.reviews = before ++ after)
      (fate : deed = .discarded item ∨ deed = .activated item) : Moves learner (later, [deed])

theorem moves_apply (learner : Learner) (proposal : Proposal) :
    learner.Moves (settle Deed.ofLearned (learner.applyInPlace proposal)) := by
  cases proposal with
  | activate rule =>
      simp only [applyInPlace]
      cases learner.library.findByMatcher? rule.matcher with
      | some existing => exact .stays rfl
      | none =>
          rcases learner.library.insertInPlace rule with ⟨cause | version, library⟩
          · exact .stays rfl
          · exact .stays rfl
  | queue item => exact .joins rfl
  | duplicate ruleId => exact .stays rfl

theorem moves_discard (learner : Learner) (reviewId : String) :
    learner.Moves (learner.act (.discard reviewId)) := by
  rcases learner.discardReviewInPlace_cases reviewId with
    ⟨cause, -, failed⟩ | ⟨item, waiting, discarded⟩
  · rw [act, failed]
    exact .stays rfl
  · obtain ⟨before, after, finds, rest⟩ := exists_finds waiting
    rw [act, discarded, rest]
    exact .leaves finds.parts rfl (.inl rfl)

theorem moves_act (learner : Learner) (act : Act) : learner.Moves (learner.act act) := by
  cases act with
  | apply proposal => exact moves_apply learner proposal
  | learn now ids trace =>
      rw [Learner.act, learnInPlace]
      rcases learner.propose now ids trace with ⟨cause | proposal, later⟩
      · exact .stays rfl
      · exact moves_apply learner proposal
  | addKnownGood code => exact .stays rfl
  | activate reviewId revised =>
      have activation := learner.activation reviewId revised
      generalize Prod.fst <$> learner.activateReview reviewId revised = answer at activation
      generalize learner.act (.activate reviewId revised) = result at activation ⊢
      cases activation with
      | unknown | broken | contained | taken => exact .stays rfl
      | made finds rule silent new => exact .leaves finds.parts rfl (.inr rfl)
  | discard reviewId => exact moves_discard learner reviewId
  | edit edit => exact .stays rfl

/-! ## Runs -/

/-- As often as an item was queued, it still waits, was discarded or was activated. -/
theorem count_run (learner : Learner) (acts : List Act) (item : ReviewItem) :
    learner.reviews.count item + (learner.run acts).2.count (.queued item) =
      (learner.run acts).1.reviews.count item + (learner.run acts).2.count (.discarded item) +
        (learner.run acts).2.count (.activated item) := by
  induction acts using List.reverseRecOn with
  | nil => simp [run]
  | append_singleton acts last inductionHypothesis =>
      rw [run_concat]
      have moves := (learner.run acts).1.moves_act last
      generalize (learner.run acts).1.act last = result at moves
      cases moves with
      | stays same => simpa [same] using inductionHypothesis
      | joins added =>
          simp [added, List.count_cons]
          omega
      | leaves there rest fate =>
          simp only [there, List.count_append, List.count_cons, beq_iff_eq] at inductionHypothesis
          simp only [rest, List.count_append]
          rcases fate with rfl | rfl
          · simp [List.count_cons]
            omega
          · simp [List.count_cons]
            omega

/-- Those that wait stand in the order in which they came. -/
theorem reviews_run_sublist (learner : Learner) (acts : List Act) :
    (learner.run acts).1.reviews.Sublist
      (learner.reviews ++ (learner.run acts).2.filterMap Deed.queued?) := by
  induction acts using List.reverseRecOn with
  | nil => simp [run]
  | append_singleton acts last inductionHypothesis =>
      rw [run_concat]
      have moves := (learner.run acts).1.moves_act last
      generalize (learner.run acts).1.act last = result at moves
      simp only [List.filterMap_append, ← List.append_assoc]
      cases moves with
      | stays same => simpa [same] using inductionHypothesis
      | joins added =>
          rw [added]
          exact inductionHypothesis.append (List.Sublist.refl _)
      | leaves there rest fate =>
          rw [there] at inductionHypothesis
          rw [rest]
          apply List.Sublist.trans _ (List.sublist_append_left _ _)
          apply List.Sublist.trans _ inductionHypothesis
          exact (List.Sublist.refl _).append (List.sublist_cons_self _ _)

/-- What holds of a learner that began with an empty queue, and of all that has happened to its
candidates since. -/
structure Tended (learner : Learner) (deeds : List Deed) : Prop where
  activations : ∀ reviewId revised, learner.Activation reviewId revised
    (Prod.fst <$> learner.activateReview reviewId revised)
    (learner.act (.activate reviewId revised))
  ordered : learner.reviews.Sublist (deeds.filterMap Deed.queued?)
  accounted : ∀ item, deeds.count (.queued item) = learner.reviews.count item +
    deeds.count (.discarded item) + deeds.count (.activated item)
  /-- A candidate that came once waits, was discarded once, or was activated once. -/
  once : ∀ item, deeds.count (.queued item) = 1 →
    (learner.reviews.count item, deeds.count (.discarded item), deeds.count (.activated item)) ∈
      [(1, 0, 0), (0, 1, 0), (0, 0, 1)]

/-- No candidate is lost or doubled, whatever is done to the learner and to its library, and an
activation either moves one candidate into the library or changes nothing. -/
theorem tended_of_run (config : LearningConfig) (library : Library) (acts : List Act) :
    Tended ((start config library).run acts).1 ((start config library).run acts).2 := by
  have accounted : ∀ item, ((start config library).run acts).2.count (.queued item) =
      ((start config library).run acts).1.reviews.count item +
        ((start config library).run acts).2.count (.discarded item) +
        ((start config library).run acts).2.count (.activated item) := by
    intro item
    simpa [start] using (start config library).count_run acts item
  refine ⟨activation _, ?_, accounted, ?_⟩
  · simpa [start] using (start config library).reviews_run_sublist acts
  · intro item single
    have split := accounted item
    simp only [List.mem_cons, Prod.mk.injEq, List.not_mem_nil, or_false]
    omega

/-- Two candidates match known-good code.  The first is activated under a matcher that does not, and
the second, which is left as it is, is refused. -/
def twoCandidates : List Act :=
  [.addKnownGood "a = b",
    .learn ⟨0, 0⟩ ⟨toString, 0⟩ ⟨"a = b", none, .logic, "", "", .production⟩,
    .learn ⟨0, 0⟩ ⟨toString, 2⟩ ⟨"a = b", none, .logic, "", "", .production⟩,
    .activate "1" (some (.sequence ["eval"])), .activate "3" none]

example : ((start .default .empty).run twoCandidates).1.reviews.map ReviewItem.id = ["3"] ∧
    ((start .default .empty).run twoCandidates).1.library.liveMatchers = [.sequence ["eval"]] := by
  decide +kernel

end ReviewGate.Learner
