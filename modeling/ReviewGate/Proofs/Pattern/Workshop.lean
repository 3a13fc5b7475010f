import Mathlib.Data.List.Induction
import Mathlib.Data.List.Infix
import Mathlib.Data.List.Nodup
import ReviewGate.Proofs.Pattern.Minimality

/-!
# Runs of a learner

Rules go live where a proposal is applied and where a queued candidate is activated.  Applying looks
for an active rule with the same matcher, but not at the known-good code of that moment.  Activating
looks at the known-good code, but not for such a rule.  So a learned rule may match known-good code
that came after its proposal, and a revised matcher may be live twice.  There is no other way to
either.
-/

namespace ReviewGate

namespace Workshop

inductive Operation where
  | propose (now : Instant) (trace : Trace)
  /-- Publishes a proposal that was made. -/
  | apply (index : Nat)
  | learn (now : Instant) (trace : Trace)
  | addKnownGood (sample : String)
  | activate (reviewId : String) (revised : Option Matcher)
  | discard (reviewId : String)

/-- No proposal was made yet. -/
def start (learner : Learner) (ids : Ids) : Workshop := ⟨learner, ids, []⟩

/-- The workshop with the learner that a change leaves, whether it fails or not. -/
def settle {Answer : Type} (workshop : Workshop)
    (result : Except LibraryError Answer × Learner) : Workshop :=
  { workshop with learner := result.2 }

def perform (workshop : Workshop) : Operation → Workshop
  | .propose now trace => (workshop.propose now trace).2
  | .apply index =>
      match workshop.proposals[index]? with
      | some proposal => workshop.settle (workshop.learner.applyInPlace proposal)
      | none => workshop
  | .learn now trace =>
      let (result, ids) := workshop.learner.learnInPlace now workshop.ids trace
      { workshop.settle result with ids }
  | .addKnownGood sample => { workshop with learner := workshop.learner.addKnownGood sample }
  | .activate reviewId revised =>
      workshop.settle (workshop.learner.activateReviewInPlace reviewId revised)
  | .discard reviewId => workshop.settle (workshop.learner.discardReviewInPlace reviewId)

def run (workshop : Workshop) (operations : List Operation) : Workshop :=
  operations.foldl perform workshop

theorem run_concat (workshop : Workshop) (operations : List Operation) (operation : Operation) :
    workshop.run (operations ++ [operation]) = (workshop.run operations).perform operation := by
  simp [run]

theorem run_append (workshop : Workshop) (before after : List Operation) :
    workshop.run (before ++ after) = (workshop.run before).run after :=
  List.foldl_append

/-! ## What one operation does -/

/-- An operation has a rule to insert that passed the checks made there and then. -/
inductive Publishes (workshop : Workshop) : Operation → Rule → Prop where
  | apply {index : Nat} {rule : Rule}
      (made : workshop.proposals[index]? = some (.activate rule))
      (new : workshop.learner.library.findByMatcher? rule.matcher = none) :
      Publishes workshop (.apply index) rule
  | learn {now : Instant} {trace : Trace} {rule : Rule}
      (proposed : (workshop.propose now trace).1 = .ok (.activate rule))
      (new : workshop.learner.library.findByMatcher? rule.matcher = none) :
      Publishes workshop (.learn now trace) rule
  | activate {reviewId : String} {revised : Option Matcher} {item : ReviewItem}
      {matcher : CompiledMatcher} (waiting : workshop.learner.review? reviewId = .ok item)
      (compiles : (Learner.reviewedRule item revised).matcher.compile = .ok matcher)
      (silent : Learner.matchingSamples matcher workshop.learner.sample = []) :
      Publishes workshop (.activate reviewId revised) (Learner.reviewedRule item revised)

/-- The library stays, or it gets one more rule. -/
def Extends (workshop : Workshop) (operation : Operation) (library : Library) : Prop :=
  library = workshop.learner.library ∨ ∃ rule, workshop.Publishes operation rule ∧
    workshop.learner.library.insert rule = .ok library

/-- Known-good code and proposals are only added, and only a proposal that is asked for. -/
structure Advances (workshop : Workshop) (operation : Operation) (later : Workshop) : Prop where
  config : later.learner.config = workshop.learner.config
  knownGood : workshop.learner.knownGood <+: later.learner.knownGood
  library : workshop.Extends operation later.learner.library
  proposals : ∀ index proposal, later.proposals[index]? = some proposal →
    workshop.proposals[index]? = some proposal ∨
      workshop.proposals.length = index ∧ ∃ now trace, operation = .propose now trace ∧
        (workshop.propose now trace).1 = .ok proposal

theorem Advances.same (workshop : Workshop) (operation : Operation) :
    workshop.Advances operation workshop :=
  ⟨rfl, List.prefix_refl _, .inl rfl, fun _ _ => .inl⟩

theorem advances_settle {Answer : Type} {workshop : Workshop} {operation : Operation}
    {result : Except LibraryError (Answer × Learner)}
    (answers : ∀ answer later, result = .ok (answer, later) →
      later.config = workshop.learner.config ∧ later.knownGood = workshop.learner.knownGood ∧
        workshop.Extends operation later.library) :
    workshop.Advances operation (workshop.settle (apart workshop.learner result)) := by
  cases result with
  | error cause => exact .same ..
  | ok pair =>
      obtain ⟨answer, later⟩ := pair
      obtain ⟨config, knownGood, library⟩ := answers answer later rfl
      exact ⟨config, knownGood ▸ List.prefix_refl _, library, fun _ _ => .inl⟩

theorem advances_propose (workshop : Workshop) (now : Instant) (trace : Trace) :
    workshop.Advances (.propose now trace) (workshop.propose now trace).2 := by
  have learner := workshop.learner_propose now trace
  refine ⟨by rw [learner], by rw [learner], .inl (by rw [learner]), ?_⟩
  intro index proposal present
  have made := workshop.propose_fst now trace
  unfold propose at present
  dsimp only at present
  split at present
  · rename_i latest proposed
    rw [List.getElem?_append] at present
    split at present
    · exact .inl present
    · obtain ⟨within, same⟩ := List.getElem?_eq_some_iff.mp present
      have last : workshop.proposals.length = index := by
        simp only [List.length_singleton] at within
        omega
      subst last
      simp only [Nat.sub_self, List.getElem_cons_zero] at same
      subst same
      exact .inr ⟨rfl, now, trace, rfl, made.trans proposed⟩
  · exact .inl present

/-- What every operation does: one case for each, and the rest of the state stays. -/
theorem advances_perform (workshop : Workshop) (operation : Operation) :
    workshop.Advances operation (workshop.perform operation) := by
  cases operation with
  | propose now trace => exact advances_propose ..
  | apply index =>
      simp only [perform]
      split
      · rename_i proposal made
        rw [Learner.applyInPlace_eq]
        refine advances_settle fun learned later applied => ?_
        obtain ⟨config, knownGood, ⟨same, -⟩ | ⟨rule, rfl, new, inserted, -⟩⟩ :=
          Learner.apply_cases applied
        · exact ⟨config, knownGood, .inl same⟩
        · exact ⟨config, knownGood, .inr ⟨rule, .apply made new, inserted⟩⟩
      · exact .same ..
  | learn now trace =>
      have settled : workshop.Advances (.learn now trace)
          (workshop.settle (workshop.learner.learnInPlace now workshop.ids trace).1) := by
        rw [(workshop.learner.spares_learnInPlace now workshop.ids trace).eq_apart]
        refine advances_settle fun learned later done => ?_
        obtain ⟨proposal, proposed, applied⟩ := Learner.learn_eq_ok done
        replace proposed := (workshop.propose_fst now trace).trans proposed
        obtain ⟨config, knownGood, ⟨same, -⟩ | ⟨rule, rfl, new, inserted, -⟩⟩ :=
          Learner.apply_cases applied
        · exact ⟨config, knownGood, .inl same⟩
        · exact ⟨config, knownGood, .inr ⟨rule, .learn proposed new, inserted⟩⟩
      obtain ⟨config, knownGood, library, proposals⟩ := settled
      exact ⟨config, knownGood, library, proposals⟩
  | addKnownGood sample => exact ⟨rfl, List.prefix_append .., .inl rfl, fun _ _ => .inl⟩
  | activate reviewId revised =>
      rw [perform, Learner.activateReviewInPlace_eq]
      refine advances_settle fun rule later activated => ?_
      obtain ⟨config, knownGood, item, matcher, waiting, -, compiles, silent, inserted⟩ :=
        Learner.activateReview_cases activated
      exact ⟨config, knownGood, .inr ⟨_, .activate waiting compiles silent, inserted⟩⟩
  | discard reviewId =>
      rcases workshop.learner.discardReviewInPlace_cases reviewId with
        ⟨cause, -, failed⟩ | ⟨item, -, discarded⟩
      · rw [perform, failed]
        exact .same ..
      · rw [perform, discarded]
        exact ⟨rfl, List.prefix_refl _, .inl rfl, fun _ _ => .inl⟩

/-! ## Known-good code -/

/-- What was in the sample stays there, at its place. -/
theorem sample_prefix_run (workshop : Workshop) (operations : List Operation) :
    workshop.learner.sample <+: (workshop.run operations).learner.sample := by
  induction operations using List.reverseRecOn with
  | nil => exact List.prefix_refl _
  | append_singleton operations operation inductionHypothesis =>
      refine inductionHypothesis.trans ?_
      have advances := (workshop.run operations).advances_perform operation
      rw [run_concat, Learner.sample, Learner.sample, advances.config]
      exact advances.knownGood.take _

/-- The proposal of a place was made at one moment of the run. -/
def Proposed (workshop : Workshop) (operations : List Operation) (index : Nat)
    (proposal : Proposal) : Prop :=
  ∃ before now trace after, operations = before ++ .propose now trace :: after ∧
    (workshop.run before).proposals.length = index ∧
    ((workshop.run before).propose now trace).1 = .ok proposal

theorem proposed_of_run {learner : Learner} {ids : Ids} {operations : List Operation} {index : Nat}
    {proposal : Proposal}
    (present : ((start learner ids).run operations).proposals[index]? = some proposal) :
    (start learner ids).Proposed operations index proposal := by
  induction operations using List.reverseRecOn with
  | nil => simp [run, start] at present
  | append_singleton operations operation inductionHypothesis =>
      rw [run_concat] at present
      -- Either the proposal was there already, or the last operation has made it.
      rcases (advances_perform _ operation).proposals index proposal present with
        kept | ⟨last, now, trace, rfl, proposed⟩
      · obtain ⟨before, now, trace, after, rfl, last, proposed⟩ := inductionHypothesis kept
        exact ⟨before, now, trace, after ++ [operation], by simp, last, proposed⟩
      · exact ⟨operations, now, trace, [], rfl, last, proposed⟩

/-- A rule that is proposed for activation can be compiled and matches nothing in the sample. -/
theorem silent_of_propose {workshop : Workshop} {now : Instant} {trace : Trace} {rule : Rule}
    (proposed : (workshop.propose now trace).1 = .ok (.activate rule)) :
    ∃ matcher, rule.matcher.compile = .ok matcher ∧
      ∀ item ∈ workshop.learner.sample, matcher.matchesSource item = false := by
  rw [workshop.propose_fst] at proposed
  obtain ⟨line, found, silent, rfl⟩ := Learner.proposeAs_eq_activate proposed
  have significant := Learner.hasSignificantToken_of_offending
    (Trace.offending_of_offendingLine? found)
  exact ⟨_, Matcher.compile_sequence (Learner.minimize_ne_nil
      (Learner.ofLine_ne_nil_of_offendingLine? found)),
    (Learner.stands_ofLine _ significant silent).minimize.silent⟩

/-- An operation makes a rule live. -/
structure GoesLive (workshop : Workshop) (operation : Operation) (entry : CompiledRule) : Prop where
  live : entry ∈ (workshop.perform operation).learner.library.active
  new : entry ∉ workshop.learner.library.active

/-- A rule that goes live was published by the operation. -/
theorem GoesLive.published {workshop : Workshop} {operation : Operation} {entry : CompiledRule}
    (goesLive : workshop.GoesLive operation entry) :
    ∃ rule, workshop.Publishes operation rule ∧ entry.rule.matcher = rule.matcher := by
  obtain ⟨live, new⟩ := goesLive
  rcases (workshop.advances_perform operation).library with same | ⟨rule, published, inserted⟩
  · rw [same] at live
    exact absurd live new
  · obtain ⟨inserts, made, result⟩ := Library.insert_eq_ok inserted
    rw [result, Library.active, List.filter_append] at live
    rcases List.mem_append.mp live with kept | last
    · exact absurd kept new
    · obtain ⟨membership, -⟩ := List.mem_filter.mp last
      rw [List.mem_singleton.mp membership]
      exact ⟨rule, published, by rw [made]⟩

/-- Where a rule that goes live matches a known-good item, a proposal is applied that was made
before the item was in the sample.  No other operation makes such a rule live. -/
theorem late_of_matchesSource {learner : Learner} {ids : Ids} {operations : List Operation}
    {operation : Operation} {entry : CompiledRule} {place : Nat} {item : String}
    (goesLive : ((start learner ids).run operations).GoesLive operation entry)
    (known : ((start learner ids).run operations).learner.sample[place]? = some item)
    (matching : entry.matcher.matchesSource item = true) :
    ∃ index before now trace after rule, operation = .apply index ∧
      operations = before ++ .propose now trace :: after ∧
      ((start learner ids).run before).proposals.length = index ∧
      (((start learner ids).run before).propose now trace).1 = .ok (.activate rule) ∧
      entry.rule.matcher = rule.matcher ∧
      ((start learner ids).run before).learner.sample.length ≤ place := by
  obtain ⟨rule, published, made⟩ := goesLive.published
  have refuted : ∀ matcher, rule.matcher.compile = .ok matcher →
      matcher.matchesSource item = false → False := by
    intro matcher compiles unmatched
    have compiled := entry.compiled
    rw [made] at compiled
    cases compiles.symm.trans compiled
    rw [matching] at unmatched
    contradiction
  cases published with
  | @apply index rule present new =>
      obtain ⟨before, now, trace, after, split, last, proposed⟩ := proposed_of_run present
      refine ⟨index, before, now, trace, after, rule, rfl, split, last, proposed, made,
        Nat.le_of_not_lt fun early => ?_⟩
      obtain ⟨matcher, compiles, silent⟩ := silent_of_propose proposed
      refine refuted matcher compiles (silent item ?_)
      -- What comes later in the run only adds to the sample of that moment.
      obtain ⟨more, whole⟩ := sample_prefix_run ((start learner ids).run before)
        (.propose now trace :: after)
      rw [split, run_append, ← whole, List.getElem?_append_left early] at known
      exact List.mem_of_getElem? known
  | learn proposed new =>
      obtain ⟨matcher, compiles, silent⟩ := silent_of_propose proposed
      exact (refuted matcher compiles (silent item (List.mem_of_getElem? known))).elim
  | activate waiting compiles silent =>
      rw [← List.isEmpty_iff, Learner.matchingSamples_isEmpty_iff] at silent
      exact (refuted _ compiles (silent item (List.mem_of_getElem? known))).elim

/-- Nothing is known yet. -/
def blank : Workshop := start (.start .default .empty) ⟨toString, 0⟩

/-- A call becomes known-good code after a rule was proposed for it. -/
def lateSample : List Operation := [.propose ⟨0, 0⟩ .ofPayloadCall, .addKnownGood "run(payload)"]

theorem exists_goesLive_lateSample : ∃ entry, (blank.run lateSample).GoesLive (.apply 0) entry ∧
    entry.rule.isSynthesized = true ∧ entry.matcher.matchesSource "run(payload)" = true := by
  obtain ⟨entry, single⟩ : ∃ entry,
      ((blank.run lateSample).perform (.apply 0)).learner.library.active = [entry] :=
    List.length_eq_one_iff.mp (by decide +kernel)
  have none : (blank.run lateSample).learner.library.active = [] :=
    List.length_eq_zero_iff.mp (by decide +kernel)
  have facts : (((blank.run lateSample).perform (.apply 0)).learner.library.active.all fun entry =>
      entry.rule.isSynthesized && entry.matcher.matchesSource "run(payload)") = true := by
    decide +kernel
  simp only [single, List.all_cons, List.all_nil, Bool.and_true, Bool.and_eq_true] at facts
  exact ⟨entry, ⟨by simp [single], by simp [none]⟩, facts⟩

/-- The item came to the sample after the proposal. -/
theorem late_of_payload : ∃ entry, (blank.run lateSample).GoesLive (.apply 0) entry ∧
    entry.matcher.matchesSource "run(payload)" = true ∧
    ∃ index before now trace after rule, Operation.apply 0 = .apply index ∧
      lateSample = before ++ .propose now trace :: after ∧
      (blank.run before).proposals.length = index ∧
      ((blank.run before).propose now trace).1 = .ok (.activate rule) ∧
      entry.rule.matcher = rule.matcher ∧ (blank.run before).learner.sample.length ≤ 0 := by
  obtain ⟨entry, goesLive, -, matching⟩ := exists_goesLive_lateSample
  have known : (blank.run lateSample).learner.sample[0]? = some "run(payload)" := by
    decide +kernel
  exact ⟨entry, goesLive, matching, late_of_matchesSource goesLive known matching⟩

/-- A learned rule goes live that matches an item of the sample as it is at that moment. -/
theorem not_silent_of_goesLive : ¬∀ (operations : List Operation) (operation : Operation)
    (entry : CompiledRule), (blank.run operations).GoesLive operation entry →
    entry.rule.isSynthesized = true → ∀ item ∈ (blank.run operations).learner.sample,
    entry.matcher.matchesSource item = false := by
  intro silent
  obtain ⟨entry, goesLive, learned, matching⟩ := exists_goesLive_lateSample
  rw [silent lateSample (.apply 0) entry goesLive learned "run(payload)" (by decide +kernel)]
    at matching
  contradiction

/-! ## Matchers that are live twice -/

/-- No two active rules have one matcher. -/
def Distinct (workshop : Workshop) : Prop := workshop.learner.library.liveMatchers.Nodup

/-- A queued candidate is activated, perhaps with a revised matcher, while an active rule has the
matcher that it gets. -/
def Doubles (workshop : Workshop) (operation : Operation) : Prop :=
  ∃ reviewId revised rule later, operation = .activate reviewId revised ∧
    workshop.learner.activateReview reviewId revised = .ok (rule, later) ∧
    rule.matcher ∈ workshop.learner.library.liveMatchers

theorem distinct_perform_activate (workshop : Workshop) (reviewId : String)
    (revised : Option Matcher) :
    (workshop.perform (.activate reviewId revised)).Distinct ↔
      workshop.Distinct ∧ ¬workshop.Doubles (.activate reviewId revised) := by
  cases result : workshop.learner.activateReview reviewId revised with
  | error cause =>
      have single : ¬workshop.Doubles (.activate reviewId revised) := by
        rintro ⟨_, _, rule, later, same, activated, -⟩
        cases same
        cases result.symm.trans activated
      simp [perform, Learner.activateReviewInPlace_eq, result, settle, apart, single]
  | ok pair =>
      obtain ⟨rule, later⟩ := pair
      have doubles : workshop.Doubles (.activate reviewId revised) ↔
          rule.matcher ∈ workshop.learner.library.liveMatchers := by
        constructor
        · rintro ⟨_, _, rule, later, same, activated, live⟩
          cases same
          cases result.symm.trans activated
          exact live
        · exact fun live => ⟨reviewId, revised, rule, later, rfl, result, live⟩
      obtain ⟨-, -, item, matcher, -, rfl, -, -, inserted⟩ := Learner.activateReview_cases result
      rw [doubles]
      simp only [perform, Learner.activateReviewInPlace_eq, result, settle, apart, Distinct,
        Library.liveMatchers_insert inserted]
      exact List.nodup_append_comm.trans (List.nodup_cons.trans and_comm)

/-- One operation doubles a matcher only where a queued candidate is activated. -/
theorem distinct_perform_iff (workshop : Workshop) (operation : Operation) :
    (workshop.perform operation).Distinct ↔
      workshop.Distinct ∧ ¬workshop.Doubles operation := by
  by_cases review : ∃ reviewId revised, operation = .activate reviewId revised
  · obtain ⟨reviewId, revised, rfl⟩ := review
    exact distinct_perform_activate ..
  · have single : ¬workshop.Doubles operation :=
      fun ⟨reviewId, revised, _, _, same, _⟩ => review ⟨reviewId, revised, same⟩
    simp only [single, not_false_eq_true, and_true, Distinct]
    rcases (workshop.advances_perform operation).library with same | ⟨rule, published, inserted⟩
    · rw [same]
    · have new : rule.matcher ∉ workshop.learner.library.liveMatchers := by
        cases published with
        | apply made new => exact Library.findByMatcher?_eq_none_iff.mp new
        | learn proposed new => exact Library.findByMatcher?_eq_none_iff.mp new
        | activate waiting compiles silent => exact absurd ⟨_, _, rfl⟩ review
      rw [Library.liveMatchers_insert inserted]
      split
      · rw [List.nodup_append_comm, List.singleton_append, List.nodup_cons]
        exact and_iff_right new
      · rw [List.append_nil]

/-- After a run the active rules have distinct matchers exactly if they had before and no queued
candidate was activated with the matcher of an active rule. -/
theorem distinct_run_iff (workshop : Workshop) (operations : List Operation) :
    (workshop.run operations).Distinct ↔ workshop.Distinct ∧
      ∀ before operation after, operations = before ++ operation :: after →
        ¬(workshop.run before).Doubles operation := by
  induction operations using List.reverseRecOn with
  | nil => simp [run]
  | append_singleton operations last inductionHypothesis =>
      rw [run_concat, distinct_perform_iff, inductionHypothesis, and_assoc]
      refine and_congr_right fun _ => ⟨?_, fun single => ⟨?_, ?_⟩⟩
      · rintro ⟨earlier, latest⟩ before operation after split
        rcases List.eq_nil_or_concat' after with rfl | ⟨rest, final, rfl⟩
        · obtain ⟨rfl, same⟩ := List.append_inj' split rfl
          cases same
          exact latest
        · have shorter : operations ++ [last] = (before ++ operation :: rest) ++ [final] := by
            simpa using split
          exact earlier before operation rest (List.append_inj' shorter rfl).1
      · intro before operation after split
        exact single before operation (after ++ [last]) (by simp [split])
      · exact single operations last [] rfl

/-- A rule is learned, another candidate is queued and gets the matcher of the first. -/
def revisedTwice : List Operation :=
  [.learn ⟨0, 0⟩ .ofPayloadCall, .addKnownGood "a = b",
    .learn ⟨0, 0⟩ ⟨"a = b", none, .logic, "", "", .production⟩,
    .activate "3" (some (Matcher.sequence ["run", "payload"]))]

/-- The matcher is live twice. -/
theorem not_distinct_run : ¬∀ operations : List Operation,
    blank.Distinct → (blank.run operations).Distinct := by
  intro distinct
  have doubled : ¬(blank.run revisedTwice).learner.library.liveMatchers.Nodup := by decide +kernel
  exact doubled (distinct revisedTwice List.nodup_nil)

end Workshop

end ReviewGate
