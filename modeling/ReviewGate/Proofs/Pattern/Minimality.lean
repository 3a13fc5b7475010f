import ReviewGate.Proofs.Pattern.Proposal

/-!
# Learned shapes are minimal

One pass tries every token that may be left out, each against what is kept by then.  Viability only
gets lost when more tokens are left out, so a token that had to stay once has to stay in the end: no
selection of such tokens can be left out of a learned shape.
-/

namespace ReviewGate

/-! ## Leaving tokens out -/

/-- Some tokens of a shape are left out, none of them an operator. -/
inductive Shape.Thins : List String → List String → Prop where
  | nil : Thins [] []
  | keep {tokens fewer : List String} (token : String) (thins : Thins tokens fewer) :
      Thins (token :: tokens) (token :: fewer)
  | drop {tokens fewer : List String} {token : String}
      (droppable : Token.isStructural token = true ∨ Token.isSignificant token = true)
      (thins : Thins tokens fewer) : Thins (token :: tokens) fewer

theorem Shape.Thins.sublist {tokens fewer : List String} (thins : Thins tokens fewer) :
    fewer.Sublist tokens := by
  induction thins with
  | nil => exact .slnil
  | keep token _ inductionHypothesis => exact inductionHypothesis.cons_cons token
  | drop _ _ inductionHypothesis => exact inductionHypothesis.cons _

/-- Where anything is left out, some token is, and what is left is among the others. -/
theorem Shape.Thins.exists_dropped {tokens fewer : List String} (thins : Thins tokens fewer)
    (different : fewer ≠ tokens) : ∃ before token after, tokens = before ++ token :: after ∧
      (Token.isStructural token = true ∨ Token.isSignificant token = true) ∧
      fewer.Sublist (before ++ after) := by
  induction thins with
  | nil => exact absurd rfl different
  | @keep tokens fewer token thins inductionHypothesis =>
      have fewerLeft : fewer ≠ tokens := fun same => different (by rw [same])
      obtain ⟨before, dropped, after, rfl, droppable, sublist⟩ := inductionHypothesis fewerLeft
      exact ⟨token :: before, dropped, after, rfl, droppable, sublist.cons_cons token⟩
  | @drop tokens fewer token droppable thins _ =>
      exact ⟨[], token, tokens, rfl, droppable, thins.sublist⟩

/-- A shape matches whatever a longer one does. -/
theorem CompiledMatcher.matchesSource_of_sublist {fewer tokens : List String}
    (sublist : fewer.Sublist tokens) {source : String}
    (matching : (shape (.sequence tokens)).matchesSource source = true) :
    (shape (.sequence fewer)).matchesSource source = true := by
  unfold matchesSource at *
  rw [List.any_eq_true] at *
  obtain ⟨line, present, found⟩ := matching
  rw [matchesLine_shape, Shape.matchesTokens_sequence, Shape.occurInOrder_iff] at found
  refine ⟨line, present, ?_⟩
  rw [matchesLine_shape, Shape.matchesTokens_sequence, Shape.occurInOrder_iff]
  exact sublist.trans found

namespace Learner

theorem isViable_iff {config : LearningConfig} {sample tokens : List String} :
    isViable config sample tokens = true ↔
      max config.minTokens 1 ≤ tokens.length ∧ tokens.any Token.isSignificant = true ∧
        ∀ item ∈ sample, (CompiledMatcher.shape (.sequence tokens)).matchesSource item = false := by
  simp only [isViable, Bool.and_eq_true, decide_eq_true_eq, matchingSamples_isEmpty_iff, and_assoc]

/-- More tokens than a viable shape has are viable. -/
theorem isViable_of_sublist {config : LearningConfig} {sample fewer tokens : List String}
    (sublist : fewer.Sublist tokens) (viable : isViable config sample fewer = true) :
    isViable config sample tokens = true := by
  rw [isViable_iff] at *
  obtain ⟨long, significant, silent⟩ := viable
  refine ⟨Nat.le_trans long sublist.length_le, ?_, ?_⟩
  · rw [List.any_eq_true] at *
    obtain ⟨token, present, means⟩ := significant
    exact ⟨token, sublist.subset present, means⟩
  · intro item known
    rw [← Bool.not_eq_true]
    intro matching
    have shorter := CompiledMatcher.matchesSource_of_sublist sublist matching
    rw [silent item known] at shorter
    contradiction

/-! ## One pass -/

theorem keptTokens_set_sublist (tokens : List String) (kept : List Bool) (index : Nat) :
    (keptTokens tokens (kept.set index false)).Sublist (keptTokens tokens kept) := by
  induction tokens generalizing kept index with
  | nil => exact .slnil
  | cons token rest inductionHypothesis =>
      cases kept with
      | nil => exact List.Sublist.refl _
      | cons keep kept =>
          cases index with
          | zero =>
              rw [List.set_cons_zero, keptTokens_cons, keptTokens_cons]
              cases keep
              · exact List.Sublist.refl _
              · exact List.sublist_cons_self ..
          | succ index =>
              rw [List.set_cons_succ, keptTokens_cons, keptTokens_cons]
              cases keep
              · exact inductionHypothesis kept index
              · exact (inductionHypothesis kept index).cons_cons token

/-- Some tokens that were kept earlier are not kept any more. -/
structure Narrows (tokens : List String) (earlier later : List Bool) : Prop where
  kept : ∀ index : Nat, later[index]? = some true → earlier[index]? = some true
  without : ∀ index : Nat, (keptTokens tokens (later.set index false)).Sublist
    (keptTokens tokens (earlier.set index false))

theorem Narrows.refl (tokens : List String) (kept : List Bool) : Narrows tokens kept kept :=
  ⟨fun _ => id, fun _ => List.Sublist.refl _⟩

theorem Narrows.trans {tokens : List String} {first second third : List Bool}
    (narrows : Narrows tokens first second) (further : Narrows tokens second third) :
    Narrows tokens first third :=
  ⟨fun index kept => narrows.kept index (further.kept index kept),
    fun index => (further.without index).trans (narrows.without index)⟩

theorem narrows_set (tokens : List String) (kept : List Bool) (index : Nat) :
    Narrows tokens kept (kept.set index false) := by
  constructor
  · intro other stays
    rw [List.getElem?_set] at stays
    split at stays
    · split at stays <;> simp at stays
    · exact stays
  · intro other
    by_cases same : index = other
    · subst same
      simp
    · rw [List.set_comm _ _ same]
      exact keptTokens_set_sublist ..

theorem narrows_dropToken (config : LearningConfig) (sample tokens : List String)
    (kept : List Bool) (index : Nat) :
    Narrows tokens kept (dropToken config sample tokens kept index) := by
  unfold dropToken
  dsimp only
  split
  · exact narrows_set ..
  · exact .refl ..

/-- A token that stays when it is tried could not be left out. -/
theorem not_viable_of_dropToken {config : LearningConfig} {sample tokens : List String}
    {kept : List Bool} {index : Nat}
    (stays : (dropToken config sample tokens kept index)[index]? = some true) :
    isViable config sample (keptTokens tokens (kept.set index false)) = false := by
  unfold dropToken at stays
  dsimp only at stays
  split at stays
  · rw [List.getElem?_set_self'] at stays
    cases found : kept[index]? <;> simp [found] at stays
  · rename_i refused
    simpa using refused

/-- What stays through a pass could not be left out of what is kept in the end. -/
theorem not_viable_of_pass {config : LearningConfig} {sample tokens : List String}
    (order : List Nat) (kept : List Bool) :
    Narrows tokens kept (order.foldl (dropToken config sample tokens) kept) ∧
      ∀ index ∈ order,
        (order.foldl (dropToken config sample tokens) kept)[index]? = some true →
        isViable config sample (keptTokens tokens
          ((order.foldl (dropToken config sample tokens) kept).set index false)) = false := by
  induction order generalizing kept with
  | nil => exact ⟨.refl .., by simp⟩
  | cons first rest inductionHypothesis =>
      obtain ⟨narrows, refused⟩ :=
        inductionHypothesis (dropToken config sample tokens kept first)
      refine ⟨(narrows_dropToken config sample tokens kept first).trans narrows, ?_⟩
      intro index tried stays
      rcases List.mem_cons.mp tried with rfl | later
      · -- What was refused when more was kept is refused all the more now.
        have earlier := not_viable_of_dropToken (narrows.kept _ stays)
        rw [← Bool.not_eq_true] at earlier ⊢
        intro viable
        exact earlier (isViable_of_sublist
          (((narrows_dropToken ..).trans narrows).without _) viable)
      · exact refused index later stays

theorem mem_dropOrder {tokens : List String} {index : Nat} {token : String}
    (found : tokens[index]? = some token)
    (droppable : Token.isStructural token = true ∨ Token.isSignificant token = true) :
    index ∈ dropOrder tokens := by
  have placed : ∀ test : String → Bool, test token = true →
      index ∈ tokens.zipIdx.filterMap fun pair => if test pair.1 then some pair.2 else none := by
    intro test passes
    exact List.mem_filterMap.mpr ⟨(token, index), List.mk_mem_zipIdx_iff_getElem?.mpr found,
      if_pos passes⟩
  rcases droppable with structural | significant
  · exact List.mem_append_left _ (placed _ structural)
  · exact List.mem_append_right _ (placed _ significant)

/-- Every token that is kept has its place among all tokens. -/
theorem exists_place_of_keptTokens {tokens : List String} {kept : List Bool} {token : String}
    {before after : List String} (split : keptTokens tokens kept = before ++ token :: after) :
    ∃ index, tokens[index]? = some token ∧ kept[index]? = some true ∧
      keptTokens tokens (kept.set index false) = before ++ after := by
  induction tokens generalizing kept before with
  | nil => simp [keptTokens] at split
  | cons other rest inductionHypothesis =>
      cases kept with
      | nil => simp [keptTokens] at split
      | cons keep kept =>
          rw [keptTokens_cons] at split
          cases keep with
          | false =>
              obtain ⟨index, found, stays, left⟩ := inductionHypothesis split
              exact ⟨index + 1, found, stays, left⟩
          | true =>
              cases before with
              | nil =>
                  obtain ⟨rfl, rfl⟩ := List.cons.inj split
                  exact ⟨0, rfl, rfl, rfl⟩
              | cons first before =>
                  obtain ⟨rfl, remaining⟩ := List.cons.inj split
                  obtain ⟨index, found, stays, left⟩ := inductionHypothesis remaining
                  refine ⟨index + 1, found, stays, ?_⟩
                  rw [List.set_cons_succ, keptTokens_cons, left]
                  rfl

/-- Nothing that may be left out at all can be left out of a shape after the pass. -/
theorem not_viable_of_thins {config : LearningConfig} {sample tokens fewer : List String}
    (thins : Shape.Thins (minimize config sample tokens) fewer)
    (different : fewer ≠ minimize config sample tokens) :
    isViable config sample fewer = false := by
  obtain ⟨before, token, after, split, droppable, sublist⟩ := thins.exists_dropped different
  obtain ⟨index, found, stays, left⟩ := exists_place_of_keptTokens split
  have refused := (not_viable_of_pass (dropOrder tokens) _).2 index
    (mem_dropOrder found droppable) stays
  rw [left, ← Bool.not_eq_true] at refused
  rw [← Bool.not_eq_true]
  exact fun viable => refused (isViable_of_sublist sublist viable)

/-- Whatever else is left out of a shape, the rest matches the sample, is too short or has no
significant token. -/
def IsMinimal (config : LearningConfig) (sample shape : List String) : Prop :=
  ∀ fewer, Shape.Thins shape fewer → fewer ≠ shape →
    (∃ item ∈ sample, (CompiledMatcher.shape (.sequence fewer)).matchesSource item = true) ∨
      fewer.length < max config.minTokens 1 ∨
      ∀ token ∈ fewer, Token.isSignificant token = false

theorem isMinimal_minimize (config : LearningConfig) (sample tokens : List String) :
    IsMinimal config sample (minimize config sample tokens) := by
  intro fewer thins different
  have refused := not_viable_of_thins thins different
  rw [← Bool.not_eq_true, isViable_iff] at refused
  rcases Nat.lt_or_ge fewer.length (max config.minTokens 1) with short | long
  · exact .inr (.inl short)
  · cases significant : fewer.any Token.isSignificant with
    | false => exact .inr (.inr (by simpa using significant))
    | true =>
        refine .inl (Classical.byContradiction fun unmatched => refused ⟨long, significant, ?_⟩)
        intro item known
        rw [← Bool.not_eq_true]
        exact fun matching => unmatched ⟨item, known, matching⟩

/-- The shape of a rule that is proposed for activation stands, and it does not stand any more
without some of the tokens that may be left out. -/
theorem isMinimal_of_propose {workshop : Workshop} {now : Instant} {trace : Trace} {rule : Rule}
    (proposed : (workshop.propose now trace).1 = .ok (.activate rule)) :
    ∃ line shape, trace.Offending line ∧ rule.matcher = Matcher.sequence shape ∧
      Stands workshop.learner.config workshop.learner.sample (Token.ofLine line) shape ∧
      IsMinimal workshop.learner.config workshop.learner.sample shape := by
  rw [workshop.propose_fst] at proposed
  obtain ⟨line, found, silent, rfl⟩ := proposeAs_eq_activate proposed
  have offending := Trace.offending_of_offendingLine? found
  have whole := stands_ofLine workshop.learner.config
    (hasSignificantToken_of_offending offending) silent
  exact ⟨line, _, offending, rfl, whole.minimize, isMinimal_minimize _ _ _⟩

end Learner

/-- A learner that knows a call by each of two words. -/
def Workshop.ofTwoCalls : Workshop :=
  ⟨{ Learner.start ⟨50, 1, .high, false⟩ .empty with
      knownGood := ["run(x)", "call(payload)"] }, ⟨toString, 0⟩, []⟩

/-- A failure in a call of both words. -/
def Trace.ofPayloadCall : Trace := ⟨"run(payload)", none, .injection, "", "", .production⟩

namespace Learner

open Workshop (ofTwoCalls)
open Trace (ofPayloadCall)

/-- Neither word of the call may be left out. -/
theorem isMinimal_of_two_words :
    ∃ rule line shape, rule.matcher = Matcher.sequence ["run", "payload"] ∧
      (ofTwoCalls.propose ⟨0, 0⟩ ofPayloadCall).1 = .ok (.activate rule) ∧
      ofPayloadCall.Offending line ∧ rule.matcher = Matcher.sequence shape ∧
      Stands ofTwoCalls.learner.config ofTwoCalls.learner.sample (Token.ofLine line) shape ∧
      IsMinimal ofTwoCalls.learner.config ofTwoCalls.learner.sample shape := by
  let rule := candidate ofTwoCalls.learner.config ofPayloadCall (ruleId .injection "0") ⟨0, 0⟩
    ["run", "payload"] true
  have proposed : (ofTwoCalls.propose ⟨0, 0⟩ ofPayloadCall).1 = .ok (.activate rule) :=
    eq_ok_of_toOption (by decide +kernel)
  obtain ⟨line, shape, offending, made, stands, minimal⟩ := isMinimal_of_propose proposed
  exact ⟨rule, line, shape, rfl, proposed, offending, made, stands, minimal⟩

end Learner

end ReviewGate
