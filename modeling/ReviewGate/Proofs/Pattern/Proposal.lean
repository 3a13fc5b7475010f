import ReviewGate.Proofs.Pattern.Learning

/-!
# What a proposal says

The shape that is learned from a line matches it and no known-good item.  It keeps every operator of
the line and, in their order, some of its other tokens.  Where already the full shape matches
known-good items, the proposal lists them.
-/

namespace ReviewGate

/-! ## Shapes as subsequences -/

/-- Tokens occur in an order where they are a subsequence. -/
theorem Shape.occurInOrder_iff {wanted tokens : List String} :
    occurInOrder wanted tokens = true ↔ wanted.Sublist tokens := by
  fun_induction occurInOrder wanted tokens with
  | case1 tokens => simp
  | case2 wanted others => simp
  | case3 wanted others rest inductionHypothesis =>
      rw [inductionHypothesis, List.cons_sublist_cons]
  | case4 wanted others token rest different inductionHypothesis =>
      rw [inductionHypothesis, List.sublist_cons_iff]
      constructor
      · exact .inl
      · rintro (later | ⟨_, same, -⟩)
        · exact later
        · injection same with first
          exact absurd first.symm different

/-- A token that is not tried when a shape shrinks. -/
def Token.isOperator (token : String) : Bool := !isStructural token && !isSignificant token

/-! ## The offending line -/

namespace Trace

/-- The line that a trace points at has a significant token. -/
def Hints (trace : Trace) (line : String) : Prop :=
  ∃ index, trace.line = some (index + 1) ∧ (Text.lines trace.fragment)[index]? = some line ∧
    hasSignificantToken line = true

/-- The line that a trace is about: the one that it points at, and else the first one with a
significant token. -/
inductive Offending (trace : Trace) (line : String) : Prop where
  | hinted (pointed : trace.Hints line)
  | first (before after : List String) (unhinted : ∀ other, ¬trace.Hints other)
      (split : Text.lines trace.fragment = before ++ line :: after)
      (blank : ∀ earlier ∈ before, hasSignificantToken earlier = false)
      (significant : hasSignificantToken line = true)

/-- The line that the trace points at, if it has a significant token. -/
def hinted? (trace : Trace) : Option String :=
  match trace.line with
  | some (index + 1) => ((Text.lines trace.fragment)[index]?).filter hasSignificantToken
  | _ => none

theorem offendingLine?_eq (trace : Trace) :
    trace.offendingLine? =
      trace.hinted?.or ((Text.lines trace.fragment).find? hasSignificantToken) := rfl

theorem hinted?_eq_some_iff {trace : Trace} {line : String} :
    trace.hinted? = some line ↔ trace.Hints line := by
  unfold hinted? Hints
  split
  · rename_i index pointed
    simp [Option.filter_eq_some_iff, pointed]
  · rename_i unpointed
    constructor
    · exact nofun
    · rintro ⟨index, pointed, -⟩
      exact absurd pointed (unpointed index)

theorem hinted?_eq_none_iff {trace : Trace} :
    trace.hinted? = none ↔ ∀ other, ¬trace.Hints other := by
  simp only [Option.eq_none_iff_forall_ne_some, ne_eq, hinted?_eq_some_iff]

theorem offending_of_offendingLine? {trace : Trace} {line : String}
    (found : trace.offendingLine? = some line) : trace.Offending line := by
  rw [offendingLine?_eq] at found
  rcases Option.or_eq_some_iff.mp found with pointed | ⟨unhinted, first⟩
  · exact .hinted (hinted?_eq_some_iff.mp pointed)
  · obtain ⟨significant, before, after, split, blank⟩ := List.find?_eq_some_iff_append.mp first
    exact .first before after (hinted?_eq_none_iff.mp unhinted) split
      (fun earlier membership => by simpa using blank earlier membership) significant

/-- Only where no line has a significant token is there no offending line. -/
theorem offendingLine?_eq_none_iff {trace : Trace} :
    trace.offendingLine? = none ↔
      ∀ line ∈ Text.lines trace.fragment, hasSignificantToken line = false := by
  rw [offendingLine?_eq, Option.or_eq_none_iff, List.find?_eq_none]
  simp only [Bool.not_eq_true]
  refine ⟨And.right, fun blank => ⟨?_, blank⟩⟩
  rw [hinted?_eq_none_iff]
  rintro other ⟨index, -, found, significant⟩
  rw [blank other (List.mem_of_getElem? found)] at significant
  contradiction

end Trace

/-! ## Shrinking keeps a shape sound -/

namespace Learner

/-- Where a matcher matches, by position. -/
theorem mem_matchingSamples_iff {matcher : CompiledMatcher} {sample : List String} {index : Nat} :
    index ∈ matchingSamples matcher sample ↔
      ∃ item, sample[index]? = some item ∧ matcher.matchesSource item = true := by
  unfold matchingSamples
  rw [List.mem_filterMap]
  constructor
  · rintro ⟨⟨item, place⟩, membership, found⟩
    simp only [Option.ite_none_right_eq_some, Option.some.injEq] at found
    obtain ⟨matching, rfl⟩ := found
    exact ⟨item, List.mk_mem_zipIdx_iff_getElem?.mp membership, matching⟩
  · rintro ⟨item, present, matching⟩
    exact ⟨(item, index), List.mk_mem_zipIdx_iff_getElem?.mpr present, if_pos matching⟩

theorem matchingSamples_increasing (matcher : CompiledMatcher) (sample : List String) :
    (matchingSamples matcher sample).Pairwise (· < ·) := by
  have places : sample.zipIdx.Pairwise fun earlier later => earlier.2 < later.2 := by
    rw [← List.pairwise_map, List.zipIdx_map_snd]
    exact List.pairwise_lt_range'
  refine places.filterMap _ ?_
  rintro ⟨first, place⟩ ⟨second, other⟩ less _ found _ found'
  simp only [Option.ite_none_right_eq_some, Option.some.injEq] at found found'
  rw [← found.2, ← found'.2]
  exact less

theorem matchingSamples_isEmpty_iff {matcher : CompiledMatcher} {sample : List String} :
    (matchingSamples matcher sample).isEmpty = true ↔
      ∀ item ∈ sample, matcher.matchesSource item = false := by
  rw [List.isEmpty_iff, List.eq_nil_iff_forall_not_mem]
  simp only [mem_matchingSamples_iff, not_exists, not_and, Bool.not_eq_true]
  constructor
  · intro silent item membership
    obtain ⟨index, found⟩ := List.mem_iff_getElem?.mp membership
    exact silent index item found
  · intro silent index item found
    exact silent item (List.mem_of_getElem? found)

theorem keptTokens_cons (token : String) (tokens : List String) (keep : Bool) (kept : List Bool) :
    keptTokens (token :: tokens) (keep :: kept) =
      if keep then token :: keptTokens tokens kept else keptTokens tokens kept := by
  cases keep <;> rfl

theorem sublist_keptTokens (tokens : List String) (kept : List Bool) :
    (keptTokens tokens kept).Sublist tokens := by
  induction tokens generalizing kept with
  | nil => exact .slnil
  | cons token rest inductionHypothesis =>
      cases kept with
      | nil => exact List.nil_sublist _
      | cons keep kept =>
          rw [keptTokens_cons]
          split
          · exact (inductionHypothesis kept).cons_cons token
          · exact (inductionHypothesis kept).cons token

theorem sublist_minimize (config : LearningConfig) (sample tokens : List String) :
    (minimize config sample tokens).Sublist tokens :=
  sublist_keptTokens _ _

/-- Leaving out a token keeps the tokens of every class that it is not of. -/
theorem filter_keptTokens_set {test : String → Bool} {tokens : List String} {index : Nat}
    (outside : ∀ token, tokens[index]? = some token → test token = false) (kept : List Bool) :
    (keptTokens tokens (kept.set index false)).filter test =
      (keptTokens tokens kept).filter test := by
  induction tokens generalizing kept index with
  | nil => rfl
  | cons token rest inductionHypothesis =>
      cases kept with
      | nil => rfl
      | cons keep kept =>
          cases index with
          | zero =>
              rw [List.set_cons_zero, keptTokens_cons, keptTokens_cons]
              cases keep
              · rfl
              · simp [outside token rfl]
          | succ index =>
              rw [List.set_cons_succ, keptTokens_cons, keptTokens_cons]
              have later := inductionHypothesis (fun token found => outside token found) kept
              cases keep <;> simp [List.filter_cons, later]

/-- A shape for a line of tokens: it keeps their operators and a significant token, is not shorter
than asked for, and matches nothing in the sample. -/
structure Stands (config : LearningConfig) (sample tokens shape : List String) : Prop where
  operators : shape.filter Token.isOperator = tokens.filter Token.isOperator
  significant : shape.any Token.isSignificant = true
  long : min (max config.minTokens 1) tokens.length ≤ shape.length
  silent : ∀ item ∈ sample,
    (CompiledMatcher.shape (.sequence shape)).matchesSource item = false

/-- What is not an operator may be left out where the rest is viable. -/
theorem Stands.dropToken {config : LearningConfig} {sample tokens : List String}
    {kept : List Bool} {index : Nat} (stands : Stands config sample tokens (keptTokens tokens kept))
    (tried : ∀ token, tokens[index]? = some token → Token.isOperator token = false) :
    Stands config sample tokens
      (keptTokens tokens (dropToken config sample tokens kept index)) := by
  unfold Learner.dropToken
  dsimp only
  split
  · rename_i viable
    simp only [isViable, Bool.and_eq_true, decide_eq_true_eq, matchingSamples_isEmpty_iff]
      at viable
    obtain ⟨⟨long, significant⟩, silent⟩ := viable
    constructor
    case operators => rw [filter_keptTokens_set tried, stands.operators]
    case significant => exact significant
    case long => omega
    case silent => exact silent
  · exact stands

theorem not_isOperator_of_mem_dropOrder {tokens : List String} {index : Nat} {token : String}
    (tried : index ∈ dropOrder tokens) (found : tokens[index]? = some token) :
    Token.isOperator token = false := by
  have tested : ∀ test : String → Bool,
      index ∈ tokens.zipIdx.filterMap (fun pair =>
        if test pair.1 then some pair.2 else none) → test token = true := by
    intro test membership
    obtain ⟨⟨other, place⟩, paired, chosen⟩ := List.mem_filterMap.mp membership
    simp only [Option.ite_none_right_eq_some, Option.some.injEq] at chosen
    obtain ⟨passes, rfl⟩ := chosen
    rw [List.mk_mem_zipIdx_iff_getElem?, found, Option.some.injEq] at paired
    rwa [paired]
  rcases List.mem_append.mp tried with structural | significant
  · simp [Token.isOperator, tested _ structural]
  · simp [Token.isOperator, tested _ significant]

/-- A shape that stands at first stands after the whole pass. -/
theorem Stands.minimize {config : LearningConfig} {sample tokens : List String}
    (stands : Stands config sample tokens tokens) :
    Stands config sample tokens (minimize config sample tokens) := by
  have passed : ∀ (order : List Nat) (kept : List Bool), (∀ index ∈ order,
      ∀ token, tokens[index]? = some token → Token.isOperator token = false) →
      Stands config sample tokens (keptTokens tokens kept) →
      Stands config sample tokens
        (keptTokens tokens (order.foldl (Learner.dropToken config sample tokens) kept)) := by
    intro order
    induction order with
    | nil => exact fun _ _ => id
    | cons index rest inductionHypothesis =>
        intro kept tried stands
        exact inductionHypothesis _ (fun other later => tried other (List.mem_cons_of_mem _ later))
          (stands.dropToken (tried index List.mem_cons_self))
  refine passed _ _ (fun index tried token => not_isOperator_of_mem_dropOrder tried) ?_
  rwa [keptTokens_all]

end Learner

/-! ## A learner at work -/

/-- Proposals that were made are kept: they can be applied later, and more than once. -/
structure Workshop where
  learner : Learner
  ids : Ids
  proposals : List Proposal

namespace Workshop

/-- Works out what a trace yields. -/
def propose (workshop : Workshop) (now : Instant) (trace : Trace) :
    Except LibraryError Proposal × Workshop :=
  let (result, ids) := workshop.learner.propose now workshop.ids trace
  match result with
  | .ok proposal => (result, { workshop with ids, proposals := workshop.proposals ++ [proposal] })
  | .error _ => (result, { workshop with ids })

theorem learner_propose (workshop : Workshop) (now : Instant) (trace : Trace) :
    (workshop.propose now trace).2.learner = workshop.learner := by
  unfold propose
  dsimp only
  split <;> rfl

theorem propose_fst (workshop : Workshop) (now : Instant) (trace : Trace) :
    (workshop.propose now trace).1 = (workshop.learner.propose now workshop.ids trace).1 := by
  unfold propose
  dsimp only
  split <;> rfl

end Workshop

/-- What a proposal says about the line that it is made for. -/
inductive Proposal.Fits (learner : Learner) (line : String) : Proposal → Prop where
  | activate {rule : Rule} {shape : List String} (made : rule.matcher = Matcher.sequence shape)
      (compiles : rule.matcher.compile = .ok (.shape (.sequence shape)))
      (matching : (CompiledMatcher.shape (.sequence shape)).matchesLine line = true)
      (subsequence : shape.Sublist (Token.ofLine line))
      (stands : Learner.Stands learner.config
        (learner.knownGood.take learner.config.sampleSize) (Token.ofLine line) shape) :
      Fits learner line (.activate rule)
  | queue {item : ReviewItem} (nonempty : item.matchedSamples ≠ [])
      (increasing : item.matchedSamples.Pairwise (· < ·))
      (matched : ∀ index, index ∈ item.matchedSamples ↔
        ∃ known, (learner.knownGood.take learner.config.sampleSize)[index]? = some known ∧
          (CompiledMatcher.shape (.sequence (Token.ofLine line))).matchesSource known = true) :
      Fits learner line (.queue item)
  | duplicate {rule : Rule} {shape : List String} (made : rule.matcher = Matcher.sequence shape)
      (active : rule.active = true)
      (present : ∃ entry ∈ learner.library.rules, entry.rule = rule)
      (subsequence : shape.Sublist (Token.ofLine line))
      (stands : Learner.Stands learner.config
        (learner.knownGood.take learner.config.sampleSize) (Token.ofLine line) shape) :
      Fits learner line (.duplicate rule.id)

namespace Learner

/-- A line with a significant token has a shape: its own tokens, if no known-good item matches. -/
theorem stands_ofLine (config : LearningConfig) {sample : List String} {line : String}
    (significant : Trace.hasSignificantToken line = true)
    (silent : (matchingSamples (.shape (.sequence (Token.ofLine line))) sample).isEmpty = true) :
    Stands config sample (Token.ofLine line) (Token.ofLine line) where
  operators := rfl
  significant := significant
  long := Nat.min_le_right _ _
  silent := matchingSamples_isEmpty_iff.mp silent

theorem hasSignificantToken_of_offending {trace : Trace} {line : String}
    (offending : trace.Offending line) : Trace.hasSignificantToken line = true := by
  cases offending with
  | hinted pointed =>
      obtain ⟨index, -, -, significant⟩ := pointed
      exact significant
  | first before after unhinted split blank significant => exact significant

/-- A rule that is proposed for activation has the shape of the offending line after one pass. -/
theorem proposeAs_eq_activate {learner : Learner} {now : Instant} {ruleId reviewId : String}
    {trace : Trace} {rule : Rule}
    (proposed : learner.proposeAs now ruleId reviewId trace = .ok (.activate rule)) :
    ∃ line, trace.offendingLine? = some line ∧
      (matchingSamples (.shape (.sequence (Token.ofLine line))) learner.sample).isEmpty = true ∧
      rule = candidate learner.config trace ruleId now
        (minimize learner.config learner.sample (Token.ofLine line)) true := by
  unfold proposeAs at proposed
  dsimp only at proposed
  split at proposed
  · contradiction
  · rename_i line found
    split at proposed
    · rename_i silent
      split at proposed
      · cases proposed
      · cases proposed
        exact ⟨line, found, silent, rfl⟩
    · cases proposed

theorem fits_of_proposeAs {learner : Learner} {now : Instant} {ruleId reviewId : String}
    {trace : Trace} {line : String} {proposal : Proposal}
    (found : trace.offendingLine? = some line)
    (proposed : learner.proposeAs now ruleId reviewId trace = .ok proposal) :
    proposal.Fits learner line := by
  have significant := hasSignificantToken_of_offending (Trace.offending_of_offendingLine? found)
  unfold proposeAs at proposed
  rw [found] at proposed
  dsimp only at proposed
  split at proposed
  · rename_i silent
    have sublist := sublist_minimize learner.config learner.sample (Token.ofLine line)
    have stands := (stands_ofLine learner.config significant silent).minimize
    split at proposed
    · rename_i rule covered
      obtain ⟨entry, present, rfl, active, made⟩ := Library.mem_of_findByMatcher? covered
      cases proposed
      exact .duplicate made active ⟨entry, present, rfl⟩ sublist stands
    · cases proposed
      have nonempty : minimize learner.config learner.sample (Token.ofLine line) ≠ [] :=
        minimize_ne_nil (ofLine_ne_nil_of_offendingLine? found)
      exact .activate rfl (Matcher.compile_sequence nonempty) (Shape.occurInOrder_iff.mpr sublist)
        sublist stands
  · rename_i matched
    cases proposed
    refine .queue ?_ (matchingSamples_increasing _ _) fun index => mem_matchingSamples_iff
    intro none
    exact matched (List.isEmpty_iff.mpr none)

/-- A proposal fails where no line has a significant token and only there; otherwise it fits the
offending line.  In either case the learner stays as it is. -/
theorem fits_of_propose (workshop : Workshop) (now : Instant) (trace : Trace) :
    ((∃ cause, (workshop.propose now trace).1 = .error cause) ↔
      ∀ line ∈ Text.lines trace.fragment, Trace.hasSignificantToken line = false) ∧
    (∀ proposal, (workshop.propose now trace).1 = .ok proposal →
      ∃ line, trace.Offending line ∧ proposal.Fits workshop.learner line) ∧
    (workshop.propose now trace).2.learner = workshop.learner := by
  refine ⟨?fails, ?fits, workshop.learner_propose now trace⟩
  case fails =>
    rw [← Trace.offendingLine?_eq_none_iff, workshop.propose_fst]
    unfold propose proposeAs
    dsimp only
    split
    · rename_i missing
      simp [missing]
    · rename_i line found
      rw [found]
      split
      · split <;> simp
      · simp
  case fits =>
    intro proposal proposed
    rw [workshop.propose_fst] at proposed
    cases found : trace.offendingLine? with
    | none =>
        simp [propose, proposeAs, found] at proposed
    | some line =>
        exact ⟨line, Trace.offending_of_offendingLine? found, fits_of_proposeAs found proposed⟩

end Learner

end ReviewGate
