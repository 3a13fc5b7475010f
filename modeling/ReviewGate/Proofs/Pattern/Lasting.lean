import Mathlib.Logic.Relation
import ReviewGate.Proofs.Pattern.Lifecycle
import ReviewGate.Proofs.Pattern.Proposal
import ReviewGate.Proofs.Pattern.Scan

/-!
# Rules that last

Whoever changes a library, a rule stays as it was published until it is switched off by its id, and
then it stays off.  A rule that was learned from a line is found wherever the line comes up again.
-/

namespace ReviewGate

namespace Library

/-! ## Libraries that change -/

/-- One change of a library; rules are switched off only where that is permitted. -/
inductive Change (permitted : String → Prop) (library later : Library) : Prop where
  | insert {rule : Rule} (inserted : library.insert rule = .ok later)
  | deactivate {ruleId : String} {successor : Option String} {rule : Rule}
      (allowed : permitted ruleId)
      (deactivated : library.deactivate ruleId successor = .ok (rule, later))
  | supersede {ruleId : String} {replacement : Rule} (allowed : permitted ruleId)
      (superseded : library.supersede ruleId replacement = .ok later)

/-- The library after any number of changes. -/
def Later (permitted : String → Prop) (library later : Library) : Prop :=
  Relation.ReflTransGen (Change permitted) library later

theorem keeps_switchOff (library : Library) (ruleId : String) (successor : Option String)
    (version : Nat) (more : List CompiledRule) :
    library.Keeps ⟨version, switchOff ruleId successor library.rules ++ more⟩ := by
  intro place entry found
  have below := (List.getElem?_eq_some_iff.mp found).1
  have inside : place < (switchOff ruleId successor library.rules).length := by simpa using below
  refine ⟨if entry.rule.id = ruleId then entry.deactivate successor else entry, ?_, ?_⟩
  · rw [List.getElem?_append_left inside, switchOff, List.getElem?_map, found, Option.map_some]
  · split
    · exact Rule.ages_deactivate entry successor
    · exact .refl entry.rule

theorem Change.keeps {permitted : String → Prop} {library later : Library}
    (change : library.Change permitted later) : library.Keeps later := by
  cases change with
  | insert inserted =>
      obtain ⟨added, -, rfl⟩ := insert_eq_ok inserted
      intro place entry found
      have below := (List.getElem?_eq_some_iff.mp found).1
      refine ⟨entry, ?_, .refl entry.rule⟩
      rw [List.getElem?_append_left below, found]
  | @deactivate ruleId successor rule allowed deactivated =>
      rw [deactivate_eq_ok deactivated]
      simpa using library.keeps_switchOff ruleId successor (library.version + 1) []
  | supersede allowed superseded =>
      obtain ⟨entry, rfl⟩ := supersede_eq_ok superseded
      exact library.keeps_switchOff _ _ _ _

/-- Whatever happens to a library, its rules keep their places and what they say. -/
theorem Later.keeps {permitted : String → Prop} {library later : Library}
    (changes : library.Later permitted later) : library.Keeps later := by
  induction changes with
  | refl => exact .refl library
  | tail before change inductionHypothesis => exact inductionHypothesis.trans change.keeps

/-- The rule is there as it was published. -/
def Live (library : Library) (rule : Rule) : Prop := ∃ entry ∈ library.rules, entry.rule = rule

def SwitchedOff (library : Library) (ruleId : String) : Prop :=
  ∃ entry ∈ library.rules, entry.rule.id = ruleId ∧ entry.rule.active = false

/-- A rule is live, or it was switched off where that is permitted. -/
def Lasts (permitted : String → Prop) (library : Library) (rule : Rule) : Prop :=
  library.Live rule ∨ library.SwitchedOff rule.id ∧ permitted rule.id

theorem live_of_insert {library later : Library} {rule : Rule}
    (inserted : library.insert rule = .ok later) :
    later.Live { rule with version := later.version } := by
  obtain ⟨entry, made, rfl⟩ := insert_eq_ok inserted
  exact ⟨entry, List.mem_append_right _ (List.mem_singleton_self entry), made⟩

variable {permitted : String → Prop} {rule : Rule}

/-- Entries of a rule that is switched off stay with its id. -/
theorem lasts_switchOff {library : Library} {ruleId : String} (successor : Option String)
    (allowed : permitted ruleId) (lasts : library.Lasts permitted rule) (version : Nat)
    (more : List CompiledRule) :
    Lasts permitted ⟨version, switchOff ruleId successor library.rules ++ more⟩ rule := by
  have placed : ∀ entry ∈ library.rules,
      (if entry.rule.id = ruleId then entry.deactivate successor else entry) ∈
        switchOff ruleId successor library.rules ++ more :=
    fun entry present => List.mem_append_left _ (List.mem_map_of_mem present)
  rcases lasts with ⟨entry, present, rfl⟩ | ⟨⟨entry, present, named, off⟩, known⟩
  · have kept := placed entry present
    split at kept
    · rename_i named
      exact .inr ⟨⟨_, kept, rfl, rfl⟩, named ▸ allowed⟩
    · exact .inl ⟨entry, kept, rfl⟩
  · refine .inr ⟨⟨_, placed entry present, ?_, ?_⟩, known⟩ <;> split
    · exact named
    · exact named
    · rfl
    · exact off

theorem Lasts.change {library later : Library} (lasts : library.Lasts permitted rule)
    (change : library.Change permitted later) : later.Lasts permitted rule := by
  cases change with
  | insert inserted =>
      obtain ⟨entry, -, rfl⟩ := insert_eq_ok inserted
      rcases lasts with ⟨old, present, same⟩ | ⟨⟨old, present, off⟩, known⟩
      · exact .inl ⟨old, List.mem_append_left _ present, same⟩
      · exact .inr ⟨⟨old, List.mem_append_left _ present, off⟩, known⟩
  | @deactivate ruleId successor rule allowed deactivated =>
      rw [deactivate_eq_ok deactivated]
      simpa using lasts_switchOff successor allowed lasts (library.version + 1) []
  | supersede allowed superseded =>
      obtain ⟨entry, rfl⟩ := supersede_eq_ok superseded
      exact lasts_switchOff _ allowed lasts _ _

/-- What was live is live or switched off, whatever happens to the library. -/
theorem Lasts.later {library later : Library} (lasts : library.Lasts permitted rule)
    (changes : library.Later permitted later) : later.Lasts permitted rule := by
  induction changes with
  | refl => exact lasts
  | tail before change inductionHypothesis => exact inductionHypothesis.change change

end Library

/-! ## Rules that were learned from a line -/

/-- A published rule was made for the offending line of a trace, from some of its tokens. -/
structure Rule.LearnedFrom (config : LearningConfig) (trace : Trace) (line : String)
    (rule : Rule) : Prop where
  offending : trace.Offending line
  made : ∃ id now shape version, shape ≠ [] ∧ shape.Sublist (Token.ofLine line) ∧
    rule = { Learner.candidate config trace id now shape true with version := version }

theorem Rule.LearnedFrom.publish {config : LearningConfig} {trace : Trace} {line : String}
    {rule : Rule} (learned : rule.LearnedFrom config trace line) (version : Nat) :
    Rule.LearnedFrom config trace line { rule with version := version } := by
  obtain ⟨offending, id, now, shape, _, nonempty, sublist, rfl⟩ := learned
  exact ⟨offending, id, now, shape, version, nonempty, sublist, rfl⟩

theorem Learner.learnedFrom_of_propose {learner : Learner} {now : Instant} {ids : Ids}
    {trace : Trace} {rule : Rule}
    (proposed : (learner.propose now ids trace).1 = .ok (.activate rule)) :
    ∃ line, rule.LearnedFrom learner.config trace line := by
  obtain ⟨line, found, -, rfl⟩ := proposeAs_eq_activate proposed
  exact ⟨line, Trace.offending_of_offendingLine? found, _, now, _, 0,
    minimize_ne_nil (ofLine_ne_nil_of_offendingLine? found), sublist_minimize .., rfl⟩

namespace Library

variable {library : Library} {config : LearningConfig} {trace : Trace} {line : String}
  {rule : Rule}

/-- Every scan for findings of the severity of a rule finds it in a line, wherever the line is. -/
def Flags (library : Library) (rule : Rule) (line : String) : Prop :=
  ∀ (threshold : Severity) (source : String) (index : Nat),
    threshold.rank ≤ rule.severity.rank → (Text.lines source)[index]? = some line →
      ∃ finding ∈ library.findings threshold source,
        finding.ruleId = rule.id ∧ finding.line = index + 1 ∧ finding.hardBlock = rule.hardBlock

/-- The shape that was learned from a line matches it. -/
theorem matchesLine_of_learnedFrom {entry : CompiledRule}
    (learned : entry.rule.LearnedFrom config trace line) :
    entry.matcher.matchesLine line = true := by
  obtain ⟨-, id, now, shape, version, nonempty, sublist, same⟩ := learned
  have compiled := entry.compiled
  rw [same] at compiled
  rw [← Except.ok.inj ((Matcher.compile_sequence nonempty).symm.trans compiled),
    CompiledMatcher.matchesLine_shape, Shape.matchesTokens_sequence, Shape.occurInOrder_iff]
  exact sublist

/-- A rule that was learned from a line is found there as long as it is live. -/
theorem flags_of_live (live : library.Live rule)
    (learned : rule.LearnedFrom config trace line) : library.Flags rule line := by
  intro threshold source index severe found
  obtain ⟨entry, present, rfl⟩ := live
  have matching := matchesLine_of_learnedFrom learned
  have active : entry.rule.active = true := by
    obtain ⟨-, id, now, shape, version, -, -, same⟩ := learned
    rw [same]
    rfl
  have placed : (line, index + 1) ∈ (Text.lines source).zipIdx 1 := by
    rw [List.mk_mem_zipIdx_iff_le_and_getElem?_sub]
    exact ⟨Nat.le_add_left 1 index, found⟩
  have place : (index + 1, Text.trim line) ∈ entry.matcher.find source :=
    (CompiledMatcher.mem_find_iff ..).mpr ⟨line, index + 1, placed, matching, rfl⟩
  exact ⟨_, (mem_findings_iff ..).mpr ⟨entry, (mem_active_iff ..).mpr ⟨present, active⟩, severe,
    List.mem_map_of_mem place⟩, rfl, rfl, rfl⟩

/-- Where a flagged rule blocks, a scan for all findings is blocked by it. -/
theorem Flags.blocks (flags : library.Flags rule line) (blocking : rule.hardBlock = true)
    {source : String} (present : line ∈ Text.lines source) (R : Type) [Scalar R] :
    (library.scan R .low source).isHardBlocked = true ∧
      rule.id ∈ (library.scan R .low source).hardBlocks.map (·.ruleId) := by
  obtain ⟨index, found⟩ := List.mem_iff_getElem?.mp present
  obtain ⟨finding, told, named, -, blocks⟩ := flags .low source index (Nat.zero_le _) found
  rw [blocking] at blocks
  exact ⟨List.any_eq_true.mpr ⟨finding, told, blocks⟩,
    List.mem_map.mpr ⟨finding, List.mem_filter.mpr ⟨told, blocks⟩, named⟩⟩

end Library

end ReviewGate
