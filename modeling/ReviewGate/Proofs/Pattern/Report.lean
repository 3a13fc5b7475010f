import Mathlib.Algebra.Order.BigOperators.GroupWithZero.List
import ReviewGate.Proofs.Number.Rational
import ReviewGate.Proofs.Pattern.Scan

/-!
# Reports of scans

A hit is a rule at its place in a library together with a line that it matches.  A scan tells each
hit of the rules that take part once: line by line, on one line the severe ones first, and otherwise
in the order of the library.  The risk that it reports follows from the findings.
-/

namespace ReviewGate

/-! ## Sorting -/

/-- Sorting leaves items that it does not tell apart in their order. -/
theorem pair_sublist_of_mergeSort {α : Type} {le : α → α → Bool}
    (trans : ∀ a b c, le a b = true → le b c = true → le a c = true)
    (total : ∀ a b, (le a b || le b a) = true) {first second : α} {items : List α}
    (forth : le first second = true) (back : le second first = true)
    (pair : [first, second].Sublist (items.mergeSort le)) : [first, second].Sublist items := by
  let alike : α → Bool := fun item => le first item && le item first
  have reflexive : le first first = true := by simpa using total first first
  -- The items like the first one are in order already, so they survive as a part of the result.
  have ordered : (items.filter alike).Pairwise fun a b => le a b = true := by
    rw [List.pairwise_iff_forall_sublist]
    intro a b within
    have like : ∀ item ∈ items.filter alike, le first item = true ∧ le item first = true :=
      fun item membership => by simpa [alike] using (List.mem_filter.mp membership).2
    exact trans a first b (like a (within.subset (by simp))).2 (like b (within.subset (by simp))).1
  have kept : (items.filter alike).Sublist ((items.mergeSort le).filter alike) := by
    simpa using (List.sublist_mergeSort trans total ordered List.filter_sublist).filter alike
  have same : items.filter alike = (items.mergeSort le).filter alike :=
    kept.eq_of_length ((List.mergeSort_perm items le).filter alike).length_eq.symm
  have shown := pair.filter alike
  rw [← same] at shown
  have both : [first, second].filter alike = [first, second] := by
    simp [alike, forth, back, reflexive]
  rw [both] at shown
  exact shown.trans List.filter_sublist

/-! ## Hits -/

/-- A rule at its place in a library, and a line by its number and its text. -/
structure Hit where
  place : Nat
  entry : CompiledRule
  line : Nat
  text : String

namespace Hit

/-- What is told of a hit: what the rule says, and how the line begins. -/
def finding (hit : Hit) : Finding where
  ruleId := hit.entry.rule.id
  ruleName := hit.entry.rule.name
  weakness := hit.entry.rule.weakness
  severity := hit.entry.rule.severity
  hardBlock := hit.entry.rule.hardBlock
  line := hit.line
  excerpt := String.ofList ((Text.trim hit.text).toList.take Library.excerptLength)
  description := hit.entry.rule.description

/-- Line by line, on one line by falling severity, then by the places of the rules. -/
def Precedes (first second : Hit) : Prop :=
  first.line < second.line ∨
    first.line = second.line ∧
      (second.entry.rule.severity.rank < first.entry.rule.severity.rank ∨
        first.entry.rule.severity.rank = second.entry.rule.severity.rank ∧
          first.place < second.place)

theorem Precedes.ne {first second : Hit} (precedes : first.Precedes second) : first ≠ second := by
  rintro rfl
  unfold Precedes at precedes
  omega

end Hit

namespace Library

/-- An active rule of enough severity matches a line of a source. -/
structure IsHit (library : Library) (threshold : Severity) (source : String) (hit : Hit) :
    Prop where
  placed : library.rules[hit.place]? = some hit.entry
  active : hit.entry.rule.active = true
  severe : threshold.rank ≤ hit.entry.rule.severity.rank
  told : ∃ index, hit.line = index + 1 ∧ (Text.lines source)[index]? = some hit.text
  matching : hit.entry.matcher.matchesLine hit.text = true

/-- Whether a scan tries a rule. -/
def takesPart (threshold : Severity) (entry : CompiledRule) : Bool :=
  entry.rule.active && decide (threshold.rank ≤ entry.rule.severity.rank)

/-- The hits of one rule, from the first line to the last. -/
def ruleHits (source : String) (place : Nat) (entry : CompiledRule) : List Hit :=
  ((Text.lines source).zipIdx 1).filterMap fun (text, line) =>
    if entry.matcher.matchesLine text then some ⟨place, entry, line, text⟩ else none

/-- The hits of rules that stand at places from a first one on, rule by rule. -/
def hitsFrom (threshold : Severity) (source : String) (place : Nat) (entries : List CompiledRule) :
    List Hit :=
  (entries.zipIdx place).flatMap fun (entry, place) =>
    if takesPart threshold entry then ruleHits source place entry else []

/-- All hits in the order in which they are told. -/
def hits (library : Library) (threshold : Severity) (source : String) : List Hit :=
  (hitsFrom threshold source 0 library.rules).mergeSort fun first second =>
    comesBefore first.finding second.finding

theorem mem_ruleHits_iff {source : String} {place : Nat} {entry : CompiledRule} {hit : Hit} :
    hit ∈ ruleHits source place entry ↔
      hit.place = place ∧ hit.entry = entry ∧
        (∃ index, hit.line = index + 1 ∧ (Text.lines source)[index]? = some hit.text) ∧
        entry.matcher.matchesLine hit.text = true := by
  unfold ruleHits
  rw [List.mem_filterMap]
  constructor
  · rintro ⟨⟨text, line⟩, present, kept⟩
    obtain ⟨counted, found⟩ := List.mk_mem_zipIdx_iff_le_and_getElem?_sub.mp present
    dsimp only at kept
    split at kept
    · rename_i matching
      cases kept
      exact ⟨rfl, rfl, ⟨line - 1, (Nat.sub_add_cancel counted).symm, found⟩, matching⟩
    · contradiction
  · rintro ⟨rfl, rfl, ⟨index, counted, found⟩, matching⟩
    refine ⟨(hit.text, hit.line), ?_, if_pos matching⟩
    rw [List.mk_mem_zipIdx_iff_le_and_getElem?_sub, counted]
    exact ⟨Nat.le_add_left 1 index, found⟩

theorem mem_hits_iff {library : Library} {threshold : Severity} {source : String} {hit : Hit} :
    hit ∈ library.hits threshold source ↔ library.IsHit threshold source hit := by
  unfold hits hitsFrom
  rw [List.mem_mergeSort, List.mem_flatMap]
  constructor
  · rintro ⟨⟨entry, place⟩, present, kept⟩
    have placed := List.mk_mem_zipIdx_iff_getElem?.mp present
    dsimp only at kept
    split at kept
    · rename_i takes
      obtain ⟨rfl, rfl, told, matching⟩ := mem_ruleHits_iff.mp kept
      obtain ⟨active, severe⟩ := Bool.and_eq_true_iff.mp takes
      exact ⟨placed, active, of_decide_eq_true severe, told, matching⟩
    · contradiction
  · rintro ⟨placed, active, severe, told, matching⟩
    refine ⟨(hit.entry, hit.place), List.mk_mem_zipIdx_iff_getElem?.mpr placed, ?_⟩
    have takes : takesPart threshold hit.entry = true :=
      Bool.and_eq_true_iff.mpr ⟨active, decide_eq_true severe⟩
    dsimp only
    rw [if_pos takes]
    exact mem_ruleHits_iff.mpr ⟨rfl, rfl, told, matching⟩

/-! ## Hits and findings -/

theorem map_finding_ruleHits (source : String) (place : Nat) (entry : CompiledRule) :
    (ruleHits source place entry).map Hit.finding = ruleFindings entry source := by
  unfold ruleHits ruleFindings CompiledMatcher.find
  rw [List.map_filterMap, List.map_filterMap]
  congr 1
  funext ⟨text, line⟩
  by_cases matching : entry.matcher.matchesLine text = true <;> simp [matching, Hit.finding]

theorem map_finding_hitsFrom (threshold : Severity) (source : String) (place : Nat)
    (entries : List CompiledRule) :
    (hitsFrom threshold source place entries).map Hit.finding =
      ((entries.filter fun entry => entry.rule.active).filter fun entry =>
        threshold.rank ≤ entry.rule.severity.rank).flatMap fun entry =>
          ruleFindings entry source := by
  induction entries generalizing place with
  | nil => rfl
  | cons entry rest inductionHypothesis =>
      have rest := inductionHypothesis (place + 1)
      unfold hitsFrom at rest ⊢
      rw [List.zipIdx_cons, List.flatMap_cons, List.map_append, rest]
      cases active : entry.rule.active with
      | false => simp [takesPart, active]
      | true =>
          by_cases severe : threshold.rank ≤ entry.rule.severity.rank
          · simp [takesPart, active, severe, map_finding_ruleHits]
          · simp [takesPart, active, severe]

theorem findings_eq_map_hits (library : Library) (threshold : Severity) (source : String) :
    library.findings threshold source = (library.hits threshold source).map Hit.finding := by
  have mapped : (library.hits threshold source).map Hit.finding =
      ((hitsFrom threshold source 0 library.rules).map Hit.finding).mergeSort comesBefore :=
    List.map_mergeSort fun _ _ _ _ => rfl
  rw [mapped, map_finding_hitsFrom]
  rfl

/-! ## The order of the hits -/

theorem comesBefore_iff {first second : Finding} :
    comesBefore first second = true ↔
      first.line < second.line ∨
        first.line = second.line ∧ second.severity.rank ≤ first.severity.rank := by
  simp [comesBefore]

theorem comesBefore_trans (first second third : Finding)
    (before : comesBefore first second = true) (after : comesBefore second third = true) :
    comesBefore first third = true := by
  rw [comesBefore_iff] at before after ⊢
  omega

theorem comesBefore_total (first second : Finding) :
    (comesBefore first second || comesBefore second first) = true := by
  rw [Bool.or_eq_true, comesBefore_iff, comesBefore_iff]
  omega

/-- Before they are sorted the hits are in the order of the library, and those of one rule in the
order of the lines. -/
theorem pairwise_hitsFrom (threshold : Severity) (source : String) (entries : List CompiledRule) :
    (hitsFrom threshold source 0 entries).Pairwise fun first second =>
      first.place < second.place ∨ first.place = second.place ∧ first.line < second.line := by
  have numbered : ∀ {α : Type} (items : List α) (start : Nat),
      (items.zipIdx start).Pairwise fun first second => first.2 < second.2 := by
    intro α items start
    rw [← List.pairwise_map, List.zipIdx_map_snd]
    exact List.pairwise_lt_range' 1
  unfold hitsFrom
  rw [List.pairwise_flatMap]
  constructor
  · rintro ⟨entry, place⟩ -
    dsimp only
    split
    · refine List.Pairwise.filterMap _ ?_ (numbered (Text.lines source) 1)
      rintro ⟨text, line⟩ ⟨other, further⟩ before first kept second found
      dsimp only at before kept found
      split at kept
      · split at found
        · cases kept
          cases found
          exact .inr ⟨rfl, before⟩
        · contradiction
      · contradiction
    · exact .nil
  · refine (numbered entries 0).imp ?_
    rintro ⟨entry, place⟩ ⟨other, further⟩ before first kept second found
    dsimp only at before kept found
    split at kept
    · split at found
      · obtain ⟨rfl, -⟩ := mem_ruleHits_iff.mp kept
        obtain ⟨rfl, -⟩ := mem_ruleHits_iff.mp found
        exact .inl before
      · contradiction
    · contradiction

theorem pairwise_hits (library : Library) (threshold : Severity) (source : String) :
    (library.hits threshold source).Pairwise Hit.Precedes := by
  have trans : ∀ a b c : Hit, comesBefore a.finding b.finding = true →
      comesBefore b.finding c.finding = true → comesBefore a.finding c.finding = true :=
    fun a b c => comesBefore_trans a.finding b.finding c.finding
  have total : ∀ a b : Hit,
      (comesBefore a.finding b.finding || comesBefore b.finding a.finding) = true :=
    fun a b => comesBefore_total a.finding b.finding
  have sorted := List.pairwise_mergeSort trans total (hitsFrom threshold source 0 library.rules)
  have placed := pairwise_hitsFrom threshold source library.rules
  rw [List.pairwise_iff_forall_sublist] at sorted placed ⊢
  intro first second pair
  have forth := sorted pair
  -- Only where the sorting does not tell two hits apart does it matter how they stood before.
  by_cases back : comesBefore second.finding first.finding = true
  · have before := placed (pair_sublist_of_mergeSort trans total forth back pair)
    rw [comesBefore_iff] at forth back
    simp only [Hit.finding] at forth back
    unfold Hit.Precedes
    omega
  · rw [comesBefore_iff] at forth back
    simp only [Hit.finding] at forth back
    unfold Hit.Precedes
    omega

end Library

/-! ## Risk -/

theorem Severity.weight_rat (severity : Severity) :
    0 < severity.weight Rat ∧ severity.weight Rat < 1 := by
  cases severity <;> norm_num [weight]

theorem residualRisk_rat (findings : List Finding) :
    residualRisk Rat findings =
      1 - (findings.map fun finding => 1 - finding.severity.weight Rat).prod := by
  rw [residualRisk, Scalar.product_rat, Scalar.one_rat]

/-- There is no certainty, however many findings there are. -/
theorem residualRisk_rat_mem (findings : List Finding) :
    0 ≤ residualRisk Rat findings ∧ residualRisk Rat findings < 1 := by
  have factors : 0 < (findings.map fun finding => 1 - finding.severity.weight Rat).prod ∧
      (findings.map fun finding => 1 - finding.severity.weight Rat).prod ≤ 1 := by
    induction findings with
    | nil => simp
    | cons finding rest inductionHypothesis =>
        obtain ⟨positive, atMost⟩ := inductionHypothesis
        obtain ⟨low, high⟩ := finding.severity.weight_rat
        rw [List.map_cons, List.prod_cons]
        exact ⟨mul_pos (by linarith) positive,
          mul_le_one₀ (by linarith) positive.le atMost⟩
  rw [residualRisk_rat]
  constructor <;> linarith [factors.1, factors.2]

namespace Library

/-- A scan tells every hit and nothing else, each once and in order; it is blocked where one of
their rules blocks, and its risk is that of independent chances, never a certainty. -/
theorem tells_hits_of_scan (library : Library) (threshold : Severity) (source : String) :
    ∃ hits : List Hit,
      (∀ hit, hit ∈ hits ↔ library.IsHit threshold source hit) ∧
      hits.Nodup ∧ hits.Pairwise Hit.Precedes ∧
      (∀ (R : Type) [Scalar R],
        (library.scan R threshold source).findings = hits.map Hit.finding ∧
        ((library.scan R threshold source).isHardBlocked = true ↔
          ∃ hit ∈ hits, hit.entry.rule.hardBlock = true)) ∧
      (library.scan Rat threshold source).risk =
        1 - (hits.map fun hit => 1 - hit.entry.rule.severity.weight Rat).prod ∧
      0 ≤ (library.scan Rat threshold source).risk ∧
      (library.scan Rat threshold source).risk < 1 := by
  have ordered := library.pairwise_hits threshold source
  have told : ∀ (R : Type) [Scalar R], (library.scan R threshold source).findings =
      (library.hits threshold source).map Hit.finding :=
    fun _ _ => library.findings_eq_map_hits threshold source
  refine ⟨library.hits threshold source, fun hit => mem_hits_iff,
    ordered.imp Hit.Precedes.ne, ordered, fun R _ => ⟨told R, ?_⟩, ?_, residualRisk_rat_mem _⟩
  · rw [ScanReport.isHardBlocked, told R, List.any_map, List.any_eq_true]
    rfl
  · have risk : (library.scan Rat threshold source).risk =
        residualRisk Rat (library.scan Rat threshold source).findings := rfl
    rw [risk, residualRisk_rat, told Rat, List.map_map]
    rfl

end Library

end ReviewGate
