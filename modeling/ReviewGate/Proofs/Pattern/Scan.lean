import ReviewGate.Pattern.Scan

/-!
# What scans find

A scan finds what some active rule matches, no more and no less, whatever order its findings are
told in.
-/

namespace ReviewGate

/-! ## Lines that match -/

theorem CompiledMatcher.mem_find_iff (matcher : CompiledMatcher) (source : String)
    (found : Nat × String) :
    found ∈ matcher.find source ↔
      ∃ line number, (line, number) ∈ (Text.lines source).zipIdx 1 ∧
        matcher.matchesLine line = true ∧ found = (number, Text.trim line) := by
  unfold find
  rw [List.mem_filterMap]
  constructor
  · rintro ⟨⟨line, number⟩, present, kept⟩
    dsimp only at kept
    split at kept
    · rename_i matching
      exact ⟨line, number, present, matching, (Option.some.inj kept).symm⟩
    · contradiction
  · rintro ⟨line, number, present, matching, rfl⟩
    exact ⟨(line, number), present, if_pos matching⟩

/-- A matcher finds a line where it matches the source, and nowhere else. -/
theorem CompiledMatcher.exists_mem_find_iff (matcher : CompiledMatcher) (source : String) :
    (∃ found, found ∈ matcher.find source) ↔ matcher.matchesSource source = true := by
  unfold matchesSource
  rw [List.any_eq_true]
  constructor
  · rintro ⟨found, membership⟩
    obtain ⟨line, number, present, matching, -⟩ := (mem_find_iff ..).mp membership
    exact ⟨line, List.fst_mem_of_mem_zipIdx present, matching⟩
  · rintro ⟨line, present, matching⟩
    obtain ⟨index, below, rfl⟩ := List.getElem_of_mem present
    refine ⟨_, (mem_find_iff ..).mpr ⟨_, 1 + index, ?_, matching, rfl⟩⟩
    rw [List.mk_mem_zipIdx_iff_le_and_getElem?_sub]
    simp

/-! ## Findings -/

namespace Library

theorem mem_findings_iff (library : Library) (threshold : Severity) (source : String)
    (finding : Finding) :
    finding ∈ library.findings threshold source ↔
      ∃ entry ∈ library.active, threshold.rank ≤ entry.rule.severity.rank ∧
        finding ∈ ruleFindings entry source := by
  unfold findings
  rw [List.mem_mergeSort, List.mem_flatMap]
  simp only [List.mem_filter, decide_eq_true_eq, and_assoc]

/-- A scan is blocked where an active blocking rule of enough severity matches, and nowhere else. -/
theorem isHardBlocked_scan_iff (R : Type) [Scalar R] (library : Library) (threshold : Severity)
    (source : String) :
    (library.scan R threshold source).isHardBlocked = true ↔
      ∃ entry ∈ library.active, threshold.rank ≤ entry.rule.severity.rank ∧
        entry.rule.hardBlock = true ∧ entry.matcher.matchesSource source = true := by
  unfold ScanReport.isHardBlocked scan
  rw [List.any_eq_true]
  constructor
  · rintro ⟨finding, membership, blocking⟩
    obtain ⟨entry, active, severe, found⟩ := (mem_findings_iff ..).mp membership
    obtain ⟨place, present, rfl⟩ := List.mem_map.mp found
    exact ⟨entry, active, severe, blocking,
      (entry.matcher.exists_mem_find_iff source).mp ⟨place, present⟩⟩
  · rintro ⟨entry, active, severe, blocking, matching⟩
    obtain ⟨place, present⟩ := (entry.matcher.exists_mem_find_iff source).mpr matching
    exact ⟨_, (mem_findings_iff ..).mpr ⟨entry, active, severe,
      List.mem_map_of_mem present⟩, blocking⟩

theorem mem_active_iff (library : Library) (entry : CompiledRule) :
    entry ∈ library.active ↔ entry ∈ library.rules ∧ entry.rule.active = true := by
  unfold active
  rw [List.mem_filter]

end Library

end ReviewGate
