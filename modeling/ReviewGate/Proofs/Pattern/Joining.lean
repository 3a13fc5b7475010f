import ReviewGate.Proofs.Pattern.Lifecycle
import ReviewGate.Proofs.Pattern.Report

/-!
# Scans of joined sources

A rule sees one line at a time.  Where one source ends with a whole line and another one follows, a
scan tells what it tells of each part, the second part further down, and the chances that there is
no defect multiply.
-/

namespace ReviewGate

/-! ## Lines -/

/-- What is written behind the source begins a line of its own. -/
def Text.EndsLine (source : String) : Prop :=
  source = "" ∨ source.toList.getLast? = some '\n'

theorem Text.lines_append {first : String} (ends : EndsLine first) (second : String) :
    lines (first ++ second) = lines first ++ lines second := by
  rcases ends with rfl | ends
  · simp [lines]
  · obtain ⟨letters, ending⟩ := List.getLast?_eq_some_iff.mp ends
    simp only [lines, String.toList_append, ending, List.append_assoc, List.singleton_append]
    rw [linesFrom_append_newline, List.map_append]

/-! ## Findings further down -/

def Finding.below (finding : Finding) (count : Nat) : Finding :=
  { finding with line := finding.line + count }

@[simp]
theorem Finding.severity_below (finding : Finding) (count : Nat) :
    (finding.below count).severity = finding.severity := rfl

@[simp]
theorem Finding.hardBlock_below (finding : Finding) (count : Nat) :
    (finding.below count).hardBlock = finding.hardBlock := rfl

namespace Hit

def below (hit : Hit) (count : Nat) : Hit := { hit with line := hit.line + count }

@[simp]
theorem finding_below (hit : Hit) (count : Nat) :
    (hit.below count).finding = hit.finding.below count := rfl

/-- Moving two hits by as many lines leaves their order. -/
theorem precedes_below_iff {first second : Hit} {count : Nat} :
    (first.below count).Precedes (second.below count) ↔ first.Precedes second := by
  simp [Precedes, below]

theorem Precedes.asymm {first second : Hit} (precedes : first.Precedes second) :
    ¬second.Precedes first := by
  unfold Precedes at precedes ⊢
  omega

end Hit

namespace Library

variable {library : Library} {threshold : Severity} {first second : String} {hit : Hit}

theorem IsHit.line_le (isHit : library.IsHit threshold first hit) :
    hit.line ≤ (Text.lines first).length := by
  obtain ⟨index, counted, found⟩ := isHit.told
  obtain ⟨within, -⟩ := List.getElem?_eq_some_iff.mp found
  omega

theorem IsHit.line_pos (isHit : library.IsHit threshold first hit) : 0 < hit.line := by
  obtain ⟨index, counted, -⟩ := isHit.told
  omega

/-- A hit in joined sources is one in the first of them, or one in the second further down. -/
theorem isHit_append_iff (ends : Text.EndsLine first) :
    library.IsHit threshold (first ++ second) hit ↔
      library.IsHit threshold first hit ∨
        ∃ other, library.IsHit threshold second other ∧
          other.below (Text.lines first).length = hit := by
  constructor
  · rintro ⟨placed, active, severe, ⟨index, counted, found⟩, matching⟩
    rw [Text.lines_append ends] at found
    rcases Nat.lt_or_ge index (Text.lines first).length with inside | behind
    · rw [List.getElem?_append_left inside] at found
      exact .inl ⟨placed, active, severe, ⟨index, counted, found⟩, matching⟩
    · rw [List.getElem?_append_right behind] at found
      refine .inr ⟨{ hit with line := index - (Text.lines first).length + 1 },
        ⟨placed, active, severe, ⟨_, rfl, found⟩, matching⟩, ?_⟩
      have placed : index - (Text.lines first).length + 1 + (Text.lines first).length =
          hit.line := by omega
      rw [Hit.below, placed]
  · rintro (⟨placed, active, severe, ⟨index, counted, found⟩, matching⟩ |
      ⟨other, ⟨placed, active, severe, ⟨index, counted, found⟩, matching⟩, rfl⟩)
    · refine ⟨placed, active, severe, ⟨index, counted, ?_⟩, matching⟩
      obtain ⟨inside, -⟩ := List.getElem?_eq_some_iff.mp found
      rw [Text.lines_append ends, List.getElem?_append_left inside, found]
    · refine ⟨placed, active, severe, ⟨index + (Text.lines first).length, ?_, ?_⟩, matching⟩
      · simp [Hit.below, counted]
        omega
      · rw [Text.lines_append ends, List.getElem?_append_right (by omega)]
        simpa [Hit.below] using found

/-- The hits of joined sources, in the order in which they are told. -/
theorem hits_append (library : Library) (threshold : Severity) (ends : Text.EndsLine first)
    (second : String) :
    library.hits threshold (first ++ second) = library.hits threshold first ++
      (library.hits threshold second).map fun hit => hit.below (Text.lines first).length := by
  have joined : (library.hits threshold first ++
      (library.hits threshold second).map fun hit =>
        hit.below (Text.lines first).length).Pairwise Hit.Precedes := by
    rw [List.pairwise_append]
    refine ⟨library.pairwise_hits threshold first, ?_, ?_⟩
    · rw [List.pairwise_map]
      exact (library.pairwise_hits threshold second).imp Hit.precedes_below_iff.mpr
    · intro upper inFirst lower inSecond
      obtain ⟨hit, belongs, rfl⟩ := List.mem_map.mp inSecond
      have above := (mem_hits_iff.mp inFirst).line_le
      have counted := (mem_hits_iff.mp belongs).line_pos
      apply Or.inl
      simp only [Hit.below]
      omega
  have whole := library.pairwise_hits threshold (first ++ second)
  -- Both lists are in strict order, so it is enough that they have the same members.
  apply List.Perm.eq_of_pairwise
    (fun _ _ _ _ precedes follows => absurd follows precedes.asymm) whole joined
  apply (List.perm_ext_iff_of_nodup (whole.imp Hit.Precedes.ne)
    (joined.imp Hit.Precedes.ne)).mpr
  intro hit
  simp only [List.mem_append, List.mem_map, mem_hits_iff, isHit_append_iff ends]

theorem findings_append (library : Library) (threshold : Severity) (ends : Text.EndsLine first)
    (second : String) :
    library.findings threshold (first ++ second) = library.findings threshold first ++
      (library.findings threshold second).map fun finding =>
        finding.below (Text.lines first).length := by
  simp only [findings_eq_map_hits, hits_append library threshold ends, List.map_append,
    List.map_map]
  rfl

end Library

/-! ## Risk -/

theorem residualRisk_rat_append (findings others : List Finding) :
    residualRisk Rat (findings ++ others) =
      1 - (1 - residualRisk Rat findings) * (1 - residualRisk Rat others) := by
  simp [residualRisk_rat]

theorem residualRisk_map_below (R : Type) [Scalar R] (findings : List Finding) (count : Nat) :
    residualRisk R (findings.map fun finding => finding.below count) =
      residualRisk R findings := by
  simp [residualRisk, Function.comp_def]

/-- Chances put together are at least as high as each of them. -/
theorem le_of_independent {first second : Rat} (firstUnit : 0 ≤ first ∧ first < 1)
    (secondUnit : 0 ≤ second ∧ second < 1) :
    first ≤ 1 - (1 - first) * (1 - second) ∧ second ≤ 1 - (1 - first) * (1 - second) := by
  constructor
  · have added := mul_nonneg secondUnit.1 (sub_pos.mpr firstUnit.2).le
    linarith
  · have added := mul_nonneg firstUnit.1 (sub_pos.mpr secondUnit.2).le
    linarith

namespace Library

/-- Code before or after other code adds its own findings, its blocks and its risk, and takes
nothing away. -/
theorem composes_of_scan (library : Library) (threshold : Severity) {first : String}
    (ends : Text.EndsLine first) (second : String) :
    (∀ (R : Type) [Scalar R],
      (library.scan R threshold (first ++ second)).findings =
        (library.scan R threshold first).findings ++
          (library.scan R threshold second).findings.map fun finding =>
            finding.below (Text.lines first).length) ∧
    (∀ (R : Type) [Scalar R],
      (library.scan R threshold (first ++ second)).isHardBlocked = true ↔
        (library.scan R threshold first).isHardBlocked = true ∨
          (library.scan R threshold second).isHardBlocked = true) ∧
    (library.scan Rat threshold (first ++ second)).risk =
      1 - (1 - (library.scan Rat threshold first).risk) *
        (1 - (library.scan Rat threshold second).risk) ∧
    (library.scan Rat threshold first).risk ≤
      (library.scan Rat threshold (first ++ second)).risk ∧
    (library.scan Rat threshold second).risk ≤
      (library.scan Rat threshold (first ++ second)).risk := by
  have findings := library.findings_append threshold ends second
  have risk : (library.scan Rat threshold (first ++ second)).risk =
      1 - (1 - (library.scan Rat threshold first).risk) *
        (1 - (library.scan Rat threshold second).risk) := by
    simp only [scan, findings, residualRisk_rat_append, residualRisk_map_below]
  refine ⟨fun R _ => findings, fun R _ => ?_, risk, ?_⟩
  · simp [ScanReport.isHardBlocked, scan, findings, List.any_map, Function.comp_def]
  · rw [risk]
    exact le_of_independent (residualRisk_rat_mem _) (residualRisk_rat_mem _)

/-- A line that ends with a carriage return, and an empty one. -/
def upperLines : String := "eval(x)\r\n\n"

/-- The last line has no end. -/
def lowerLines : String := "y = 0\nsystem(y)"

theorem composes_upperLines :
    Text.EndsLine upperLines ∧
      (pair.scan Rat .low (upperLines ++ lowerLines)).findings.map
        (fun finding => (finding.ruleId, finding.line)) = [("eval", 1), ("system", 4)] ∧
      (pair.scan Rat .low (upperLines ++ lowerLines)).risk = 1 - (1 - 0.1) * (1 - 0.1) := by
  have ends : Text.EndsLine upperLines := .inr (by decide +kernel)
  obtain ⟨findings, -, risk, -⟩ := composes_of_scan pair .low ends lowerLines
  have upper : (pair.scan Rat .low upperLines).risk = 0.1 := by decide +kernel
  have lower : (pair.scan Rat .low lowerLines).risk = 0.1 := by decide +kernel
  refine ⟨ends, ?_, by rw [risk, upper, lower]⟩
  rw [findings]
  decide +kernel

end Library

end ReviewGate
