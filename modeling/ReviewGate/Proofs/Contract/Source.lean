import ReviewGate.Contract.Clause
import ReviewGate.Proofs.Contract.Satisfiability

/-!
# Contracts of several functions in one source

The constraints of a source are those of its lines, and a subject is known by its name alone.  So
bounds on parameters of different functions meet in one interval wherever the names are the same.
-/

namespace ReviewGate

/-! ## Sources side by side -/

namespace ConstraintSet

@[simp]
theorem empty_append (set : ConstraintSet) : empty ++ set = set := rfl

@[simp]
theorem append_empty (set : ConstraintSet) : set ++ empty = set := by
  obtain ⟨constraints, unsupported⟩ := set
  exact congrArg₂ mk (List.append_nil constraints) (List.append_nil unsupported)

theorem append_assoc (first second third : ConstraintSet) :
    first ++ second ++ third = first ++ (second ++ third) :=
  congrArg₂ mk (List.append_assoc ..) (List.append_assoc ..)

theorem foldl_append {Piece : Type*} (read : Piece → ConstraintSet) (pieces : List Piece)
    (set : ConstraintSet) :
    pieces.foldl (fun set piece => set ++ read piece) set =
      set ++ pieces.foldl (fun set piece => set ++ read piece) empty := by
  induction pieces generalizing set with
  | nil => exact (append_empty set).symm
  | cons piece pieces inductionHypothesis =>
      rw [List.foldl_cons, List.foldl_cons, inductionHypothesis, empty_append,
        inductionHypothesis (read piece), append_assoc]

end ConstraintSet

namespace Contract

/-- What is declared after the end of a line is read apart from what stands before it. -/
theorem ofSource_append {first : String} (ends : first.toList.getLast? = some '\n')
    (second : String) : ofSource (first ++ second) = ofSource first ++ ofSource second := by
  obtain ⟨letters, ending⟩ := List.getLast?_eq_some_iff.mp ends
  unfold ofSource
  rw [String.toList_append, ending, List.append_assoc, List.singleton_append,
    Text.linesFrom_append_newline, List.foldl_append, ConstraintSet.foldl_append]

end Contract

/-! ## Subjects in common -/

namespace ConstraintSet

/-- Some bound is on the subject. -/
def Bounds (set : ConstraintSet) (kind : ContractKind) (subject : String) : Prop :=
  ∃ comparison value, .bound kind subject comparison value ∈ set.constraints

/-- All bounds on the subject leave the number. -/
def Leaves (set : ConstraintSet) (kind : ContractKind) (subject : String) (number : ℝ) : Prop :=
  ∀ comparison value, .bound kind subject comparison value ∈ set.constraints →
    (value != value) = false → comparison.Relates (number : EReal) (Double.toEReal value)

/-- Subjects are restricted one by one. -/
theorem contradiction?_eq_none_iff_leaves (set : ConstraintSet) :
    set.contradiction? = none ↔
      (∀ kind holds text, .constant kind holds text ∈ set.constraints → holds = true) ∧
        ∀ kind subject, ∃ number, set.Leaves kind subject number := by
  rw [contradiction?_eq_none_iff]
  constructor
  · rintro ⟨assignment, satisfied⟩
    exact ⟨fun kind holds text belongs => satisfied _ belongs trivial,
      fun kind subject => ⟨assignment kind subject, fun comparison value belongs number =>
        satisfied _ belongs number⟩⟩
  · rintro ⟨constants, separately⟩
    choose assignment leaves using separately
    refine ⟨assignment, fun constraint belongs numeric => ?_⟩
    cases constraint with
    | constant kind holds text => exact constants kind holds text belongs
    | bound kind subject comparison value =>
        exact leaves kind subject comparison value belongs numeric

theorem leaves_append {first second : ConstraintSet} {kind : ContractKind} {subject : String}
    {number : ℝ} :
    (first ++ second).Leaves kind subject number ↔
      first.Leaves kind subject number ∧ second.Leaves kind subject number := by
  simp only [Leaves, constraints_append, List.mem_append, or_imp, forall_and]

theorem leaves_of_not_bounds {set : ConstraintSet} {kind : ContractKind} {subject : String}
    (free : ¬set.Bounds kind subject) (number : ℝ) : set.Leaves kind subject number :=
  fun comparison value belongs => absurd ⟨comparison, value, belongs⟩ free

/-- Two sets without contradictions contradict each other only on a subject that both bound. -/
theorem contradiction?_append_eq_none_iff (first second : ConstraintSet) :
    (first ++ second).contradiction? = none ↔
      first.contradiction? = none ∧ second.contradiction? = none ∧
        ∀ kind subject, first.Bounds kind subject → second.Bounds kind subject →
          ∃ number, first.Leaves kind subject number ∧ second.Leaves kind subject number := by
  simp only [contradiction?_eq_none_iff_leaves, leaves_append, constraints_append, List.mem_append,
    or_imp, forall_and]
  constructor
  · rintro ⟨⟨firstHold, secondHold⟩, common⟩
    refine ⟨⟨firstHold, fun kind subject => ?_⟩, ⟨secondHold, fun kind subject => ?_⟩,
      fun kind subject _ _ => common kind subject⟩
    · exact (common kind subject).imp fun _ => And.left
    · exact (common kind subject).imp fun _ => And.right
  · rintro ⟨⟨firstHold, firstLeaves⟩, ⟨secondHold, secondLeaves⟩, common⟩
    refine ⟨⟨firstHold, secondHold⟩, fun kind subject => ?_⟩
    by_cases inFirst : first.Bounds kind subject
    · by_cases inSecond : second.Bounds kind subject
      · exact common kind subject inFirst inSecond
      · exact (firstLeaves kind subject).imp fun number leaves =>
          ⟨leaves, leaves_of_not_bounds inSecond number⟩
    · exact (secondLeaves kind subject).imp fun number leaves =>
        ⟨leaves_of_not_bounds inFirst number, leaves⟩

end ConstraintSet

namespace Contract

/-- Two sources without contradictions have one together exactly if they bound a subject of the same
name in ways that leave no number, even where the name stands for parameters of two functions. -/
theorem contradiction?_ofSource_append_eq_none_iff {first : String}
    (ends : first.toList.getLast? = some '\n') (second : String) :
    (ofSource (first ++ second)).contradiction? = none ↔
      (ofSource first).contradiction? = none ∧ (ofSource second).contradiction? = none ∧
        ∀ kind subject, (ofSource first).Bounds kind subject →
          (ofSource second).Bounds kind subject →
            ∃ number, (ofSource first).Leaves kind subject number ∧
              (ofSource second).Leaves kind subject number := by
  rw [ofSource_append ends]
  exact ConstraintSet.contradiction?_append_eq_none_iff _ _

def aboveFive : String := "@deal.pre(lambda x: x > 5)\ndef f(x):\n    return x\n"

def belowThree : String := "@deal.pre(lambda x: x < 3)\ndef g(x):\n    return x\n"

theorem contradiction?_aboveFive : (ofSource aboveFive).contradiction? = none := by decide +kernel

theorem contradiction?_belowThree : (ofSource belowThree).contradiction? = none := by
  decide +kernel

theorem contradiction?_aboveFive_belowThree :
    (ofSource (aboveFive ++ belowThree)).contradiction? ≠ none := by decide +kernel

theorem aboveFive_belowThree_meet :
    aboveFive.toList.getLast? = some '\n' ∧
      ∃ kind subject, (ofSource aboveFive).Bounds kind subject ∧
        (ofSource belowThree).Bounds kind subject ∧
          ∀ number, (ofSource aboveFive).Leaves kind subject number →
            ¬(ofSource belowThree).Leaves kind subject number := by
  have ends : aboveFive.toList.getLast? = some '\n' := by decide +kernel
  refine ⟨ends, ?_⟩
  by_contra apart
  push Not at apart
  exact contradiction?_aboveFive_belowThree
    ((contradiction?_ofSource_append_eq_none_iff ends belowThree).mpr
      ⟨contradiction?_aboveFive, contradiction?_belowThree, apart⟩)

/-- Each of two functions can be called, but with a parameter of the same name they contradict each
other. -/
theorem separate_functions_contradict :
    aboveFive.toList.getLast? = some '\n' ∧
      (ofSource aboveFive).contradiction? = none ∧ (ofSource belowThree).contradiction? = none ∧
      (ofSource (aboveFive ++ belowThree)).contradiction? ≠ none :=
  ⟨by decide +kernel, contradiction?_aboveFive, contradiction?_belowThree,
    contradiction?_aboveFive_belowThree⟩

end Contract

end ReviewGate
