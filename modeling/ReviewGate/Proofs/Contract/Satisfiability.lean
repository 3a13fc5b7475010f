import ReviewGate.Proofs.Contract.Interval

/-!
# Satisfiability

A set of constraints has no contradiction exactly if all its constants hold and some choice of a
number for each subject meets its bounds.  Subjects are told apart by name, and before a call from
after it.
-/

namespace ReviewGate

/-- A number for each subject, before and after. -/
abbrev Assignment := ContractKind → String → ℝ

def Assignment.set (assignment : Assignment) (key : ContractKind × String) (number : ℝ) :
    Assignment :=
  fun kind subject => if (kind, subject) = key then number else assignment kind subject

namespace Constraint

def HoldsAt (assignment : Assignment) : Constraint → Prop
  | .bound kind subject comparison value =>
      comparison.Relates (assignment kind subject : EReal) (Double.toEReal value)
  | .constant _ holds _ => holds = true

def kind : Constraint → ContractKind
  | .bound kind .. => kind
  | .constant kind .. => kind

/-- The value of a bound is finite or infinite. -/
def IsNumeric : Constraint → Prop
  | .bound _ _ _ value => (value != value) = false
  | .constant .. => True

end Constraint

/-! ## Tables of intervals -/

namespace Interval

def key (interval : Interval) : ContractKind × String := (interval.kind, interval.subject)

theorem key_restrict (interval : Interval) (comparison : Comparison) (value : Float) :
    (interval.restrict comparison value).key = interval.key := by
  have raised : ∀ (interval : Interval) isOpen, (interval.raiseLow value isOpen).key =
      interval.key := by
    intro interval isOpen
    unfold raiseLow
    split <;> rfl
  have lowered : ∀ (interval : Interval) isOpen, (interval.lowerHigh value isOpen).key =
      interval.key := by
    intro interval isOpen
    unfold lowerHigh
    split <;> rfl
  cases comparison with
  | lt | le => exact lowered _ _
  | gt | ge => exact raised _ _
  | eq => exact (lowered _ _).trans (raised _ _)
  | ne => rfl

theorem key_withBound (interval : Interval) (comparison : Comparison) (value : Float)
    (source : String) : (interval.withBound comparison value source).key = interval.key :=
  interval.key_restrict comparison value

theorem isProper_withBound {interval : Interval} (proper : interval.IsProper)
    (comparison : Comparison) (value : Float) (source : String) :
    (interval.withBound comparison value source).IsProper :=
  let ⟨low, high, lowOpen, highOpen⟩ := isProper_restrict proper comparison value
  ⟨low, high, lowOpen, highOpen⟩

theorem admits_withBound {interval : Interval} (proper : interval.IsProper)
    (comparison : Comparison) (value : Float) (source : String) (candidate : ℝ) :
    (interval.withBound comparison value source).Admits candidate ↔
      interval.Admits candidate ∧ ((value != value) = false →
        comparison.Relates (candidate : EReal) (Double.toEReal value)) :=
  (Admits.withSources _).trans (admits_restrict proper comparison value candidate)

/-- One interval for each subject. -/
structure Tabulates (found : List Interval) : Prop where
  proper : ∀ interval ∈ found, interval.IsProper
  distinct : (found.map key).Nodup

theorem tabulates_nil : Tabulates [] := ⟨nofun, List.nodup_nil⟩

/-- The numbers of all subjects lie in their intervals. -/
def Meet (found : List Interval) (assignment : Assignment) : Prop :=
  ∀ interval ∈ found, interval.Admits (assignment interval.key.1 interval.key.2)

theorem meet_cons {interval : Interval} {rest : List Interval} {assignment : Assignment} :
    Meet (interval :: rest) assignment ↔
      interval.Admits (assignment interval.key.1 interval.key.2) ∧ Meet rest assignment := by
  unfold Meet
  exact List.forall_mem_cons

/-- In a table of intervals that are not empty, each subject takes a number of its own. -/
theorem Tabulates.exists_meet {found : List Interval} (tabulates : Tabulates found)
    (inhabited : ∀ interval ∈ found, interval.isEmpty = false) :
    ∃ assignment, Meet found assignment := by
  induction found with
  | nil => exact ⟨fun _ _ => 0, nofun⟩
  | cons interval rest inductionHypothesis =>
      obtain ⟨properHead, proper⟩ := List.forall_mem_cons.mp tabulates.proper
      obtain ⟨inhabitedHead, inhabited⟩ := List.forall_mem_cons.mp inhabited
      obtain ⟨new, distinct⟩ := List.nodup_cons.mp tabulates.distinct
      obtain ⟨candidate, admits⟩ := (isEmpty_eq_false_iff_exists properHead).mp inhabitedHead
      obtain ⟨assignment, meets⟩ := inductionHypothesis ⟨proper, distinct⟩ inhabited
      refine ⟨assignment.set interval.key candidate,
        meet_cons.mpr ⟨?_, fun other belongs => ?_⟩⟩
      · rwa [Assignment.set, if_pos rfl]
      · have apart : (other.key.1, other.key.2) ≠ interval.key := fun same =>
          new (List.mem_map.mpr ⟨other, belongs, same⟩)
        rw [Assignment.set, if_neg apart]
        exact meets other belongs

theorem Tabulates.exists_meet_iff {found : List Interval} (tabulates : Tabulates found) :
    (∃ assignment, Meet found assignment) ↔ ∀ interval ∈ found, interval.isEmpty = false := by
  refine ⟨fun ⟨assignment, meets⟩ interval belongs => ?_, tabulates.exists_meet⟩
  exact (isEmpty_eq_false_iff_exists (tabulates.proper interval belongs)).mpr
    ⟨_, meets interval belongs⟩

end Interval

/-! ## Constraints -/

namespace ConstraintSet

open ReviewGate.Interval

theorem map_key_addBound (kind : ContractKind) (subject : String) (comparison : Comparison)
    (value : Float) (source : String) (found : List Interval) :
    (addBound kind subject comparison value source found).map key =
      if (kind, subject) ∈ found.map key then found.map key
      else found.map key ++ [(kind, subject)] := by
  induction found with
  | nil => exact congrArg (fun first => [first]) (key_withBound ..)
  | cons interval rest inductionHypothesis =>
      rw [addBound]
      by_cases same : interval.kind = kind ∧ interval.subject = subject
      · obtain ⟨rfl, rfl⟩ := same
        rw [if_pos ⟨rfl, rfl⟩, List.map_cons, key_withBound, List.map_cons,
          if_pos (show (interval.kind, interval.subject) ∈ interval.key :: _ from
            List.mem_cons_self)]
      · have other : (kind, subject) ≠ interval.key := fun equal =>
          same (Prod.mk.inj equal.symm)
        rw [if_neg same, List.map_cons, inductionHypothesis, List.map_cons]
        simp only [List.mem_cons, or_iff_right other]
        split <;> rfl

theorem proper_addBound {found : List Interval} (proper : ∀ interval ∈ found, interval.IsProper)
    (kind : ContractKind) (subject : String) (comparison : Comparison) (value : Float)
    (source : String) :
    ∀ interval ∈ addBound kind subject comparison value source found, interval.IsProper := by
  induction found with
  | nil =>
      exact List.forall_mem_singleton.mpr
        (isProper_withBound (isProper_all kind subject) comparison value source)
  | cons interval rest inductionHypothesis =>
      obtain ⟨properHead, proper⟩ := List.forall_mem_cons.mp proper
      rw [addBound]
      split
      · exact List.forall_mem_cons.mpr
          ⟨isProper_withBound properHead comparison value source, proper⟩
      · exact List.forall_mem_cons.mpr ⟨properHead, inductionHypothesis proper⟩

theorem tabulates_addBound {found : List Interval} (tabulates : Tabulates found)
    (kind : ContractKind) (subject : String) (comparison : Comparison) (value : Float)
    (source : String) : Tabulates (addBound kind subject comparison value source found) where
  proper := proper_addBound tabulates.proper kind subject comparison value source
  distinct := by
    rw [map_key_addBound]
    split
    · exact tabulates.distinct
    · rename_i new
      exact List.nodup_append.mpr ⟨tabulates.distinct, List.nodup_singleton _, by
        intro other belongs last isLast same
        rw [same, List.mem_singleton.mp isLast] at belongs
        exact new belongs⟩

theorem meet_addBound {found : List Interval} (proper : ∀ interval ∈ found, interval.IsProper)
    (kind : ContractKind) (subject : String) (comparison : Comparison) (value : Float)
    (source : String) (assignment : Assignment) :
    Meet (addBound kind subject comparison value source found) assignment ↔
      Meet found assignment ∧ ((value != value) = false →
        comparison.Relates (assignment kind subject : EReal) (Double.toEReal value)) := by
  induction found with
  | nil =>
      rw [addBound, meet_cons, key_withBound, admits_withBound (isProper_all kind subject),
        and_iff_left nofun]
      exact and_congr_left fun _ => iff_of_true (admits_all kind subject _) nofun
  | cons interval rest inductionHypothesis =>
      obtain ⟨properHead, proper⟩ := List.forall_mem_cons.mp proper
      rw [addBound]
      split
      · rename_i same
        obtain ⟨rfl, rfl⟩ := same
        rw [meet_cons, key_withBound, admits_withBound properHead, and_right_comm, meet_cons]
        exact Iff.rfl
      · rw [meet_cons, inductionHypothesis proper, meet_cons, and_assoc]

/-- What is left of some constraints when no constant among them fails. -/
theorem of_intervals_eq_ok {constraints : List Constraint} {found left : List Interval}
    (tabulates : Tabulates found) (read : intervals constraints found = .ok left) :
    Tabulates left ∧ ∀ assignment, Meet left assignment ↔
      Meet found assignment ∧
        ∀ constraint ∈ constraints, constraint.IsNumeric → constraint.HoldsAt assignment := by
  induction constraints generalizing found with
  | nil =>
      cases read
      exact ⟨tabulates, fun assignment => (and_iff_left nofun).symm⟩
  | cons constraint rest inductionHypothesis =>
      cases constraint with
      | constant kind holds text =>
          rw [intervals] at read
          split at read
          · rename_i met
            obtain ⟨tabulates, meets⟩ := inductionHypothesis tabulates read
            refine ⟨tabulates, fun assignment => (meets assignment).trans ?_⟩
            have constant : (Constraint.constant kind holds text).HoldsAt assignment := met
            rw [List.forall_mem_cons, and_iff_right fun _ => constant]
          · cases read
      | bound kind subject comparison value =>
          rw [intervals] at read
          obtain ⟨tabulatesLeft, meets⟩ := inductionHypothesis
            (tabulates_addBound tabulates kind subject comparison value _) read
          refine ⟨tabulatesLeft, fun assignment => (meets assignment).trans ?_⟩
          rw [meet_addBound tabulates.proper, List.forall_mem_cons, and_assoc]
          exact Iff.rfl

theorem of_intervals_eq_error {constraints : List Constraint} {found : List Interval}
    {contradiction : Contradiction} (failed : intervals constraints found = .error contradiction) :
    ∃ kind text, .constant kind false text ∈ constraints ∧
      contradiction = .constant kind text := by
  induction constraints generalizing found with
  | nil => cases failed
  | cons constraint rest inductionHypothesis =>
      cases constraint with
      | constant kind holds text =>
          rw [intervals] at failed
          split at failed
          · obtain ⟨other, words, belongs, same⟩ := inductionHypothesis failed
            exact ⟨other, words, List.mem_cons_of_mem _ belongs, same⟩
          · rename_i fails
            rw [Bool.not_eq_true] at fails
            cases failed
            exact ⟨kind, text, fails ▸ List.mem_cons_self, rfl⟩
      | bound kind subject comparison value =>
          rw [intervals] at failed
          obtain ⟨other, words, belongs, same⟩ := inductionHypothesis failed
          exact ⟨other, words, List.mem_cons_of_mem _ belongs, same⟩

/-- All constraints of a set hold, apart from bounds whose value is not a number. -/
def SatisfiedBy (set : ConstraintSet) (assignment : Assignment) : Prop :=
  ∀ constraint ∈ set.constraints, constraint.IsNumeric → constraint.HoldsAt assignment

theorem contradiction?_eq_none_iff (set : ConstraintSet) :
    set.contradiction? = none ↔ ∃ assignment, set.SatisfiedBy assignment := by
  unfold contradiction?
  cases read : intervals set.constraints [] with
  | error contradiction =>
      obtain ⟨kind, text, belongs, -⟩ := of_intervals_eq_error read
      refine iff_of_false nofun fun ⟨assignment, satisfied⟩ => ?_
      cases satisfied _ belongs trivial
  | ok left =>
      obtain ⟨tabulates, meets⟩ := of_intervals_eq_ok tabulates_nil read
      have initial : ∀ assignment, Meet [] assignment := fun _ => nofun
      simp only [initial, true_and] at meets
      rw [Option.map_eq_none_iff, List.find?_eq_none]
      simp only [Bool.not_eq_true, ← tabulates.exists_meet_iff, meets]
      exact Iff.rfl

/-- The constraints before a call, or those after it. -/
def ofKind (kind : ContractKind) (set : ConstraintSet) : ConstraintSet :=
  { set with constraints := set.constraints.filter fun constraint => constraint.kind = kind }

/-- Whether there is a contradiction depends neither on order nor on repetition. -/
theorem contradiction?_eq_none_congr {first second : ConstraintSet}
    (same : ∀ constraint, constraint ∈ first.constraints ↔ constraint ∈ second.constraints) :
    first.contradiction? = none ↔ second.contradiction? = none := by
  simp only [contradiction?_eq_none_iff, SatisfiedBy, same]

theorem holdsAt_congr {constraint : Constraint} {first second : Assignment}
    (same : first constraint.kind = second constraint.kind) :
    constraint.HoldsAt first ↔ constraint.HoldsAt second := by
  cases constraint with
  | constant => exact Iff.rfl
  | bound kind subject comparison value =>
      have same : first kind = second kind := same
      rw [Constraint.HoldsAt, Constraint.HoldsAt, same]

/-- What holds before a call and what holds after it never contradict each other. -/
theorem contradiction?_eq_none_iff_ofKind (set : ConstraintSet) :
    set.contradiction? = none ↔ ∀ kind, (set.ofKind kind).contradiction? = none := by
  simp only [contradiction?_eq_none_iff]
  constructor
  · exact fun ⟨assignment, satisfied⟩ kind =>
      ⟨assignment, fun constraint belongs => satisfied constraint (List.mem_of_mem_filter belongs)⟩
  · intro separately
    choose assignment satisfied using separately
    refine ⟨fun kind => assignment kind kind, fun constraint belongs numeric => ?_⟩
    have holds := satisfied constraint.kind constraint
      (List.mem_filter.mpr ⟨belongs, decide_eq_true rfl⟩) numeric
    refine (holdsAt_congr ?_).mp holds
    rfl

/-- For bounds by numbers the intervals decide whether all constraints can hold together: each
subject takes a number of its own, before a call apart from after it. -/
theorem decides_satisfiability (set : ConstraintSet)
    (numeric : ∀ constraint ∈ set.constraints, constraint.IsNumeric) :
    (set.contradiction? = none ↔
      (∀ kind holds text, .constant kind holds text ∈ set.constraints → holds = true) ∧
        ∃ assignment : Assignment, ∀ kind subject comparison value,
          .bound kind subject comparison value ∈ set.constraints →
            comparison.Relates (assignment kind subject : EReal) (Double.toEReal value)) ∧
      (∀ other : ConstraintSet,
        (∀ constraint, constraint ∈ other.constraints ↔ constraint ∈ set.constraints) →
          (other.contradiction? = none ↔ set.contradiction? = none)) ∧
      (set.contradiction? = none ↔ ∀ kind, (set.ofKind kind).contradiction? = none) := by
  refine ⟨?_, fun other same => contradiction?_eq_none_congr same,
    set.contradiction?_eq_none_iff_ofKind⟩
  rw [contradiction?_eq_none_iff]
  constructor
  · rintro ⟨assignment, satisfied⟩
    refine ⟨fun kind holds text belongs => ?_,
      assignment, fun kind subject comparison value belongs => ?_⟩
    · exact satisfied _ belongs trivial
    · exact satisfied _ belongs (numeric _ belongs)
  · rintro ⟨constants, assignment, bounds⟩
    refine ⟨assignment, fun constraint belongs _ => ?_⟩
    cases constraint with
    | constant kind holds text => exact constants kind holds text belongs
    | bound kind subject comparison value => exact bounds kind subject comparison value belongs

/-- Bounds that touch leave one number, and a bound after the call does not concern it. -/
def touching : ConstraintSet := .ofConstraints
  [.bound .pre "x" .ge 3.0, .bound .pre "x" .le 3.0, .bound .pre "x" .ne Double.infinity,
    .bound .post "x" .lt 1.0, .constant .pre true "1 < 2"]

theorem touching_satisfiable :
    (∀ constraint ∈ touching.constraints, constraint.IsNumeric) ∧
      touching.contradiction? = none ∧
      ∃ assignment : Assignment, ∀ kind subject comparison value,
        .bound kind subject comparison value ∈ touching.constraints →
          comparison.Relates (assignment kind subject : EReal) (Double.toEReal value) := by
  have numeric : ∀ constraint ∈ touching.constraints, constraint.IsNumeric := by
    simp only [touching, ofConstraints, List.forall_mem_cons, Constraint.IsNumeric]
    exact ⟨rfl, rfl, rfl, rfl, trivial, nofun⟩
  have decided := decides_satisfiability touching numeric
  have none : touching.contradiction? = none := rfl
  exact ⟨numeric, none, (decided.1.mp none).2⟩

end ConstraintSet

end ReviewGate
