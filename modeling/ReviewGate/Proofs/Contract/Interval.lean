import Mathlib.Order.Interval.Set.Infinite
import Mathlib.Topology.Order.Real
import ReviewGate.Contract.Interval
import ReviewGate.Proofs.Number.Extended

/-!
# What intervals decide

The interval of a subject holds exactly the real numbers that its bounds leave.  So a set of
constraints has no contradiction exactly if some choice of a number for each subject meets it.
-/

namespace ReviewGate

/-! ## Ends -/

section Ends

variable {Number : Type*} [LinearOrder Number]

/-- On the inner side of an end, which does not belong to the inside if it is open.  Upper ends are
read in the reverse order. -/
def IsPast (bound : Number) (isOpen : Bool) (number : Number) : Prop :=
  if isOpen then bound < number else bound ≤ number

variable {first second number : Number} {isOpen firstOpen : Bool}

theorem IsPast.le (past : IsPast first isOpen number) : first ≤ number := by
  unfold IsPast at past
  split at past
  · exact past.le
  · exact past

/-- An end that belongs to the inside is not open. -/
theorem IsPast.isOpen_eq_false (past : IsPast number isOpen number) : isOpen = false := by
  rw [Bool.eq_false_iff]
  intro isOpen
  rw [IsPast, if_pos isOpen] at past
  exact past.false

theorem isPast_of_lt (less : first < number) : IsPast first isOpen number := by
  unfold IsPast
  split
  · exact less
  · exact less.le

/-- The end that is kept of two is the one further in, and the open one of two at one place. -/
theorem isPast_and_isPast :
    IsPast first firstOpen number ∧ IsPast second isOpen number ↔
      if first < second ∨ second = first ∧ isOpen = true then IsPast second isOpen number
      else IsPast first firstOpen number := by
  split
  · rename_i further
    refine and_iff_right_of_imp fun past => ?_
    rcases further with less | ⟨rfl, rfl⟩
    · exact isPast_of_lt (less.trans_le past.le)
    · exact isPast_of_lt past
  · rename_i notFurther
    refine and_iff_left_of_imp fun past => ?_
    rw [not_or, not_lt] at notFurther
    rcases notFurther.1.lt_or_eq with less | same
    · exact isPast_of_lt (less.trans_le past.le)
    · have closed : ¬isOpen = true := fun isOpen => notFurther.2 ⟨same, isOpen⟩
      rw [IsPast, if_neg closed, same]
      exact past.le

end Ends

/-- What a comparison says about two numbers. -/
def Comparison.Relates {Number : Type*} [LinearOrder Number] : Comparison → Number → Number → Prop
  | .lt, left, right => left < right
  | .le, left, right => left ≤ right
  | .gt, left, right => right < left
  | .ge, left, right => right ≤ left
  | .eq, left, right => left = right
  | .ne, left, right => left ≠ right

namespace Interval

open Double OrderDual

/-! ## Numbers of an interval -/

/-- What the ends and the exclusions of an interval say about a number.  What is not a number
excludes none. -/
structure Admits (interval : Interval) (number : ℝ) : Prop where
  low : IsPast (toEReal interval.low) interval.lowOpen (number : EReal)
  high : IsPast (toDual (toEReal interval.high)) interval.highOpen (toDual (number : EReal))
  kept : ∀ value ∈ interval.excluded, (value != value) = false → (number : EReal) ≠ toEReal value

/-- The ends are numbers, and no end is closed where no real number is. -/
structure IsProper (interval : Interval) : Prop where
  low : (interval.low != interval.low) = false
  high : (interval.high != interval.high) = false
  lowOpen : toEReal interval.low = ⊥ → interval.lowOpen = true
  highOpen : toEReal interval.high = ⊤ → interval.highOpen = true

theorem isProper_all (kind : ContractKind) (subject : String) : (all kind subject).IsProper where
  low := (rfl : (-infinity != -infinity) = false)
  high := (rfl : (infinity != infinity) = false)
  lowOpen _ := rfl
  highOpen _ := rfl

theorem admits_all (kind : ContractKind) (subject : String) (number : ℝ) :
    (all kind subject).Admits number where
  low := by
    change toEReal (-infinity) < number
    rw [toEReal_neg_infinity]
    exact EReal.bot_lt_coe number
  high := by
    change toDual (toEReal infinity) < toDual (number : EReal)
    rw [toDual_lt_toDual, toEReal_infinity]
    exact EReal.coe_lt_top number
  kept := nofun

/-! ## One bound more -/

variable {interval : Interval} {value : Float}

theorem raiseLow_of_bne_self (differs : (value != value) = true) (isOpen : Bool) :
    interval.raiseLow value isOpen = interval := by
  obtain ⟨-, notAbove, notEqual, -⟩ := incomparable_of_bne_self differs interval.low
  rw [raiseLow, if_neg (by simp [notAbove, notEqual])]

theorem lowerHigh_of_bne_self (differs : (value != value) = true) (isOpen : Bool) :
    interval.lowerHigh value isOpen = interval := by
  obtain ⟨notBelow, -, notEqual, -⟩ := incomparable_of_bne_self differs interval.high
  rw [lowerHigh, if_neg (by simp [notBelow, notEqual])]

theorem raises_iff (proper : interval.IsProper) (number : (value != value) = false)
    (isOpen : Bool) :
    (interval.low < value || (value == interval.low && isOpen)) = true ↔
      toEReal interval.low < toEReal value ∨
        toEReal value = toEReal interval.low ∧ isOpen = true := by
  rw [Bool.or_eq_true, Bool.and_eq_true, decide_eq_true_eq, lt_iff_toEReal proper.low number,
    beq_iff_toEReal number proper.low]

theorem lowers_iff (proper : interval.IsProper) (number : (value != value) = false)
    (isOpen : Bool) :
    (value < interval.high || (value == interval.high && isOpen)) = true ↔
      toDual (toEReal interval.high) < toDual (toEReal value) ∨
        toDual (toEReal value) = toDual (toEReal interval.high) ∧ isOpen = true := by
  rw [Bool.or_eq_true, Bool.and_eq_true, decide_eq_true_eq, lt_iff_toEReal number proper.high,
    beq_iff_toEReal number proper.high]
  exact Iff.rfl

theorem isProper_raiseLow (proper : interval.IsProper) (number : (value != value) = false)
    (isOpen : Bool) : (interval.raiseLow value isOpen).IsProper := by
  unfold raiseLow
  split
  · rename_i raised
    rw [raises_iff proper number] at raised
    refine ⟨number, proper.high, fun least => ?_, proper.highOpen⟩
    rcases raised with less | ⟨-, isOpen⟩
    · exact absurd (least ▸ less) not_lt_bot
    · exact isOpen
  · exact proper

theorem isProper_lowerHigh (proper : interval.IsProper) (number : (value != value) = false)
    (isOpen : Bool) : (interval.lowerHigh value isOpen).IsProper := by
  unfold lowerHigh
  split
  · rename_i lowered
    rw [lowers_iff proper number] at lowered
    refine ⟨proper.low, number, proper.lowOpen, fun greatest => ?_⟩
    rcases lowered with less | ⟨-, isOpen⟩
    · exact absurd (toDual_lt_toDual.mp less) (greatest ▸ not_top_lt)
    · exact isOpen
  · exact proper

theorem admits_raiseLow (proper : interval.IsProper) (number : (value != value) = false)
    (isOpen : Bool) (candidate : ℝ) :
    (interval.raiseLow value isOpen).Admits candidate ↔
      interval.Admits candidate ∧ IsPast (toEReal value) isOpen (candidate : EReal) := by
  have ends := @isPast_and_isPast EReal _ (toEReal interval.low) (toEReal value) candidate isOpen
    interval.lowOpen
  unfold raiseLow
  split
  · rename_i raised
    rw [if_pos ((raises_iff proper number isOpen).mp raised)] at ends
    exact ⟨fun admits => ⟨⟨(ends.mpr admits.low).1, admits.high, admits.kept⟩, admits.low⟩,
      fun ⟨admits, past⟩ => ⟨past, admits.high, admits.kept⟩⟩
  · rename_i kept
    rw [if_neg ((raises_iff proper number isOpen).not.mp kept)] at ends
    exact ⟨fun admits => ⟨admits, (ends.mpr admits.low).2⟩, And.left⟩

theorem admits_lowerHigh (proper : interval.IsProper) (number : (value != value) = false)
    (isOpen : Bool) (candidate : ℝ) :
    (interval.lowerHigh value isOpen).Admits candidate ↔
      interval.Admits candidate ∧
        IsPast (toDual (toEReal value)) isOpen (toDual (candidate : EReal)) := by
  have ends := @isPast_and_isPast ERealᵒᵈ _ (toDual (toEReal interval.high))
    (toDual (toEReal value)) (toDual candidate) isOpen interval.highOpen
  unfold lowerHigh
  split
  · rename_i lowered
    rw [if_pos ((lowers_iff proper number isOpen).mp lowered)] at ends
    exact ⟨fun admits => ⟨⟨admits.low, (ends.mpr admits.high).1, admits.kept⟩, admits.high⟩,
      fun ⟨admits, past⟩ => ⟨admits.low, past, admits.kept⟩⟩
  · rename_i kept
    rw [if_neg ((lowers_iff proper number isOpen).not.mp kept)] at ends
    exact ⟨fun admits => ⟨admits, (ends.mpr admits.high).2⟩, And.left⟩

theorem isProper_restrict (proper : interval.IsProper) (comparison : Comparison)
    (value : Float) : (interval.restrict comparison value).IsProper := by
  cases differs : value != value with
  | true =>
      cases comparison <;>
        simpa only [restrict, raiseLow_of_bne_self differs, lowerHigh_of_bne_self differs]
          using ⟨proper.low, proper.high, proper.lowOpen, proper.highOpen⟩
  | false =>
      cases comparison with
      | lt | le => exact isProper_lowerHigh proper differs _
      | gt | ge => exact isProper_raiseLow proper differs _
      | eq => exact isProper_lowerHigh (isProper_raiseLow proper differs _) differs _
      | ne => exact ⟨proper.low, proper.high, proper.lowOpen, proper.highOpen⟩

theorem admits_exclude (value : Float) (candidate : ℝ) :
    ({ interval with excluded := interval.excluded ++ [value] } : Interval).Admits candidate ↔
      interval.Admits candidate ∧
        ((value != value) = false → (candidate : EReal) ≠ toEReal value) := by
  constructor
  · intro ⟨low, high, kept⟩
    exact ⟨⟨low, high, fun other excluded => kept other (List.mem_append_left _ excluded)⟩,
      kept value (List.mem_append_right _ List.mem_cons_self)⟩
  · intro ⟨⟨low, high, kept⟩, differs⟩
    refine ⟨low, high, fun other excluded => ?_⟩
    rcases List.mem_append.mp excluded with before | new
    · exact kept other before
    · rw [List.mem_singleton.mp new]
      exact differs

/-- A bound that is a number leaves what meets it, and any other bound leaves everything. -/
theorem admits_restrict (proper : interval.IsProper) (comparison : Comparison) (value : Float)
    (candidate : ℝ) :
    (interval.restrict comparison value).Admits candidate ↔
      interval.Admits candidate ∧
        ((value != value) = false → comparison.Relates (candidate : EReal) (toEReal value)) := by
  cases differs : value != value with
  | true =>
      rw [and_iff_left nofun]
      cases comparison with
      | ne =>
          rw [restrict, admits_exclude, differs]
          exact and_iff_left nofun
      | lt | le | gt | ge | eq =>
          rw [restrict]
          simp only [raiseLow_of_bne_self differs, lowerHigh_of_bne_self differs]
  | false =>
      simp only [true_imp_iff]
      cases comparison with
      | lt | le => exact admits_lowerHigh proper differs _ _
      | gt | ge => exact admits_raiseLow proper differs _ _
      | eq =>
          rw [restrict, admits_lowerHigh (isProper_raiseLow proper differs _) differs,
            admits_raiseLow proper differs, and_assoc]
          refine and_congr_right fun _ => ?_
          exact (@le_antisymm_iff EReal _ (toEReal value) candidate).symm.trans eq_comm
      | ne =>
          rw [restrict, admits_exclude, differs]
          simp only [true_imp_iff]
          exact Iff.rfl

theorem Admits.withSources {candidate : ℝ} (sources : List String) :
    ({ interval with sources := sources } : Interval).Admits candidate ↔
      interval.Admits candidate :=
  ⟨fun ⟨low, high, kept⟩ => ⟨low, high, kept⟩, fun ⟨low, high, kept⟩ => ⟨low, high, kept⟩⟩

/-! ## Emptiness -/

/-- Between two ends there are more numbers than a list can exclude. -/
theorem exists_between_of_lt {low high : EReal} (less : low < high) (excluded : List EReal) :
    ∃ candidate : ℝ, low < candidate ∧ (candidate : EReal) < high ∧
      (candidate : EReal) ∉ excluded := by
  obtain ⟨first, lowFirst, firstHigh⟩ := EReal.lt_iff_exists_real_btwn.mp less
  obtain ⟨last, firstLast, lastHigh⟩ := EReal.lt_iff_exists_real_btwn.mp firstHigh
  have infinite := Set.Ioo_infinite (EReal.coe_lt_coe_iff.mp firstLast)
  obtain ⟨candidate, ⟨above, below⟩, free⟩ :=
    infinite.exists_notMem_finset (excluded.map EReal.toReal).toFinset
  refine ⟨candidate, lowFirst.trans (EReal.coe_lt_coe_iff.mpr above),
    (EReal.coe_lt_coe_iff.mpr below).trans lastHigh, fun belongs => free ?_⟩
  rw [List.mem_toFinset, List.mem_map]
  exact ⟨candidate, belongs, EReal.toReal_coe candidate⟩

theorem isEmpty_eq_false_iff (proper : interval.IsProper) :
    interval.isEmpty = false ↔
      toEReal interval.low < toEReal interval.high ∨
        toEReal interval.low = toEReal interval.high ∧ interval.lowOpen = false ∧
          interval.highOpen = false ∧
          ∀ value ∈ interval.excluded, ¬(value == interval.low) = true := by
  rw [isEmpty, Bool.or_eq_false_iff, Bool.and_eq_false_iff, Bool.or_eq_false_iff,
    Bool.or_eq_false_iff, decide_eq_false_iff_not, List.any_eq_false, ← Bool.not_eq_true,
    lt_iff_toEReal proper.high proper.low, beq_iff_toEReal proper.low proper.high, not_lt,
    and_assoc]
  constructor
  · rintro ⟨ordered, apart | closed⟩
    · exact .inl (lt_of_le_of_ne ordered apart)
    · exact ordered.lt_or_eq.imp_right fun same => ⟨same, closed⟩
  · rintro (less | ⟨same, closed⟩)
    · exact ⟨less.le, .inl less.ne⟩
    · exact ⟨same.le, .inr closed⟩

/-- The one number between two closed ends at the same place. -/
theorem IsProper.exists_eq_low (proper : interval.IsProper)
    (same : toEReal interval.low = toEReal interval.high) (lowClosed : interval.lowOpen = false)
    (highClosed : interval.highOpen = false) :
    ∃ candidate : ℝ, (candidate : EReal) = toEReal interval.low := by
  have notLeast : toEReal interval.low ≠ ⊥ := fun least => by
    simpa [lowClosed] using proper.lowOpen least
  have notGreatest : toEReal interval.low ≠ ⊤ := fun greatest => by
    simpa [highClosed] using proper.highOpen (same ▸ greatest)
  exact ⟨_, EReal.coe_toReal notGreatest notLeast⟩

/-- An interval is not empty exactly if it holds a real number. -/
theorem isEmpty_eq_false_iff_exists (proper : interval.IsProper) :
    interval.isEmpty = false ↔ ∃ candidate, interval.Admits candidate := by
  rw [isEmpty_eq_false_iff proper]
  constructor
  · rintro (less | ⟨same, lowClosed, highClosed, apart⟩)
    · obtain ⟨candidate, above, below, free⟩ :=
        exists_between_of_lt less (interval.excluded.map toEReal)
      refine ⟨candidate, isPast_of_lt above, isPast_of_lt below, fun value excluded _ equal => ?_⟩
      exact free (equal ▸ List.mem_map_of_mem excluded)
    · obtain ⟨candidate, placed⟩ := proper.exists_eq_low same lowClosed highClosed
      refine ⟨candidate, ?_, ?_, fun value excluded number equal => ?_⟩
      · rw [IsPast, lowClosed, placed]
        exact le_rfl
      · rw [IsPast, highClosed, placed, same]
        exact le_rfl
      · exact apart value excluded
          ((beq_iff_toEReal number proper.low).mpr (equal.symm.trans placed))
  · rintro ⟨candidate, low, high, kept⟩
    rcases (low.le.trans (toDual_le_toDual.mp high.le)).lt_or_eq with less | same
    · exact .inl less
    · have placed : (candidate : EReal) = toEReal interval.low :=
        le_antisymm (same ▸ toDual_le_toDual.mp high.le) low.le
      rw [placed] at low
      rw [placed, same] at high
      refine .inr ⟨same, low.isOpen_eq_false, high.isOpen_eq_false, fun value excluded equal => ?_⟩
      have number : (value != value) = false := by
        rw [← Bool.not_eq_true]
        intro differs
        rw [(incomparable_of_bne_self differs interval.low).2.2.1] at equal
        cases equal
      exact kept value excluded number
        (placed.trans ((beq_iff_toEReal number proper.low).mp equal).symm)

end Interval

end ReviewGate
