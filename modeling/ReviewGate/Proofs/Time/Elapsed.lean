import ReviewGate.Time.Instant

/-!
# Order and distance of instants

Instants are ordered by their seconds, then by their fractions.  Where leap seconds end a day, as
those of universal time do, the distances of instants add up.
-/

namespace ReviewGate.Instant

/-! ## Order -/

theorem not_lt_iff {first second : Instant} : ¬first < second ↔ second ≤ first :=
  Bool.not_eq_true _ ▸ Iff.rfl

theorem le_refl (instant : Instant) : instant ≤ instant := before_irrefl instant

theorem le_iff {first second : Instant} : first ≤ second ↔
    first.seconds < second.seconds ∨
      first.seconds = second.seconds ∧ first.nanos ≤ second.nanos := by
  rw [← not_lt_iff]
  change ¬(second.before first = true) ↔ _
  simp only [before, Bool.or_eq_true, Bool.and_eq_true, decide_eq_true_eq]
  omega

theorem le_of_lt {first second : Instant} (lt : first < second) : first ≤ second := by
  have before : first.before second = true := lt
  rw [le_iff]
  simp only [Instant.before, Bool.or_eq_true, Bool.and_eq_true, decide_eq_true_eq] at before
  omega

theorem le_trans {first second third : Instant} (left : first ≤ second) (right : second ≤ third) :
    first ≤ third := by
  rw [le_iff] at *
  omega

/-! ## Distance -/

/-- An instant of universal time: a fraction of a second or more belongs to the leap second at the
end of a day. -/
structure IsUniversal (instant : Instant) : Prop where
  fraction : instant.nanos < 2 * nanosPerSecond
  leap : nanosPerSecond ≤ instant.nanos → instant.secondOfDay = 86399

/-- The complete seconds since the start of 1970, a leap second counting as the one after it. -/
def reading (instant : Instant) : Int := instant.seconds + instant.nanos / nanosPerSecond

theorem reading_le_reading {first second : Instant} (universal : first.IsUniversal)
    (le : first ≤ second) : first.reading ≤ second.reading := by
  have fraction := universal.fraction
  rw [le_iff] at le
  unfold reading
  unfold nanosPerSecond at *
  omega

/-- No leap second lies between two times of day. -/
theorem since_eq {earlier later : Instant} (early : earlier.IsUniversal)
    (late : later.IsUniversal) :
    later.since earlier =
      ⟨later.seconds - earlier.seconds + ((later.nanos : Int) - earlier.nanos) / nanosPerSecond,
        (((later.nanos : Int) - earlier.nanos) % nanosPerSecond).toNat⟩ := by
  have last : ∀ instant : Instant, instant.secondOfDay < 86400 :=
    fun instant => Int.emod_lt_of_pos _ (by decide)
  have lastEarly := last earlier
  have lastLate := last later
  unfold since
  dsimp only
  split
  · rw [if_neg fun leap => by
      have := early.leap leap
      omega]
    rw [Int.add_zero]
  · split
    · rw [if_neg fun leap => by
        have := late.leap leap
        omega]
      rw [Int.add_zero]
    · rw [Int.add_zero]

theorem wholeSeconds_since {earlier later : Instant} (early : earlier.IsUniversal)
    (late : later.IsUniversal) (whole : (later.since earlier).nanos = 0) :
    (later.since earlier).wholeSeconds = later.reading - earlier.reading := by
  rw [since_eq early late] at whole ⊢
  unfold Span.wholeSeconds reading
  unfold nanosPerSecond at *
  dsimp only at *
  rw [if_neg (by omega)]
  omega

theorem nanos_since_trans {first second third : Instant} (left : (second.since first).nanos = 0)
    (right : (third.since second).nanos = 0) : (third.since first).nanos = 0 := by
  unfold since at *
  unfold nanosPerSecond at *
  dsimp only at *
  omega

theorem nanos_since_of_common {start first second : Instant} (left : (first.since start).nanos = 0)
    (right : (second.since start).nanos = 0) : (second.since first).nanos = 0 := by
  unfold since at *
  unfold nanosPerSecond at *
  dsimp only at *
  omega

end ReviewGate.Instant
