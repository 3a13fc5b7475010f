import Mathlib.Algebra.Order.Ring.Cast
import Mathlib.Tactic.Positivity
import Mathlib.Tactic.Ring
import ReviewGate.Proofs.Number.Rational
import ReviewGate.Proofs.Trust.Service

/-!
# How often scores are let drift

In exact arithmetic an inactive score does not depend on how often it is asked to drift.  A drift
over a stretch of time is the drift over its parts, one after the other, and a drift that is too
small to be written down is made up for by the next one.
-/

namespace ReviewGate

/-! ## Stretches of time -/

namespace DecayPolicy

variable (policy : DecayPolicy Rat)

/-- A score when it has gone a way toward the baseline. -/
def toward (score way : Rat) : Rat :=
  if policy.baseline < score then max (score - way) policy.baseline
  else if score < policy.baseline then min (score + way) policy.baseline
  else score

@[simp]
theorem toward_zero (score : Rat) : policy.toward score 0 = score := by
  unfold toward
  split
  · rename_i above
    rw [sub_zero, max_eq_left above.le]
  · split
    · rename_i below
      rw [add_zero, min_eq_left below.le]
    · rfl

@[simp]
theorem toward_baseline (way : Rat) : policy.toward policy.baseline way = policy.baseline := by
  simp [toward]

/-- Two ways in one direction are one way.  What reaches the baseline in between stays there. -/
theorem toward_toward (score : Rat) {first second : Rat}
    (direction : (0 ≤ first ∧ 0 ≤ second) ∨ (first ≤ 0 ∧ second ≤ 0)) :
    policy.toward (policy.toward score first) second = policy.toward score (first + second) := by
  rcases lt_trichotomy policy.baseline score with above | level | below
  · have start : ∀ way, policy.toward score way = max (score - way) policy.baseline :=
      fun way => if_pos above
    rw [start, start]
    rcases lt_or_ge policy.baseline (score - first) with before | reached
    · rw [max_eq_left before.le, toward, if_pos before, sub_sub]
    · have onward : 0 ≤ second := by
        rcases direction with ⟨-, onward⟩ | ⟨back, -⟩
        · exact onward
        · linarith
      rw [max_eq_right reached, toward_baseline, max_eq_right (by linarith)]
  · rw [← level, toward_baseline, toward_baseline, toward_baseline]
  · have start : ∀ way, policy.toward score way = min (score + way) policy.baseline :=
      fun way => (if_neg below.not_gt).trans (if_pos below)
    rw [start, start]
    rcases lt_or_ge (score + first) policy.baseline with before | reached
    · rw [min_eq_left before.le, toward, if_neg before.not_gt, if_pos before, add_assoc]
    · have onward : 0 ≤ second := by
        rcases direction with ⟨-, onward⟩ | ⟨back, -⟩
        · exact onward
        · linarith
      rw [min_eq_right reached, toward_baseline, min_eq_right (by linarith)]

/-- The way that is drifted in some seconds. -/
def way (seconds : Int) : Rat := seconds / 86400 / 30 * policy.ratePerThirtyDays

theorem way_add (first second : Int) :
    policy.way (first + second) = policy.way first + policy.way second := by
  unfold way
  push_cast
  ring

theorem way_direction {first second : Int} (left : 0 ≤ first) (right : 0 ≤ second) :
    (0 ≤ policy.way first ∧ 0 ≤ policy.way second) ∨
      (policy.way first ≤ 0 ∧ policy.way second ≤ 0) := by
  have months : ∀ {seconds : Int}, 0 ≤ seconds → (0 : Rat) ≤ seconds / 86400 / 30 := by
    intro seconds nonneg
    have cast : (0 : Rat) ≤ seconds := mod_cast nonneg
    positivity
  unfold way
  rcases le_total 0 policy.ratePerThirtyDays with inward | outward
  · exact .inl ⟨mul_nonneg (months left) inward, mul_nonneg (months right) inward⟩
  · exact .inr ⟨mul_nonpos_of_nonneg_of_nonpos (months left) outward,
      mul_nonpos_of_nonneg_of_nonpos (months right) outward⟩

variable {policy} {start last now : Instant}

theorem decay_of_le (score : Rat) (past : now ≤ last) : policy.decay score last now = score :=
  if_pos past

/-- A drift depends on the seconds between the two instants. -/
theorem decay_eq_toward (score : Rat) (early : last.IsUniversal) (late : now.IsUniversal)
    (whole : (now.since last).nanos = 0) (forward : last.reading ≤ now.reading) :
    policy.decay score last now =
      policy.toward score (policy.way (now.reading - last.reading)) := by
  unfold decay
  split
  · rename_i past
    have same : now.reading - last.reading = 0 :=
      sub_eq_zero.mpr (le_antisymm (Instant.reading_le_reading late past) forward)
    rw [same]
    simp [way]
  · have seconds : policy.drift last now = policy.way (now.reading - last.reading) := by
      rw [drift, Instant.wholeSeconds_since early late whole, way]
      norm_num [Scalar.ofInt]
    rw [seconds, Scalar.larger_rat, Scalar.smaller_rat, toward]

/-- A drift over two stretches of whole seconds is one drift. -/
theorem decay_decay (score : Rat) (first : start.IsUniversal) (second : last.IsUniversal)
    (third : now.IsUniversal) (whole : (last.since start).nanos = 0)
    (further : (now.since last).nanos = 0) (forward : start.reading ≤ last.reading)
    (onward : last.reading ≤ now.reading) :
    policy.decay (policy.decay score start last) last now = policy.decay score start now := by
  have all := Instant.nanos_since_trans whole further
  rw [decay_eq_toward _ first second whole forward, decay_eq_toward _ second third further onward,
    decay_eq_toward _ first third all (forward.trans onward),
    toward_toward _ _ (way_direction _ (sub_nonneg.mpr forward) (sub_nonneg.mpr onward)),
    ← way_add, sub_add_sub_cancel']

end DecayPolicy

/-! ## Polls -/

/-- Instants at whole seconds from a start, in the order of these seconds. -/
structure Instant.Paced (start : Instant) (polls : List Instant) : Prop where
  universal : ∀ poll ∈ polls, poll.IsUniversal
  whole : ∀ poll ∈ polls, (poll.since start).nanos = 0
  ordered : polls.Pairwise fun early late =>
    (early.since start).wholeSeconds ≤ (late.since start).wholeSeconds

theorem Instant.Paced.earlier {start : Instant} {polls begun : List Instant}
    (paced : start.Paced polls) (shorter : begun <+: polls) : start.Paced begun where
  universal poll present := paced.universal poll (shorter.subset present)
  whole poll present := paced.whole poll (shorter.subset present)
  ordered := paced.ordered.sublist shorter.sublist

namespace Engine

variable {K : Type} [KeyProvider K] {engine : Engine Rat K} {identity : String}

/-- A record that has come from another by drifts at some of these instants: no time is lost and
none is counted twice, and what is still to be written down after the last of them is small. -/
structure Drifted (policy : DecayPolicy Rat) (first record : IdentityRecord Rat)
    (polls : List Instant) : Prop where
  last : record.lastTrustUpdate = first.lastTrustUpdate ∨
    record.lastTrustUpdate ∈ polls ∧
      first.lastTrustUpdate.reading ≤ record.lastTrustUpdate.reading
  score : record.trustScore =
    policy.decay first.trustScore first.lastTrustUpdate record.lastTrustUpdate
  near : ∀ poll ∈ polls.getLast?,
    |record.trustScore - policy.decay first.trustScore first.lastTrustUpdate poll| < 1 / 10000

omit [KeyProvider K] in
theorem isSmall_iff {record : IdentityRecord Rat} {instant : Instant} :
    engine.IsSmall record instant ↔
      |record.trustScore - engine.config.decay.decay record.trustScore record.lastTrustUpdate
        instant| < 1 / 10000 := by
  have bound : (0.0001 : Rat) = 1 / 10000 := by norm_num
  unfold IsSmall
  rw [abs_lt, ← bound]
  constructor
  · rintro ⟨above, below⟩
    exact ⟨by linarith, by linarith⟩
  · rintro ⟨above, below⟩
    exact ⟨by linarith, by linarith⟩

namespace Drifted

variable {policy : DecayPolicy Rat} {first record : IdentityRecord Rat} {polls : List Instant}
  {poll : Instant}

omit [KeyProvider K]

theorem start (policy : DecayPolicy Rat) (first : IdentityRecord Rat) :
    Drifted policy first first [] where
  last := .inl rfl
  score := (DecayPolicy.decay_of_le _ (Instant.le_refl _)).symm
  near := nofun

/-- The next poll goes on from where the drifts have got to. -/
theorem decay_eq (drifted : Drifted policy first record polls)
    (universal : first.lastTrustUpdate.IsUniversal)
    (paced : first.lastTrustUpdate.Paced (polls ++ [poll])) :
    policy.decay record.trustScore record.lastTrustUpdate poll =
      policy.decay first.trustScore first.lastTrustUpdate poll := by
  have next : poll ∈ polls ++ [poll] := by simp
  have seconds : ∀ {instant}, instant ∈ polls ++ [poll] →
      (instant.since first.lastTrustUpdate).wholeSeconds =
        instant.reading - first.lastTrustUpdate.reading := fun present =>
    Instant.wholeSeconds_since universal (paced.universal _ present) (paced.whole _ present)
  rw [drifted.score]
  rcases drifted.last with same | ⟨present, forward⟩
  · rw [same, DecayPolicy.decay_of_le _ (Instant.le_refl _)]
  · have earlier : record.lastTrustUpdate ∈ polls ++ [poll] := List.mem_append_left _ present
    have onward := (List.pairwise_append.mp paced.ordered).2.2 _ present poll (by simp)
    rw [seconds earlier, seconds next, sub_le_sub_iff_right] at onward
    have whole := paced.whole _ earlier
    exact DecayPolicy.decay_decay _ universal (paced.universal _ earlier) (paced.universal _ next)
      whole (Instant.nanos_since_of_common whole (paced.whole _ next)) forward onward

/-- A poll that comes to nothing leaves little to be written down. -/
theorem skip (drifted : Drifted policy first record polls)
    (universal : first.lastTrustUpdate.IsUniversal)
    (paced : first.lastTrustUpdate.Paced (polls ++ [poll]))
    (small : |record.trustScore - policy.decay record.trustScore record.lastTrustUpdate poll| <
      1 / 10000) : Drifted policy first record (polls ++ [poll]) where
  last := drifted.last.imp_right fun ⟨present, forward⟩ =>
    ⟨List.mem_append_left _ present, forward⟩
  score := drifted.score
  near := by
    rw [List.getLast?_concat]
    rintro _ ⟨⟩
    rwa [← drifted.decay_eq universal paced]

/-- A poll that is written down leaves nothing.  It is later than the last one, since otherwise
nothing would have drifted. -/
theorem write (drifted : Drifted policy first record polls)
    (universal : first.lastTrustUpdate.IsUniversal)
    (paced : first.lastTrustUpdate.Paced (polls ++ [poll]))
    (large : policy.decay record.trustScore record.lastTrustUpdate poll ≠ record.trustScore) :
    Drifted policy first { record with
      trustScore := policy.decay record.trustScore record.lastTrustUpdate poll
      lastTrustUpdate := poll } (polls ++ [poll]) where
  last := by
    have later : record.lastTrustUpdate < poll := by
      by_contra past
      exact large (DecayPolicy.decay_of_le _ (Instant.not_lt_iff.mp past))
    refine .inr ⟨by simp, ?_⟩
    rcases drifted.last with same | ⟨present, forward⟩
    · rw [← same]
      exact Instant.reading_le_reading (same ▸ universal) (Instant.le_of_lt later)
    · exact forward.trans (Instant.reading_le_reading
        (paced.universal _ (List.mem_append_left _ present)) (Instant.le_of_lt later))
  score := drifted.decay_eq universal paced
  near := by
    rw [List.getLast?_concat]
    rintro _ ⟨⟩
    dsimp only
    rw [drifted.decay_eq universal paced, sub_self, abs_zero]
    norm_num

end Drifted

theorem Drifted.attempt (rest : engine.AtRest) (accepts : engine.Accepts) {now poll : Instant}
    {polls : List Instant} {first record : IdentityRecord Rat}
    (found : engine.record? identity = some record)
    (drifted : Drifted engine.config.decay first record polls)
    (universal : first.lastTrustUpdate.IsUniversal)
    (paced : first.lastTrustUpdate.Paced (polls ++ [poll])) :
    ∃ after, (engine.attempt now (.drift identity poll)).2.record? identity = some after ∧
      Drifted engine.config.decay first after (polls ++ [poll]) := by
  rcases (record?_attempt_drift rest accepts found).2 with ⟨small, same⟩ | ⟨large, stored⟩
  · exact ⟨record, same, drifted.skip universal paced (isSmall_iff.mp small)⟩
  · refine ⟨_, stored, drifted.write universal paced fun same => large (isSmall_iff.mpr ?_)⟩
    rw [same, sub_self, abs_zero]
    norm_num

theorem Drifted.run (rest : engine.AtRest) {turns : List (Turn Rat)} {polls : List Instant}
    {first : IdentityRecord Rat} (found : engine.record? identity = some first)
    (universal : first.lastTrustUpdate.IsUniversal) (paced : first.lastTrustUpdate.Paced polls)
    (serves : engine.Serves identity turns)
    (asked : (requests identity turns).map Prod.snd = polls.map (.drift identity ·)) :
    ∃ last, (engine.run turns).record? identity = some last ∧
      Drifted engine.config.decay first last polls := by
  have length : (requests identity turns).length = polls.length := by
    simpa using congrArg List.length asked
  have taken : ∃ last, (engine.run turns).record? identity = some last ∧
      Drifted engine.config.decay first last
        (polls.take (requests identity turns).length) := by
    refine serves.run_induct rest (motive := fun done record =>
      Drifted engine.config.decay first record (polls.take done.length)) found (.start _ _) ?_
    intro reached earlier now operation before resting config within known _ accepts drifted
    -- the request stands where its poll stands in the list of polls
    obtain ⟨later, parts⟩ := within
    have here : (polls.map (Operation.drift identity ·))[earlier.length]? = some operation := by
      rw [← asked, ← parts]
      simp
    rw [List.getElem?_map, Option.map_eq_some_iff] at here
    obtain ⟨poll, place, rfl⟩ := here
    have onward : polls.take (earlier ++ [(now, Operation.drift identity poll)]).length =
        polls.take earlier.length ++ [poll] := by
      rw [List.length_append, List.length_singleton, List.take_add_one, place, Option.toList_some]
    have shorter : polls.take earlier.length ++ [poll] <+: polls := onward ▸ List.take_prefix _ _
    rw [onward]
    rw [← config] at drifted ⊢
    exact drifted.attempt resting accepts known universal (paced.earlier shorter)
  rwa [length, List.take_length] at taken

/-- A score does not depend on how often it is asked to drift.  Two drifts over whole seconds, one
after the other, are one drift.  Whatever has happened before, an identity that is only asked to
drift, over a storage that takes every batch, has drifted from its first score up to its last
update, and up to the last poll except for less than a ten-thousandth. -/
theorem drift_independent_of_polls :
    (∀ (policy : DecayPolicy Rat) (score : Rat) (start middle stop : Instant),
      start.IsUniversal → middle.IsUniversal → stop.IsUniversal → start ≤ middle → middle ≤ stop →
      (middle.since start).nanos = 0 → (stop.since middle).nanos = 0 →
      policy.decay (policy.decay score start middle) middle stop =
        policy.decay score start stop) ∧
    ∀ (config : TrustConfig Rat) (keys : K) (engine : Engine Rat K) (identity : String)
      (before after : List (Turn Rat)) (first : IdentityRecord Rat) (polls : List Instant)
      (poll : Instant), Engine.start config keys = .ok engine →
      (engine.run before).record? identity = some first →
      first.lastTrustUpdate.IsUniversal → first.lastTrustUpdate.Paced (polls ++ [poll]) →
      (engine.run before).Serves identity after →
      (requests identity after).map Prod.snd = (polls ++ [poll]).map (.drift identity ·) →
      ∃ last, (engine.run (before ++ after)).record? identity = some last ∧
        last.trustScore =
          config.decay.decay first.trustScore first.lastTrustUpdate last.lastTrustUpdate ∧
        |last.trustScore - config.decay.decay first.trustScore first.lastTrustUpdate poll| <
          1 / 10000 := by
  constructor
  · intro policy score start middle stop first second third left right whole further
    exact DecayPolicy.decay_decay score first second third whole further
      (Instant.reading_le_reading first left) (Instant.reading_le_reading second right)
  · intro config keys engine identity before after first polls poll started found universal paced
      serves asked
    have rest := AtRest.of_start started
    obtain ⟨last, reached, drifted⟩ :=
      Drifted.run (rest.run before) found universal paced serves asked
    rw [config_run_of_start started] at drifted
    refine ⟨last, (run_append engine before after) ▸ reached, drifted.score, drifted.near poll ?_⟩
    rw [List.getLast?_concat]
    rfl

/-- Scores drift fast. -/
def hasty : TrustConfig Rat := { TrustConfig.default with decay := ⟨0, 20⟩ }

def hastyEngine : Engine Rat LocalKeys := ⟨hasty, [], [], [], fun _ => none, Small.keys, []⟩

theorem start_hasty : Engine.start hasty Small.keys = .ok hastyEngine :=
  start_of_validate (eq_ok_of_toOption (by decide +kernel)) Small.keys

/-- A penalty is told at an instant. -/
def told (instant : Instant) : List (Turn Rat) :=
  asking [(Small.now, .register "ann" .judge 1),
    (Small.now, .penalize ⟨"ann", .heuristicFinding, .honest, "", instant⟩)]

/-- The score is asked to drift twice. -/
def polled (first second : Instant) : List (Turn Rat) :=
  asking [(Small.now, .drift "ann" first), (Small.now, .drift "ann" second)]

theorem exists_told (instant : Instant)
    (known : ((hastyEngine.run (told instant)).record? "ann").map (fun record =>
      (record.trustScore, record.lastTrustUpdate)) = some (0.985, instant)) :
    ∃ first, (hastyEngine.run (told instant)).record? "ann" = some first ∧
      first.trustScore = 0.985 ∧ first.lastTrustUpdate = instant := by
  obtain ⟨first, found, same⟩ := Option.map_eq_some_iff.mp known
  exact ⟨first, found, congrArg Prod.fst same, congrArg Prod.snd same⟩

/-- The penalty is told in the leap second at the end of a day; the first drift is too small. -/
theorem drift_polled : ∃ last,
    (hastyEngine.run (told ⟨86399, 1000000000⟩ ++ polled ⟨86405, 0⟩ ⟨172800, 0⟩)).record? "ann" =
        some last ∧
      last.trustScore = hasty.decay.decay 0.985 ⟨86399, 1000000000⟩ last.lastTrustUpdate ∧
      |last.trustScore - hasty.decay.decay 0.985 ⟨86399, 1000000000⟩ ⟨172800, 0⟩| < 1 / 10000 := by
  obtain ⟨first, found, score, update⟩ := exists_told ⟨86399, 1000000000⟩ (by decide +kernel)
  have rest := AtRest.of_start start_hasty
  have accepts : hastyEngine.Accepts := fun _ => rfl
  have universal : ∀ instant ∈ ([⟨86399, 1000000000⟩, ⟨86405, 0⟩, ⟨172800, 0⟩] : List Instant),
      instant.IsUniversal := by
    intro instant present
    constructor <;> revert instant <;> decide
  have paced : first.lastTrustUpdate.Paced ([⟨86405, 0⟩] ++ [⟨172800, 0⟩]) := by
    rw [update]
    exact ⟨fun poll present => universal poll (List.mem_cons_of_mem _ present), by decide,
      by decide⟩
  have drifted := drift_independent_of_polls.2 hasty Small.keys hastyEngine "ann" (told _)
    (polled _ _) first [⟨86405, 0⟩] ⟨172800, 0⟩ start_hasty found (update ▸ universal _ (by simp))
    paced ((accepts.run rest _).serves (rest.run _) "ann" _) rfl
  rwa [score, update] at drifted

/-- Where leap seconds may end any minute, distances do not add up, and what is drifted depends on
the poll at the second minute: neither of the two laws holds. -/
theorem drift_depends_on_polls :
    (∃ start middle stop : Instant, start.IsValid ∧ middle.IsValid ∧ stop.IsValid ∧
      start ≤ middle ∧ middle ≤ stop ∧ (middle.since start).nanos = 0 ∧
      (stop.since middle).nanos = 0 ∧
      hasty.decay.decay (hasty.decay.decay 0.985 start middle) middle stop ≠
        hasty.decay.decay 0.985 start stop) ∧
    ∃ first last : IdentityRecord Rat,
      (hastyEngine.run (told ⟨59, 1000000000⟩)).record? "ann" = some first ∧
      (hastyEngine.run (told ⟨59, 1000000000⟩ ++ polled ⟨120, 0⟩ ⟨86410, 0⟩)).record? "ann" =
        some last ∧
      last.lastTrustUpdate = ⟨86410, 0⟩ ∧
      last.trustScore ≠ hasty.decay.decay first.trustScore first.lastTrustUpdate ⟨86410, 0⟩ := by
  constructor
  · exact ⟨⟨59, 1000000000⟩, ⟨120, 0⟩, ⟨86410, 0⟩, ⟨by decide, by decide⟩, ⟨by decide, by decide⟩,
      ⟨by decide, by decide⟩, by decide, by decide, by decide, by decide, by decide +kernel⟩
  · obtain ⟨first, found, score, update⟩ := exists_told ⟨59, 1000000000⟩ (by decide +kernel)
    have polls : ((hastyEngine.run (told ⟨59, 1000000000⟩ ++
        polled ⟨120, 0⟩ ⟨86410, 0⟩)).record? "ann").map (fun record =>
          (decide (record.trustScore ≠ hasty.decay.decay 0.985 ⟨59, 1000000000⟩ ⟨86410, 0⟩),
            record.lastTrustUpdate)) = some (true, ⟨86410, 0⟩) := by
      decide +kernel
    obtain ⟨last, reached, same⟩ := Option.map_eq_some_iff.mp polls
    refine ⟨first, last, found, reached, congrArg Prod.snd same, ?_⟩
    rw [score, update]
    exact of_decide_eq_true (congrArg Prod.fst same)

end Engine

end ReviewGate
