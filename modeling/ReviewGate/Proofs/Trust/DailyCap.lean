import Mathlib.Algebra.Order.Ring.Rat
import Mathlib.Data.Finset.Card
import Mathlib.Tactic.Linarith
import ReviewGate.Proofs.Number.Rational
import ReviewGate.Proofs.Trust.Change
import ReviewGate.Proofs.Trust.Policy

/-!
# The daily cap

In exact arithmetic no identity loses more than the cap for each day that its penalties have been
counted for, in whatever order the penalties arrive and whatever moves the score in between.
-/

namespace ReviewGate

open Engine

variable {K : Type}

/-! ## One penalty -/

namespace PenaltyPolicy

/-- No penalty is free. -/
theorem effective_pos {config : TrustConfig Rat} (bounded : config.Bounded)
    (kind : PenaltyType) (honesty : Honesty) (stage : Stage) :
    0 < config.penalties.effective kind honesty stage := by
  have lossAversion : 0 < config.penalties.lossAversion := by linarith [bounded.lossAversion]
  have maliciousFactor : 0 < config.penalties.maliciousFactor := by
    linarith [bounded.maliciousFactor]
  have multiplier : 0 < config.penalties.stageMultipliers.get stage := by
    linarith [bounded.stageMultipliers stage]
  have magnitude : 0 < config.penalties.baseMagnitude kind := by
    unfold baseMagnitude
    cases found : config.penalties.baseMagnitudes kind with
    | none => cases kind <;> norm_num [PenaltyType.defaultMagnitude]
    | some magnitude =>
        change 0 < magnitude
        linarith [bounded.baseMagnitudes kind magnitude found]
  have loss := mul_pos magnitude lossAversion
  cases honesty with
  | honest => exact mul_pos loss multiplier
  | malicious => exact mul_pos (mul_pos loss maliciousFactor) multiplier

/-- A penalty takes what it would take or what is left of the cap. -/
theorem charge_within {config : TrustConfig Rat} (bounded : config.Bounded) {score dailySum : Rat}
    {kind : PenaltyType} {honesty : Honesty} {stage : Stage} {outcome : PenaltyOutcome Rat}
    (capped : dailySum ≤ config.penalties.dailyCap)
    (done : config.penalties.charge score kind honesty stage dailySum = .ok outcome) :
    0 ≤ outcome.applied ∧ dailySum + outcome.applied ≤ config.penalties.dailyCap ∧
      outcome.dailySum = dailySum + outcome.applied := by
  unfold charge at done
  obtain ⟨_, -, done⟩ := bind_eq_ok_iff.mp done
  obtain ⟨_, -, done⟩ := bind_eq_ok_iff.mp done
  cases done
  dsimp only
  rw [Scalar.smaller_rat, Scalar.larger_rat]
  have effective := (effective_pos bounded kind honesty stage).le
  have room : max (config.penalties.dailyCap - dailySum) 0.0 =
      config.penalties.dailyCap - dailySum := max_eq_left (by linarith)
  rw [room]
  refine ⟨le_min effective (by linarith), ?_, rfl⟩
  linarith [min_le_right (config.penalties.effective kind honesty stage)
    (config.penalties.dailyCap - dailySum)]

end PenaltyPolicy

/-! ## What a run shows of one identity -/

/-- The day that penalties of an identity count for after a step, and what the step has charged. -/
structure Mark where
  day : Day
  applied : Rat

namespace Engine

variable [KeyProvider K]

/-- What a step charges an identity. -/
def charge (engine : Engine Rat K) (identity : String) : Turn Rat → Rat
  | .operation _ (.penalize event) =>
      if event.identity = identity then
        match engine.applyPenalty event with
        | .ok (outcome, _) => outcome.applied
        | .error _ => 0
      else 0
  | _ => 0

/-- One more step, with a mark if the identity is registered after it. -/
def observe (identity : String) (seen : Engine Rat K × List Mark) (turn : Turn Rat) :
    Engine Rat K × List Mark :=
  let (engine, marks) := seen
  let later := engine.step turn
  (later, match later.record? identity with
    | some record => ⟨record.penaltyDay, engine.charge identity turn⟩ :: marks
    | none => marks)

/-- The marks of a run, newest first. -/
def marks (engine : Engine Rat K) (identity : String) (turns : List (Turn Rat)) : List Mark :=
  (turns.foldl (observe identity) (engine, [])).2

theorem foldl_observe_fst (identity : String) (seen : Engine Rat K × List Mark)
    (turns : List (Turn Rat)) :
    (turns.foldl (observe identity) seen).1 = seen.1.run turns := by
  induction turns generalizing seen with
  | nil => rfl
  | cons turn rest inductionHypothesis => exact inductionHypothesis _

end Engine

/-! ## The invariant -/

/-- What the marks of an identity say about its record: days do not go back, the sum of the current
day is what was charged since the day changed, and every earlier day has cost the cap at most. -/
structure IdentityRecord.Marked (cap : Rat) (record : IdentityRecord Rat) (marks : List Mark) :
    Prop where
  nonneg : 0 ≤ record.dailyPenaltySum
  capped : record.dailyPenaltySum ≤ cap
  latest : marks.head?.map Mark.day = some record.penaltyDay
  ordered : marks.Pairwise fun later earlier => earlier.day.number ≤ later.day.number
  since : record.dailyPenaltySum =
    ((marks.takeWhile fun mark => mark.day = record.penaltyDay).map Mark.applied).sum
  total : (marks.map Mark.applied).sum + cap ≤
    cap * (marks.map Mark.day).toFinset.card + record.dailyPenaltySum

namespace IdentityRecord.Marked

variable {cap applied : Rat} {record later : IdentityRecord Rat} {marks : List Mark}

/-- No mark is of a later day than the record. -/
theorem number_le (marked : record.Marked cap marks) :
    ∀ mark ∈ marks, mark.day.number ≤ record.penaltyDay.number := by
  have latest := marked.latest
  have ordered := marked.ordered
  cases marks with
  | nil => cases latest
  | cons newest rest =>
      injection latest with same
      intro mark membership
      rw [← same]
      rcases List.mem_cons.mp membership with rfl | older
      · exact le_refl _
      · exact (List.pairwise_cons.mp ordered).1 mark older

theorem mem_days (marked : record.Marked cap marks) :
    record.penaltyDay ∈ (marks.map Mark.day).toFinset := by
  obtain ⟨mark, newest, same⟩ := Option.map_eq_some_iff.mp marked.latest
  rw [List.mem_toFinset, ← same]
  exact List.mem_map_of_mem (List.mem_of_head? newest)

/-- Registration is the first mark. -/
theorem first (positive : 0 ≤ cap) (sum : record.dailyPenaltySum = 0) :
    record.Marked cap [⟨record.penaltyDay, 0⟩] := by
  constructor
  case nonneg => rw [sum]
  case capped => rwa [sum]
  case latest => rfl
  case ordered => exact List.pairwise_singleton _ _
  case since => simp [sum]
  case total => simp [sum]

/-- A charge on the day that is being counted. -/
theorem sameDay (marked : record.Marked cap marks) (positive : 0 ≤ applied)
    (day : later.penaltyDay = record.penaltyDay)
    (sum : later.dailyPenaltySum = record.dailyPenaltySum + applied)
    (within : record.dailyPenaltySum + applied ≤ cap) :
    later.Marked cap (⟨later.penaltyDay, applied⟩ :: marks) := by
  constructor
  case nonneg => linarith [marked.nonneg]
  case capped => linarith
  case latest => rfl
  case ordered =>
    rw [List.pairwise_cons, day]
    exact ⟨marked.number_le, marked.ordered⟩
  case since =>
    rw [List.takeWhile_cons_of_pos (by simp), List.map_cons, List.sum_cons, day, ← marked.since,
      sum, add_comm]
  case total =>
    rw [List.map_cons, List.map_cons, List.sum_cons, List.toFinset_cons, day,
      Finset.insert_eq_of_mem marked.mem_days]
    linarith [marked.total]

/-- A charge on a later day. -/
theorem newDay (marked : record.Marked cap marks) (positive : 0 ≤ applied)
    (day : record.penaltyDay.number < later.penaltyDay.number)
    (sum : later.dailyPenaltySum = applied) (within : applied ≤ cap) :
    later.Marked cap (⟨later.penaltyDay, applied⟩ :: marks) := by
  have earlier : ∀ mark ∈ marks, mark.day.number < later.penaltyDay.number :=
    fun mark membership => lt_of_le_of_lt (marked.number_le mark membership) day
  constructor
  case nonneg => rwa [sum]
  case capped => rwa [sum]
  case latest => rfl
  case ordered =>
    rw [List.pairwise_cons]
    exact ⟨fun mark membership => (earlier mark membership).le, marked.ordered⟩
  case since =>
    have closed : marks.takeWhile (fun mark => mark.day = later.penaltyDay) = [] := by
      cases marks with
      | nil => rfl
      | cons newest rest =>
          refine List.takeWhile_cons_of_neg ?_
          intro same
          have same : newest.day = later.penaltyDay := of_decide_eq_true same
          have before := earlier newest List.mem_cons_self
          rw [same] at before
          exact lt_irrefl _ before
    rw [List.takeWhile_cons_of_pos (by simp), closed, sum]
    simp
  case total =>
    have fresh : later.penaltyDay ∉ (marks.map Mark.day).toFinset := by
      rw [List.mem_toFinset]
      intro seen
      obtain ⟨mark, membership, same⟩ := List.mem_map.mp seen
      have before := earlier mark membership
      rw [same] at before
      exact lt_irrefl _ before
    rw [List.map_cons, List.map_cons, List.sum_cons, List.toFinset_cons,
      Finset.card_insert_of_notMem fresh, sum]
    push_cast
    linarith [marked.total, marked.capped]

end IdentityRecord.Marked

namespace Engine

variable [KeyProvider K]

/-- The engine is at rest, and the marks seen so far are those of the record, if there is one. -/
structure Watched (identity : String) (seen : Engine Rat K × List Mark) : Prop
    extends seen.1.AtRest where
  bounded : seen.1.config.Bounded
  unmarked : seen.1.record? identity = none → seen.2 = []
  marked : ∀ record, seen.1.record? identity = some record →
    record.Marked seen.1.config.penalties.dailyCap seen.2

/-- The day that penalties of an identity count for, and what they took on it. -/
def tally (engine : Engine Rat K) (identity : String) : Option (Day × Rat) :=
  (engine.record? identity).map fun record => (record.penaltyDay, record.dailyPenaltySum)

namespace Watched

variable {identity : String} {engine : Engine Rat K} {marks : List Mark} {turn : Turn Rat}

/-- A step is seen when the record after it has its mark. -/
theorem seen (watched : Watched identity (engine, marks)) (rest : (engine.step turn).AtRest)
    (config : (engine.step turn).config = engine.config)
    (missing : (engine.step turn).record? identity = none → engine.record? identity = none)
    (marked : ∀ stored, (engine.step turn).record? identity = some stored →
      stored.Marked engine.config.penalties.dailyCap
        (⟨stored.penaltyDay, engine.charge identity turn⟩ :: marks)) :
    Watched identity (observe identity (engine, marks) turn) := by
  refine ⟨rest, ?_, ?_, ?_⟩
  · dsimp only [observe]
    rw [config]
    exact watched.bounded
  · dsimp only [observe]
    intro absent
    rw [absent]
    exact watched.unmarked (missing absent)
  · dsimp only [observe]
    intro stored found
    rw [found, config]
    exact marked stored found

/-- A step that charges nothing and leaves day and sum alone. -/
theorem kept (watched : Watched identity (engine, marks)) (rest : (engine.step turn).AtRest)
    (config : (engine.step turn).config = engine.config)
    (uncharged : engine.charge identity turn = 0)
    (same : (engine.step turn).tally identity = engine.tally identity) :
    Watched identity (observe identity (engine, marks) turn) := by
  unfold tally at same
  apply watched.seen rest config
  · intro absent
    rw [absent] at same
    exact Option.map_eq_none_iff.mp same.symm
  · intro stored found
    rw [found] at same
    obtain ⟨record, before, agree⟩ := Option.map_eq_some_iff.mp same.symm
    injection agree with day sum
    have marked := watched.marked record before
    rw [uncharged]
    exact marked.sameDay (le_refl 0) day.symm (by rw [← sum, add_zero])
      (by rw [add_zero]; exact marked.capped)

/-- The first step after which the identity is registered. -/
theorem enrolled (watched : Watched identity (engine, marks)) (rest : (engine.step turn).AtRest)
    (config : (engine.step turn).config = engine.config)
    (uncharged : engine.charge identity turn = 0) (absent : engine.record? identity = none)
    (sum : ∀ stored, (engine.step turn).record? identity = some stored →
      stored.dailyPenaltySum = 0) :
    Watched identity (observe identity (engine, marks) turn) := by
  apply watched.seen rest config (fun _ => absent)
  intro stored found
  have unmarked : marks = [] := watched.unmarked absent
  rw [uncharged, unmarked]
  exact .first (by linarith [watched.bounded.dailyCap]) (sum stored found)

end Watched

omit [KeyProvider K] in
theorem tally_eq {engine : Engine Rat K} {identity : String} {record : IdentityRecord Rat}
    (found : engine.record? identity = some record) :
    engine.tally identity = some (record.penaltyDay, record.dailyPenaltySum) := by
  rw [tally, found, Option.map_some]

/-- Apart from penalties, a change enters a record with an empty sum or leaves day and sum alone. -/
theorem Change.tally {engine : Engine Rat K} (keyed : engine.Keyed) {now : Instant}
    {operation : Operation Rat} {records : List LedgerRecord} {record : IdentityRecord Rat}
    {keys : K} (change : engine.Change now operation records record keys)
    (free : ∀ event, operation ≠ .penalize event) :
    engine.record? record.id = none ∧ record.dailyPenaltySum = 0 ∨
      engine.tally record.id = some (record.penaltyDay, record.dailyPenaltySum) := by
  have owned := change.id_eq keyed
  rw [owned]
  cases change with
  | register role absent => exact .inl ⟨absent, Scalar.zero_rat⟩
  | @commit asked prepared record found ready =>
      refine .inr ((tally_eq found).trans ?_)
      unfold settledRecord
      cases prepared.update <;> cases prepared.coolingOffUntil <;> rfl
  | penalize => exact absurd rfl (free _)
  | drift found | rotate found =>
      have kept := tally_eq found
      exact .inr kept

namespace Watched

variable {identity : String} {engine : Engine Rat K} {marks : List Mark}

theorem operate (watched : Watched identity (engine, marks)) (now : Instant)
    {operation : Operation Rat} (free : ∀ event, operation ≠ .penalize event) :
    Watched identity (observe identity (engine, marks) (.operation now operation)) := by
  have rest : (engine.step (.operation now operation)).AtRest := watched.attempt now operation
  have config : (engine.step (.operation now operation)).config = engine.config :=
    watched.config_attempt now operation
  have uncharged : engine.charge identity (.operation now operation) = 0 := by
    cases operation with
    | penalize event => exact absurd rfl (free event)
    | register | commit | drift | rotate => rfl
  rcases attempt_cases now (watched.free operation.identity) with
    ⟨keys, -, same⟩ | ⟨records, record, keys, history, change, same⟩
  · apply watched.kept rest config uncharged
    rw [step, same]
    rfl
  · have later : engine.step (.operation now operation) =
        engine.changed records record keys history := congrArg Prod.snd same
    by_cases about : record.id = identity
    · rcases change.tally watched.keyed free with ⟨absent, empty⟩ | untouched
      · rw [about] at absent
        apply watched.enrolled rest config uncharged absent
        intro stored found
        rw [later, record?_changed, if_pos about] at found
        cases found
        exact empty
      · rw [about] at untouched
        apply watched.kept rest config uncharged
        rw [later, untouched]
        exact tally_eq (by rw [record?_changed, if_pos about])
    · apply watched.kept rest config uncharged
      rw [later, tally, tally, record?_changed, if_neg about]

/-- A penalty counts for the day of the record, or for a later day of its own. -/
theorem marked_chargedRecord {config : TrustConfig Rat} (bounded : config.Bounded)
    {record : IdentityRecord Rat}
    (marked : record.Marked config.penalties.dailyCap marks) {event : PenaltyEvent} {stage : Stage}
    {outcome : PenaltyOutcome Rat}
    (charged : config.penalties.charge record.trustScore event.kind event.honesty stage
      (penaltyDay record event.timestamp).2 = .ok outcome) :
    (chargedRecord record event (penaltyDay record event.timestamp).1 outcome).Marked
      config.penalties.dailyCap
      (⟨(penaltyDay record event.timestamp).1, outcome.applied⟩ :: marks) := by
  by_cases newer : record.penaltyDay.number < event.timestamp.day.number
  · have moved : penaltyDay record event.timestamp = (event.timestamp.day, 0.0) := if_pos newer
    rw [moved] at charged ⊢
    obtain ⟨positive, within, sum⟩ :=
      PenaltyPolicy.charge_within bounded bounded.dailyCap.le charged
    rw [Scalar.zero_rat, zero_add] at within sum
    exact marked.newDay positive newer sum within
  · have stays : penaltyDay record event.timestamp =
        (record.penaltyDay, record.dailyPenaltySum) := if_neg newer
    rw [stays] at charged ⊢
    obtain ⟨positive, within, sum⟩ := PenaltyPolicy.charge_within bounded marked.capped charged
    exact marked.sameDay positive rfl sum within

theorem penalize (watched : Watched identity (engine, marks)) (now : Instant)
    (event : PenaltyEvent) :
    Watched identity (observe identity (engine, marks) (.operation now (.penalize event))) := by
  have rest : (engine.step (.operation now (.penalize event))).AtRest :=
    watched.attempt now (.penalize event)
  have config : (engine.step (.operation now (.penalize event))).config = engine.config :=
    watched.config_attempt now (.penalize event)
  cases done : engine.applyPenalty event with
  | error cause =>
      have same : engine.step (.operation now (.penalize event)) = engine := by
        rw [step, attempt_penalize, done]
      apply watched.kept rest config
      · simp [charge, done]
      · rw [same]
  | ok answer =>
      obtain ⟨outcome, later⟩ := answer
      obtain ⟨record, found, charged, -, same⟩ := applyPenalty_cases done
      have owned : record.id = event.identity := watched.keyed _ _ found
      have lookup : (engine.step (.operation now (.penalize event))).record? identity =
          if record.id = identity then
            some (chargedRecord record event (penaltyDay record event.timestamp).1 outcome)
          else engine.record? identity := by
        rw [step, attempt_penalize, done, same]
        exact record?_put engine _ identity
      rw [owned] at lookup
      by_cases about : event.identity = identity
      · rw [if_pos about] at lookup
        have taken : engine.charge identity (.operation now (.penalize event)) =
            outcome.applied := by
          simp [charge, about, done]
        apply watched.seen rest config
        · intro absent
          rw [lookup] at absent
          cases absent
        · intro stored stays
          rw [lookup] at stays
          cases stays
          rw [taken]
          rw [about] at found
          exact marked_chargedRecord watched.bounded (watched.marked record found) charged
      · rw [if_neg about] at lookup
        apply watched.kept rest config
        · simp [charge, about]
        · rw [tally, tally, lookup]

theorem observe (watched : Watched identity (engine, marks)) (turn : Turn Rat) :
    Watched identity (Engine.observe identity (engine, marks) turn) := by
  cases turn with
  | refusal refusal => exact watched.kept ⟨watched.keyed, watched.unheld⟩ rfl rfl rfl
  | operation now operation =>
      cases operation with
      | penalize event => exact watched.penalize now event
      | register | commit | drift | rotate => exact watched.operate now nofun

end Watched

omit [KeyProvider K] in
/-- A started engine has been watched for nothing yet. -/
theorem watched_of_start {config : TrustConfig Rat} {keys : K} {engine : Engine Rat K}
    (started : Engine.start config keys = .ok engine) (identity : String) :
    Watched identity (engine, []) := by
  have unknown := record?_of_start started identity
  refine ⟨.of_start started, ?_, fun _ => rfl, ?_⟩
  · rw [(start_eq_ok started).2]
    exact TrustConfig.bounded_of_validate (start_eq_ok started).1
  · intro record found
    rw [unknown] at found
    cases found

theorem Watched.foldl {identity : String} {seen : Engine Rat K × List Mark}
    (watched : Watched identity seen) (turns : List (Turn Rat)) :
    Watched identity (turns.foldl (Engine.observe identity) seen) := by
  induction turns generalizing seen with
  | nil => exact watched
  | cons turn rest inductionHypothesis => exact inductionHypothesis (watched.observe turn)

/-- Whatever moves the score and in whatever order penalties arrive: the day they count for does not
go back, its sum is what has been charged since it changed and stays within the cap, and a run
charges the cap at most for each day that penalties have counted for. -/
theorem dailyCap_of_run {config : TrustConfig Rat} {keys : K} {engine : Engine Rat K}
    (started : Engine.start config keys = .ok engine) (identity : String)
    (turns : List (Turn Rat)) :
    ((engine.marks identity turns).Pairwise fun later earlier =>
      earlier.day.number ≤ later.day.number) ∧
    ((engine.marks identity turns).map Mark.applied).sum ≤ config.penalties.dailyCap *
      ((engine.marks identity turns).map Mark.day).toFinset.card ∧
    ∀ record, (engine.run turns).record? identity = some record →
      0 ≤ record.dailyPenaltySum ∧ record.dailyPenaltySum ≤ config.penalties.dailyCap ∧
      (engine.marks identity turns).head?.map Mark.day = some record.penaltyDay ∧
      record.dailyPenaltySum = (((engine.marks identity turns).takeWhile fun mark =>
        mark.day = record.penaltyDay).map Mark.applied).sum := by
  have watched := (watched_of_start started identity).foldl turns
  have last := foldl_observe_fst identity (engine, []) turns
  have same : (engine.run turns).config = config := by
    rw [(AtRest.of_start started).config_run, (start_eq_ok started).2]
  have marked := watched.marked
  rw [last, same] at marked
  have unmarked := watched.unmarked
  rw [last] at unmarked
  unfold marks
  generalize (turns.foldl (observe identity) (engine, [])).2 = marks at marked unmarked
  cases found : (engine.run turns).record? identity with
  | none =>
      rw [unmarked found]
      refine ⟨.nil, by simp, ?_⟩
      rintro record ⟨⟩
  | some record =>
      have marked := marked record found
      refine ⟨marked.ordered, ?_, ?_⟩
      · linarith [marked.total, marked.capped]
      · rintro stored ⟨⟩
        exact ⟨marked.nonneg, marked.capped, marked.latest, marked.since⟩

/-- Three penalties on the day of registration, the third beyond the cap; one on the fourth day; and
one for the second day that arrives late. -/
def disorder : List (Turn Rat) :=
  .operation Small.now (.register "ann" .judge 0.9) :: [0, 0, 0, 3, 1].map fun day =>
    .operation Small.now
      (.penalize ⟨"ann", .secretExposure, .honest, "", ⟨day * 86400, 0⟩⟩)

theorem dailyCap_disorder :
    ∃ engine : Engine Rat LocalKeys,
      Engine.start .default Small.keys = .ok engine ∧
      (engine.marks "ann" disorder).map Mark.day = [⟨3⟩, ⟨3⟩, ⟨0⟩, ⟨0⟩, ⟨0⟩, ⟨0⟩] ∧
      ((engine.marks "ann" disorder).map Mark.applied).sum ≤ 0.25 * 2 ∧
      ∃ record, (engine.run disorder).record? "ann" = some record ∧
        record.penaltyDay.number = 3 ∧ 0 ≤ record.dailyPenaltySum ∧
        record.dailyPenaltySum ≤ 0.25 := by
  have valid : (.default : TrustConfig Rat).validate = .ok () :=
    eq_ok_of_toOption (by decide +kernel)
  have started : Engine.start (.default : TrustConfig Rat) Small.keys =
      .ok ⟨.default, [], [], [], fun _ => none, Small.keys, []⟩ := by
    rw [Engine.start, valid]
    rfl
  obtain ⟨-, total, sums⟩ := dailyCap_of_run started "ann" disorder
  generalize ready : (⟨.default, [], [], [], fun _ => none, Small.keys, []⟩ :
    Engine Rat LocalKeys) = engine at started total sums
  have days : (engine.marks "ann" disorder).map Mark.day = [⟨3⟩, ⟨3⟩, ⟨0⟩, ⟨0⟩, ⟨0⟩, ⟨0⟩] := by
    subst ready
    decide +kernel
  have last : ((engine.run disorder).record? "ann").map (fun record => record.penaltyDay.number) =
      some 3 := by
    subst ready
    decide +kernel
  have cap : (.default : TrustConfig Rat).penalties.dailyCap = 0.25 := rfl
  obtain ⟨record, found, day⟩ := Option.map_eq_some_iff.mp last
  obtain ⟨low, high, -, -⟩ := sums record found
  have distinct : ((engine.marks "ann" disorder).map Mark.day).toFinset.card = 2 := by
    rw [days]
    decide
  rw [distinct, cap, Nat.cast_ofNat] at total
  rw [cap] at high
  exact ⟨engine, started, days, total, record, found, day, low, high⟩

end Engine

end ReviewGate
