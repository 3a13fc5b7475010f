import Mathlib.Tactic.Linarith
import Mathlib.Tactic.Ring
import ReviewGate.Proofs.Number.Rational
import ReviewGate.Proofs.Trust.Policy
import ReviewGate.Proofs.Trust.Service

/-!
# Blended outcomes

In exact arithmetic an outcome takes a score to a place between the two, on probation not below the
floor, and the order of two identities of the same age and experience is kept by outcomes in that
order.
-/

namespace ReviewGate

/-! ## One outcome -/

/-- An average lies between a score and an outcome. -/
theorem blend_between {retention : Rat} (low : 0 < retention) (high : retention < 1)
    (score outcome : Rat) :
    min score outcome ≤ blend retention score outcome ∧
      blend retention score outcome ≤ max score outcome := by
  unfold blend
  rw [Scalar.one_rat]
  have rest : 0 ≤ 1 - retention := by linarith
  constructor
  · calc min score outcome
        = retention * min score outcome + (1 - retention) * min score outcome := by ring
      _ ≤ retention * score + (1 - retention) * outcome := by
          gcongr
          · exact min_le_left score outcome
          · exact min_le_right score outcome
  · calc retention * score + (1 - retention) * outcome
        ≤ retention * max score outcome + (1 - retention) * max score outcome := by
          gcongr
          · exact le_max_left score outcome
          · exact le_max_right score outcome
      _ = max score outcome := by ring

theorem blend_le_blend {retention : Rat} (low : 0 < retention) (high : retention < 1)
    {score other outcome better : Rat} (scores : score ≤ other) (outcomes : outcome ≤ better) :
    blend retention score outcome ≤ blend retention other better := by
  unfold blend
  rw [Scalar.one_rat]
  have rest : 0 ≤ 1 - retention := by linarith
  gcongr

namespace TrustConfig

/-- A score after an outcome. -/
def averaged {R : Type} [Scalar R] (config : TrustConfig R) (createdAt : Instant)
    (verifications : Nat) (now : Instant) (context : RiskContext) (score outcome : R) : R :=
  let blended := Scalar.clampUnit (blend (config.retention.get context) score outcome)
  if config.probation.covers createdAt verifications now then
    Scalar.larger blended (Scalar.smaller config.probation.floor score)
  else blended

theorem newScore_scoreUpdate {R K : Type} [Scalar R] (engine : Engine R K)
    (record : IdentityRecord R) (outcome : R) (context : RiskContext) (reference : Option String)
    (now : Instant) :
    (engine.scoreUpdate record outcome context reference now).newScore =
      engine.config.averaged record.createdAt record.verificationCount now context
        record.trustScore outcome := by
  simp only [Engine.scoreUpdate, averaged]

variable {config : TrustConfig Rat} {score other outcome better : Rat}

theorem retention_rat (valid : config.validate = .ok ()) (context : RiskContext) :
    0 < config.retention.get context ∧ config.retention.get context < 1 := by
  have between := retention_of_validate valid context
  rwa [Scalar.zero_rat, Scalar.one_rat] at between

variable (createdAt : Instant) (verifications : Nat) (now : Instant) (context : RiskContext)

theorem averaged_eq (valid : config.validate = .ok ()) (within : Scalar.InUnit score)
    (told : Scalar.InUnit outcome) :
    config.averaged createdAt verifications now context score outcome =
      if config.probation.covers createdAt verifications now then
        max (blend (config.retention.get context) score outcome)
          (min config.probation.floor score)
      else blend (config.retention.get context) score outcome := by
  obtain ⟨low, high⟩ := retention_rat valid context
  obtain ⟨above, below⟩ := blend_between low high score outcome
  rw [Scalar.inUnit_rat_iff] at within told
  have inside := Scalar.clampUnit_rat ((le_min within.1 told.1).trans above)
    (below.trans (max_le within.2 told.2))
  unfold averaged
  dsimp only
  rw [inside, Scalar.larger_rat, Scalar.smaller_rat]

/-- A new score lies between the old one and the outcome. -/
theorem averaged_between (valid : config.validate = .ok ()) (within : Scalar.InUnit score)
    (told : Scalar.InUnit outcome) :
    min score outcome ≤ config.averaged createdAt verifications now context score outcome ∧
      config.averaged createdAt verifications now context score outcome ≤ max score outcome := by
  obtain ⟨low, high⟩ := retention_rat valid context
  obtain ⟨above, below⟩ := blend_between low high score outcome
  rw [averaged_eq createdAt verifications now context valid within told]
  split
  · exact ⟨above.trans (le_max_left _ _),
      max_le below ((min_le_right _ _).trans (le_max_left _ _))⟩
  · exact ⟨above, below⟩

theorem inUnit_averaged (valid : config.validate = .ok ()) (within : Scalar.InUnit score)
    (told : Scalar.InUnit outcome) :
    Scalar.InUnit (config.averaged createdAt verifications now context score outcome) := by
  obtain ⟨above, below⟩ := averaged_between createdAt verifications now context valid within told
  rw [Scalar.inUnit_rat_iff] at *
  exact ⟨(le_min within.1 told.1).trans above, below.trans (max_le within.2 told.2)⟩

/-- On probation an outcome takes no score below the floor. -/
theorem floor_le_averaged (valid : config.validate = .ok ()) (within : Scalar.InUnit score)
    (told : Scalar.InUnit outcome)
    (young : config.probation.covers createdAt verifications now = true) :
    min config.probation.floor score ≤
      config.averaged createdAt verifications now context score outcome := by
  rw [averaged_eq createdAt verifications now context valid within told, if_pos young]
  exact le_max_right _ _

/-- A better outcome on a better score makes a better score. -/
theorem averaged_le_averaged (valid : config.validate = .ok ()) (within : Scalar.InUnit score)
    (otherWithin : Scalar.InUnit other) (told : Scalar.InUnit outcome)
    (betterTold : Scalar.InUnit better) (scores : score ≤ other) (outcomes : outcome ≤ better) :
    config.averaged createdAt verifications now context score outcome ≤
      config.averaged createdAt verifications now context other better := by
  obtain ⟨low, high⟩ := retention_rat valid context
  have blends := blend_le_blend low high scores outcomes
  rw [averaged_eq createdAt verifications now context valid within told,
    averaged_eq createdAt verifications now context valid otherWithin betterTold]
  split
  · exact max_le_max blends (min_le_min_left _ scores)
  · exact blends

end TrustConfig

/-! ## Outcomes one after another -/

namespace Engine

/-- A request to blend an outcome in, with nothing but the ledger in its way. -/
inductive TellsOutcome (config : TrustConfig Rat) :
    Instant × Operation Rat → RiskContext → Rat → Prop where
  | commit {now : Instant} {asked : Commit Rat} {outcome : Rat} {context : RiskContext}
      (told : asked.update = some (outcome, context)) (feasible : asked.IsFeasible config now) :
      TellsOutcome config (now, .commit asked) context outcome

/-- A score and a number of verifications after a request. -/
def average (config : TrustConfig Rat) (createdAt : Instant) (state : Rat × Nat) :
    Instant × Operation Rat → Rat × Nat
  | (now, .commit asked) =>
      match asked.update with
      | some (outcome, context) =>
          (config.averaged createdAt state.2 now context state.1 outcome, state.2 + 1)
      | none => state
  | _ => state

theorem TellsOutcome.inUnit {config : TrustConfig Rat} {request : Instant × Operation Rat}
    {context : RiskContext} {outcome : Rat} (tells : TellsOutcome config request context outcome) :
    Scalar.InUnit outcome := by
  cases tells with
  | commit told feasible => exact feasible.outcome _ told

theorem average_eq {config : TrustConfig Rat} {request : Instant × Operation Rat}
    {context : RiskContext} {outcome : Rat} (tells : TellsOutcome config request context outcome)
    (createdAt : Instant) (state : Rat × Nat) :
    average config createdAt state request =
      (config.averaged createdAt state.2 request.1 context state.1 outcome, state.2 + 1) := by
  cases tells with
  | commit told feasible =>
      dsimp only [average]
      rw [told]

/-- Two outcomes told at one instant and in one context, the second as good as the first or
better. -/
def Rivals (config : TrustConfig Rat) (first second : Instant × Operation Rat) : Prop :=
  first.1 = second.1 ∧ ∃ context outcome better, TellsOutcome config first context outcome ∧
    TellsOutcome config second context better ∧ outcome ≤ better

theorem tells_of_rivals {config : TrustConfig Rat}
    {requests rivals : List (Instant × Operation Rat)}
    (alike : List.Forall₂ (Rivals config) requests rivals) :
    (∀ request ∈ requests, ∃ context outcome, TellsOutcome config request context outcome) ∧
      ∀ request ∈ rivals, ∃ context outcome, TellsOutcome config request context outcome := by
  induction alike with
  | nil => exact ⟨nofun, nofun⟩
  | cons rivals _ inductionHypothesis =>
      obtain ⟨-, context, outcome, better, tells, rivalTells, -⟩ := rivals
      exact ⟨List.forall_mem_cons.mpr ⟨⟨context, outcome, tells⟩, inductionHypothesis.1⟩,
        List.forall_mem_cons.mpr ⟨⟨context, better, rivalTells⟩, inductionHypothesis.2⟩⟩

/-- Better outcomes on a better score make better scores all along. -/
theorem averages_le {config : TrustConfig Rat} (valid : config.validate = .ok ())
    (createdAt : Instant) {requests rivals : List (Instant × Operation Rat)}
    (alike : List.Forall₂ (Rivals config) requests rivals) {score other : Rat} (count : Nat)
    (within : Scalar.InUnit score) (otherWithin : Scalar.InUnit other) (le : score ≤ other) :
    let first := requests.foldl (average config createdAt) (score, count)
    let second := rivals.foldl (average config createdAt) (other, count)
    Scalar.InUnit first.1 ∧ Scalar.InUnit second.1 ∧ first.1 ≤ second.1 ∧
      first.2 = count + requests.length := by
  induction alike generalizing score other count with
  | nil => exact ⟨within, otherWithin, le, rfl⟩
  | cons rivals _ inductionHypothesis =>
      obtain ⟨instant, context, outcome, better, tells, rivalTells, outcomes⟩ := rivals
      rw [List.foldl_cons, List.foldl_cons, average_eq tells, average_eq rivalTells, ← instant]
      obtain ⟨first, second, kept, counted⟩ := inductionHypothesis (count + 1)
        (TrustConfig.inUnit_averaged _ _ _ _ valid within tells.inUnit)
        (TrustConfig.inUnit_averaged _ _ _ _ valid otherWithin rivalTells.inUnit)
        (TrustConfig.averaged_le_averaged _ _ _ _ valid within otherWithin tells.inUnit
          rivalTells.inUnit le outcomes)
      exact ⟨first, second, kept, counted.trans (by rw [List.length_cons]; omega)⟩

variable {K : Type} [KeyProvider K] {engine : Engine Rat K} {identity : String}

theorem settledRecord_of_update {R : Type} (record : IdentityRecord R)
    {prepared : PreparedCommit R} {update : ScoreUpdate R} (told : prepared.update = some update) :
    (settledRecord record prepared).createdAt = record.createdAt ∧
      (settledRecord record prepared).trustScore = update.newScore ∧
      (settledRecord record prepared).verificationCount = record.verificationCount + 1 := by
  unfold settledRecord
  rw [told]
  cases prepared.coolingOffUntil <;> exact ⟨rfl, rfl, rfl⟩

/-- A run that asks nothing else of an identity averages its outcomes. -/
theorem averages_run (rest : engine.AtRest) {turns : List (Turn Rat)}
    {record : IdentityRecord Rat} (found : engine.record? identity = some record)
    (serves : engine.Serves identity turns)
    (tells : ∀ request ∈ requests identity turns, ∃ context outcome,
      TellsOutcome engine.config request context outcome) :
    ∃ last, (engine.run turns).record? identity = some last ∧ last.createdAt = record.createdAt ∧
      (last.trustScore, last.verificationCount) =
        (requests identity turns).foldl (average engine.config record.createdAt)
          (record.trustScore, record.verificationCount) := by
  refine serves.run_induct rest (motive := fun done last => last.createdAt = record.createdAt ∧
    (last.trustScore, last.verificationCount) =
      done.foldl (average engine.config record.createdAt)
        (record.trustScore, record.verificationCount)) found ⟨rfl, rfl⟩ ?_
  rintro reached earlier now operation before resting config within known rfl accepts
    ⟨created, averaged⟩
  obtain ⟨context, outcome, told⟩ := tells (now, operation) (within.subset (by simp))
  rw [List.foldl_concat, ← averaged, average_eq told, ← config, ← created]
  rw [← config] at told
  cases told with
  | commit told feasible =>
      obtain ⟨-, stored⟩ := record?_attempt_commit resting accepts known feasible
      obtain ⟨createdAt, score, count⟩ := settledRecord_of_update before
        (update_preparedFor reached before now told)
      rw [TrustConfig.newScore_scoreUpdate] at score
      exact ⟨_, stored, createdAt, by rw [score, count]⟩

/-- The same run up to two places at which as many outcomes of two identities have been told. -/
theorem averages_le_of_run (rest : engine.AtRest) (valid : engine.config.validate = .ok ())
    {turns begun further : List (Turn Rat)} {low high : String} {first second : IdentityRecord Rat}
    (found : engine.record? low = some first) (foundHigh : engine.record? high = some second)
    (within : Scalar.InUnit first.trustScore) (withinHigh : Scalar.InUnit second.trustScore)
    (created : first.createdAt = second.createdAt)
    (counted : first.verificationCount = second.verificationCount)
    (le : first.trustScore ≤ second.trustScore) (serves : engine.Serves low turns)
    (servesHigh : engine.Serves high turns)
    (rivals : List.Forall₂ (Rivals engine.config) (requests low turns) (requests high turns))
    (shorter : begun <+: turns) (shorterHigh : further <+: turns)
    (level : (requests low begun).length = (requests high further).length) :
    ∃ reached rival, (engine.run begun).record? low = some reached ∧
      (engine.run further).record? high = some rival ∧
      Scalar.InUnit reached.trustScore ∧ Scalar.InUnit rival.trustScore ∧
      reached.trustScore ≤ rival.trustScore ∧
      reached.verificationCount = first.verificationCount + (requests low begun).length := by
  have taken : ∀ {identity : String} {part : List (Turn Rat)}, part <+: turns →
      requests identity part =
        (requests identity turns).take (requests identity part).length := by
    rintro identity part ⟨later, rfl⟩
    rw [requests_append, List.take_left]
  have alike :
      List.Forall₂ (Rivals engine.config) (requests low begun) (requests high further) := by
    have both := List.forall₂_take (requests low begun).length rivals
    rwa [← taken shorter, level, ← taken shorterHigh] at both
  -- each run is the average of its own outcomes, and these are compared one by one
  obtain ⟨tells, rivalTells⟩ := tells_of_rivals alike
  obtain ⟨reached, stored, -, averaged⟩ :=
    averages_run rest found (serves.earlier shorter) tells
  obtain ⟨rival, rivalStored, -, rivalAveraged⟩ :=
    averages_run rest foundHigh (servesHigh.earlier shorterHigh) rivalTells
  obtain ⟨inside, rivalInside, kept, count⟩ := averages_le valid first.createdAt alike
    first.verificationCount within withinHigh le
  rw [← averaged] at inside kept count
  rw [counted, created, ← rivalAveraged] at rivalInside kept
  exact ⟨reached, rival, stored, rivalStored, inside, rivalInside, kept, count⟩

/-- Outcomes keep the order of scores and are bounded.  Two identities of the same age and
experience, of which one is told only outcomes that are at most those of the other, told at the same
instants and in the same contexts, stay in their order after every number of outcomes, over a
storage that takes every batch.  In every state, a commit with an outcome takes a score of the unit
interval to a place between the score and the outcome, and on probation not below the floor if the
score has not been below it. -/
theorem outcomes_keep_order {config : TrustConfig Rat} {keys : K} {engine : Engine Rat K}
    (started : Engine.start config keys = .ok engine) :
    (∀ (before after begun further : List (Turn Rat)) (low high : String)
      (first second : IdentityRecord Rat),
      (engine.run before).record? low = some first →
      (engine.run before).record? high = some second →
      Scalar.InUnit first.trustScore → Scalar.InUnit second.trustScore →
      first.createdAt = second.createdAt → first.verificationCount = second.verificationCount →
      first.trustScore ≤ second.trustScore →
      (engine.run before).Serves low after → (engine.run before).Serves high after →
      List.Forall₂ (Rivals config) (requests low after) (requests high after) →
      begun <+: after → further <+: after →
      (requests low begun).length = (requests high further).length →
      ∃ reached rival, (engine.run (before ++ begun)).record? low = some reached ∧
        (engine.run (before ++ further)).record? high = some rival ∧
        Scalar.InUnit reached.trustScore ∧ Scalar.InUnit rival.trustScore ∧
        reached.trustScore ≤ rival.trustScore ∧
        reached.verificationCount = first.verificationCount + (requests low begun).length) ∧
    ∀ (turns : List (Turn Rat)) (now : Instant) (asked : Commit Rat) (old : IdentityRecord Rat)
      (outcome : Rat) (context : RiskContext) (receipt : Receipt Rat) (later : Engine Rat K),
      (engine.run turns).record? asked.identity = some old → Scalar.InUnit old.trustScore →
      asked.update = some (outcome, context) →
      (engine.run turns).commit now asked = .ok (receipt, later) →
      ∃ new, later.record? asked.identity = some new ∧
        min old.trustScore outcome ≤ new.trustScore ∧
        new.trustScore ≤ max old.trustScore outcome ∧
        (config.probation.covers old.createdAt old.verificationCount now = true →
          min config.probation.floor old.trustScore ≤ new.trustScore) := by
  have rest := AtRest.of_start started
  have valid := (start_eq_ok started).1
  have same := config_run_of_start started
  constructor
  · intro before after begun further low high first second found foundHigh within withinHigh created
      counted le serves servesHigh rivals shorter shorterHigh level
    rw [run_append, run_append]
    exact averages_le_of_run (rest.run before) (same before ▸ valid) found foundHigh within
      withinHigh created counted le serves servesHigh (same before ▸ rivals) shorter shorterHigh
      level
  · intro turns now asked old outcome context receipt later found within told done
    obtain ⟨feasible, -, -, rfl⟩ := (commit_eq_ok_iff_of_found asked found).mp done
    obtain ⟨-, score, -⟩ := settledRecord_of_update old
      (update_preparedFor (engine.run turns) old now told)
    have outcomeWithin := feasible.outcome _ told
    refine ⟨_, record?_committed (rest.run turns).keyed found _, ?_⟩
    rw [score, TrustConfig.newScore_scoreUpdate, same]
    obtain ⟨above, below⟩ := TrustConfig.averaged_between old.createdAt old.verificationCount now
      context valid within outcomeWithin
    exact ⟨above, below, TrustConfig.floor_le_averaged _ _ _ _ valid within outcomeWithin⟩

def exactEngine : Engine Rat LocalKeys := ⟨.default, [], [], [], fun _ => none, Small.keys, []⟩

/-- Two identities are registered at one instant, -/
def enlisted : List (Turn Rat) :=
  asking [(Small.now, .register "ann" .judge 0.4), (Small.now, .register "bob" .judge 0.5)]

/-- and at each of three times the second one is told an outcome as good as that of the first or
better. -/
def contest : List (Turn Rat) :=
  asking [(⟨3600, 0⟩, .commit ⟨"ann", [], none, some (0.2, .highRisk), none⟩),
    (⟨3600, 0⟩, .commit ⟨"bob", [], some .honest, some (0.7, .highRisk), none⟩),
    (⟨7200, 0⟩, .commit ⟨"bob", [], none, some (0.9, .lowRisk), none⟩),
    (⟨7200, 0⟩, .commit ⟨"ann", [], none, some (0.9, .lowRisk), none⟩),
    (⟨86400000, 0⟩, .commit ⟨"ann", [], some .honest, some (0, .highRisk), none⟩),
    (⟨86400000, 0⟩, .commit ⟨"bob", [], none, some (0.6, .highRisk), none⟩)]

theorem exists_enlisted (identity : String) (score : Rat)
    (known : ((exactEngine.run enlisted).record? identity).map (fun record =>
      (record.trustScore, record.createdAt, record.verificationCount)) =
        some (score, Small.now, 0)) :
    ∃ record, (exactEngine.run enlisted).record? identity = some record ∧
      record.trustScore = score ∧ record.createdAt = Small.now ∧
      record.verificationCount = 0 := by
  obtain ⟨record, found, same⟩ := Option.map_eq_some_iff.mp known
  exact ⟨record, found, congrArg Prod.fst same, congrArg (·.2.1) same, congrArg (·.2.2) same⟩

theorem contest_keeps_order :
    ∃ first second, (exactEngine.run (enlisted ++ contest)).record? "ann" = some first ∧
      (exactEngine.run (enlisted ++ contest)).record? "bob" = some second ∧
      first.trustScore ≤ second.trustScore ∧ first.verificationCount = 3 := by
  have started : Engine.start .default Small.keys = .ok exactEngine :=
    start_of_validate (eq_ok_of_toOption (by decide +kernel)) Small.keys
  have rest := AtRest.of_start started
  have accepts : exactEngine.Accepts := fun _ => rfl
  have serves : ∀ identity, (exactEngine.run enlisted).Serves identity contest :=
    fun identity => (accepts.run rest _).serves (rest.run _) identity _
  obtain ⟨first, found, score, created, count⟩ := exists_enlisted "ann" 0.4
    (by decide +kernel)
  obtain ⟨second, foundSecond, scoreSecond, createdSecond, countSecond⟩ :=
    exists_enlisted "bob" 0.5 (by decide +kernel)
  have rivals : List.Forall₂ (Rivals .default) (requests "ann" contest)
      (requests "bob" contest) := by
    refine .cons ⟨rfl, .highRisk, 0.2, 0.7, ?_, ?_, by norm_num⟩
      (.cons ⟨rfl, .lowRisk, 0.9, 0.9, ?_, ?_, le_rfl⟩
        (.cons ⟨rfl, .highRisk, 0, 0.6, ?_, ?_, by norm_num⟩ .nil))
    all_goals
      refine .commit rfl ⟨?_, ?_⟩
      · rintro _ ⟨⟩
        decide +kernel
      · rintro _ ⟨⟩ <;> decide +kernel
  obtain ⟨reached, rival, stored, rivalStored, -, -, kept, told⟩ := (outcomes_keep_order started).1
    enlisted contest contest contest "ann" "bob" first second found foundSecond
    (by rw [score]; decide +kernel) (by rw [scoreSecond]; decide +kernel)
    (created.trans createdSecond.symm) (count.trans countSecond.symm)
    (by rw [score, scoreSecond]; norm_num) (serves _) (serves _) rivals List.prefix_rfl
    List.prefix_rfl rfl
  exact ⟨reached, rival, stored, rivalStored, kept, told.trans (by rw [count]; rfl)⟩

end Engine

end ReviewGate
