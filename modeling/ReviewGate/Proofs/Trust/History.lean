import Mathlib.Data.List.Chain
import ReviewGate.Proofs.Trust.Change

/-!
# The history of scores

An engine remembers the newest changes of all scores in one list that is cut to a length.  The list
is the newest part of what has happened, and what it holds of one identity leads to the score of
that identity without a gap.
-/

namespace ReviewGate

variable {R K : Type} [Scalar R] [KeyProvider K]

/-! ## Chains of changes -/

/-- The changes, newest first, lead from one score to another. -/
def ScoreUpdate.Lead (first : R) : R → List (ScoreUpdate R) → Prop
  | current, [] => current = first
  | current, newest :: older => newest.newScore = current ∧ Lead first newest.oldScore older

namespace ScoreUpdate.Lead

omit [Scalar R]

variable {first current : R} {updates : List (ScoreUpdate R)}

theorem head_eq (leads : Lead first current updates) :
    ∀ newest ∈ updates.head?, newest.newScore = current := by
  cases updates with
  | nil => nofun
  | cons newest older =>
      rintro update ⟨⟩
      exact leads.1

theorem isChain (leads : Lead first current updates) :
    updates.IsChain fun newer older => newer.oldScore = older.newScore := by
  induction updates generalizing current with
  | nil => exact .nil
  | cons newest older inductionHypothesis =>
      have linked := inductionHypothesis leads.2
      cases older with
      | nil => exact .singleton newest
      | cons next rest => exact linked.cons_cons leads.2.1.symm

theorem getLast_eq (leads : Lead first current updates) :
    (updates.getLast?.map (·.oldScore)).getD current = first := by
  induction updates generalizing current with
  | nil => exact leads
  | cons newest older inductionHypothesis =>
      have last := inductionHypothesis leads.2
      rw [List.getLast?_cons]
      cases latest : older.getLast? with
      | none => rwa [latest] at last
      | some oldest => rwa [latest] at last

end ScoreUpdate.Lead

namespace Engine

/-! ## What happens to scores -/

omit [Scalar R] [KeyProvider K] in
/-- The score of an identity, if it is registered. -/
def score? (engine : Engine R K) (identity : String) : Option R :=
  (engine.record? identity).map (·.trustScore)

/-- The change of a score that an operation makes, if it succeeds and changes one.  A drift that is
too small is not written down. -/
def change? (engine : Engine R K) (now : Instant) : Operation R → Option (ScoreUpdate R)
  | .commit asked =>
      match engine.commit now asked with
      | .ok (receipt, _) => receipt.update
      | .error _ => none
  | .penalize event =>
      match engine.applyPenalty event with
      | .ok (outcome, _) =>
          (engine.record? event.identity).map fun record => penaltyUpdate record event outcome
      | .error _ => none
  | .drift identity instant =>
      match engine.applyDecay identity instant with
      | .ok (_, later) =>
          if later.ledger.length = engine.ledger.length then none
          else (engine.record? identity).map fun record =>
            engine.driftUpdate record identity instant
      | .error _ => none
  | .register .. | .rotate _ => none

/-- The identity and the score that an operation registers, if it succeeds in that. -/
def enrollment? (engine : Engine R K) (now : Instant) : Operation R → Option (String × R)
  | .register identity role score =>
      match (engine.register now identity role score).1 with
      | .finished (.ok record) => some (record.id, record.trustScore)
      | _ => none
  | _ => none

/-- All that has happened to scores. -/
structure Chronicle (R : Type) where
  /-- Newest first. -/
  changes : List (ScoreUpdate R)
  /-- The scores of registrations. -/
  first : Table R

namespace Chronicle

omit [Scalar R] in
/-- The changes of one score. -/
def about (chronicle : Chronicle R) (identity : String) : List (ScoreUpdate R) :=
  chronicle.changes.filter fun update => update.identity == identity

omit [Scalar R] in
def change (chronicle : Chronicle R) (update : Option (ScoreUpdate R)) : Chronicle R :=
  { chronicle with changes := update.toList ++ chronicle.changes }

omit [Scalar R] in
def enroll (chronicle : Chronicle R) (entry : Option (String × R)) : Chronicle R :=
  match entry with
  | some (identity, score) => { chronicle with first := chronicle.first.insert identity score }
  | none => chronicle

end Chronicle

/-- One more step, with what it does to scores. -/
def follow (seen : Engine R K × Chronicle R) (turn : Turn R) : Engine R K × Chronicle R :=
  let (engine, chronicle) := seen
  (engine.step turn, match turn with
    | .operation now operation =>
        (chronicle.change (engine.change? now operation)).enroll
          (engine.enrollment? now operation)
    | .refusal _ => chronicle)

/-- The chronicle of a run. -/
def chronicle (engine : Engine R K) (turns : List (Turn R)) : Chronicle R :=
  (turns.foldl follow (engine, ⟨[], []⟩)).2

theorem foldl_follow_fst (seen : Engine R K × Chronicle R) (turns : List (Turn R)) :
    (turns.foldl follow seen).1 = seen.1.run turns := by
  induction turns generalizing seen with
  | nil => rfl
  | cons turn rest inductionHypothesis => exact inductionHypothesis _

/-! ## One operation -/

/-- What an operation may do to scores and to the history: it leaves both alone, it registers a
score, or it makes one change and remembers it. -/
inductive Moves (engine later : Engine R K) :
    Option (ScoreUpdate R) → Option (String × R) → Prop where
  | silent (history : later.history = engine.history)
      (scores : ∀ identity, later.score? identity = engine.score? identity) :
      Moves engine later none none
  | enroll {owner : String} {score : R} (history : later.history = engine.history)
      (absent : engine.score? owner = none)
      (scores : ∀ identity, later.score? identity =
        if owner = identity then some score else engine.score? identity) :
      Moves engine later none (some (owner, score))
  | change {update : ScoreUpdate R}
      (history : later.history = (update :: engine.history).take engine.config.maxHistory)
      (before : engine.score? update.identity = some update.oldScore)
      (scores : ∀ identity, later.score? identity =
        if update.identity = identity then some update.newScore else engine.score? identity) :
      Moves engine later (some update) none

section Records

omit [Scalar R] [KeyProvider K]

variable {engine later : Engine R K} {identity : String} {record kept : IdentityRecord R}

theorem score?_eq (found : engine.record? identity = some record) :
    engine.score? identity = some record.trustScore := by
  rw [score?, found, Option.map_some]

theorem score?_of_stored (stored : ∀ other, later.record? other =
      if kept.id = other then some kept else engine.record? other) (other : String) :
    later.score? other =
      if kept.id = other then some kept.trustScore else engine.score? other := by
  rw [score?, stored]
  split <;> rfl

/-- The record of an identity is stored again with the same score. -/
theorem moves_of_same (found : engine.record? identity = some record)
    (stored : ∀ other, later.record? other =
      if kept.id = other then some kept else engine.record? other)
    (history : later.history = engine.history) (owned : kept.id = identity)
    (same : kept.trustScore = record.trustScore) : Moves engine later none none := by
  refine .silent history ?_
  intro other
  rw [score?_of_stored stored]
  split
  · rename_i about
    rw [← about, owned, same, score?_eq found]
  · rfl

/-- The record of an identity is stored with the score of a change that is remembered. -/
theorem moves_of_update {update : ScoreUpdate R}
    (found : engine.record? update.identity = some record)
    (stored : ∀ other, later.record? other =
      if kept.id = other then some kept else engine.record? other)
    (history : later.history = (update :: engine.history).take engine.config.maxHistory)
    (owned : kept.id = update.identity) (before : update.oldScore = record.trustScore)
    (after : update.newScore = kept.trustScore) : Moves engine later (some update) none := by
  refine .change history (by rw [before, score?_eq found]) ?_
  intro other
  rw [score?_of_stored stored, owned, after]

end Records

variable {engine : Engine R K}

theorem moves_register (rest : engine.AtRest) (now : Instant) (identity : String) (role : Role)
    (score : R) :
    Moves engine (engine.attempt now (.register identity role score)).2 none
      (engine.enrollment? now (.register identity role score)) := by
  rw [attempt, enrollment?]
  rcases register_cases now identity role score (rest.free identity) with
    ⟨keys, cause, -, failed⟩ | ⟨fingerprint, keys, absent, -, -, -, done⟩
  · rw [failed]
    exact .silent rfl fun _ => rfl
  · rw [done]
    have unknown : engine.score? identity = none := by rw [score?, absent, Option.map_none]
    exact .enroll rfl unknown (score?_of_stored (record?_put _ _))

theorem moves_commit (rest : engine.AtRest) (now : Instant) (asked : Commit R) :
    Moves engine (engine.attempt now (.commit asked)).2 (engine.change? now (.commit asked))
      none := by
  rw [attempt_commit, change?]
  cases done : engine.commit now asked with
  | error cause => exact .silent rfl fun _ => rfl
  | ok answer =>
      obtain ⟨receipt, later⟩ := answer
      obtain ⟨prepared, record, ready, found, -, rfl, rfl⟩ := commit_cases done
      have owned : record.id = asked.identity := rest.keyed _ _ found
      obtain ⟨before, window, stored, -, -, -, -, updated, -⟩ := prepare_cases ready
      obtain rfl : before = record := Option.some.inj (stored.symm.trans found)
      have kept := trustScore_settledRecord before prepared
      have lookup := (engine.stored_settled before prepared).record?
      dsimp only
      cases changed : prepared.update with
      | none =>
          rw [changed] at kept
          refine moves_of_same found lookup ?_ ((id_settledRecord _ _).trans owned) kept
          rw [Engine.settled, changed]
          rfl
      | some update =>
          rw [changed] at kept updated
          obtain ⟨⟨outcome, context⟩, -, same⟩ := Option.map_eq_some_iff.mp updated.symm
          have owner : update.identity = before.id := by rw [← same]; rfl
          have old : update.oldScore = before.trustScore := by rw [← same]; rfl
          refine moves_of_update (by rw [owner, owned]; exact found) lookup ?_
            ((id_settledRecord _ _).trans owner.symm) old kept.symm
          rw [Engine.settled, changed]
          rfl

theorem moves_penalize (rest : engine.AtRest) (now : Instant) (event : PenaltyEvent) :
    Moves engine (engine.attempt now (.penalize event)).2 (engine.change? now (.penalize event))
      none := by
  rw [attempt_penalize, change?]
  cases done : engine.applyPenalty event with
  | error cause => exact .silent rfl fun _ => rfl
  | ok answer =>
      obtain ⟨outcome, later⟩ := answer
      obtain ⟨record, found, -, -, rfl⟩ := applyPenalty_cases done
      have owned : record.id = event.identity := rest.keyed _ _ found
      rw [found]
      exact moves_of_update found (record?_put _ _) rfl owned rfl rfl

theorem moves_drift (rest : engine.AtRest) (now : Instant) (identity : String)
    (instant : Instant) :
    Moves engine (engine.attempt now (.drift identity instant)).2
      (engine.change? now (.drift identity instant)) none := by
  rw [attempt_drift, change?]
  cases done : engine.applyDecay identity instant with
  | error cause => exact .silent rfl fun _ => rfl
  | ok answer =>
      obtain ⟨score, later⟩ := answer
      dsimp only
      rcases applyDecay_cases done with same | ⟨record, found, -, same⟩
      · rw [same, if_pos rfl]
        exact .silent rfl fun _ => rfl
      · have grown : later.ledger = engine.ledger.append
            [(engine.driftUpdate record identity instant).event] := by
          rw [same]
          rfl
        have owned : record.id = identity := rest.keyed _ _ found
        rw [grown, Ledger.length_append, if_neg (by simp), found, same]
        exact moves_of_update found (record?_put _ _) rfl owned rfl rfl

theorem moves_rotate (rest : engine.AtRest) (now : Instant) (identity : String) :
    Moves engine (engine.attempt now (.rotate identity)).2 none none := by
  rw [attempt]
  rcases rotate_cases engine now identity with
    ⟨keys, cause, -, failed⟩ | ⟨record, fingerprint, keys, found, -, -, done⟩
  · rw [failed]
    exact .silent rfl fun _ => rfl
  · have owned : record.id = identity := rest.keyed _ _ found
    rw [done]
    exact moves_of_same found (record?_put _ _) rfl owned rfl

theorem moves_attempt (rest : engine.AtRest) (now : Instant) (operation : Operation R) :
    Moves engine (engine.attempt now operation).2 (engine.change? now operation)
      (engine.enrollment? now operation) := by
  cases operation with
  | register identity role score => exact moves_register rest now identity role score
  | commit asked => exact moves_commit rest now asked
  | penalize event => exact moves_penalize rest now event
  | drift identity instant => exact moves_drift rest now identity instant
  | rotate identity => exact moves_rotate rest now identity

/-! ## Runs -/

/-- The history is the newest part of all changes, and these lead for each registered identity from
its first score to the present one. -/
structure Chronicled (seen : Engine R K × Chronicle R) : Prop extends seen.1.AtRest where
  recent : seen.1.history = seen.2.changes.take seen.1.config.maxHistory
  unregistered : ∀ identity, seen.1.score? identity = none → seen.2.about identity = []
  leads : ∀ identity current, seen.1.score? identity = some current →
    ∃ first, seen.2.first.get? identity = some first ∧
      ScoreUpdate.Lead first current (seen.2.about identity)

namespace Chronicled

variable {chronicle : Chronicle R} {later : Engine R K}

section Moves

omit [Scalar R] [KeyProvider K]

theorem silent (chronicled : Chronicled (engine, chronicle)) (rest : later.AtRest)
    (history : later.history = engine.history) (config : later.config = engine.config)
    (scores : ∀ identity, later.score? identity = engine.score? identity) :
    Chronicled (later, chronicle) := by
  refine ⟨rest, ?_, ?_, ?_⟩
  · dsimp only
    rw [history, config]
    exact chronicled.recent
  · intro identity absent
    exact chronicled.unregistered identity ((scores identity).symm.trans absent)
  · intro identity current present
    exact chronicled.leads identity current ((scores identity).symm.trans present)

theorem enroll (chronicled : Chronicled (engine, chronicle)) (rest : later.AtRest)
    (history : later.history = engine.history) (config : later.config = engine.config)
    {owner : String} {score : R} (absent : engine.score? owner = none)
    (scores : ∀ identity, later.score? identity =
      if owner = identity then some score else engine.score? identity) :
    Chronicled (later, chronicle.enroll (some (owner, score))) := by
  have entered : ∀ identity, (chronicle.enroll (some (owner, score))).first.get? identity =
      if owner = identity then some score else chronicle.first.get? identity :=
    fun identity => Table.get?_insert owner identity score chronicle.first
  have same : ∀ identity, (chronicle.enroll (some (owner, score))).about identity =
      chronicle.about identity := fun _ => rfl
  refine ⟨rest, ?_, ?_, ?_⟩
  · dsimp only
    rw [history, config]
    exact chronicled.recent
  · intro identity missing
    dsimp only at missing ⊢
    rw [scores] at missing
    split at missing
    · cases missing
    · exact chronicled.unregistered identity missing
  · intro identity current present
    dsimp only at present ⊢
    rw [scores] at present
    rw [entered, same]
    split at present
    · rename_i about
      cases present
      have nothing : chronicle.about owner = [] := chronicled.unregistered owner absent
      rw [← about, if_pos rfl, nothing]
      exact ⟨score, rfl, rfl⟩
    · rename_i other
      rw [if_neg other]
      exact chronicled.leads identity current present

theorem change (chronicled : Chronicled (engine, chronicle)) (rest : later.AtRest)
    {update : ScoreUpdate R}
    (history : later.history = (update :: engine.history).take engine.config.maxHistory)
    (config : later.config = engine.config)
    (before : engine.score? update.identity = some update.oldScore)
    (scores : ∀ identity, later.score? identity =
      if update.identity = identity then some update.newScore else engine.score? identity) :
    Chronicled (later, chronicle.change (some update)) := by
  have about : ∀ identity, (chronicle.change (some update)).about identity =
      if update.identity = identity then update :: chronicle.about identity
      else chronicle.about identity := by
    intro identity
    by_cases same : update.identity = identity <;> simp [Chronicle.about, Chronicle.change, same]
  refine ⟨rest, ?_, ?_, ?_⟩
  · have recent : engine.history = chronicle.changes.take engine.config.maxHistory :=
      chronicled.recent
    dsimp only
    rw [history, config, recent]
    cases engine.config.maxHistory with
    | zero => rfl
    | succ length => simp [Chronicle.change, List.take_take]
  · intro identity missing
    dsimp only at missing ⊢
    rw [scores] at missing
    rw [about]
    split at missing
    · cases missing
    · rename_i other
      rw [if_neg other]
      exact chronicled.unregistered identity missing
  · intro identity current present
    dsimp only at present ⊢
    rw [scores] at present
    rw [about]
    split at present
    · rename_i same
      cases present
      obtain ⟨first, entered, chain⟩ := chronicled.leads update.identity update.oldScore before
      rw [← same, if_pos rfl]
      exact ⟨first, entered, rfl, chain⟩
    · rename_i other
      rw [if_neg other]
      exact chronicled.leads identity current present

end Moves

theorem follow {seen : Engine R K × Chronicle R} (chronicled : Chronicled seen) (turn : Turn R) :
    Chronicled (Engine.follow seen turn) := by
  obtain ⟨engine, chronicle⟩ := seen
  obtain ⟨rest, config⟩ := chronicled.toAtRest.step turn
  cases turn with
  | refusal refusal =>
      exact ⟨rest, chronicled.recent, chronicled.unregistered, chronicled.leads⟩
  | operation now operation =>
      have moved := moves_attempt chronicled.toAtRest now operation
      rw [Engine.follow]
      generalize engine.change? now operation = update at moved ⊢
      generalize engine.enrollment? now operation = entry at moved ⊢
      cases moved with
      | silent history scores => exact chronicled.silent rest history config scores
      | enroll history absent scores =>
          exact chronicled.enroll rest history config absent scores
      | change history before scores =>
          exact chronicled.change rest history config before scores

theorem foldl {seen : Engine R K × Chronicle R} (chronicled : Chronicled seen)
    (turns : List (Turn R)) : Chronicled (turns.foldl Engine.follow seen) := by
  induction turns generalizing seen with
  | nil => exact chronicled
  | cons turn rest inductionHypothesis => exact inductionHypothesis (chronicled.follow turn)

end Chronicled

omit [KeyProvider K] in
theorem chronicled_of_start {config : TrustConfig R} {keys : K}
    (started : Engine.start config keys = .ok engine) : Chronicled (engine, ⟨[], []⟩) := by
  refine ⟨.of_start started, ?_, fun _ _ => rfl, ?_⟩
  · rw [(start_eq_ok started).2, List.take_nil]
  · intro identity current present
    rw [score?, record?_of_start started] at present
    cases present

omit [Scalar R] [KeyProvider K] in
/-- What part of the changes of a score, newest first, tells of a record that was registered at a
first score. -/
structure Explains (updates whole : List (ScoreUpdate R)) (first : R)
    (record : IdentityRecord R) : Prop where
  present : ∀ newest ∈ updates.head?, newest.newScore = record.trustScore
  linked : updates.IsChain fun newer older => newer.oldScore = older.newScore
  complete : updates.length = whole.length →
    (updates.getLast?.map (·.oldScore)).getD record.trustScore = first

omit [Scalar R] [KeyProvider K] in
theorem explains_of_prefix {updates whole : List (ScoreUpdate R)} {first : R}
    {record : IdentityRecord R} (chain : ScoreUpdate.Lead first record.trustScore whole)
    (shown : updates <+: whole) : Explains updates whole first record := by
  obtain ⟨older, parts⟩ := id shown
  constructor
  case present =>
    intro newest latest
    apply chain.head_eq newest
    rw [← parts, List.head?_append, Option.mem_def.mp latest]
    rfl
  case linked => exact chain.isChain.prefix shown
  case complete =>
    intro same
    rw [shown.eq_of_length same]
    exact chain.getLast_eq

/-- Whatever is asked of an engine and whatever the storage refuses: the history is the newest part
of all changes of scores.  What it shows of a registered identity ends at the present score, without
a gap; where nothing of that has been dropped, it begins at the score of the registration. -/
theorem history_of_run {config : TrustConfig R} {keys : K}
    (started : Engine.start config keys = .ok engine) (turns : List (Turn R)) :
    (engine.run turns).history =
      (engine.chronicle turns).changes.take config.maxHistory ∧
    ∀ identity record, (engine.run turns).record? identity = some record →
      ∃ first, (engine.chronicle turns).first.get? identity = some first ∧
        ∀ limit, Explains ((engine.run turns).updates identity limit)
          ((engine.chronicle turns).about identity) first record := by
  have chronicled := (chronicled_of_start started).foldl turns
  have same : (engine.run turns).config = config := by
    rw [(AtRest.of_start started).config_run, (start_eq_ok started).2]
  have last := foldl_follow_fst (engine, ⟨[], []⟩) turns
  have recent := chronicled.recent
  have leads := chronicled.leads
  rw [last] at recent leads
  rw [same] at recent
  refine ⟨recent, ?_⟩
  intro identity record found
  obtain ⟨first, entered, chain⟩ := leads identity record.trustScore (score?_eq found)
  refine ⟨first, entered, fun limit => explains_of_prefix chain ?_⟩
  rw [updates, recent]
  exact (List.take_prefix _ _).trans ((List.take_prefix _ _).filter _)

/-- Room for two changes. -/
def forgetful : TrustConfig Float := { TrustConfig.default with maxHistory := 2 }

/-- Three changes, the first of which is dropped, and one that is refused. -/
def busyDay : List (Turn Float) :=
  [.operation Small.now (.register "ann" .judge 0.4),
    .operation Small.now (.register "bob" .judge 0.5),
    .operation Small.now (.commit ⟨"ann", [], none, some (1.0, .lowRisk), none⟩),
    .operation Small.now (.penalize ⟨"bob", .secretExposure, .honest, "", Small.now⟩),
    .refusal fun _ => some (.unavailable "disk full"),
    .operation Small.now (.commit ⟨"ann", [], none, some (1.0, .lowRisk), none⟩),
    .refusal fun _ => none,
    .operation Small.now (.commit ⟨"ann", [], none, some (0.0, .highRisk), none⟩)]

theorem history_busyDay :
    ∃ engine : Engine Float LocalKeys, Engine.start forgetful Small.keys = .ok engine ∧
      (engine.chronicle busyDay).changes.length = 3 ∧
      (engine.run busyDay).history = (engine.chronicle busyDay).changes.take 2 ∧
      ((engine.run busyDay).updates "ann" 5).length = 1 ∧
      ∃ record, (engine.run busyDay).record? "ann" = some record ∧
        ∃ first, (engine.chronicle busyDay).first.get? "ann" = some first ∧
          Explains ((engine.run busyDay).updates "ann" 5)
            ((engine.chronicle busyDay).about "ann") first record := by
  have started : Engine.start forgetful Small.keys =
      .ok ⟨forgetful, [], [], [], fun _ => none, Small.keys, []⟩ := by rfl
  obtain ⟨recent, explained⟩ := history_of_run started busyDay
  generalize ready : (⟨forgetful, [], [], [], fun _ => none, Small.keys, []⟩ :
    Engine Float LocalKeys) = engine at started recent explained
  have known : ((engine.run busyDay).record? "ann").isSome = true := by
    subst ready
    decide +kernel
  obtain ⟨record, found⟩ := Option.isSome_iff_exists.mp known
  obtain ⟨first, entered, explains⟩ := explained "ann" record found
  refine ⟨engine, started, ?_, recent, ?_, record, found, first, entered, explains 5⟩
  · subst ready
    decide +kernel
  · subst ready
    decide +kernel

end Engine

end ReviewGate
