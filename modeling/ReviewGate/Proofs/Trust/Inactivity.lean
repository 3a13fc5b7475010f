import Mathlib.Data.List.Induction
import ReviewGate.Proofs.Time.Elapsed
import ReviewGate.Proofs.Trust.History

/-!
# Since when an identity has been inactive

A drift charges the time since the last change of a score.  Outcomes and drifts tell the clock's
reading as that time, penalties tell the time of their event.  On a clock that does not go back, the
last change is not later than the newest reading unless a penalty was told ahead of the clock, so it
moves back in two ways only: a late penalty takes it back, or it has been ahead of the clock.
-/

namespace ReviewGate

variable {R K : Type} [Scalar R] [KeyProvider K]

namespace Engine

/-! ## Clocks -/

omit [Scalar R] in
/-- What the clock shows at a turn. -/
def Turn.reading? : Turn R → Option Instant
  | .operation now _ => some now
  | .refusal _ => none

omit [Scalar R] in
/-- A drift goes up to what the clock shows. -/
def Turn.IsOnTime : Turn R → Prop
  | .operation now (.drift _ instant) => instant = now
  | _ => True

omit [Scalar R] in
/-- The clock does not go back, and drifts go by it.  Penalties may tell any time. -/
structure Clocked (turns : List (Turn R)) : Prop where
  forward : (turns.filterMap Turn.reading?).Pairwise (· ≤ ·)
  onTime : ∀ turn ∈ turns, turn.IsOnTime

omit [Scalar R] in
theorem Clocked.earlier {turns more : List (Turn R)} (clocked : Clocked more)
    (begun : turns <+: more) : Clocked turns :=
  ⟨clocked.forward.sublist (begun.sublist.filterMap _),
    fun turn present => clocked.onTime turn (begun.subset present)⟩

/-! ## The last change -/

omit [Scalar R] [KeyProvider K] in
/-- When the score of an identity changed last. -/
def lastUpdate? (engine : Engine R K) (identity : String) : Option Instant :=
  (engine.record? identity).map (·.lastTrustUpdate)

/-- The change of a score that a turn makes. -/
def told? (engine : Engine R K) : Turn R → Option (ScoreUpdate R)
  | .operation now operation => engine.change? now operation
  | .refusal _ => none

omit [Scalar R] in
/-- When a score changed last, after a turn that has told a change or none.  A deferred penalty has
changed nothing. -/
def lastAfter (told : Option (ScoreUpdate R)) (identity : String) (last : Instant) : Instant :=
  match told with
  | some update =>
      if update.identity = identity ∧ update.kind ≠ .penaltyDeferred then update.timestamp else last
  | none => last

omit [Scalar R] [KeyProvider K] in
/-- What is known of last changes is brought up to date by what is told. -/
def Dates (engine later : Engine R K) (told : Option (ScoreUpdate R)) : Prop :=
  ∀ identity last, engine.lastUpdate? identity = some last →
    later.lastUpdate? identity = some (lastAfter told identity last)

omit [Scalar R] [KeyProvider K] in
theorem dates_of_same {engine later : Engine R K}
    (same : ∀ identity, later.record? identity = engine.record? identity) :
    Dates engine later none := by
  intro identity last known
  rwa [lastUpdate?, same]

omit [Scalar R] [KeyProvider K] in
/-- The record of an identity is stored again with the date that is told. -/
theorem dates_of_stored {engine later : Engine R K} {owner : String}
    {record kept : IdentityRecord R} {told : Option (ScoreUpdate R)}
    (found : engine.record? owner = some record)
    (stored : ∀ other, later.record? other =
      if kept.id = other then some kept else engine.record? other)
    (owned : kept.id = owner) (about : ∀ update, told = some update → update.identity = owner)
    (dated : kept.lastTrustUpdate = lastAfter told owner record.lastTrustUpdate) :
    Dates engine later told := by
  intro identity last known
  rw [lastUpdate?, stored]
  split
  · rename_i same
    obtain rfl : owner = identity := owned.symm.trans same
    rw [lastUpdate?, found, Option.map_some, Option.some_inj] at known
    rw [Option.map_some, dated, known]
  · rename_i other
    have untouched : lastAfter told identity last = last := by
      unfold lastAfter
      split
      · rename_i update
        rw [about update rfl, if_neg fun both => other (owned.trans both.1)]
      · rfl
    rw [untouched]
    exact known

variable {engine : Engine R K}

theorem dates_register (rest : engine.AtRest) (now : Instant) (identity : String) (role : Role)
    (score : R) :
    Dates engine (engine.attempt now (.register identity role score)).2 none := by
  rw [attempt]
  rcases register_cases now identity role score (rest.free identity) with
    ⟨keys, cause, -, failed⟩ | ⟨fingerprint, keys, absent, -, -, -, done⟩
  · rw [failed]
    exact dates_of_same fun _ => rfl
  · rw [done]
    intro other last known
    have different : identity ≠ other := by
      rintro rfl
      rw [lastUpdate?, absent] at known
      contradiction
    rw [lastUpdate?, record?_put]
    exact (congrArg _ (if_neg different)).trans known

omit [KeyProvider K] in
/-- An outcome is told of the record that was found, at the reading of the clock. -/
theorem outcome_of_prepare {now : Instant} {asked : Commit R} {prepared : PreparedCommit R}
    {record : IdentityRecord R} (found : engine.record? asked.identity = some record)
    (ready : engine.prepare now asked = .ok prepared) {update : ScoreUpdate R}
    (told : prepared.update = some update) :
    update.identity = record.id ∧ update.kind = .ewma ∧ update.timestamp = now := by
  obtain ⟨before, window, stored, -, -, -, -, updated, -⟩ := prepare_cases ready
  obtain rfl : before = record := Option.some.inj (stored.symm.trans found)
  rw [told] at updated
  obtain ⟨⟨outcome, context⟩, -, same⟩ := Option.map_eq_some_iff.mp updated.symm
  rw [← same]
  exact ⟨rfl, rfl, rfl⟩

theorem dates_commit (rest : engine.AtRest) (now : Instant) (asked : Commit R) :
    Dates engine (engine.attempt now (.commit asked)).2 (engine.change? now (.commit asked)) := by
  rw [attempt_commit, change?]
  cases done : engine.commit now asked with
  | error cause => exact dates_of_same fun _ => rfl
  | ok answer =>
      obtain ⟨receipt, later⟩ := answer
      obtain ⟨prepared, record, ready, found, -, rfl, rfl⟩ := commit_cases done
      have owned : record.id = asked.identity := rest.keyed _ _ found
      refine dates_of_stored found (engine.stored_settled record prepared).record?
        ((id_settledRecord _ _).trans owned) ?_ ?_
      · exact fun update told => (outcome_of_prepare found ready told).1.trans owned
      · unfold settledRecord lastAfter
        dsimp only
        cases told : prepared.update with
        | none => cases prepared.coolingOffUntil <;> rfl
        | some update =>
            obtain ⟨about, kind, -⟩ := outcome_of_prepare found ready told
            simp [about, owned, kind]

theorem dates_penalize (rest : engine.AtRest) (now : Instant) (event : PenaltyEvent) :
    Dates engine (engine.attempt now (.penalize event)).2
      (engine.change? now (.penalize event)) := by
  rw [attempt_penalize, change?]
  cases done : engine.applyPenalty event with
  | error cause => exact dates_of_same fun _ => rfl
  | ok answer =>
      obtain ⟨outcome, later⟩ := answer
      obtain ⟨record, found, -, -, rfl⟩ := applyPenalty_cases done
      have owned : record.id = event.identity := rest.keyed _ _ found
      dsimp only
      rw [found]
      refine dates_of_stored found (record?_put _ _) owned ?_ ?_
      · rintro update ⟨⟩
        rfl
      · by_cases deferred : outcome.disposition = .deferred <;>
          simp [chargedRecord, lastAfter, penaltyUpdate, deferred]

theorem dates_drift (rest : engine.AtRest) (now : Instant) (identity : String)
    (instant : Instant) :
    Dates engine (engine.attempt now (.drift identity instant)).2
      (engine.change? now (.drift identity instant)) := by
  rw [attempt_drift, change?]
  cases done : engine.applyDecay identity instant with
  | error cause => exact dates_of_same fun _ => rfl
  | ok answer =>
      obtain ⟨score, later⟩ := answer
      dsimp only
      rcases applyDecay_cases done with same | ⟨record, found, -, same⟩
      · rw [same, if_pos rfl]
        exact dates_of_same fun _ => rfl
      · have grown : later.ledger = engine.ledger.append
            [(engine.driftUpdate record identity instant).event] := by
          rw [same]
          rfl
        have owned : record.id = identity := rest.keyed _ _ found
        rw [grown, Ledger.length_append, if_neg (by simp), found, same]
        refine dates_of_stored found (record?_put _ _) owned ?_ ?_
        · rintro update ⟨⟩
          rfl
        · simp [driftedRecord, lastAfter, driftUpdate]

theorem dates_rotate (rest : engine.AtRest) (now : Instant) (identity : String) :
    Dates engine (engine.attempt now (.rotate identity)).2 none := by
  rw [attempt]
  rcases rotate_cases engine now identity with
    ⟨keys, cause, -, failed⟩ | ⟨record, fingerprint, keys, found, -, -, done⟩
  · rw [failed]
    exact dates_of_same fun _ => rfl
  · rw [done]
    have owned : record.id = identity := rest.keyed _ _ found
    refine dates_of_stored found (record?_put _ _) owned ?_ rfl
    rintro update ⟨⟩

theorem dates_step (rest : engine.AtRest) (turn : Turn R) :
    Dates engine (engine.step turn) (engine.told? turn) := by
  cases turn with
  | refusal refusal => exact dates_of_same fun _ => rfl
  | operation now operation =>
      cases operation with
      | register identity role score => exact dates_register rest now identity role score
      | commit asked => exact dates_commit rest now asked
      | penalize event => exact dates_penalize rest now event
      | drift identity instant => exact dates_drift rest now identity instant
      | rotate identity => exact dates_rotate rest now identity

/-- A score that is new is as old as the reading of the clock. -/
theorem reading?_of_new (rest : engine.AtRest) {turn : Turn R} {identity : String} {last : Instant}
    (absent : engine.lastUpdate? identity = none)
    (known : (engine.step turn).lastUpdate? identity = some last) : turn.reading? = some last := by
  have unknown : engine.record? identity = none := Option.map_eq_none_iff.mp absent
  cases turn with
  | refusal refusal => cases absent.symm.trans known
  | operation now operation =>
      rcases attempt_cases now (rest.free operation.identity) with
        ⟨keys, -, same⟩ | ⟨records, record, keys, history, change, same⟩
      · rw [step, same] at known
        cases absent.symm.trans known
      · rw [step, same, lastUpdate?, record?_changed] at known
        have owned := change.id_eq rest.keyed
        split at known
        · rename_i here
          have missing : engine.record? operation.identity = none := by
            rw [← owned, here, unknown]
          cases change with
          | register =>
              cases known
              rfl
          | commit found | penalize found | drift found | rotate found =>
              cases found.symm.trans missing
        · rw [unknown] at known
          cases known

/-! ## What is told -/

omit [KeyProvider K] in
/-- Outcomes and drifts tell the reading of the clock. -/
theorem reading?_of_told {turn : Turn R} {update : ScoreUpdate R} (onTime : turn.IsOnTime)
    (told : engine.told? turn = some update) :
    (update.kind = .microPenalty ∨ update.kind = .penaltyDeferred) ∨
      (update.kind = .ewma ∨ update.kind = .temporalDecay) ∧
        turn.reading? = some update.timestamp := by
  cases turn with
  | refusal refusal => cases told
  | operation now operation =>
      rw [told?] at told
      unfold change? at told
      cases operation with
      | register | rotate => cases told
      | commit asked =>
          dsimp only at told
          cases done : engine.commit now asked with
          | error cause =>
              rw [done] at told
              cases told
          | ok answer =>
              rw [done] at told
              obtain ⟨receipt, later⟩ := answer
              obtain ⟨prepared, record, ready, found, -, rfl, -⟩ := commit_cases done
              obtain ⟨-, kind, shown⟩ := outcome_of_prepare found ready told
              exact .inr ⟨.inl kind, by rw [shown]; rfl⟩
      | penalize event =>
          dsimp only at told
          split at told
          · obtain ⟨record, -, rfl⟩ := Option.map_eq_some_iff.mp told
            rename_i outcome _ _
            by_cases deferred : outcome.disposition = .deferred <;>
              simp [penaltyUpdate, deferred]
          · cases told
      | drift identity instant =>
          obtain rfl : instant = now := onTime
          dsimp only at told
          split at told
          · split at told
            · cases told
            · obtain ⟨record, -, rfl⟩ := Option.map_eq_some_iff.mp told
              exact .inr ⟨.inr rfl, rfl⟩
          · cases told

omit [KeyProvider K] in
theorem exists_reading_of_told {turn : Turn R} {update : ScoreUpdate R}
    (told : engine.told? turn = some update) : ∃ reading, turn.reading? = some reading := by
  cases turn with
  | operation now operation => exact ⟨now, rfl⟩
  | refusal refusal => cases told

omit [Scalar R] in
theorem lastAfter_cases (told : Option (ScoreUpdate R)) (identity : String) (last : Instant) :
    lastAfter told identity last = last ∨
      ∃ update, told = some update ∧ update.identity = identity ∧
        update.kind ≠ .penaltyDeferred ∧ lastAfter told identity last = update.timestamp := by
  cases told with
  | none => exact .inl rfl
  | some update =>
      by_cases counts : update.identity = identity ∧ update.kind ≠ .penaltyDeferred
      · exact .inr ⟨update, rfl, counts.1, counts.2, if_pos counts⟩
      · exact .inl (if_neg counts)

/-- A turn changes the score of an identity and tells of what kind the change is and when it was. -/
def Announces (engine : Engine R K) (turn : Turn R) (identity : String) (kind : UpdateKind)
    (instant : Instant) : Prop :=
  ∃ update, engine.told? turn = some update ∧ update.identity = identity ∧ update.kind = kind ∧
    update.timestamp = instant

omit [KeyProvider K] in
theorem Announces.lastAfter_eq {turn : Turn R} {identity : String} {kind : UpdateKind}
    {instant : Instant} (announces : engine.Announces turn identity kind instant)
    (applied : kind ≠ .penaltyDeferred) (last : Instant) :
    lastAfter (engine.told? turn) identity last = instant := by
  obtain ⟨update, told, about, rfl, rfl⟩ := announces
  rw [told]
  exact if_pos ⟨about, applied⟩

/-! ## Runs -/

theorem run_concat (engine : Engine R K) (turns : List (Turn R)) (last : Turn R) :
    engine.run (turns ++ [last]) = (engine.run turns).step last := by
  simp [run]

theorem AtRest.run (rest : engine.AtRest) (turns : List (Turn R)) : (engine.run turns).AtRest := by
  induction turns using List.reverseRecOn with
  | nil => exact rest
  | append_singleton turns last inductionHypothesis =>
      rw [run_concat]
      exact (inductionHypothesis.step last).1

/-- A penalty has told an instant that the clock did not show yet. -/
def ToldAhead (engine : Engine R K) (turns : List (Turn R)) (identity : String)
    (instant : Instant) : Prop :=
  ∃ before turn reading, before ++ [turn] <+: turns ∧ turn.reading? = some reading ∧
    (engine.run before).Announces turn identity .microPenalty instant ∧ reading < instant

theorem ToldAhead.concat {turns : List (Turn R)} {identity : String} {instant : Instant}
    (ahead : engine.ToldAhead turns identity instant) (last : Turn R) :
    engine.ToldAhead (turns ++ [last]) identity instant := by
  obtain ⟨before, turn, reading, begun, shown, told, early⟩ := ahead
  exact ⟨before, turn, reading, begun.trans (List.prefix_append turns [last]), shown, told, early⟩

/-- On a clock that does not go back, the newest reading is not before a last change, unless a
penalty has told that change ahead of the clock. -/
theorem le_reading_or_toldAhead (rest : engine.AtRest)
    (blank : ∀ identity, engine.lastUpdate? identity = none) {turns : List (Turn R)}
    (clocked : Clocked turns) {identity : String} {last : Instant}
    (known : (engine.run turns).lastUpdate? identity = some last) :
    (∃ reading ∈ turns.filterMap Turn.reading?, last ≤ reading) ∨
      engine.ToldAhead turns identity last := by
  induction turns using List.reverseRecOn generalizing last with
  | nil => cases (blank identity).symm.trans known
  | append_singleton turns turn inductionHypothesis =>
      have newest : ∀ {reading}, turn.reading? = some reading →
          reading ∈ (turns ++ [turn]).filterMap Turn.reading? :=
        fun shown => List.mem_filterMap.mpr ⟨turn, by simp, shown⟩
      rw [run_concat] at known
      cases before : (engine.run turns).lastUpdate? identity with
      | none =>
          exact .inl ⟨last, newest (reading?_of_new (rest.run turns) before known), last.le_refl⟩
      | some old =>
          cases (dates_step (rest.run turns) turn identity old before).symm.trans known
          rcases lastAfter_cases ((engine.run turns).told? turn) identity old with
            same | ⟨update, told, about, applied, same⟩
          · rw [same]
            rcases inductionHypothesis (clocked.earlier (List.prefix_append _ _)) before with
              ⟨reading, present, le⟩ | ahead
            · refine .inl ⟨reading, ?_, le⟩
              rw [List.filterMap_append]
              exact List.mem_append_left _ present
            · exact .inr (ahead.concat turn)
          · rw [same]
            rcases reading?_of_told (clocked.onTime turn (by simp)) told with
              (kind | kind) | ⟨-, shown⟩
            · obtain ⟨reading, shown⟩ := exists_reading_of_told told
              by_cases early : reading < update.timestamp
              · exact .inr ⟨turns, turn, reading, List.prefix_rfl, shown,
                  ⟨update, told, about, kind, rfl⟩, early⟩
              · exact .inl ⟨reading, newest shown, Instant.not_lt_iff.mp early⟩
            · exact absurd kind applied
            · exact .inl ⟨_, newest shown, Instant.le_refl _⟩

/-- A penalty that is older than the last change. -/
def IsLate (engine : Engine R K) (turn : Turn R) (identity : String) (last : Instant) : Prop :=
  ∃ instant, engine.Announces turn identity .microPenalty instant ∧ instant < last

/-- An outcome or a drift after a penalty that told the last change ahead of the clock, before the
clock has got there.  Such a drift moves no score, so it is told only where numbers misbehave, about
which nothing is assumed. -/
def FallsBehind (engine : Engine R K) (turns : List (Turn R)) (turn : Turn R) (identity : String)
    (last : Instant) : Prop :=
  engine.ToldAhead turns identity last ∧ ∃ reading,
    ((engine.run turns).Announces turn identity .ewma reading ∨
      (engine.run turns).Announces turn identity .temporalDecay reading) ∧ reading < last

/-- The last change moves back in these two ways. -/
theorem lt_last_iff (rest : engine.AtRest)
    (blank : ∀ identity, engine.lastUpdate? identity = none) {turns : List (Turn R)}
    {turn : Turn R} (clocked : Clocked (turns ++ [turn])) {identity : String} {last : Instant}
    (known : (engine.run turns).lastUpdate? identity = some last) :
    ∃ next, (engine.run (turns ++ [turn])).lastUpdate? identity = some next ∧
      (next < last ↔ (engine.run turns).IsLate turn identity last ∨
        engine.FallsBehind turns turn identity last) := by
  rw [run_concat]
  refine ⟨_, dates_step (rest.run turns) turn identity last known, ?moved, ?moves⟩
  case moved =>
    intro back
    rcases lastAfter_cases ((engine.run turns).told? turn) identity last with
      same | ⟨update, told, about, applied, same⟩
    · rw [same] at back
      exact absurd back (Instant.not_lt_iff.mpr last.le_refl)
    · rw [same] at back
      rcases reading?_of_told (clocked.onTime turn (by simp)) told with
        (kind | kind) | ⟨kind, shown⟩
      · exact .inl ⟨_, ⟨update, told, about, kind, rfl⟩, back⟩
      · exact absurd kind applied
      · refine .inr ⟨?_, update.timestamp, ?_, back⟩
        · refine (le_reading_or_toldAhead rest blank (clocked.earlier (List.prefix_append _ _))
            known).resolve_left ?_
          rintro ⟨reading, present, le⟩
          have forward := clocked.forward
          rw [List.filterMap_append, List.pairwise_append] at forward
          have later : reading ≤ update.timestamp :=
            forward.2.2 reading present update.timestamp
              (List.mem_filterMap.mpr ⟨turn, List.mem_singleton_self turn, shown⟩)
          exact absurd back (Instant.not_lt_iff.mpr (Instant.le_trans le later))
        · exact kind.imp (fun kind => ⟨update, told, about, kind, rfl⟩)
            fun kind => ⟨update, told, about, kind, rfl⟩
  case moves =>
    rintro (⟨instant, announces, late⟩ | ⟨-, reading, announces | announces, late⟩)
    · rwa [announces.lastAfter_eq (by decide)]
    · rwa [announces.lastAfter_eq (by decide)]
    · rwa [announces.lastAfter_eq (by decide)]

/-- The penalties of an identity are neither older than its last change nor ahead of the clock. -/
def Punctual (engine : Engine R K) (turns : List (Turn R)) (identity : String) : Prop :=
  ∀ before turn instant, before ++ [turn] <+: turns →
    (engine.run before).Announces turn identity .microPenalty instant →
      (∀ last, (engine.run before).lastUpdate? identity = some last → last ≤ instant) ∧
        ∀ reading, turn.reading? = some reading → instant ≤ reading

theorem le_step_of_punctual (rest : engine.AtRest)
    (blank : ∀ identity, engine.lastUpdate? identity = none) {turns : List (Turn R)}
    {turn : Turn R} (clocked : Clocked (turns ++ [turn])) {identity : String}
    (punctual : engine.Punctual (turns ++ [turn]) identity) {last : Instant}
    (known : (engine.run turns).lastUpdate? identity = some last) :
    ∃ next, (engine.run (turns ++ [turn])).lastUpdate? identity = some next ∧ last ≤ next := by
  obtain ⟨next, found, back⟩ := lt_last_iff rest blank clocked known
  refine ⟨next, found, Instant.not_lt_iff.mp fun moved => ?_⟩
  rcases back.mp moved with ⟨instant, announces, late⟩ | ⟨ahead, -⟩
  · have onTime := (punctual turns turn instant List.prefix_rfl announces).1 last known
    exact Instant.not_lt_iff.mpr onTime late
  · obtain ⟨before, early, reading, begun, shown, announces, behind⟩ := ahead
    have onTime := (punctual before early last (begun.trans (List.prefix_append _ _)) announces).2
      reading shown
    exact Instant.not_lt_iff.mpr onTime behind

theorem le_run_of_punctual (rest : engine.AtRest)
    (blank : ∀ identity, engine.lastUpdate? identity = none) {turns more : List (Turn R)}
    (clocked : Clocked (turns ++ more)) {identity : String}
    (punctual : engine.Punctual (turns ++ more) identity) {last : Instant}
    (known : (engine.run turns).lastUpdate? identity = some last) :
    ∃ next, (engine.run (turns ++ more)).lastUpdate? identity = some next ∧ last ≤ next := by
  induction more using List.reverseRecOn with
  | nil => exact ⟨last, by rwa [List.append_nil], last.le_refl⟩
  | append_singleton more turn inductionHypothesis =>
      rw [← List.append_assoc] at clocked punctual ⊢
      have begun : turns ++ more <+: turns ++ more ++ [turn] := List.prefix_append _ _
      obtain ⟨middle, found, first⟩ := inductionHypothesis (clocked.earlier begun)
        fun before early instant within => punctual before early instant (within.trans begun)
      obtain ⟨next, told, second⟩ := le_step_of_punctual rest blank clocked punctual found
      exact ⟨next, told, Instant.le_trans first second⟩

/-- In every run on a clock that does not go back, the last change of a score moves back exactly
where a late penalty is applied, and where an outcome or a drift falls behind a penalty that has
been told ahead of the clock.  Between any two moments of a run with punctual penalties it does not
move back. -/
theorem movesBack_iff_of_run {config : TrustConfig R} {keys : K}
    (started : Engine.start config keys = .ok engine) {turns : List (Turn R)}
    (clocked : Clocked turns) (identity : String) :
    (∀ before turn last, before ++ [turn] <+: turns →
      (engine.run before).lastUpdate? identity = some last →
      ∃ next, (engine.run (before ++ [turn])).lastUpdate? identity = some next ∧
        (next < last ↔ (engine.run before).IsLate turn identity last ∨
          engine.FallsBehind before turn identity last)) ∧
    (engine.Punctual turns identity → ∀ before after last, before <+: after → after <+: turns →
      (engine.run before).lastUpdate? identity = some last →
      ∃ next, (engine.run after).lastUpdate? identity = some next ∧ last ≤ next) := by
  have rest := AtRest.of_start started
  have blank : ∀ other, engine.lastUpdate? other = none := fun other => by
    rw [lastUpdate?, record?_of_start started, Option.map_none]
  refine ⟨fun before turn last begun known => ?_, ?_⟩
  · exact lt_last_iff rest blank (clocked.earlier begun) known
  · rintro punctual before _ last ⟨more, rfl⟩ begun known
    exact le_run_of_punctual rest blank (clocked.earlier begun)
      (fun earlier turn instant within => punctual earlier turn instant (within.trans begun)) known

/-- The start of a day. -/
def dawn (day : Int) : Instant := ⟨day * 86400, 0⟩

/-- After 60 days a penalty is told that was due on the first day, then one of the 90th day, and
after 61 days comes an outcome. -/
def lateReports : List (Turn Float) :=
  [.operation (dawn 0) (.register "ann" .judge 0.9),
    .operation (dawn 60) (.drift "ann" (dawn 60)),
    .operation (dawn 60) (.penalize ⟨"ann", .heuristicFinding, .honest, "", dawn 0⟩),
    .operation (dawn 60) (.penalize ⟨"ann", .heuristicFinding, .honest, "", dawn 90⟩),
    .operation (dawn 61) (.commit ⟨"ann", [], none, some (1.0, .lowRisk), none⟩)]

theorem clocked_lateReports : Clocked lateReports := by
  refine ⟨by decide, ?_⟩
  simp [lateReports, Turn.IsOnTime]

/-- The last change goes back from the 60th day to the first one, and later from the 90th day to the
61st; both are explained. -/
theorem movesBack_lateReports :
    ∃ engine : Engine Float LocalKeys, Engine.start .default Small.keys = .ok engine ∧
      Clocked lateReports ∧
      ((engine.run (lateReports.take 2)).IsLate
          (.operation (dawn 60) (.penalize ⟨"ann", .heuristicFinding, .honest, "", dawn 0⟩)) "ann"
          (dawn 60) ∨
        engine.FallsBehind (lateReports.take 2)
          (.operation (dawn 60) (.penalize ⟨"ann", .heuristicFinding, .honest, "", dawn 0⟩)) "ann"
          (dawn 60)) ∧
      ((engine.run (lateReports.take 4)).IsLate
          (.operation (dawn 61) (.commit ⟨"ann", [], none, some (1.0, .lowRisk), none⟩)) "ann"
          (dawn 90) ∨
        engine.FallsBehind (lateReports.take 4)
          (.operation (dawn 61) (.commit ⟨"ann", [], none, some (1.0, .lowRisk), none⟩)) "ann"
          (dawn 90)) := by
  have started : Engine.start .default Small.keys = .ok Small.engine := by rfl
  obtain ⟨moves, -⟩ := movesBack_iff_of_run started clocked_lateReports "ann"
  have dates : (lateReports.inits.map fun turns => (Small.engine.run turns).lastUpdate? "ann") =
      [none, some (dawn 0), some (dawn 60), some (dawn 0), some (dawn 90), some (dawn 61)] := by
    decide +kernel
  simp only [lateReports, List.inits, List.map_cons, List.map_nil, List.cons.injEq] at dates
  obtain ⟨-, -, second, third, fourth, fifth, -⟩ := dates
  refine ⟨Small.engine, started, clocked_lateReports, ?_, ?_⟩
  · obtain ⟨next, found, back⟩ := moves (lateReports.take 2) _ (dawn 60) ⟨_, rfl⟩ second
    cases third.symm.trans found
    exact back.mp (by decide)
  · obtain ⟨next, found, back⟩ := moves (lateReports.take 4) _ (dawn 90) ⟨[], rfl⟩ fourth
    cases fifth.symm.trans found
    exact back.mp (by decide)

/-- The clock and the drifts are in order, and yet the last change moves back. -/
theorem not_le_lastUpdate_of_run : ¬∀ (config : TrustConfig Float) (keys : LocalKeys)
    (engine : Engine Float LocalKeys), Engine.start config keys = .ok engine →
    ∀ turns : List (Turn Float), Clocked turns → ∀ identity before last next, before <+: turns →
      (engine.run before).lastUpdate? identity = some last →
      (engine.run turns).lastUpdate? identity = some next → last ≤ next := by
  intro forward
  have started : Engine.start .default Small.keys = .ok Small.engine := by rfl
  have second : (Small.engine.run (lateReports.take 2)).lastUpdate? "ann" = some (dawn 60) := by
    decide +kernel
  have third : (Small.engine.run (lateReports.take 3)).lastUpdate? "ann" = some (dawn 0) := by
    decide +kernel
  have clocked : Clocked (lateReports.take 3) := clocked_lateReports.earlier (List.take_prefix _ _)
  exact absurd (forward .default Small.keys Small.engine started _ clocked "ann" _ _ _
    (List.prefix_append _ [_]) second third) (by decide)

end Engine

end ReviewGate
