import ReviewGate.Proofs.Trust.Feasibility
import ReviewGate.Proofs.Trust.Inactivity
import ReviewGate.Proofs.Trust.Isolation

/-!
# Requests that are served

A record changes only by what is asked about its identity.  Where the storage takes all of that, the
record is what the requests have made of it, one after another, whatever has happened to others
between them.
-/

namespace ReviewGate

variable {R K : Type} [Scalar R] [KeyProvider K]

namespace Engine

variable {engine : Engine R K} {identity : String}

omit [KeyProvider K] in
theorem start_of_validate {config : TrustConfig R} (valid : config.validate = .ok ()) (keys : K) :
    Engine.start config keys = .ok ⟨config, [], [], [], fun _ => none, keys, []⟩ := by
  rw [Engine.start, valid]
  rfl

/-! ## One request -/

theorem record?_attempt_of_ne (rest : engine.AtRest) (now : Instant) {operation : Operation R}
    (different : operation.identity ≠ identity) :
    (engine.attempt now operation).2.record? identity = engine.record? identity := by
  rcases attempt_cases now (rest.free operation.identity) with
    ⟨keys, -, same⟩ | ⟨records, record, keys, history, change, same⟩
  · rw [same]
    rfl
  · rw [same, record?_changed, if_neg]
    rw [change.id_eq rest.keyed]
    exact different

/-- A feasible commit succeeds and stores the record with what has been prepared. -/
theorem record?_attempt_commit (rest : engine.AtRest) (accepts : engine.Accepts) {now : Instant}
    {asked : Commit R} {record : IdentityRecord R}
    (found : engine.record? asked.identity = some record)
    (feasible : asked.IsFeasible engine.config now) :
    (engine.attempt now (.commit asked)).1 = none ∧
      (engine.attempt now (.commit asked)).2.record? asked.identity =
        some (settledRecord record (engine.preparedFor record now asked)) := by
  rw [attempt_commit, commit_eq_ok accepts found feasible]
  exact ⟨rfl, record?_committed rest.keyed found _⟩

omit [KeyProvider K] in
/-- A drift is too small to be written down. -/
def IsSmall (engine : Engine R K) (record : IdentityRecord R) (instant : Instant) : Prop :=
  let score := engine.config.decay.decay record.trustScore record.lastTrustUpdate instant
  score - record.trustScore < 0.0001 ∧ record.trustScore - score < 0.0001

omit [KeyProvider K] in
theorem exists_applyDecay (accepts : engine.Accepts) {record : IdentityRecord R}
    (found : engine.record? identity = some record) (instant : Instant) :
    ∃ answer, engine.applyDecay identity instant = .ok answer := by
  unfold applyDecay applyDecayInPlace
  rw [identity_eq_ok_iff.mpr found]
  dsimp only
  split
  · exact ⟨_, rfl⟩
  · unfold audit write
    rw [accepts]
    exact ⟨_, rfl⟩

/-- A drift leaves the record alone where it is too small, and else stores the record with the
drift. -/
theorem record?_attempt_drift (rest : engine.AtRest) (accepts : engine.Accepts)
    {now instant : Instant} {record : IdentityRecord R}
    (found : engine.record? identity = some record) :
    (engine.attempt now (.drift identity instant)).1 = none ∧
      ((engine.IsSmall record instant ∧
        (engine.attempt now (.drift identity instant)).2.record? identity = some record) ∨
      ¬engine.IsSmall record instant ∧
        (engine.attempt now (.drift identity instant)).2.record? identity =
          some (driftedRecord record (engine.driftUpdate record identity instant))) := by
  have becomes := becomes_of_attempt rest now (.drift identity instant)
  have succeeds : (engine.attempt now (.drift identity instant)).1 = none := by
    obtain ⟨answer, done⟩ := exists_applyDecay accepts found instant
    rw [attempt_drift, done]
  refine ⟨succeeds, ?_⟩
  rw [plan, found] at becomes
  dsimp only [driftUpdate] at becomes
  generalize engine.attempt now (.drift identity instant) = outcome at becomes succeeds ⊢
  obtain ⟨answer, later⟩ := outcome
  obtain rfl : answer = none := succeeds
  split at becomes
  · rename_i small
    obtain rfl : later = engine := becomes
    exact .inl ⟨small, found⟩
  · rename_i large
    refine .inr ⟨large, ?_⟩
    dsimp only [Plan.Becomes] at becomes
    rw [accepts] at becomes
    obtain ⟨-, history, rfl⟩ := becomes
    rw [record?_changed]
    exact if_pos (rest.keyed _ _ found)

/-! ## Runs -/

/-- Whatever a run asks about an identity, the storage takes every batch at that time. -/
def Serves (engine : Engine R K) (identity : String) (turns : List (Turn R)) : Prop :=
  ∀ begun now operation, begun ++ [.operation now operation] <+: turns →
    operation.identity = identity → (engine.run begun).Accepts

theorem Accepts.attempt (accepts : engine.Accepts) (rest : engine.AtRest) (now : Instant)
    (operation : Operation R) : (engine.attempt now operation).2.Accepts := by
  rcases attempt_cases now (rest.free operation.identity) with
    ⟨keys, -, same⟩ | ⟨records, record, keys, history, -, same⟩
  · rw [same]
    exact accepts
  · rw [same]
    exact accepts

omit [Scalar R] in
/-- A run of nothing but these requests, in which the storage does not change its mind. -/
def asking (requests : List (Instant × Operation R)) : List (Turn R) :=
  requests.map fun (now, operation) => .operation now operation

theorem Accepts.run (accepts : engine.Accepts) (rest : engine.AtRest)
    (requests : List (Instant × Operation R)) : (engine.run (asking requests)).Accepts := by
  induction requests generalizing engine with
  | nil => exact accepts
  | cons request requests inductionHypothesis =>
      exact inductionHypothesis (accepts.attempt rest _ _) (rest.attempt _ _)

theorem Accepts.serves (accepts : engine.Accepts) (rest : engine.AtRest) (identity : String)
    (requests : List (Instant × Operation R)) : engine.Serves identity (asking requests) := by
  intro begun now operation within _
  have start : begun <+: asking requests := (List.prefix_append _ _).trans within
  have taken : begun = asking (requests.take begun.length) := by
    rw [asking, List.map_take]
    exact List.prefix_iff_eq_take.mp start
  rw [taken]
  exact accepts.run rest _

theorem Serves.earlier {turns begun : List (Turn R)} (serves : engine.Serves identity turns)
    (shorter : begun <+: turns) : engine.Serves identity begun :=
  fun before now operation within => serves before now operation (within.trans shorter)

omit [Scalar R] in
theorem requests_append (identity : String) (first second : List (Turn R)) :
    requests identity (first ++ second) = requests identity first ++ requests identity second := by
  induction first with
  | nil => rfl
  | cons turn rest inductionHypothesis =>
      cases turn with
      | refusal refusal => exact inductionHypothesis
      | operation now operation =>
          rw [List.cons_append, requests, requests, inductionHypothesis]
          split <;> rfl

theorem run_append (engine : Engine R K) (first second : List (Turn R)) :
    engine.run (first ++ second) = (engine.run first).run second := by
  simp [run]

/-- What holds of a record at first, and is kept by each request over such a storage, holds of it
after a run that serves its identity. -/
theorem Serves.run_induct (rest : engine.AtRest) {turns : List (Turn R)}
    (serves : engine.Serves identity turns)
    {motive : List (Instant × Operation R) → IdentityRecord R → Prop} {record : IdentityRecord R}
    (found : engine.record? identity = some record) (first : motive [] record)
    (next : ∀ {reached : Engine R K} {earlier now operation before}, reached.AtRest →
      reached.config = engine.config → earlier ++ [(now, operation)] <+: requests identity turns →
      reached.record? identity = some before → operation.identity = identity →
      reached.Accepts → motive earlier before →
      ∃ after, (reached.attempt now operation).2.record? identity = some after ∧
        motive (earlier ++ [(now, operation)]) after) :
    ∃ last, (engine.run turns).record? identity = some last ∧
      motive (requests identity turns) last := by
  induction turns using List.reverseRecOn with
  | nil => exact ⟨record, found, first⟩
  | append_singleton turns turn inductionHypothesis =>
      have begun : turns <+: turns ++ [turn] := List.prefix_append _ _
      rw [requests_append] at next ⊢
      obtain ⟨before, reached, holds⟩ := inductionHypothesis (serves.earlier begun)
        fun rest config within => next rest config (within.trans (List.prefix_append _ _))
      rw [run_concat]
      cases turn with
      | refusal refusal =>
          refine ⟨before, reached, ?_⟩
          rwa [requests, requests, List.append_nil]
      | operation now operation =>
          have resting := rest.run turns
          by_cases about : operation.identity = identity
          · have asked : requests identity [.operation now operation] = [(now, operation)] := by
              rw [requests, if_pos about, requests]
            rw [asked] at next ⊢
            exact next resting (rest.config_run turns) List.prefix_rfl reached about
              (serves turns now operation List.prefix_rfl about) holds
          · have silent : requests identity [.operation now operation] = [] := by
              rw [requests, if_neg about, requests]
            rw [silent, List.append_nil]
            exact ⟨before, (record?_attempt_of_ne resting now about).trans reached, holds⟩

end Engine

end ReviewGate
