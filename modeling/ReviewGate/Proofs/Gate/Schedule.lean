import ReviewGate.Gate.Schedule
import ReviewGate.Proofs.Gate.System

/-!
# Schedules are runs

Reviews that take turns on one thread are calls of a system: every turn is a number of its moves,
and so is the jump of the clock.  What holds in every system that can be reached holds when all
turns are over.
-/

namespace ReviewGate

variable {K : Type}

namespace Review

theorem run_of_step {now : Instant} {gate later : Gate K} {review next : Review}
    (stepped : step? now gate review = some (next, later)) :
    run now gate review = run now later next := by
  rw [run]
  split
  · rename_i stopped
    rw [stopped] at stepped
    contradiction
  · rename_i found
    rw [found] at stepped
    cases stepped
    rfl

theorem run_of_stop {now : Instant} {gate : Gate K} {review : Review}
    (stopped : step? now gate review = none) : run now gate review = (review, gate) := by
  rw [run]
  split
  · rfl
  · rename_i stepped
    rw [stepped] at stopped
    contradiction

theorem runEach_cons (now : Instant) (gate : Gate K) (review : Review) (rest : List Review) :
    runEach now gate (review :: rest) =
      ((run now gate review).1 :: (runEach now (run now gate review).2 rest).1,
        (runEach now (run now gate review).2 rest).2) := rfl

theorem length_runEach (now : Instant) (gate : Gate K) (reviews : List Review) :
    (runEach now gate reviews).1.length = reviews.length := by
  induction reviews generalizing gate with
  | nil => rfl
  | cons review rest inductionHypothesis =>
      rw [runEach_cons, List.length_cons, List.length_cons, inductionHypothesis]

/-- The clock never jumps back. -/
theorem passTime_cases (now : Instant) (gate : Gate K) (reviews : List Review) :
    ∃ timer, gate.timer ≤ timer ∧ passTime now gate reviews = { gate with timer } := by
  unfold passTime
  split
  · split
    · exact ⟨_, Nat.le_max_left .., rfl⟩
    · exact ⟨gate.timer, Nat.le_refl _, rfl⟩
  · exact ⟨gate.timer, Nat.le_refl _, rfl⟩

end Review

namespace System

variable [KeyProvider K] {permitted : Gate.Operation → Prop}

/-- A system with this gate and these calls can be reached. -/
def Arrives (permitted : Gate.Operation → Prop) (gate : Gate K) (calls : List Call) : Prop :=
  ∃ system : System K, system.Reachable permitted ∧ system.gate = gate ∧ system.calls = calls

theorem Arrives.step {gate later : Gate K} {calls : List Call}
    (arrives : Arrives permitted gate calls)
    {index : Nat} {call next : Call} {now : Instant} (present : calls[index]? = some call)
    (stepped : call.step? now gate = some (next, later)) :
    Arrives permitted later (calls.set index next) := by
  obtain ⟨system, reached, rfl, rfl⟩ := arrives
  exact ⟨_, reached.move (.step present stepped), rfl, rfl⟩

theorem Arrives.wait {gate : Gate K} {calls : List Call} (arrives : Arrives permitted gate calls)
    {timer : Nat} (forward : gate.timer ≤ timer) :
    Arrives permitted { gate with timer } calls := by
  obtain ⟨system, reached, rfl, rfl⟩ := arrives
  exact ⟨_, reached.move (.wait forward), rfl, rfl⟩

theorem Arrives.submit {gate : Gate K} {calls : List Call} (arrives : Arrives permitted gate calls)
    {call : Call} (fresh : call.IsFresh) : Arrives permitted gate (calls ++ [call]) := by
  obtain ⟨system, reached, rfl, rfl⟩ := arrives
  exact ⟨_, reached.move (.submit fresh), rfl, rfl⟩

/-- A turn of one review. -/
theorem Arrives.run {gate : Gate K} {calls : List Call} (arrives : Arrives permitted gate calls)
    {index : Nat} {unit : CodeUnit} {review : Review}
    (present : calls[index]? = some (.review unit review)) (now : Instant) :
    Arrives permitted (review.run now gate).2
      (calls.set index (.review unit (review.run now gate).1)) := by
  induction gate, review using Review.run.induct now generalizing calls with
  | case1 gate review stopped =>
      rw [Review.run_of_stop stopped]
      obtain ⟨below, same⟩ := List.getElem?_eq_some_iff.mp present
      rw [← same, List.set_getElem_self]
      exact arrives
  | case2 gate review next later stepped inductionHypothesis =>
      have taken : (Call.review unit review).step? now gate = some (.review unit next, later) := by
        simp only [Call.step?, stepped, Option.map_some]
      have below := (List.getElem?_eq_some_iff.mp present).1
      have continued := inductionHypothesis (arrives.step present taken)
        (List.getElem?_set_self below)
      rw [List.set_set] at continued
      rw [Review.run_of_step stepped]
      exact continued

/-- A turn of every review, behind the calls that were there before. -/
theorem Arrives.runEach {gate : Gate K} {before : List Call} {units : List CodeUnit}
    {reviews : List Review} (same : units.length = reviews.length)
    (arrives : Arrives permitted gate (before ++ List.zipWith Call.review units reviews))
    (now : Instant) :
    Arrives permitted (Review.runEach now gate reviews).2
      (before ++ List.zipWith Call.review units (Review.runEach now gate reviews).1) := by
  induction reviews generalizing gate before units with
  | nil => exact arrives
  | cons review rest inductionHypothesis =>
      cases units with
      | nil => contradiction
      | cons unit units =>
          rw [List.zipWith_cons_cons] at arrives
          have present : (before ++ Call.review unit review ::
              List.zipWith Call.review units rest)[before.length]? =
                some (.review unit review) := by
            rw [List.getElem?_append_right (Nat.le_refl _), Nat.sub_self]
            rfl
          have turned := arrives.run present now
          rw [List.set_append_right _ _ (Nat.le_refl _), Nat.sub_self, List.set_cons_zero,
            List.append_cons] at turned
          have others := inductionHypothesis (Nat.succ.inj same) turned
          rw [Review.runEach_cons, List.zipWith_cons_cons, List.append_cons]
          exact others

/-- Turn after turn, until nobody gets any further. -/
theorem Arrives.runAll {gate : Gate K} {before : List Call} {units : List CodeUnit}
    {reviews : List Review} (same : units.length = reviews.length)
    (arrives : Arrives permitted gate (before ++ List.zipWith Call.review units reviews))
    (now : Instant) :
    Arrives permitted (Review.runAll now gate reviews).2
      (before ++ List.zipWith Call.review units (Review.runAll now gate reviews).1) := by
  induction gate, reviews using Review.runAll.induct now with
  | case1 gate reviews turn closer inductionHypothesis =>
      obtain ⟨timer, forward, passed⟩ := Review.passTime_cases now gate reviews
      have turned := (arrives.wait forward).runEach same now
      rw [← passed] at turned
      rw [Review.runAll, if_pos closer]
      exact inductionHypothesis (same.trans (Review.length_runEach ..).symm) turned
  | case2 gate reviews turn stuck =>
      rw [Review.runAll, if_neg stuck]
      exact arrives

theorem Arrives.submitAll {gate : Gate K} {before : List Call} (units : List CodeUnit)
    (arrives : Arrives permitted gate before) :
    Arrives permitted gate
      (before ++ List.zipWith Call.review units (units.map Review.submitted)) := by
  induction units generalizing before with
  | nil => simpa using arrives
  | cons unit rest inductionHypothesis =>
      have fresh : (Call.review unit (.submitted unit)).IsFresh := rfl
      rw [List.map_cons, List.zipWith_cons_cons, List.append_cons]
      exact inductionHypothesis (arrives.submit fresh)

/-- Units that are reviewed side by side are calls of a system, so that what holds of every system
that can be reached holds of their results. -/
theorem arrives_reviewAll {system : System K} (reached : system.Reachable permitted)
    (now : Instant) (units : List CodeUnit) :
    Arrives permitted (system.gate.reviewAll now units).2
      (system.calls ++ List.zipWith Call.review units (system.gate.reviewAll now units).1) := by
  have submitted : Arrives permitted system.gate
      (system.calls ++ List.zipWith Call.review units (units.map Review.submitted)) :=
    Arrives.submitAll units ⟨system, reached, rfl, rfl⟩
  exact submitted.runAll (List.length_map Review.submitted).symm now

end System

end ReviewGate
