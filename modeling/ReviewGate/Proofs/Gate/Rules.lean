import ReviewGate.Proofs.Gate.Activation

/-!
# Uses of the library that fail

Learning from a failure in production changes the library only after the entry has been taken.
Activating and switching off come the other way round: where the storage refuses the entry, the
caller is told of an error and the library has changed all the same.
-/

namespace ReviewGate

variable {K : Type}

/-- Why something has failed, if it has. -/
def errorOf? {Failure Value : Type} : Except Failure Value → Option Failure
  | .error cause => some cause
  | .ok _ => none

namespace Gate

/-- The error that a use of the library returns, if it returns one. -/
def failure? (now : Instant) (gate : Gate K) : Operation → Option GateError
  | .learn fragment violation sourceVerdict =>
      errorOf? (gate.learnFromProduction now fragment violation sourceVerdict).1
  | .activate reviewId revised => errorOf? (gate.activateReview now reviewId revised).1
  | .deactivate ruleId successor => errorOf? (gate.deactivateRule now ruleId successor).1
  | _ => none

/-- A use of the library that changes it before anything is written. -/
def Operation.ChangesFirst : Operation → Prop
  | .activate .. | .deactivate .. => True
  | _ => False

theorem learner_applyProposal_of_error {gate : Gate K} {proposal : Proposal} {cause : GateError}
    (failed : errorOf? (gate.applyProposal proposal).1 = some cause) :
    (gate.applyProposal proposal).2.learner = gate.learner := by
  rw [applyProposal_eq] at failed ⊢
  split
  · rename_i learned learner applied
    simp [applied, errorOf?] at failed
  · rfl

theorem learner_learnFromProduction_of_error {gate : Gate K} {now : Instant} {fragment : String}
    {violation : Violation} {sourceVerdict : String} {cause : GateError}
    (failed : errorOf?
      (gate.learnFromProduction now fragment violation sourceVerdict).1 = some cause) :
    (gate.learnFromProduction now fragment violation sourceVerdict).2.learner = gate.learner := by
  unfold learnFromProduction at failed ⊢
  dsimp only at failed ⊢
  split
  · rfl
  · rename_i proposal proposed
    rw [proposed] at failed
    dsimp only at failed
    split
    · rename_i silent
      rw [silent] at failed
      exact learner_applyProposal_of_error failed
    · rename_i record event
      rw [event] at failed
      dsimp only at failed
      split
      · rfl
      · rename_i wrote written
        rw [written] at failed
        have same := learner_applyProposal_of_error failed
        rw [writeEvents_eq_ok written] at same ⊢
        exact same

theorem version_activateReview {learner later : Learner} {reviewId : String}
    {revised : Option Matcher} {rule : Rule}
    (activated : learner.activateReview reviewId revised = .ok (rule, later)) :
    later.library.version = learner.library.version + 1 := by
  obtain ⟨-, -, item, matcher, -, -, -, -, inserted⟩ := Learner.activateReview_cases activated
  obtain ⟨entry, -, grown⟩ := Library.insert_eq_ok inserted
  rw [grown]

theorem version_deactivate {library later : Library} {ruleId : String}
    {successor : Option String} {rule : Rule}
    (deactivated : library.deactivate ruleId successor = .ok (rule, later)) :
    later.version = library.version + 1 := by
  rw [Library.deactivate_eq_ok deactivated]

/-- A change that makes the next version has been made although it failed exactly where its entry was
refused. -/
theorem Tells.learner_eq_iff {gate : Gate K} {type : EventType} {changes : Rule → Learner → Prop}
    {answer : Except GateError Rule × Gate K} {cause : GateError}
    (tells : gate.Tells type changes answer)
    (next : ∀ rule later, changes rule later → later.library.version = gate.library.version + 1)
    (failed : errorOf? answer.1 = some cause) :
    answer.2.learner = gate.learner ↔ ∀ refusal, cause ≠ .ledger refusal := by
  cases tells with
  | refused other =>
      cases failed
      exact ⟨fun _ => other, fun _ => rfl⟩
  | @unwritten rule learner changed refusal =>
      cases failed
      constructor
      · intro same
        have grown := next rule learner changed
        rw [library, ← same] at grown
        simp at grown
      · intro other
        exact absurd rfl (other refusal)
  | written => contradiction

end Gate

/-! ## Small refusals -/

namespace Small

/-- A storage that takes nothing. -/
def full : Refusal := fun _ => some (.unavailable "disk full")

/-- The gate after some uses, when its storage has become full. -/
def filled (operations : List Gate.Operation) : Gate LocalKeys :=
  let gate := operations.foldl (fun gate operation => gate.perform now operation) (gateOver staffed)
  { gate with engine := { gate.engine with refusal := full } }

def learning : Gate.Operation := .learn payload.source unsafeCall "incident"

theorem reachable_filled {operations : List Gate.Operation}
    (ofLibrary : ∀ operation ∈ operations, ∀ asked, operation ≠ .engine asked) : ∃ log,
    System.Reachable (fun _ => True) ⟨filled operations, [], log⟩ := by
  have performed : ∀ (operations : List Gate.Operation) (gate : Gate LocalKeys) log,
      (∀ operation ∈ operations, ∀ asked, operation ≠ .engine asked) →
      System.Reachable (fun _ => True) ⟨gate, [], log⟩ → ∃ later,
        System.Reachable (fun _ => True)
          ⟨operations.foldl (fun gate operation => gate.perform now operation) gate, [],
            later⟩ := by
    intro operations
    induction operations with
    | nil => exact fun gate log _ reached => ⟨log, reached⟩
    | cons operation rest inductionHypothesis =>
        intro gate log ofLibrary reached
        have free : operation.IsFree gate.engine := by
          cases operation with
          | engine asked => exact absurd rfl (ofLibrary _ List.mem_cons_self asked)
          | _ => trivial
        exact inductionHypothesis _ _
          (fun other membership => ofLibrary other (List.mem_cons_of_mem _ membership))
          (reached.move (.operate now trivial free))
  obtain ⟨log, begun⟩ : ∃ log, System.Reachable (fun _ => True) ⟨gateOver staffed, [], log⟩ :=
    reachable trivial
  obtain ⟨later, reached⟩ := performed operations _ log ofLibrary begun
  exact ⟨later, reached.move (.refuse full)⟩

end Small

/-! ## Failures -/

namespace Gate

open ReviewGate.Small

/-- A use of the library that returns an error leaves the library, the rule reviews and the
known-good code as they were, unless the storage has refused the entry of a change that comes before
it. -/
theorem learner_eq_iff_of_failure [KeyProvider K] {gate : Gate K} {now : Instant}
    {operation : Operation} {cause : GateError}
    (failed : gate.failure? now operation = some cause) :
    (gate.perform now operation).learner = gate.learner ↔
      (operation.ChangesFirst → ∀ refusal, cause ≠ .ledger refusal) := by
  cases operation with
  | learn fragment violation sourceVerdict =>
      have same : (gate.perform now (.learn fragment violation sourceVerdict)).learner =
          gate.learner := learner_learnFromProduction_of_error failed
      exact ⟨fun _ first => first.elim, fun _ => same⟩
  | activate reviewId revised =>
      have decided := (gate.tells_activateReview now reviewId revised).learner_eq_iff
        (fun _ _ activated => version_activateReview activated) failed
      exact ⟨fun same _ => decided.mp same, fun other => decided.mpr (other trivial)⟩
  | deactivate ruleId successor =>
      have decided := (gate.tells_deactivateRule now ruleId successor).learner_eq_iff
        (by rintro _ _ ⟨library, deactivated, rfl⟩; exact version_deactivate deactivated) failed
      exact ⟨fun same _ => decided.mp same, fun other => decided.mpr (other trivial)⟩
  | engine | addKnownGood | discard => contradiction

/-- Where the storage takes nothing, nothing is learned from a failure in production. -/
theorem learner_eq_of_refused_learning : ∃ cause : GateError,
    (filled []).failure? now learning = some cause ∧
      ((filled []).perform now learning).learner = (filled []).learner := by
  have fails : ((filled []).failure? now learning).isSome = true := by decide +kernel
  obtain ⟨cause, failed⟩ := Option.isSome_iff_exists.mp fails
  exact ⟨cause, failed, (learner_eq_iff_of_failure failed).mpr fun first => first.elim⟩

/-- Where the storage takes nothing, a rule is switched off and a candidate is made live, and both
callers are told of an error. -/
theorem unrecorded_changes :
    (∃ (gate : Gate LocalKeys) (log : List (Option Nat × LedgerEntry)) (cause : GateError)
      (ruleId : String),
      System.Reachable (fun _ => True) ⟨gate, [], log⟩ ∧
      gate.failure? now (.deactivate ruleId none) = some cause ∧
      (gate.library.get? ruleId).map (·.active) = some true ∧
      ((gate.perform now (.deactivate ruleId none)).library.get? ruleId).map (·.active) =
        some false) ∧
    ∃ (gate : Gate LocalKeys) (log : List (Option Nat × LedgerEntry)) (cause : GateError)
      (reviewId ruleId : String) (revised : Option Matcher),
      System.Reachable (fun _ => True) ⟨gate, [], log⟩ ∧
      gate.failure? now (.activate reviewId revised) = some cause ∧
      gate.learner.reviews.map (·.id) = [reviewId] ∧ gate.library.rules.length = 0 ∧
      (gate.perform now (.activate reviewId revised)).learner.reviews = [] ∧
      ((gate.perform now (.activate reviewId revised)).library.get? ruleId).map (·.active) =
        some true := by
  constructor
  · let asked : Operation := .deactivate "INJ-SYN-0" none
    obtain ⟨log, reached⟩ := @reachable_filled [learning] (by simp [learning])
    have fails : ((filled [learning]).failure? now asked).isSome = true := by decide +kernel
    obtain ⟨cause, failed⟩ := Option.isSome_iff_exists.mp fails
    exact ⟨filled [learning], log, cause, "INJ-SYN-0", reached, failed, by decide +kernel,
      by decide +kernel⟩
  · let earlier : List Operation := [.addKnownGood payload.source, learning]
    let revised : Option Matcher := some (.sequence ["payload", "run"])
    obtain ⟨log, reached⟩ := @reachable_filled earlier (by simp [earlier, learning])
    have fails : ((filled earlier).failure? now (.activate "1" revised)).isSome = true := by
      decide +kernel
    obtain ⟨cause, failed⟩ := Option.isSome_iff_exists.mp fails
    exact ⟨filled earlier, log, cause, "1", "INJ-SYN-0", revised, reached, failed,
      by decide +kernel, by decide +kernel, by decide +kernel, by decide +kernel⟩

end Gate

end ReviewGate
