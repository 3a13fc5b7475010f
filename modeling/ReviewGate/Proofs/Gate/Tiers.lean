import ReviewGate.Proofs.Data.Laws
import ReviewGate.Proofs.Gate.Steps

/-!
# What the tiers leave

The tiers add notes to a dossier and no rules.  Where they come to a verdict, only what the deep tier
has found is left to learn from.
-/

namespace ReviewGate

variable {K : Type}

namespace Dossier

/-- Only notes were added: no rule was proposed and none was learned. -/
structure Annotates (dossier later : Dossier) : Prop where
  proposals : later.proposals = dossier.proposals
  learned : later.learned = dossier.learned

theorem Annotates.refl (dossier : Dossier) : dossier.Annotates dossier := ⟨rfl, rfl⟩

theorem Annotates.trans {dossier later last : Dossier} (first : dossier.Annotates later)
    (second : later.Annotates last) : dossier.Annotates last :=
  ⟨second.proposals.trans first.proposals, second.learned.trans first.learned⟩

theorem annotates_warn (dossier : Dossier) (warning : String) :
    dossier.Annotates (dossier.warn warning) := ⟨rfl, rfl⟩

theorem annotates_foldl_warn {α : Type} (warning : α → String) (values : List α)
    (dossier : Dossier) :
    dossier.Annotates
      (values.foldl (fun dossier value => dossier.warn (warning value)) dossier) := by
  induction values generalizing dossier with
  | nil => exact .refl dossier
  | cons value rest inductionHypothesis =>
      exact (dossier.annotates_warn (warning value)).trans (inductionHypothesis _)

theorem annotates_pass {dossier later : Dossier} {next : ReviewState}
    (passed : dossier.pass next = .ok later) : dossier.Annotates later := by
  obtain ⟨trail, -, same⟩ := bind_eq_ok_iff.mp passed
  cases same
  exact ⟨rfl, rfl⟩

theorem annotates_afterScan (dossier : Dossier) (config : GateConfig)
    (report : ScanReport Float) : dossier.Annotates (dossier.afterScan config report).1 := by
  have warned := annotates_foldl_warn findingWarning report.findings dossier
  unfold afterScan
  split
  · exact ⟨rfl, rfl⟩
  · dsimp only
    split
    · exact warned.trans (annotates_warn ..)
    · split
      · exact warned.trans (annotates_warn ..)
      · split <;> exact warned

theorem annotates_afterContracts (dossier : Dossier) (config : GateConfig)
    (answer : Option (Except ServiceError ContractReport)) :
    dossier.Annotates (dossier.afterContracts config answer).1 := by
  have unchecked : ∀ failure, dossier.Annotates (dossier.withoutChecker failure).1 := by
    intro failure
    unfold withoutChecker
    split
    · exact .refl dossier
    · exact annotates_warn ..
  unfold afterContracts
  split
  · split <;> exact .refl dossier
  · exact unchecked _
  · exact unchecked _

theorem annotates_afterDeep (dossier : Dossier) (result : DeepResult) :
    dossier.Annotates (dossier.afterDeep result).1 := by
  cases result with
  | pass => exact ⟨rfl, rfl⟩
  | fail violations => exact ⟨rfl, rfl⟩
  | unavailable reason =>
      simp only [afterDeep, withoutDeep]
      split <;> exact ⟨rfl, rfl⟩

/-- What is left to learn from was found by the deep tier. -/
theorem toLearn_afterDeep (dossier : Dossier) (result : DeepResult) :
    (dossier.afterDeep result).2.2 ⊆ (dossier.afterDeep result).2.1.violations ∧
      ((dossier.afterDeep result).2.2 ≠ [] → (dossier.afterDeep result).2.1.tier = .deep) := by
  cases result with
  | pass => exact ⟨List.Subset.refl _, fun _ => rfl⟩
  | fail violations =>
      simp only [afterDeep, deepFailureOpinion]
      split <;> exact ⟨List.Subset.refl _, fun _ => rfl⟩
  | unavailable reason => exact ⟨List.nil_subset _, fun left => absurd rfl left⟩

end Dossier

/-- What the tiers can make of a dossier: they fail, wait for a service, or come to a verdict. -/
inductive Review.Considers (dossier : Dossier) : Review → Prop where
  | refused (cause : GateError) : Considers dossier (.finished (.error cause))
  | checking {later : Dossier} {due : Nat} {answer : Option (Except ServiceError ContractReport)}
      (notes : dossier.Annotates later) : Considers dossier (.checking later due answer)
  | deepening {later : Dossier} {due : Nat} {answer : Option (Except ServiceError DeepReport)}
      (notes : dossier.Annotates later) : Considers dossier (.deepening later due answer)
  | concluded {later : Dossier} {verdict : Verdict} {left : List Violation}
      (notes : dossier.Annotates later) (told : left ⊆ verdict.violations)
      (deep : left ≠ [] → verdict.tier = .deep) : Considers dossier (.learning later verdict left)

theorem Review.Considers.of_notes {dossier later : Dossier} {review : Review}
    (considers : review.Considers later) (notes : dossier.Annotates later) :
    review.Considers dossier := by
  cases considers with
  | refused cause => exact .refused cause
  | checking more => exact .checking (notes.trans more)
  | deepening more => exact .deepening (notes.trans more)
  | concluded more told deep => exact .concluded (notes.trans more) told deep

namespace Gate

/-- An opinion of any tier, with nothing to learn from. -/
theorem considers_opine (gate : Gate K) (now : Instant) (dossier : Dossier) (opinion : Opinion) :
    (gate.opine now dossier opinion []).1.Considers dossier :=
  .concluded (.refl dossier) (List.nil_subset _) fun left => absurd rfl left

theorem considers_concludeDeep (gate : Gate K) (now : Instant) (dossier : Dossier)
    (result : Dossier.DeepResult) :
    (gate.concludeDeep now dossier result).1.Considers dossier :=
  .concluded (dossier.annotates_afterDeep result) (dossier.toLearn_afterDeep result).1
    (dossier.toLearn_afterDeep result).2

theorem considers_askVerifier (gate : Gate K) (now : Instant) (dossier : Dossier) :
    (gate.askVerifier now dossier).1.Considers dossier := by
  unfold askVerifier
  split
  · exact considers_concludeDeep ..
  · split
    · exact considers_concludeDeep ..
    · exact .deepening (.refl dossier)

theorem considers_leaveContracts (gate : Gate K) (now : Instant) (dossier : Dossier)
    (opinion : Option Opinion) :
    (gate.leaveContracts now dossier opinion).1.Considers dossier := by
  unfold leaveContracts
  split
  · exact considers_opine ..
  · split
    · split
      · rename_i passed advanced
        exact (gate.considers_askVerifier now passed).of_notes (Dossier.annotates_pass advanced)
      · exact .refused _
    · exact considers_opine ..

theorem considers_askChecker (gate : Gate K) (now : Instant) (dossier : Dossier) :
    (gate.askChecker now dossier).1.Considers dossier := by
  unfold askChecker
  dsimp only
  split
  · exact considers_leaveContracts ..
  · exact .checking (Dossier.annotates_foldl_warn ..)

theorem considers_scanUnit (gate : Gate K) (now : Instant) (unit : CodeUnit) (stage : Stage)
    (coolingOff : Bool) :
    (gate.scanUnit now unit stage coolingOff).1.Considers
      (.ofScan gate.config unit stage coolingOff (gate.library.scan Float .low unit.source)) := by
  have scanned := Dossier.annotates_afterScan
    (.ofScan gate.config unit stage coolingOff (gate.library.scan Float .low unit.source))
    gate.config (gate.library.scan Float .low unit.source)
  unfold scanUnit
  dsimp only
  split
  · exact (gate.considers_opine now _ _).of_notes scanned
  · split
    · rename_i passed advanced
      exact (gate.considers_askChecker now passed).of_notes
        (scanned.trans (Dossier.annotates_pass advanced))
    · exact .refused _

end Gate

/-! ## Steps through the tiers -/

namespace Review

variable {now : Instant} {gate later : Gate K} {next : Review}

theorem considers_of_admitted {unit : CodeUnit} {stage : Stage} {coolingOff : Bool}
    (stepped : step? now gate (.admitted unit stage coolingOff) = some (next, later)) :
    next.Considers
      (.ofScan gate.config unit stage coolingOff (gate.library.scan Float .low unit.source)) := by
  cases step_of_step? stepped with
  | scan scanned =>
      have considers := gate.considers_scanUnit now unit stage coolingOff
      rwa [scanned] at considers

theorem considers_of_checking {dossier : Dossier} {due : Nat}
    {answer : Option (Except ServiceError ContractReport)}
    (stepped : step? now gate (.checking dossier due answer) = some (next, later)) :
    next.Considers dossier := by
  cases step_of_step? stepped with
  | check elapsed left =>
      have considers := gate.considers_leaveContracts now
        (dossier.afterContracts gate.config answer).1 (dossier.afterContracts gate.config answer).2
      rw [left] at considers
      exact considers.of_notes (dossier.annotates_afterContracts gate.config answer)

theorem considers_of_deepening {dossier : Dossier} {due : Nat}
    {answer : Option (Except ServiceError DeepReport)}
    (stepped : step? now gate (.deepening dossier due answer) = some (next, later)) :
    next.Considers dossier := by
  cases step_of_step? stepped with
  | deepen elapsed concluded =>
      have considers := gate.considers_concludeDeep now dossier
        (Dossier.deepResult gate.config answer)
      rwa [concluded] at considers

end Review

end ReviewGate
