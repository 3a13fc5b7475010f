import Mathlib.Data.List.NodupEquivFin
import ReviewGate.Proofs.Pattern.Proposal

/-!
# Sequences of tokens

A sequence is looked for in one pass over the tokens of a line: each wanted token is sought behind
the one before it, and its first occurrence there is taken.  The pass succeeds exactly where the
wanted tokens are a subsequence, since whatever stands behind some occurrence of a token also stands
behind its first one.
-/

namespace ReviewGate.Shape

/-! ## One pass -/

/-- Takes tokens from the front until the wanted one has been taken: whether it has come, and which
tokens are left. -/
def seek (wanted : String) : List String → Bool × List String
  | [] => (false, [])
  | token :: rest => if token = wanted then (true, rest) else seek wanted rest

/-- Seeks the wanted tokens in turn, each among the tokens that are left by the ones before it, and
gives up at the first one that does not come. -/
def occurInPass : List String → List String → Bool
  | [], _ => true
  | wanted :: others, tokens => (seek wanted tokens).1 && occurInPass others (seek wanted tokens).2

@[simp]
theorem seek_nil (wanted : String) : seek wanted [] = (false, []) := rfl

@[simp]
theorem seek_cons_self (wanted : String) (rest : List String) :
    seek wanted (wanted :: rest) = (true, rest) := by
  simp [seek]

theorem seek_cons_of_ne {wanted token : String} (other : token ≠ wanted) (rest : List String) :
    seek wanted (token :: rest) = seek wanted rest := by
  simp [seek, other]

/-- A token that has come and the tokens that are left end the line. -/
theorem cons_sublist_of_seek {wanted : String} {tokens : List String}
    (comes : (seek wanted tokens).1 = true) :
    (wanted :: (seek wanted tokens).2).Sublist tokens := by
  induction tokens with
  | nil => simp at comes
  | cons token rest inductionHypothesis =>
      by_cases same : token = wanted
      · subst token
        simp
      · rw [seek_cons_of_ne same] at comes ⊢
        apply List.Sublist.cons
        exact inductionHypothesis comes

/-- A token that occurs in front of others comes, and the others are among the tokens that are left:
what stands behind a later occurrence stands behind the first one as well. -/
theorem seek_of_cons_sublist {wanted : String} {others tokens : List String}
    (occur : (wanted :: others).Sublist tokens) :
    (seek wanted tokens).1 = true ∧ others.Sublist (seek wanted tokens).2 := by
  induction tokens with
  | nil => simp at occur
  | cons token rest inductionHypothesis =>
      by_cases same : token = wanted
      -- The wanted token is the first one, although the others may stand behind a later one.
      · subst token
        rw [seek_cons_self]
        exact ⟨rfl, List.cons_sublist_cons.mp occur⟩
      · rw [seek_cons_of_ne same]
        apply inductionHypothesis
        cases occur with
        | cons _ later => exact later
        | cons_cons _ behind => exact absurd rfl same

theorem occurInPass_iff {wanted tokens : List String} :
    occurInPass wanted tokens = true ↔ wanted.Sublist tokens := by
  induction wanted generalizing tokens with
  | nil => simp [occurInPass]
  | cons wanted others inductionHypothesis =>
      rw [occurInPass, Bool.and_eq_true, inductionHypothesis]
      constructor
      · rintro ⟨comes, among⟩
        exact (among.cons_cons wanted).trans (cons_sublist_of_seek comes)
      · exact seek_of_cons_sublist

/-! ## Subsequences -/

/-- Places in a line, one for each wanted token and in the order of these, at which the line has the
wanted tokens. -/
structure IsPlacement (wanted tokens : List String)
    (place : Fin wanted.length → Fin tokens.length) : Prop where
  increasing : StrictMono place
  same : ∀ index, tokens.get (place index) = wanted.get index

theorem exists_isPlacement_iff {wanted tokens : List String} :
    (∃ place, IsPlacement wanted tokens place) ↔ wanted.Sublist tokens := by
  rw [List.sublist_iff_exists_fin_orderEmbedding_get_eq]
  constructor
  · rintro ⟨place, increasing, same⟩
    exact ⟨.ofStrictMono place increasing, fun index => (same index).symm⟩
  · rintro ⟨place, same⟩
    exact ⟨place, place.strictMono, fun index => (same index).symm⟩

/-- A sequence matches tokens exactly if it is a subsequence of them, that is, if its tokens can be
placed among them in their order, each at a place of its own.  One pass finds that out, and what
matches a sequence matches every sequence that is left when tokens are dropped from it. -/
theorem matchesTokens_iff_sublist (wanted tokens : List String) :
    ((Shape.sequence wanted).matchesTokens tokens = true ↔ wanted.Sublist tokens) ∧
      ((Shape.sequence wanted).matchesTokens tokens = true ↔
        ∃ place, IsPlacement wanted tokens place) ∧
      (Shape.sequence wanted).matchesTokens tokens = occurInPass wanted tokens ∧
      ((Shape.sequence wanted).matchesTokens tokens = true → ∀ fewer : List String,
        fewer.Sublist wanted → (Shape.sequence fewer).matchesTokens tokens = true) := by
  have decides (wanted : List String) :
      (Shape.sequence wanted).matchesTokens tokens = true ↔ wanted.Sublist tokens := by
    rw [matchesTokens_sequence, occurInOrder_iff]
  refine ⟨decides wanted, ?placed, ?pass, ?dropped⟩
  case placed => rw [decides, exists_isPlacement_iff]
  case pass =>
    apply Bool.eq_iff_iff.mpr
    rw [decides, occurInPass_iff]
  case dropped =>
    intro matched fewer dropped
    apply (decides fewer).mpr
    exact dropped.trans ((decides wanted).mp matched)

/-- A token that is wanted twice has to come twice. -/
example : (Shape.sequence ["(", "a", "("]).matchesTokens ["(", "(", "a", ")", "("] = true ∧
    (Shape.sequence ["(", "a", "("]).matchesTokens ["(", "(", "a", ")"] = false := by
  decide

end ReviewGate.Shape
