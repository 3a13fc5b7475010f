import ReviewGate.Proofs.Contract.Cutting
import ReviewGate.Proofs.Contract.Rejection

/-!
# What clauses are modelled as

A clause is modelled by one constraint for each of its signs or not at all.  Each constraint is true
exactly where the comparison of the two operands is, whatever numbers the subjects stand for.
-/

namespace ReviewGate

/-! ## Truth -/

/-- The number or infinity that a double is, unless it is neither. -/
noncomputable def Double.number? (value : Float) : Option EReal :=
  if value != value then none else some (Double.toEReal value)

namespace Comparison

/-- What is not a number differs from everything and does not compare otherwise. -/
def Meets (comparison : Comparison) : Option EReal → Option EReal → Prop
  | some left, some right => comparison.Relates left right
  | _, _ => comparison = .ne

theorem meets_flip (left right : Option EReal) (comparison : Comparison) :
    comparison.flip.Meets right left ↔ comparison.Meets left right := by
  have flipped : comparison.flip = .ne ↔ comparison = .ne := by
    cases comparison <;> simp [flip]
  cases left with
  | none => cases right <;> exact flipped
  | some left =>
      cases right with
      | none => exact flipped
      | some right => exact relates_flip left right comparison

theorem holds_iff_eq_ne {left right : Float}
    (nothing : (left != left) = true ∨ (right != right) = true) (comparison : Comparison) :
    comparison.holds left right = true ↔ comparison = .ne := by
  have unordered : ¬left ≤ right ∧ ¬right ≤ left := by
    constructor
    all_goals
      intro ordered
      have numbers := Double.bne_self_of_le ordered
      simp [numbers] at nothing
  have apart : ¬left < right ∧ ¬right < left ∧ (left == right) = false := by
    rcases nothing with differs | differs
    · obtain ⟨less, more, different, -⟩ := Double.incomparable_of_bne_self differs right
      exact ⟨less, more, different⟩
    · obtain ⟨more, less, -, different⟩ := Double.incomparable_of_bne_self differs left
      exact ⟨less, more, different⟩
  cases comparison <;> simp [holds, bne, unordered, apart]

/-- Doubles compare as what they are. -/
theorem holds_iff_meets (left right : Float) (comparison : Comparison) :
    comparison.holds left right = true ↔
      comparison.Meets (Double.number? left) (Double.number? right) := by
  unfold Double.number?
  by_cases differs : (left != left) = true
  · rw [if_pos differs]
    exact holds_iff_eq_ne (.inl differs) comparison
  · by_cases differsRight : (right != right) = true
    · rw [if_neg differs, if_pos differsRight]
      exact holds_iff_eq_ne (.inr differsRight) comparison
    · rw [if_neg differs, if_neg differsRight]
      rw [Bool.not_eq_true] at differs differsRight
      exact holds_iff_relates differs differsRight comparison

end Comparison

namespace Constraint

/-- Truth where each subject stands for a number or an infinity, or for neither as a double can. -/
def TrueAt (numbers : String → Option EReal) : Constraint → Prop
  | .bound _ subject comparison value =>
      comparison.Meets (numbers subject) (Double.number? value)
  | .constant _ holds _ => holds = true

theorem trueAt_iff_holdsAt {constraint : Constraint} (numeric : constraint.IsNumeric)
    (assignment : Assignment) :
    constraint.TrueAt (fun subject => some (assignment constraint.kind subject)) ↔
      constraint.HoldsAt assignment := by
  cases constraint with
  | bound kind subject comparison value =>
      have number : Double.number? value = some (Double.toEReal value) :=
        if_neg (Bool.eq_false_iff.mp numeric)
      rw [TrueAt, number]
      exact Iff.rfl
  | constant => exact Iff.rfl

end Constraint

namespace Contract

/-! ## Neighbouring operands -/

/-- Two operands and the sign between them. -/
structure Neighbours where
  left : List Char
  comparison : Comparison
  right : List Char

/-- The pieces between the signs, without the blanks around them, each with the next one. -/
def neighbours (first : List Char) : List (Comparison × List Char) → List Neighbours
  | [] => []
  | (comparison, next) :: others =>
      ⟨Text.trimChars first, comparison, Text.trimChars next⟩ :: neighbours next others

theorem length_neighbours (first : List Char) (links : List (Comparison × List Char)) :
    (neighbours first links).length = links.length := by
  induction links generalizing first with
  | nil => rfl
  | cons link links inductionHypothesis => exact congrArg Nat.succ (inductionHypothesis link.2)

def IsNumber (letters : List Char) : Prop := (Number.read? letters).isSome = true

/-- A literal stands for its number, and any other operand for that of the subject it names. -/
noncomputable def operandAt (numbers : String → Option EReal) (letters : List Char) :
    Option EReal :=
  match Number.read? letters with
  | some value => Double.number? value
  | none => numbers (String.ofList letters)

namespace Neighbours

/-- One operand is a number, and the other one is too or is at least something. -/
def IsModelled (pair : Neighbours) : Prop :=
  (IsNumber pair.left ∧ (IsNumber pair.right ∨ pair.right ≠ [])) ∨
    (IsNumber pair.right ∧ (IsNumber pair.left ∨ pair.left ≠ []))

def MeetAt (numbers : String → Option EReal) (pair : Neighbours) : Prop :=
  pair.comparison.Meets (operandAt numbers pair.left) (operandAt numbers pair.right)

end Neighbours

/-! ## Constraints of neighbours -/

/-- The constraint on two neighbours: a constant for two numbers, and otherwise a bound on the one
that is none, with the sign turned where the number is on the left. -/
inductive Becomes (kind : ContractKind) : Neighbours → Constraint → Prop
  | constant {left right : List Char} {comparison : Comparison} {first second : Float} :
      Number.read? left = some first → Number.read? right = some second →
      Becomes kind ⟨left, comparison, right⟩ (.constant kind (comparison.holds first second)
        (String.ofList left ++ " " ++ comparison.symbol ++ " " ++ String.ofList right))
  | bound {left right : List Char} {comparison : Comparison} {value : Float} :
      Number.read? left = none → left ≠ [] → Number.read? right = some value →
      Becomes kind ⟨left, comparison, right⟩
        (.bound kind (String.ofList left) comparison value)
  | turned {left right : List Char} {comparison : Comparison} {value : Float} :
      Number.read? left = some value → Number.read? right = none → right ≠ [] →
      Becomes kind ⟨left, comparison, right⟩
        (.bound kind (String.ofList right) comparison.flip value)

theorem link?_eq_some_iff {kind : ContractKind} {left right : List Char} {comparison : Comparison}
    {constraint : Constraint} :
    link? kind left comparison right = some constraint ↔
      Becomes kind ⟨left, comparison, right⟩ constraint := by
  constructor
  · intro linked
    unfold link? at linked
    split at linked
    · rename_i first second
      cases linked
      exact .constant first second
    · rename_i unread value
      split at linked
      · cases linked
      · rename_i some
        cases linked
        exact .bound unread (by simpa using some) value
    · rename_i value unread
      split at linked
      · cases linked
      · rename_i some
        cases linked
        exact .turned value unread (by simpa using some)
    · cases linked
  · rintro (⟨first, second⟩ | ⟨unread, some, value⟩ | ⟨value, unread, some⟩)
    · simp [link?, first, second]
    · simp [link?, unread, value, some]
    · simp [link?, value, unread, some]

theorem exists_becomes_iff (kind : ContractKind) (pair : Neighbours) :
    (∃ constraint, Becomes kind pair constraint) ↔ pair.IsModelled := by
  obtain ⟨left, comparison, right⟩ := pair
  constructor
  · rintro ⟨_, ⟨first, second⟩ | ⟨-, some, value⟩ | ⟨value, -, some⟩⟩
    · exact .inl ⟨Option.isSome_of_mem first, .inl (Option.isSome_of_mem second)⟩
    · exact .inr ⟨Option.isSome_of_mem value, .inr some⟩
    · exact .inl ⟨Option.isSome_of_mem value, .inr some⟩
  · rintro (⟨first, others⟩ | ⟨second, others⟩)
    · obtain ⟨value, read⟩ := Option.isSome_iff_exists.mp first
      cases readRight : Number.read? right with
      | some other => exact ⟨_, .constant read readRight⟩
      | none =>
          have unread : ¬IsNumber right := by simp [IsNumber, readRight]
          exact ⟨_, .turned read readRight (others.resolve_left unread)⟩
    · obtain ⟨value, read⟩ := Option.isSome_iff_exists.mp second
      cases readLeft : Number.read? left with
      | some other => exact ⟨_, .constant readLeft read⟩
      | none =>
          have unread : ¬IsNumber left := by simp [IsNumber, readLeft]
          exact ⟨_, .bound readLeft (others.resolve_left unread) read⟩

theorem Becomes.trueAt_iff {kind : ContractKind} {pair : Neighbours} {constraint : Constraint}
    (becomes : Becomes kind pair constraint) (numbers : String → Option EReal) :
    constraint.TrueAt numbers ↔ pair.MeetAt numbers := by
  cases becomes with
  | constant first second =>
      simpa [Constraint.TrueAt, Neighbours.MeetAt, operandAt, first, second] using
        Comparison.holds_iff_meets ..
  | bound unread _ value =>
      simp [Constraint.TrueAt, Neighbours.MeetAt, operandAt, unread, value]
  | turned value unread =>
      simpa [Constraint.TrueAt, Neighbours.MeetAt, operandAt, value, unread] using
        Comparison.meets_flip ..

/-! ## Chains -/

/-- A chain is modelled link by link. -/
theorem links?_eq_some_iff {kind : ContractKind} {first : List Char}
    {links : List (Comparison × List Char)} {constraints : List Constraint} :
    links? kind (Text.trimChars first)
        (links.map fun (comparison, operand) => (comparison, Text.trimChars operand)) =
          some constraints ↔
      List.Forall₂ (Becomes kind) (neighbours first links) constraints := by
  induction links generalizing first constraints with
  | nil =>
      rw [List.map_nil, links?, Option.some_inj, neighbours, List.forall₂_nil_left_iff]
      exact eq_comm
  | cons link links inductionHypothesis =>
      obtain ⟨comparison, next⟩ := link
      rw [List.map_cons, links?, neighbours, List.forall₂_cons_left_iff]
      simp only [Option.bind_eq_bind, Option.bind_eq_some_iff, link?_eq_some_iff,
        inductionHypothesis, Option.pure_def, Option.some_inj]
      constructor
      · rintro ⟨constraint, becomes, rest, others, rfl⟩
        exact ⟨constraint, rest, becomes, others, rfl⟩
      · rintro ⟨constraint, rest, becomes, others, rfl⟩
        exact ⟨constraint, becomes, rest, others, rfl⟩

theorem exists_forall₂_becomes_iff (kind : ContractKind) (pairs : List Neighbours) :
    (∃ constraints, List.Forall₂ (Becomes kind) pairs constraints) ↔
      ∀ pair ∈ pairs, pair.IsModelled := by
  induction pairs with
  | nil => exact iff_of_true ⟨[], .nil⟩ nofun
  | cons pair pairs inductionHypothesis =>
      rw [List.forall_mem_cons, ← exists_becomes_iff kind, ← inductionHypothesis]
      constructor
      · rintro ⟨_, become⟩
        cases become with
        | cons becomes others => exact ⟨⟨_, becomes⟩, ⟨_, others⟩⟩
      · rintro ⟨⟨_, becomes⟩, ⟨_, others⟩⟩
        exact ⟨_, .cons becomes others⟩

/-- Some signs, and nothing but neighbours that can be modelled. -/
def IsModelled (first : List Char) (links : List (Comparison × List Char)) : Prop :=
  links ≠ [] ∧ ∀ pair ∈ neighbours first links, pair.IsModelled

theorem ofClause_of_forall₂ {kind : ContractKind} {clause first : List Char}
    {links : List (Comparison × List Char)} (cut : Cut IsSign clause first links)
    (some : links ≠ []) {constraints : List Constraint}
    (become : List.Forall₂ (Becomes kind) (neighbours first links) constraints) :
    ofClause kind clause = .ofConstraints constraints := by
  obtain ⟨rfl, rfl⟩ := cut_isSign_iff.mp cut
  unfold ofClause
  dsimp only
  rw [if_neg (by simpa using some), links?_eq_some_iff.mpr become]

theorem ofClause_of_not_isModelled {kind : ContractKind} {clause first : List Char}
    {links : List (Comparison × List Char)} (cut : Cut IsSign clause first links)
    (beyond : ¬IsModelled first links) :
    ofClause kind clause = .ofUnsupported (String.ofList clause) := by
  obtain ⟨rfl, rfl⟩ := cut_isSign_iff.mp cut
  unfold ofClause
  dsimp only
  split
  · rfl
  · rename_i some
    split
    · rename_i constraints linked
      have modelled := (exists_forall₂_becomes_iff kind _).mp
        ⟨constraints, links?_eq_some_iff.mp linked⟩
      exact absurd ⟨by simpa using some, modelled⟩ beyond
    · rfl

/-! ## Clauses and expressions -/

/-- The constraint on two neighbours, which is true exactly where their comparison is. -/
def Represents (kind : ContractKind) (pair : Neighbours) (constraint : Constraint) : Prop :=
  Becomes kind pair constraint ∧ ∀ numbers, constraint.TrueAt numbers ↔ pair.MeetAt numbers

/-- A clause, cut at its signs in the only way there is, is modelled by one constraint for each sign
in their order, or else set aside whole.  An expression is cut at its conjunctions in the only way
there is, and all conjuncts that are more than blanks are read as clauses in their order. -/
theorem modelled_whole_or_set_aside (kind : ContractKind) :
    (∀ clause : List Char, ∃ first links,
      (∀ other others, Cut IsSign clause other others ↔ other = first ∧ others = links) ∧
      (IsModelled first links → ∃ constraints, constraints.length = links.length ∧
        List.Forall₂ (Represents kind) (neighbours first links) constraints ∧
        ∀ set : ConstraintSet,
          set ++ ofClause kind clause = ⟨set.constraints ++ constraints, set.unsupported⟩) ∧
      (¬IsModelled first links → ∀ set : ConstraintSet,
        set ++ ofClause kind clause =
          ⟨set.constraints, set.unsupported ++ [String.ofList clause]⟩)) ∧
    ∀ expression : String, ∃ first others,
      (∀ other rest, Cut IsConjunction expression.toList other rest ↔
        other = first ∧ rest = others) ∧
      ∀ set : ConstraintSet, set ++ ofExpression kind expression =
        (((first :: others.map Prod.snd).map Text.trimChars).filter (!·.isEmpty)).foldl
          (fun set clause => set ++ ofClause kind clause) set := by
  constructor
  · intro clause
    have cut : Cut IsSign clause (splitClause [] clause).1 (splitClause [] clause).2 :=
      cut_isSign_iff.mpr ⟨rfl, rfl⟩
    refine ⟨_, _, fun _ _ => cut_isSign_iff, ?_, ?_⟩
    · rintro ⟨some, modelled⟩
      obtain ⟨constraints, become⟩ := (exists_forall₂_becomes_iff kind _).mpr modelled
      refine ⟨constraints, ?_, become.imp fun pair constraint becomes =>
        ⟨becomes, becomes.trueAt_iff⟩, fun set => ?_⟩
      · rw [← become.length_eq, length_neighbours]
      · rw [ofClause_of_forall₂ cut some become]
        exact congrArg (ConstraintSet.mk _) (List.append_nil _)
    · intro beyond set
      rw [ofClause_of_not_isModelled cut beyond]
      exact congrArg (ConstraintSet.mk · _) (List.append_nil _)
  · intro expression
    obtain ⟨first, others, same, cut⟩ := exists_cut_isConjunction expression.toList
    refine ⟨first, others, cut, fun set => ?_⟩
    rw [ofExpression, ofExpressionChars, same, ConstraintSet.foldl_append _ _ set]

example : (ofExpression .pre "0 <= x <= 10 and y > 3").constraints.map Constraint.toText =
    ["x >= 0", "x <= 10", "y > 3"] := by decide +kernel

/-- The first sign could be modelled, and the second one could not. -/
example : (ofExpression .pre "0 < x < y && isinstance(x, int)").constraints.isEmpty = true ∧
    (ofExpression .pre "0 < x < y && isinstance(x, int)").unsupported =
      ["0 < x < y", "isinstance(x, int)"] := by decide +kernel

end Contract

end ReviewGate
