import ReviewGate.Proofs.Contract.Reading

/-!
# Rejected conditions

A contradiction found in a written condition means that no numbers make the condition true, as long
as it has no disjunction, all its negated comparisons are set aside, its names are not names of
values, and doubles tell its literals apart as numbers do.
-/

namespace ReviewGate

/-! ## Numbers and doubles in the same order -/

namespace Comparison

/-- A comparison only depends on which side is the smaller one. -/
theorem relates_congr {First Second : Type*} [LinearOrder First] [LinearOrder Second]
    {left right : First} {other last : Second} (below : left < right ↔ other < last)
    (above : right < left ↔ last < other) (comparison : Comparison) :
    comparison.Relates left right ↔ comparison.Relates other last := by
  have same : left = right ↔ other = last := by
    rw [eq_iff_le_not_lt, eq_iff_le_not_lt, ← not_lt, ← not_lt, below, above]
  cases comparison with
  | lt => exact below
  | gt => exact above
  | le => exact not_lt.symm.trans (above.not.trans not_lt)
  | ge => exact not_lt.symm.trans (below.not.trans not_lt)
  | eq => exact same
  | ne => exact same.not

theorem relates_flip {Number : Type*} [LinearOrder Number] (left right : Number)
    (comparison : Comparison) :
    comparison.flip.Relates right left ↔ comparison.Relates left right := by
  cases comparison with
  | lt | le | gt | ge => exact Iff.rfl
  | eq => exact eq_comm
  | ne => exact ne_comm

theorem holds_iff_relates {left right : Float} (number : (left != left) = false)
    (numberRight : (right != right) = false) (comparison : Comparison) :
    comparison.holds left right = true ↔
      comparison.Relates (Double.toEReal left) (Double.toEReal right) := by
  cases comparison with
  | lt => exact decide_eq_true_iff.trans (Double.lt_iff_toEReal number numberRight)
  | gt => exact decide_eq_true_iff.trans (Double.lt_iff_toEReal numberRight number)
  | le => exact decide_eq_true_iff.trans (Double.le_iff_toEReal number numberRight)
  | ge => exact decide_eq_true_iff.trans (Double.le_iff_toEReal numberRight number)
  | eq => exact Double.beq_iff_toEReal number numberRight
  | ne =>
      rw [holds, bne, Bool.not_eq_true', ← Bool.not_eq_true,
        Double.beq_iff_toEReal number numberRight]
      exact Iff.rfl

end Comparison

/-- Where pairs are ordered alike on both sides, any number has a counterpart among them. -/
theorem exists_counterpart {pairs : List (ℝ × ℝ)}
    (ordered : ∀ first ∈ pairs, ∀ second ∈ pairs, first.1 < second.1 ↔ first.2 < second.2)
    (number : ℝ) :
    ∃ counterpart : ℝ, ∀ pair ∈ pairs,
      (number < pair.1 ↔ counterpart < pair.2) ∧ (pair.1 < number ↔ pair.2 < counterpart) := by
  by_cases met : ∃ pair ∈ pairs, pair.1 = number
  · obtain ⟨pair, belongs, rfl⟩ := met
    exact ⟨pair.2, fun other inside =>
      ⟨ordered pair belongs other inside, ordered other inside pair belongs⟩⟩
  · push Not at met
    let low := (pairs.filter fun pair => pair.1 < number).map Prod.snd
    let high := (pairs.filter fun pair => number < pair.1).map Prod.snd
    have apart : ∀ below ∈ low.toFinset, ∀ above ∈ high.toFinset, below < above := by
      simp only [low, high, List.mem_toFinset, List.mem_map, List.mem_filter, decide_eq_true_eq]
      rintro _ ⟨first, ⟨inside, less⟩, rfl⟩ _ ⟨second, ⟨belongs, greater⟩, rfl⟩
      exact (ordered first inside second belongs).mp (less.trans greater)
    obtain ⟨counterpart, above, below⟩ := Order.exists_between_finsets _ _ apart
    simp only [low, high, List.mem_toFinset, List.mem_map, List.mem_filter, decide_eq_true_eq,
      forall_exists_index, and_imp] at above below
    refine ⟨counterpart, fun pair belongs => ?_⟩
    rcases lt_or_gt_of_ne (met pair belongs) with less | greater
    · have placed := above pair.2 pair belongs less rfl
      exact ⟨iff_of_false less.not_gt placed.not_gt, iff_of_true less placed⟩
    · have placed := below pair.2 pair belongs greater rfl
      exact ⟨iff_of_true greater placed, iff_of_false greater.not_gt placed.not_gt⟩

namespace Contract

/-! ## What is modelled -/

def Operand.isName : Operand → Bool
  | .name _ => true
  | .literal _ => false

/-- Two names meet in a chain, the first operand being one or not. -/
def namesMeet : Bool → List Link → Bool
  | _, [] => false
  | isName, link :: links =>
      (isName && link.operand.isName) || namesMeet link.operand.isName links

/-- No comparison is made, or one that says nothing about a single subject.  Negations make the
first operand a name. -/
def Condition.IsSetAside (condition : Condition) : Prop :=
  condition.chain.links = [] ∨ namesMeet true condition.chain.links = true

/-- What is modelled of an expression is modelled as it is meant. -/
structure Expression.IsFaithful (expression : Expression) : Prop where
  conjunctive : expression.body.others = []
  negations : ∀ condition ∈ expression.conditions, condition.negations ≠ [] →
    condition.IsSetAside
  names : ∀ name, .name name ∈ expression.operands → Number.read? name.letters = none
  finite : ∀ literal, .literal literal ∈ expression.operands →
    Scalar.isFinite literal.double = true
  ordered : ∀ first second, .literal first ∈ expression.operands →
    .literal second ∈ expression.operands →
      (first.value < second.value ↔ first.double < second.double)

/-! ## Negations -/

theorem read?_not (rest : List Char) : Number.read? ('n' :: 'o' :: 't' :: rest) = none := by
  have unnamed : ∀ name : String, name.toList.take 2 ≠ ['n', 'o'] →
      String.ofList (('n' :: 'o' :: 't' :: rest).map Char.toLower) ≠ name := by
    rintro _ apart rfl
    rw [String.toList_ofList] at apart
    exact apart rfl
  have unsigned : Number.spanSign ('n' :: 'o' :: 't' :: rest) =
      (false, 'n' :: 'o' :: 't' :: rest) := rfl
  rw [Number.read?, unsigned]
  dsimp only
  rw [if_neg (not_or.mpr ⟨unnamed "inf" (by decide), unnamed "infinity" (by decide)⟩),
    if_neg (unnamed "nan" (by decide))]
  rfl

theorem read?_head {condition : Condition} (negated : condition.negations ≠ []) :
    Number.read? condition.head = none := by
  obtain ⟨negations, chain⟩ := condition
  obtain ⟨gap, negations, rfl⟩ := List.exists_cons_of_ne_nil negated
  simp only [Condition.head, negationLetters, List.flatMap_cons, List.cons_append,
    List.append_assoc]
  exact read?_not _

/-- What an operand is read as. -/
def Operand.double? : Operand → Option Float
  | .name _ => none
  | .literal number => some number.double

theorem links?_eq_none {kind : ContractKind} {links : List Link} {left : List Char}
    {isName : Bool} (unread : isName = true → Number.read? left = none)
    (names : ∀ link ∈ links, Number.read? link.operand.letters = link.operand.double?)
    (meet : namesMeet isName links = true) :
    links? kind left (links.map fun link => (link.comparison, link.operand.letters)) = none := by
  induction links generalizing left isName with
  | nil => cases meet
  | cons link links inductionHypothesis =>
      obtain ⟨read, names⟩ := List.forall_mem_cons.mp names
      have unreadNext : link.operand.isName = true → Number.read? link.operand.letters = none := by
        rw [read]
        cases link.operand with
        | name word => exact fun _ => rfl
        | literal number => exact nofun
      rw [namesMeet, Bool.or_eq_true, Bool.and_eq_true] at meet
      rw [List.map_cons, links?]
      rcases meet with ⟨leftName, rightName⟩ | later
      · rw [link?, unread leftName, unreadNext rightName]
        rfl
      · rw [inductionHypothesis unreadNext names later]
        cases link? kind left link.comparison link.operand.letters <;> rfl

/-! ## Links -/

section Links

variable {numbers shifted : String → ℝ} {operands : List Operand}

/-- Names stand for numbers that lie among the doubles as the meant ones lie among the values. -/
structure Mirrors (numbers shifted : String → ℝ) (operands : List Operand) : Prop where
  names : ∀ name, .name name ∈ operands → Number.read? name.letters = none
  numeric : ∀ literal, .literal literal ∈ operands → (literal.double != literal.double) = false
  below : ∀ literal, .literal literal ∈ operands → ∀ subject,
    numbers subject < literal.value ↔ (shifted subject : EReal) < Double.toEReal literal.double
  above : ∀ literal, .literal literal ∈ operands → ∀ subject,
    (literal.value : ℝ) < numbers subject ↔
      Double.toEReal literal.double < (shifted subject : EReal)
  ordered : ∀ first second, .literal first ∈ operands → .literal second ∈ operands →
    ((first.value : ℝ) < second.value ↔
      Double.toEReal first.double < Double.toEReal second.double)

theorem Mirrors.read? (mirrors : Mirrors numbers shifted operands) {operand : Operand}
    (belongs : operand ∈ operands) : Number.read? operand.letters = operand.double? := by
  cases operand with
  | name word => exact mirrors.names word belongs
  | literal number => exact number.read?_letters

theorem Operand.not_isEmpty_letters (operand : Operand) : ¬operand.letters.isEmpty = true :=
  fun empty => operand.letters_ne_nil (List.isEmpty_iff.mp empty)

/-- The constraint that a link is read as follows from the link. -/
theorem Mirrors.holdsAt_link (mirrors : Mirrors numbers shifted operands) {kind : ContractKind}
    {left right : Operand} {comparison : Comparison} (inside : left ∈ operands)
    (insideRight : right ∈ operands) {constraint : Constraint}
    (linked : link? kind left.letters comparison right.letters = some constraint)
    (meant : comparison.Relates (left.valueAt numbers) (right.valueAt numbers)) :
    constraint.HoldsAt fun _ => shifted := by
  rw [link?, mirrors.read? inside, mirrors.read? insideRight] at linked
  cases left with
  | name word =>
      cases right with
      | name => cases linked
      | literal number =>
          dsimp only [Operand.double?] at linked
          rw [if_neg (Operand.not_isEmpty_letters _)] at linked
          cases linked
          exact (Comparison.relates_congr (mirrors.below number insideRight word.text)
            (mirrors.above number insideRight word.text) comparison).mp meant
  | literal number =>
      cases right with
      | name word =>
          dsimp only [Operand.double?] at linked
          rw [if_neg (Operand.not_isEmpty_letters _)] at linked
          cases linked
          have turned := (Comparison.relates_flip _ _ comparison).mpr meant
          exact (Comparison.relates_congr (mirrors.below number inside word.text)
            (mirrors.above number inside word.text) comparison.flip).mp turned
      | literal other =>
          cases linked
          have related := (Comparison.relates_congr
            (mirrors.ordered number other inside insideRight)
            (mirrors.ordered other number insideRight inside) comparison).mp meant
          exact (Comparison.holds_iff_relates (mirrors.numeric number inside)
            (mirrors.numeric other insideRight) comparison).mpr related

theorem Mirrors.holdsAt_links (mirrors : Mirrors numbers shifted operands) {kind : ContractKind}
    {links : List Link} {left : Operand} (inside : left ∈ operands)
    (belong : ∀ link ∈ links, link.operand ∈ operands) {constraints : List Constraint}
    (linked : links? kind left.letters
      (links.map fun link => (link.comparison, link.operand.letters)) = some constraints)
    (meant : LinksHold numbers left links) :
    ∀ constraint ∈ constraints, constraint.HoldsAt fun _ => shifted := by
  induction links generalizing left constraints with
  | nil =>
      cases linked
      exact nofun
  | cons link links inductionHypothesis =>
      obtain ⟨insideNext, belong⟩ := List.forall_mem_cons.mp belong
      obtain ⟨related, meant⟩ := meant
      rw [List.map_cons, links?] at linked
      obtain ⟨constraint, first, linked⟩ := Option.bind_eq_some_iff.mp linked
      obtain ⟨others, rest, linked⟩ := Option.bind_eq_some_iff.mp linked
      cases linked
      exact List.forall_mem_cons.mpr
        ⟨mirrors.holdsAt_link inside insideNext first related,
          inductionHypothesis insideNext belong rest meant⟩

end Links

/-! ## Expressions -/

theorem links?_eq_none_of_isSetAside {kind : ContractKind} {condition : Condition}
    (negated : condition.negations ≠ []) (setAside : condition.IsSetAside)
    (names : ∀ link ∈ condition.chain.links,
      Number.read? link.operand.letters = link.operand.double?) :
    (links? kind condition.head (condition.chain.links.map fun link =>
      (link.comparison, link.operand.letters))).getD [] = [] := by
  rcases setAside with none | meet
  · rw [none]
    rfl
  · rw [links?_eq_none (fun _ => read?_head negated) names meet]
    rfl

namespace Expression

variable {expression : Expression}

theorem mem_operands {condition : Condition} (belongs : condition ∈ expression.conditions)
    {operand : Operand} (inside : operand ∈ condition.chain.operands) :
    operand ∈ expression.operands :=
  List.mem_flatMap.mpr ⟨condition, belongs, inside⟩

/-- The literals of an expression with what they are read as. -/
noncomputable def pairs (expression : Expression) : List (ℝ × ℝ) :=
  expression.operands.filterMap fun
    | .name _ => none
    | .literal number => some (number.value, (Double.toEReal number.double).toReal)

theorem mem_pairs {pair : ℝ × ℝ} (belongs : pair ∈ expression.pairs) :
    ∃ number, .literal number ∈ expression.operands ∧
      pair = ((number.value : ℝ), (Double.toEReal number.double).toReal) := by
  obtain ⟨operand, inside, found⟩ := List.mem_filterMap.mp belongs
  cases operand with
  | name word => cases found
  | literal number => exact ⟨number, inside, (Option.some_inj.mp found).symm⟩

theorem IsFaithful.coe_toReal (faithful : expression.IsFaithful) {number : Literal}
    (belongs : .literal number ∈ expression.operands) :
    (((Double.toEReal number.double).toReal : ℝ) : EReal) = Double.toEReal number.double := by
  have bounded := faithful.finite number belongs
  rw [Double.isFinite_iff] at bounded
  rw [Double.toEReal, Double.extended_of_isFinite bounded]
  rfl

theorem IsFaithful.lt_iff (faithful : expression.IsFaithful) {first second : Literal}
    (belongs : .literal first ∈ expression.operands)
    (belongsSecond : .literal second ∈ expression.operands) :
    (first.value : ℝ) < second.value ↔
      Double.toEReal first.double < Double.toEReal second.double := by
  rw [Rat.cast_lt, faithful.ordered first second belongs belongsSecond, Double.lt_iff_toEReal
    (Double.bne_self_of_isFinite (faithful.finite first belongs))
    (Double.bne_self_of_isFinite (faithful.finite second belongsSecond))]

theorem IsFaithful.exists_mirrors (faithful : expression.IsFaithful) (numbers : String → ℝ) :
    ∃ shifted, Mirrors numbers shifted expression.operands := by
  have ordered : ∀ first ∈ expression.pairs, ∀ second ∈ expression.pairs,
      first.1 < second.1 ↔ first.2 < second.2 := by
    intro first belongs second belongsSecond
    obtain ⟨number, inside, rfl⟩ := mem_pairs belongs
    obtain ⟨other, insideSecond, rfl⟩ := mem_pairs belongsSecond
    dsimp only
    rw [faithful.lt_iff inside insideSecond, ← EReal.coe_lt_coe_iff, faithful.coe_toReal inside,
      faithful.coe_toReal insideSecond]
  choose shift counterpart using exists_counterpart ordered
  have placed : ∀ number, .literal number ∈ expression.operands → ∀ subject,
      (numbers subject < number.value ↔
        (shift (numbers subject) : EReal) < Double.toEReal number.double) ∧
      ((number.value : ℝ) < numbers subject ↔
        Double.toEReal number.double < (shift (numbers subject) : EReal)) := by
    intro number belongs subject
    have pair := counterpart (numbers subject)
      (number.value, (Double.toEReal number.double).toReal)
      (List.mem_filterMap.mpr ⟨.literal number, belongs, rfl⟩)
    rw [← faithful.coe_toReal belongs, EReal.coe_lt_coe_iff, EReal.coe_lt_coe_iff]
    exact pair
  exact ⟨fun subject => shift (numbers subject),
    { names := faithful.names
      numeric := fun number belongs => Double.bne_self_of_isFinite (faithful.finite number belongs)
      below := fun number belongs subject => (placed number belongs subject).1
      above := fun number belongs subject => (placed number belongs subject).2
      ordered := fun _ _ belongs belongsSecond => faithful.lt_iff belongs belongsSecond }⟩

theorem conditions_hold {numbers : String → ℝ} (conjunctive : expression.body.others = [])
    (holds : expression.Holds numbers) :
    ∀ condition ∈ expression.conditions, condition.Holds numbers := by
  obtain ⟨lead, ⟨first, _⟩, trail⟩ := expression
  cases conjunctive
  obtain ⟨conjunction, among, holds⟩ := holds
  cases List.mem_singleton.mp among
  simpa [conditions, Series.items] using holds

/-- The constraints of a condition follow from it. -/
theorem holdsAt_condition {numbers shifted : String → ℝ}
    (mirrors : Mirrors numbers shifted expression.operands) {condition : Condition}
    (among : condition ∈ expression.conditions)
    (setAside : condition.negations ≠ [] → condition.IsSetAside) (kind : ContractKind)
    (holds : condition.Holds numbers) :
    ∀ constraint ∈ (ofClause kind condition.letters).constraints,
      constraint.HoldsAt fun _ => shifted := by
  have first := mem_operands among (List.mem_cons_self : condition.chain.first ∈ _)
  have belong : ∀ link ∈ condition.chain.links, link.operand ∈ expression.operands :=
    fun link inside => mem_operands among (List.mem_cons_of_mem _ (List.mem_map_of_mem inside))
  rw [constraints_ofClause]
  by_cases negated : condition.negations = []
  · obtain ⟨_, ⟨left, links⟩⟩ := condition
    cases negated
    cases linked : links? kind (Condition.head ⟨[], left, links⟩)
        (links.map fun link => (link.comparison, link.operand.letters)) with
    | none => exact nofun
    | some constraints =>
        refine mirrors.holdsAt_links first belong linked ?_
        cases links with
        | nil => trivial
        | cons link links => exact holds
  · rw [links?_eq_none_of_isSetAside negated (setAside negated)
      fun link inside => mirrors.read? (belong link inside)]
    exact nofun

/-- A faithful expression that is contradictory holds for no numbers. -/
theorem not_holds_of_contradiction (kind : ContractKind) (faithful : expression.IsFaithful)
    (contradicts : (ofExpression kind expression.text).contradiction? ≠ none)
    (numbers : String → ℝ) : ¬expression.Holds numbers := by
  intro holds
  obtain ⟨shifted, mirrors⟩ := faithful.exists_mirrors numbers
  refine contradicts ((ConstraintSet.contradiction?_eq_none_iff _).mpr
    ⟨fun _ => shifted, fun constraint belongs _ => ?_⟩)
  rw [constraints_ofExpression kind faithful.conjunctive, List.mem_flatMap] at belongs
  obtain ⟨condition, among, belongs⟩ := belongs
  exact holdsAt_condition mirrors among (faithful.negations condition among) kind
    (conditions_hold faithful.conjunctive holds condition among) constraint belongs

end Expression

/-! ## Conditions on one or two names -/

section Conditions

def space : Gap := ⟨⟨[' '], List.forall_mem_singleton.mpr rfl⟩, by decide⟩

def nothing : Blanks := ⟨[], nofun⟩

def letterX : Name := ⟨['x'], by decide, by
  rw [List.forall_mem_singleton]
  rfl, by decide⟩

def letterY : Name := ⟨['y'], by decide, by
  rw [List.forall_mem_singleton]
  rfl, by decide⟩

def natural (digits : List Char) (some : digits ≠ []) (all : digits.all Number.isDigit = true) :
    Literal :=
  ⟨none, digits, none, none, by rwa [Option.getD_none, List.append_nil], List.all_eq_true.mp all,
    nofun, nofun⟩

def three : Literal := natural ['3'] (by decide) rfl

def five : Literal := natural ['5'] (by decide) rfl

def compares (name : Name) (comparison : Comparison) (number : Literal) : Condition :=
  ⟨[], .name name, [⟨space.toBlanks, comparison, space.toBlanks, .literal number⟩]⟩

def negated (condition : Condition) : Condition :=
  ⟨space :: condition.negations, condition.chain⟩

def bare (name : Name) : Condition := ⟨[], .name name, []⟩

def joined (conditions : List Condition) : List (Joined Condition) :=
  conditions.map fun condition => ⟨space, space, condition⟩

/-- `x >= 5 and not y and x < 3` -/
def tooHigh : Expression :=
  ⟨nothing, ⟨⟨compares letterX .ge five,
    joined [negated (bare letterY), compares letterX .lt three]⟩, []⟩, nothing⟩

theorem text_tooHigh : tooHigh.text = "x >= 5 and not y and x < 3" := rfl

theorem operands_tooHigh : tooHigh.operands =
    [.name letterX, .literal five, .name letterY, .name letterX, .literal three] := rfl

theorem isFaithful_tooHigh : tooHigh.IsFaithful := by
  have words : ∀ name, .name name ∈ tooHigh.operands → name = letterX ∨ name = letterY := by
    simp [operands_tooHigh]
  have literals : ∀ number, .literal number ∈ tooHigh.operands →
      number = five ∨ number = three := by
    simp [operands_tooHigh]
  refine ⟨rfl, fun condition among negated => ?_, fun name belongs => ?_,
    fun number belongs => ?_, fun first second belongs belongsSecond => ?_⟩
  · have listed : condition ∈ [compares letterX .ge five, Contract.negated (bare letterY),
        compares letterX .lt three] := among
    simp only [List.mem_cons, List.not_mem_nil, or_false] at listed
    rcases listed with rfl | rfl | rfl
    · exact absurd rfl negated
    · exact .inl rfl
    · exact absurd rfl negated
  · rcases words name belongs with rfl | rfl <;> decide +kernel
  · rcases literals number belongs with rfl | rfl <;> decide +kernel
  · rcases literals first belongs with rfl | rfl <;>
    rcases literals second belongsSecond with rfl | rfl <;> decide +kernel

theorem tooHigh_never_holds :
    tooHigh.IsFaithful ∧ (ofExpression .pre tooHigh.text).contradiction? ≠ none ∧
      ∀ numbers, ¬tooHigh.Holds numbers := by
  have contradicts : (ofExpression .pre tooHigh.text).contradiction? ≠ none := by
    rw [text_tooHigh]
    decide +kernel
  exact ⟨isFaithful_tooHigh, contradicts,
    Expression.not_holds_of_contradiction .pre isFaithful_tooHigh contradicts⟩

/-! ## What is rejected wrongly -/

/-- `not x > 5 and not x < 3` -/
def notOutside : Expression :=
  ⟨nothing, ⟨⟨negated (compares letterX .gt five), joined [negated (compares letterX .lt three)]⟩,
    []⟩, nothing⟩

/-- `x or y > 5 and x or y < 3` -/
def alternative : Expression :=
  ⟨nothing, ⟨⟨bare letterX, []⟩, [⟨space, space, compares letterY .gt five, joined [bare letterX]⟩,
    ⟨space, space, compares letterY .lt three, []⟩]⟩, nothing⟩

/-- A name that is also that of an infinity. -/
def infinityName : Name := ⟨['i', 'n', 'f'], by decide, by
  simp only [List.forall_mem_cons]
  exact ⟨rfl, rfl, rfl, nofun⟩, by decide⟩

/-- `inf < 3` -/
def shadowed : Expression := ⟨nothing, ⟨⟨compares infinityName .lt three, []⟩, []⟩, nothing⟩

/-- Two whole numbers that are read as one double. -/
def larger : Literal := natural "9007199254740992".toList (by decide) rfl

def largest : Literal := natural "9007199254740993".toList (by decide) rfl

/-- `x > 9007199254740992 and x < 9007199254740993` -/
def between : Expression :=
  ⟨nothing, ⟨⟨compares letterX .gt larger, joined [compares letterX .lt largest]⟩, []⟩, nothing⟩

theorem value_three : three.value = 3 := by decide +kernel

theorem value_five : five.value = 5 := by decide +kernel

theorem value_larger : larger.value = 9007199254740992 := by decide +kernel

theorem value_largest : largest.value = 9007199254740993 := by decide +kernel

/-- Negated comparisons, disjunctions, names of values and neighbouring literals lead to conditions
that are rejected though they hold for some numbers. -/
theorem rejected_though_satisfiable :
    (notOutside.text = "not x > 5 and not x < 3" ∧
      (ofExpression .pre notOutside.text).contradiction? ≠ none ∧
      notOutside.Holds fun _ => 4) ∧
    (alternative.text = "x or y > 5 and x or y < 3" ∧
      (ofExpression .pre alternative.text).contradiction? ≠ none ∧
      alternative.Holds fun _ => 1) ∧
    (shadowed.text = "inf < 3" ∧ (ofExpression .pre shadowed.text).contradiction? ≠ none ∧
      shadowed.Holds fun _ => 0) ∧
    (between.text = "x > 9007199254740992 and x < 9007199254740993" ∧
      (ofExpression .pre between.text).contradiction? ≠ none ∧
      between.Holds fun _ => 9007199254740992.5) := by
  have texts : notOutside.text = "not x > 5 and not x < 3" ∧
      alternative.text = "x or y > 5 and x or y < 3" ∧ shadowed.text = "inf < 3" ∧
      between.text = "x > 9007199254740992 and x < 9007199254740993" :=
    ⟨rfl, rfl, rfl, rfl⟩
  obtain ⟨first, second, third, fourth⟩ := texts
  refine ⟨⟨first, ?_, ?_⟩, ⟨second, ?_, ?_⟩, ⟨third, ?_, ?_⟩, ⟨fourth, ?_, ?_⟩⟩
  · rw [first]
    decide +kernel
  · simp [Expression.Holds, notOutside, Series.items, joined, negated, compares, Condition.Holds,
      Chain.Holds, LinksHold, Comparison.Relates, Operand.valueAt, value_five, value_three]
    norm_num
  · rw [second]
    decide +kernel
  · simp [Expression.Holds, alternative, Series.items, joined, bare, compares, Condition.Holds,
      Chain.Holds, LinksHold, Comparison.Relates, Operand.valueAt, value_five, value_three]
  · rw [third]
    decide +kernel
  · simp [Expression.Holds, shadowed, Series.items, compares, Condition.Holds,
      Chain.Holds, LinksHold, Comparison.Relates, Operand.valueAt, value_three]
  · rw [fourth]
    decide +kernel
  · simp [Expression.Holds, between, Series.items, joined, compares, Condition.Holds,
      Chain.Holds, LinksHold, Comparison.Relates, Operand.valueAt, value_larger, value_largest]
    norm_num

end Conditions

end Contract

end ReviewGate
