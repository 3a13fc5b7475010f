import ReviewGate.Contract.Clause
import ReviewGate.Proofs.Contract.Interval
import ReviewGate.Proofs.Number.Literal

/-!
# Conditions as they are written

Chains of comparisons between names and literals, joined by `not`, `and` and `or`, which bind in
this order from the strongest on.  The blanks between the parts belong to what is written, and what
is written is true or false once each name stands for a number.
-/

namespace ReviewGate.Contract

/-! ## Letters -/

structure Blanks where
  letters : List Char
  blank : ∀ letter ∈ letters, Text.isBlank letter = true

/-- Blanks that cannot be left out. -/
structure Gap extends Blanks where
  some : letters ≠ []

/-- A letter that does not end a word: neither a blank nor one that signs are made of. -/
def isPlain (letter : Char) : Bool :=
  !Text.isBlank letter && decide (letter ∉ ['<', '>', '=', '!', '&'])

structure Name where
  letters : List Char
  some : letters ≠ []
  plain : ∀ letter ∈ letters, isPlain letter = true
  free : letters ∉ [['a', 'n', 'd'], ['o', 'r'], ['n', 'o', 't']]

def Name.text (name : Name) : String := String.ofList name.letters

/-! ## Chains -/

inductive Operand where
  | name (name : Name)
  | literal (literal : Literal)

/-- A comparison with one operand more. -/
structure Link where
  before : Blanks
  comparison : Comparison
  after : Blanks
  operand : Operand

/-- An operand, and how each one compares with the next. -/
structure Chain where
  first : Operand
  links : List Link

/-- A chain behind any number of negations. -/
structure Condition where
  negations : List Gap
  chain : Chain

/-- One item more behind a connective. -/
structure Joined (Item : Type*) where
  before : Gap
  after : Gap
  item : Item

structure Series (Item : Type*) where
  first : Item
  others : List (Joined Item)

def Series.items {Item : Type*} (series : Series Item) : List Item :=
  series.first :: series.others.map Joined.item

/-- A disjunction of conjunctions. -/
structure Expression where
  lead : Blanks
  body : Series (Series Condition)
  trail : Blanks

/-! ## What is written -/

def Operand.letters : Operand → List Char
  | .name word => word.letters
  | .literal number => number.letters

def signLetters (comparison : Comparison) : List Char := comparison.symbol.toList

def Link.letters (link : Link) : List Char :=
  link.before.letters ++ (signLetters link.comparison ++ (link.after.letters ++
    link.operand.letters))

def linksLetters (links : List Link) : List Char := links.flatMap Link.letters

def Chain.letters (chain : Chain) : List Char := chain.first.letters ++ linksLetters chain.links

def negationLetters (negations : List Gap) : List Char :=
  negations.flatMap fun gap => ['n', 'o', 't'] ++ gap.letters

def Condition.letters (condition : Condition) : List Char :=
  negationLetters condition.negations ++ condition.chain.letters

def joinedLetters {Item : Type*} (word : List Char) (write : Item → List Char)
    (others : List (Joined Item)) : List Char :=
  others.flatMap fun joined =>
    joined.before.letters ++ (word ++ (joined.after.letters ++ write joined.item))

def Series.letters {Item : Type*} (word : List Char) (write : Item → List Char)
    (series : Series Item) : List Char :=
  write series.first ++ joinedLetters word write series.others

def Expression.letters (expression : Expression) : List Char :=
  expression.lead.letters ++
    (expression.body.letters ['o', 'r'] (Series.letters ['a', 'n', 'd'] Condition.letters) ++
      expression.trail.letters)

def Expression.text (expression : Expression) : String := String.ofList expression.letters

/-! ## What it means -/

section Meaning

variable (numbers : String → ℝ)

def Operand.valueAt : Operand → ℝ
  | .name word => numbers word.text
  | .literal number => number.value

def LinksHold : Operand → List Link → Prop
  | _, [] => True
  | left, link :: links =>
      link.comparison.Relates (left.valueAt numbers) (link.operand.valueAt numbers) ∧
        LinksHold link.operand links

/-- Without a comparison an operand holds if it is not zero. -/
def Chain.Holds (chain : Chain) : Prop :=
  match chain.links with
  | [] => chain.first.valueAt numbers ≠ 0
  | _ => LinksHold numbers chain.first chain.links

def Condition.Holds (condition : Condition) : Prop :=
  condition.negations.foldr (fun _ negated => ¬negated) (condition.chain.Holds numbers)

def Expression.Holds (expression : Expression) : Prop :=
  ∃ conjunction ∈ expression.body.items, ∀ condition ∈ conjunction.items, condition.Holds numbers

end Meaning

/-! ## Parts -/

def Chain.operands (chain : Chain) : List Operand := chain.first :: chain.links.map Link.operand

def Expression.conditions (expression : Expression) : List Condition :=
  expression.body.items.flatMap Series.items

def Expression.operands (expression : Expression) : List Operand :=
  expression.conditions.flatMap fun condition => condition.chain.operands

end ReviewGate.Contract
