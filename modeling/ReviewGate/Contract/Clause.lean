import ReviewGate.Contract.Basic
import ReviewGate.Text.Blank
import ReviewGate.Text.Lines
import ReviewGate.Text.Regex

/-!
# Reading contracts

An expression is a conjunction of clauses, and a clause a chain of comparisons.  A clause is
modelled whole or not at all.  Annotations in source declare a condition as a lambda on a line of
its own.
-/

namespace ReviewGate.Contract

/-- A comparison sign at the front. -/
def comparison? : List Char → Option (Comparison × List Char)
  | '<' :: '=' :: rest => some (.le, rest)
  | '>' :: '=' :: rest => some (.ge, rest)
  | '=' :: '=' :: rest => some (.eq, rest)
  | '!' :: '=' :: rest => some (.ne, rest)
  | '<' :: rest => some (.lt, rest)
  | '>' :: rest => some (.gt, rest)
  | _ => none

theorem length_of_comparison? {letters rest : List Char} {comparison : Comparison}
    (found : comparison? letters = some (comparison, rest)) : rest.length < letters.length := by
  unfold comparison? at found
  split at found <;> grind

/-- The first operand, collected in reverse so far, and the signs with the operands after them. -/
def splitClause (operand : List Char) (letters : List Char) :
    List Char × List (Comparison × List Char) :=
  match letters with
  | [] => (operand.reverse, [])
  | letter :: after =>
      match _found : comparison? (letter :: after) with
      | some (comparison, rest) =>
          let (next, others) := splitClause [] rest
          (operand.reverse, (comparison, next) :: others)
      | none => splitClause (letter :: operand) after
termination_by letters.length
decreasing_by
  · exact length_of_comparison? _found
  · simp

/-- The constraint between two neighbouring operands.  One of them has to be a number, and the
other a number too or at least something. -/
def link? (kind : ContractKind) (left : List Char) (comparison : Comparison) (right : List Char) :
    Option Constraint :=
  match Number.read? left, Number.read? right with
  | some first, some second =>
      some (.constant kind (comparison.holds first second)
        (String.ofList left ++ " " ++ comparison.symbol ++ " " ++ String.ofList right))
  | none, some value =>
      if left.isEmpty then none else some (.bound kind (String.ofList left) comparison value)
  | some value, none =>
      if right.isEmpty then none
      else some (.bound kind (String.ofList right) comparison.flip value)
  | none, none => none

/-- The constraints of a chain, or nothing if one of its links cannot be modelled. -/
def links? (kind : ContractKind) (left : List Char) :
    List (Comparison × List Char) → Option (List Constraint)
  | [] => some []
  | (comparison, right) :: others => do
      let constraint ← link? kind left comparison right
      let rest ← links? kind right others
      pure (constraint :: rest)

/-- A clause without blanks around it. -/
def ofClause (kind : ContractKind) (clause : List Char) : ConstraintSet :=
  let (first, others) := splitClause [] clause
  let chain := others.map fun (comparison, operand) => (comparison, Text.trimChars operand)
  if chain.isEmpty then .ofUnsupported (String.ofList clause)
  else
    match links? kind (Text.trimChars first) chain with
    | some constraints => .ofConstraints constraints
    | none => .ofUnsupported (String.ofList clause)

/-! ## Conjunctions -/

/-- What follows a conjunction at the front: `and` between blanks, or `&&` with or without them. -/
def conjunction? (letters : List Char) : Option (List Char) :=
  let after := letters.dropWhile Text.isBlank
  let spaced := after.length < letters.length
  match after with
  | '&' :: '&' :: rest => some (rest.dropWhile Text.isBlank)
  | 'a' :: 'n' :: 'd' :: rest =>
      if spaced && (rest.head?.map Text.isBlank).getD false then
        some (rest.dropWhile Text.isBlank)
      else none
  | _ => none

theorem length_of_conjunction? {letters rest : List Char}
    (found : conjunction? letters = some rest) : rest.length < letters.length := by
  have dropped : (letters.dropWhile Text.isBlank).length ≤ letters.length :=
    (List.dropWhile_sublist Text.isBlank).length_le
  unfold conjunction? at found
  dsimp only at found
  split at found
  · rename_i tail shape
    have shorter : (tail.dropWhile Text.isBlank).length ≤ tail.length :=
      (List.dropWhile_sublist Text.isBlank).length_le
    rw [shape] at dropped
    simp only [List.length_cons] at dropped
    injection found with same
    rw [← same]
    omega
  · rename_i tail shape
    have shorter : (tail.dropWhile Text.isBlank).length ≤ tail.length :=
      (List.dropWhile_sublist Text.isBlank).length_le
    rw [shape] at dropped
    simp only [List.length_cons] at dropped
    split at found
    · injection found with same
      rw [← same]
      omega
    · contradiction
  · contradiction

/-- The conjuncts of an expression, the first one collected in reverse so far. -/
def splitExpression (clause : List Char) (letters : List Char) : List (List Char) :=
  match letters with
  | [] => [clause.reverse]
  | letter :: after =>
      match _found : conjunction? (letter :: after) with
      | some rest => clause.reverse :: splitExpression [] rest
      | none => splitExpression (letter :: clause) after
termination_by letters.length
decreasing_by
  · exact length_of_conjunction? _found
  · simp

/-- The constraints of all conjuncts that are more than blanks. -/
def ofExpressionChars (kind : ContractKind) (letters : List Char) : ConstraintSet :=
  let clauses := (splitExpression [] letters).map Text.trimChars
  (clauses.filter fun clause => !clause.isEmpty).foldl
    (fun set clause => set ++ ofClause kind clause) .empty

def ofExpression (kind : ContractKind) (expression : String) : ConstraintSet :=
  ofExpressionChars kind expression.toList

/-! ## Annotations -/

private def isWordChar (letter : Char) : Bool := Text.CharSet.word.contains letter.toNat

private def skipBlank (letters : List Char) : List Char := letters.dropWhile Text.isBlank

private def after? (word : String) (letters : List Char) : Option (List Char) :=
  if word.toList.isPrefixOf letters then some (letters.drop word.length) else none

/-- The body of a lambda in parentheses that ends the line. -/
def lambdaBody? (letters : List Char) : Option (List Char) := do
  let rest ← after? "(" (skipBlank letters)
  let rest ← after? "lambda" (skipBlank rest)
  let rest ← after? ":" (rest.dropWhile (· != ':'))
  let body := skipBlank rest
  match body.reverse with
  | ')' :: reversed => some reversed.reverse
  | _ => none

/-- An annotation at the front: `pre`, `post` or `ensure` with a lambda. -/
def annotation? (letters : List Char) : Option (ContractKind × List Char) :=
  match (after? "pre" letters).bind lambdaBody? with
  | some body => some (.pre, body)
  | none =>
      (((after? "post" letters).bind lambdaBody?).or
        ((after? "ensure" letters).bind lambdaBody?)).map fun body => (.post, body)

/-- The first annotation that does not begin inside a word. -/
def findAnnotation? (insideWord : Bool) : List Char → Option (ContractKind × List Char)
  | [] => none
  | letter :: rest =>
      (if insideWord then none else annotation? (letter :: rest)).or
        (findAnnotation? (isWordChar letter) rest)

/-- The constraints of a line without blanks around it. -/
def ofLine (line : List Char) : ConstraintSet :=
  match findAnnotation? false line with
  | some (kind, body) => ofExpressionChars kind body
  | none => .empty

/-- The constraints that the annotations of a source declare. -/
def ofSource (source : String) : ConstraintSet :=
  (Text.linesFrom [] source.toList).foldl
    (fun set line => set ++ ofLine (Text.trimChars line)) .empty

end ReviewGate.Contract
