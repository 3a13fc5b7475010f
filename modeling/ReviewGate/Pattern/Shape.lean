import ReviewGate.Pattern.Token

/-!
# Shapes

Predicates on the tokens of a line.  A sequence asks for tokens in an order, with anything between
them; a dynamic call asks for a call whose arguments are not all literals.
-/

namespace ReviewGate

inductive Shape where
  | sequence (tokens : List String)
  | dynamicCall (callee : String)
  deriving DecidableEq, Repr

namespace Shape

/-- Each wanted token is looked for behind the one found before it. -/
def occurInOrder : List String → List String → Bool
  | [], _ => true
  | _ :: _, [] => false
  | wanted :: others, token :: rest =>
      if token = wanted then occurInOrder others rest else occurInOrder (wanted :: others) rest

/-- A token that makes an argument more than a literal. -/
def isDynamicToken (token : String) : Bool :=
  token == Token.interpolatedLiteral || token == "+" || Token.isIdentifier token

/-- Whether a dynamic token stands before the parenthesis that closes all open ones. -/
def argumentsAreDynamic : Nat → List String → Bool
  | _, [] => false
  | depth, token :: rest =>
      if token = "(" then argumentsAreDynamic (depth + 1) rest
      else if token = ")" then if depth ≤ 1 then false else argumentsAreDynamic (depth - 1) rest
      else if isDynamicToken token then true
      else argumentsAreDynamic depth rest

/-- A dynamic call at the front.  The callee may not be the tail of a longer path. -/
def callsHere (callee : List String) (previous : Option String) (tokens : List String) : Bool :=
  let arguments := tokens.drop callee.length
  callee.isPrefixOf tokens && arguments.head? == some "(" && previous != some "." &&
    argumentsAreDynamic 0 arguments

/-- A dynamic call anywhere behind the token before. -/
def callsFrom (callee : List String) (previous : Option String) : List String → Bool
  | [] => false
  | token :: rest =>
      callsHere callee previous (token :: rest) || callsFrom callee (some token) rest

/-- A dynamic call of a callee that has tokens. -/
def hasDynamicCall (callee tokens : List String) : Bool :=
  !callee.isEmpty && callsFrom callee none tokens

/-- A shape that would match every line. -/
def isEmpty : Shape → Bool
  | .sequence tokens => tokens.isEmpty
  | .dynamicCall callee => Text.isBlankText callee

def matchesTokens (shape : Shape) (tokens : List String) : Bool :=
  match shape with
  | .sequence wanted => occurInOrder wanted tokens
  | .dynamicCall callee => hasDynamicCall (Token.ofLine callee) tokens

@[simp]
theorem occurInOrder_nil (tokens : List String) : occurInOrder [] tokens = true := by
  cases tokens <;> rfl

@[simp]
theorem matchesTokens_sequence (wanted tokens : List String) :
    (Shape.sequence wanted).matchesTokens tokens = occurInOrder wanted tokens := rfl

end Shape

end ReviewGate
