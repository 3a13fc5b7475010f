import ReviewGate.Data.Cause
import ReviewGate.Pattern.Finding
import ReviewGate.Pattern.Shape
import ReviewGate.Text.Lines
import ReviewGate.Text.Regex.Parser

/-!
# Matchers

What a rule looks for on a line: a regular expression or a shape of its tokens.  A matcher is data;
compiling it checks that it is well formed and does not match everything.
-/

namespace ReviewGate

inductive Matcher where
  /-- A regular expression, blind to case. -/
  | text (pattern : String)
  | shape (predicate : Shape)
  deriving DecidableEq, Repr

inductive MatcherError where
  | invalidRegex
  | emptyShape
  deriving DecidableEq, Repr

namespace MatcherError

def code : MatcherError → String
  | .invalidRegex => "InvalidRegex"
  | .emptyShape => "EmptyShape"

def message : MatcherError → String
  | .invalidRegex => "Invalid regex"
  | .emptyShape => "Shape predicate is empty"

instance : Cause MatcherError := ⟨code, message⟩

end MatcherError

/-- A matcher ready to be tried on lines. -/
inductive CompiledMatcher where
  | text (expression : Text.Regex)
  | shape (predicate : Shape)
  deriving Inhabited

namespace Matcher

def sequence (tokens : List String) : Matcher := .shape (.sequence tokens)

def compile : Matcher → Except MatcherError CompiledMatcher
  | .text pattern =>
      match Text.Regex.parse? pattern with
      | some expression => .ok (.text expression)
      | none => .error .invalidRegex
  | .shape predicate =>
      if predicate.isEmpty then .error .emptyShape else .ok (.shape predicate)

theorem compile_sequence {tokens : List String} (nonempty : tokens ≠ []) :
    (sequence tokens).compile = .ok (.shape (.sequence tokens)) := by
  simp [sequence, compile, Shape.isEmpty, nonempty]

end Matcher

namespace CompiledMatcher

def matchesLine (matcher : CompiledMatcher) (line : String) : Bool :=
  match matcher with
  | .text expression => expression.isMatch line
  | .shape predicate => predicate.matchesTokens (Token.ofLine line)

/-- The lines that match, counted from 1, without the blanks around them. -/
def find (matcher : CompiledMatcher) (source : String) : List (Nat × String) :=
  ((Text.lines source).zipIdx 1).filterMap fun (line, number) =>
    if matcher.matchesLine line then some (number, Text.trim line) else none

/-- Whether any line matches. -/
def matchesSource (matcher : CompiledMatcher) (source : String) : Bool :=
  (Text.lines source).any matcher.matchesLine

@[simp]
theorem matchesLine_shape (predicate : Shape) (line : String) :
    (CompiledMatcher.shape predicate).matchesLine line =
      predicate.matchesTokens (Token.ofLine line) := rfl

end CompiledMatcher

/-! ## Records -/

namespace Shape

def toJson : Shape → Json
  | .sequence tokens =>
      Json.ofFields [("shape", .string "token_sequence"), ("tokens", Json.ofStrings tokens)]
  | .dynamicCall callee =>
      Json.ofFields [("shape", .string "call_with_dynamic_argument"), ("callee", .string callee)]

end Shape

namespace Matcher

def toJson : Matcher → Json
  | .text pattern => Json.ofFields [("kind", .string "text"), ("pattern", .string pattern)]
  | .shape predicate =>
      Json.ofFields [("kind", .string "shape"), ("predicate", predicate.toJson)]

end Matcher

namespace Document

/-- A record that says by a field of its own which kind of record it is, and what is left of it.  As
a list it begins with its kind. -/
def toVariant? (tag : String) (document : Document) : Option (String × Document) :=
  match document.untagged with
  | .map fields => do
      let kind ← required fields tag toText?
      pure (kind, .map (fields.filter fun field => field.1 != tag))
  | .list (kind :: rest) => do
      let kind ← kind.toText?
      pure (kind, .list rest)
  | _ => none

end Document

namespace Shape

def ofDocument? (document : Document) : Option Shape := do
  let (kind, rest) ← document.toVariant? "shape"
  if kind = "token_sequence" then
    let fields ← rest.toRecord? ["tokens"]
    pure (.sequence (← Document.required fields "tokens" (Document.toList? Document.toText?)))
  else if kind = "call_with_dynamic_argument" then
    let fields ← rest.toRecord? ["callee"]
    pure (.dynamicCall (← Document.required fields "callee" Document.toText?))
  else none

end Shape

namespace Matcher

def ofDocument? (document : Document) : Option Matcher := do
  let (kind, rest) ← document.toVariant? "kind"
  if kind = "text" then
    let fields ← rest.toRecord? ["pattern"]
    pure (.text (← Document.required fields "pattern" Document.toText?))
  else if kind = "shape" then
    let fields ← rest.toRecord? ["predicate"]
    pure (.shape (← Document.required fields "predicate" Shape.ofDocument?))
  else none

end Matcher

end ReviewGate
