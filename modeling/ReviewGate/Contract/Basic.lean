import ReviewGate.Data.Document

/-!
# Declared contracts

Conditions that a piece of code declares: comparisons of a subject with a number, comparisons of two
numbers, and clauses that are neither and are only kept.
-/

namespace ReviewGate

/-- When a condition has to hold. -/
inductive ContractKind where
  | pre
  | post
  deriving DecidableEq, Repr, Inhabited

namespace ContractKind

instance : Named ContractKind where
  all := [.pre, .post]
  name
    | .pre => "pre"
    | .post => "post"

def label : ContractKind → String
  | .pre => "precondition"
  | .post => "postcondition"

end ContractKind

inductive Comparison where
  | lt
  | le
  | gt
  | ge
  | eq
  | ne
  deriving DecidableEq, Repr, Inhabited

namespace Comparison

instance : Named Comparison where
  all := [.lt, .le, .gt, .ge, .eq, .ne]
  name
    | .lt => "lt"
    | .le => "le"
    | .gt => "gt"
    | .ge => "ge"
    | .eq => "eq"
    | .ne => "ne"

def symbol : Comparison → String
  | .lt => "<"
  | .le => "<="
  | .gt => ">"
  | .ge => ">="
  | .eq => "=="
  | .ne => "!="

/-- The comparison with its sides exchanged. -/
def flip : Comparison → Comparison
  | .lt => .gt
  | .le => .ge
  | .gt => .lt
  | .ge => .le
  | comparison => comparison

def holds : Comparison → Float → Float → Bool
  | .lt, left, right => left < right
  | .le, left, right => left ≤ right
  | .gt, left, right => right < left
  | .ge, left, right => right ≤ left
  | .eq, left, right => left == right
  | .ne, left, right => left != right

@[simp]
theorem flip_flip (comparison : Comparison) : comparison.flip.flip = comparison := by
  cases comparison <;> rfl

end Comparison

inductive Constraint where
  /-- `subject op value` -/
  | bound (kind : ContractKind) (subject : String) (comparison : Comparison) (value : Float)
  /-- A comparison of two numbers, which holds or does not. -/
  | constant (kind : ContractKind) (holds : Bool) (text : String)

namespace Constraint

def toText : Constraint → String
  | .bound _ subject comparison value =>
      subject ++ " " ++ comparison.symbol ++ " " ++ Layout.message.write value
  | .constant _ _ text => text

end Constraint

/-- The constraints of a unit, and the clauses that could not be modelled. -/
structure ConstraintSet where
  constraints : List Constraint
  unsupported : List String

namespace ConstraintSet

def empty : ConstraintSet := ⟨[], []⟩

def isEmpty (set : ConstraintSet) : Bool := set.constraints.isEmpty && set.unsupported.isEmpty

def append (first second : ConstraintSet) : ConstraintSet :=
  ⟨first.constraints ++ second.constraints, first.unsupported ++ second.unsupported⟩

instance : Append ConstraintSet := ⟨append⟩

def ofConstraints (constraints : List Constraint) : ConstraintSet := ⟨constraints, []⟩

def ofUnsupported (clause : String) : ConstraintSet := ⟨[], [clause]⟩

@[simp]
theorem constraints_append (first second : ConstraintSet) :
    (first ++ second).constraints = first.constraints ++ second.constraints := rfl

@[simp]
theorem unsupported_append (first second : ConstraintSet) :
    (first ++ second).unsupported = first.unsupported ++ second.unsupported := rfl

end ConstraintSet

/-! ## Records -/

def Constraint.toJson (constraint : Constraint) : Json :=
  let shown := ("display", Json.string constraint.toText)
  match constraint with
  | .bound kind subject comparison value =>
      Json.ofFields [("type", .string "bound"), ("kind", Named.toJson kind),
        ("subject", .string subject), ("op", Named.toJson comparison),
        ("value", Json.ofNumber value), shown]
  | .constant kind holds text =>
      Json.ofFields [("type", .string "constant"), ("kind", Named.toJson kind),
        ("holds", .bool holds), ("text", .string text), shown]

def ConstraintSet.toJson (set : ConstraintSet) : Json :=
  Json.ofFields [("constraints", Json.ofList Constraint.toJson set.constraints),
    ("unsupported", Json.ofStrings set.unsupported), ("empty", .bool set.isEmpty)]

end ReviewGate
