import ReviewGate.Data.Document

/-!
# States of a review

A unit passes through the tiers in order and ends accepted or rejected, perhaps after having been
held for approval.
-/

namespace ReviewGate

inductive ReviewState where
  | submitted
  | tier1
  | tier2
  | tier3
  | pendingApproval
  | accepted
  | rejected
  deriving DecidableEq, Repr, Inhabited

namespace ReviewState

instance : Named ReviewState where
  all := [.submitted, .tier1, .tier2, .tier3, .pendingApproval, .accepted, .rejected]
  name
    | .submitted => "submitted"
    | .tier1 => "tier1"
    | .tier2 => "tier2"
    | .tier3 => "tier3"
    | .pendingApproval => "pending_approval"
    | .accepted => "accepted"
    | .rejected => "rejected"

def isTerminal : ReviewState → Bool
  | .accepted | .rejected => true
  | _ => false

/-- The states that may follow a state.  No tier is skipped, and nothing follows the end. -/
def successors : ReviewState → List ReviewState
  | .submitted => [.tier1]
  | .tier1 => [.tier2, .accepted, .rejected]
  | .tier2 => [.tier3, .accepted, .rejected]
  | .tier3 => [.pendingApproval, .accepted, .rejected]
  | .pendingApproval => [.accepted, .rejected]
  | .accepted | .rejected => []

def canPassTo (state next : ReviewState) : Bool := state.successors.contains next

theorem successors_eq_nil_iff {state : ReviewState} :
    state.successors = [] ↔ state.isTerminal = true := by
  cases state <;> simp [successors, isTerminal]

end ReviewState

/-- The states a unit has passed through, oldest first. -/
structure Trail where
  states : List ReviewState
  deriving DecidableEq, Repr

namespace Trail

def start : Trail := ⟨[.submitted]⟩

/-- The trail of a held unit goes on from the states it was held with. -/
def resume (states : List ReviewState) : Trail := if states.isEmpty then start else ⟨states⟩

def current (trail : Trail) : ReviewState := trail.states.getLast?.getD .submitted

/-- Adds a state that may follow the current one. -/
def advance? (trail : Trail) (next : ReviewState) : Option Trail :=
  if trail.current.canPassTo next then some ⟨trail.states ++ [next]⟩ else none

def contains (trail : Trail) (state : ReviewState) : Bool := trail.states.contains state

@[simp]
theorem current_append (states : List ReviewState) (state : ReviewState) :
    current ⟨states ++ [state]⟩ = state := by
  simp [current]

theorem current_of_advance? {trail next : Trail} {state : ReviewState}
    (advanced : trail.advance? state = some next) : next.current = state := by
  unfold advance? at advanced
  split at advanced
  · cases advanced
    simp
  · contradiction

end Trail

/-! ## Records -/

namespace Trail

def toJson (trail : Trail) : Json :=
  Json.ofFields [("states", Json.ofList Named.toJson trail.states)]

def ofDocument? (document : Document) : Option Trail := do
  let fields ← document.toRecord? ["states"]
  pure ⟨← Document.required fields "states" (Document.toList? Document.toNamed?)⟩

end Trail

end ReviewGate
