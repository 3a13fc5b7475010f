/-!
# Ranges of code points

A property of characters is kept as an ascending list of ranges, both ends included.
-/

namespace ReviewGate.Text

/-- Ascending ranges of code points. -/
abbrev Ranges := List (Nat × Nat)

namespace Ranges

/-- Whether a code point lies in one of the ranges; the search ends at the first range above it. -/
def contains (code : Nat) : Ranges → Bool
  | [] => false
  | (low, high) :: rest =>
      if code < low then false
      else if code ≤ high then true
      else contains code rest

@[simp]
theorem contains_nil (code : Nat) : Ranges.contains code [] = false := rfl

theorem contains_cons (code low high : Nat) (rest : Ranges) :
    Ranges.contains code ((low, high) :: rest) =
      if code < low then false else if code ≤ high then true else Ranges.contains code rest :=
  rfl

end Ranges

end ReviewGate.Text
