import ReviewGate.Digest

/-!
# Fresh ids

A supply of texts, of which every draw takes the next one.
-/

namespace ReviewGate

structure Ids where
  text : Nat → String
  drawn : Nat

namespace Ids

def next (ids : Ids) : String := ids.text ids.drawn

def advance (ids : Ids) : Ids := { ids with drawn := ids.drawn + 1 }

/-- The first eight characters of an id that are no hyphens. -/
def shortForm (id : String) : String :=
  String.ofList ((id.toList.filter (· != '-')).take 8)

/-- Thirty-two hexadecimal digits in five groups, with the version and variant of a random id. -/
private def grouped (digits : List Char) : String :=
  let group := fun start length => String.ofList ((digits.drop start).take length)
  group 0 8 ++ "-" ++ group 8 4 ++ "-4" ++ group 13 3 ++ "-a" ++ group 17 3 ++ "-" ++ group 20 12

/-- Ids that a seed determines. -/
def ofSeed (seed : String) : Ids :=
  ⟨fun number => grouped (Digest.ofText (seed ++ ":" ++ toString number)).toList, 0⟩

end Ids

end ReviewGate
