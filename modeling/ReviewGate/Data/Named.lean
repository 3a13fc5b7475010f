/-!
# Named values

A closed list of values, each of which is written under a name of its own.
-/

namespace ReviewGate

class Named (α : Type) where
  all : List α
  name : α → String

namespace Named

variable {α : Type} [Named α]

/-- The value written under a name. -/
def ofName? (text : String) : Option α := (all : List α).find? fun value => name value == text

theorem name_of_ofName? {text : String} {value : α} (found : ofName? text = some value) :
    name value = text := by
  simpa using List.find?_some found

end Named

end ReviewGate
