/-!
# Causes

Why something was refused: its kind, and a message.  A change of a subject that can be refused tells
what comes of it together with the subject as it is left behind, also where it is refused.
-/

namespace ReviewGate

class Cause (E : Type) where
  /-- The kind in one word; the kind of a cause inside it follows behind a point. -/
  code : E → String
  message : E → String

/-- The result of a change with the subject behind it as one value, where there is a result. -/
def together {Failure Answer Subject : Type} :
    Except Failure Answer × Subject → Except Failure (Answer × Subject)
  | (.ok answer, subject) => .ok (answer, subject)
  | (.error cause, _) => .error cause

end ReviewGate
