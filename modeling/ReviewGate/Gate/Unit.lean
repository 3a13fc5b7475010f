import ReviewGate.Contract.Clause
import ReviewGate.Gate.Error

/-!
# Code units
-/

namespace ReviewGate

/-- A change that an author submits. -/
structure CodeUnit where
  id : String
  author : String
  path : String
  source : String
  /-- Declared preconditions, besides the annotations in the source. -/
  contracts : List String
  /-- Decides over the policy when given. -/
  critical : Option Bool
  deriving DecidableEq, Repr

namespace CodeUnit

/-- The annotations of the source, then the declared preconditions. -/
def constraints (unit : CodeUnit) : ConstraintSet :=
  unit.contracts.foldl (fun set expression => set ++ Contract.ofExpression .pre expression)
    (Contract.ofSource unit.source)

def validate (unit : CodeUnit) : Except GateError Unit :=
  if Text.isBlankText unit.id then .error (.malformed .noUnitId)
  else if Text.isBlankText unit.author then .error (.malformed (.noAuthor unit.id))
  else .ok ()

def toJson (unit : CodeUnit) : Json :=
  Json.ofFields [("id", .string unit.id), ("author", .string unit.author),
    ("path", .string unit.path), ("source", .string unit.source),
    ("contracts", Json.ofStrings unit.contracts), ("critical", Json.ofOption .bool unit.critical)]

def ofDocument? (document : Document) : Option CodeUnit := do
  let fields ← document.toRecord? ["id", "author", "path", "source", "contracts", "critical"]
  pure {
    id := ← Document.required fields "id" Document.toText?
    author := ← Document.required fields "author" Document.toText?
    path := ← Document.required fields "path" Document.toText?
    source := ← Document.required fields "source" Document.toText?
    contracts := ← Document.withDefault fields "contracts" (Document.toList? Document.toText?) []
    critical := ← Document.optional fields "critical" Document.toBool? }

end CodeUnit

end ReviewGate
