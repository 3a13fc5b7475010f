import ReviewGate.Data.Json
import ReviewGate.Data.Named

/-!
# Documents

What a reader of structured text hands over: typed values where the format writes them, and plain
scalars where only the field that is read decides between text, number and truth value.  Records
ignore fields they do not know.
-/

namespace ReviewGate

inductive Document where
  | null
  | bool (value : Bool)
  | int (value : Int)
  | float (value : Float)
  /-- Text that is marked as text. -/
  | text (value : String)
  /-- A scalar without any mark. -/
  | plain (value : String)
  | list (items : List Document)
  | map (fields : List (String × Document))
  /-- A value under a name that its format gives it. -/
  | tagged (tag : String) (value : Document)
  deriving Inhabited

/-- A named value as data. -/
def Named.toJson {α : Type} [Named α] (value : α) : Json := .string (Named.name value)

namespace Document

mutual

def ofJson : Json → Document
  | .null => .null
  | .bool value => .bool value
  | .int value => .int value
  | .float value => .float value
  | .string value => .text value
  | .array items => .list (ofItems items)
  | .object fields => .map (ofFields fields)

def ofItems : List Json → List Document
  | [] => []
  | item :: rest => ofJson item :: ofItems rest

def ofFields : List (String × Json) → List (String × Document)
  | [] => []
  | (key, value) :: rest => (key, ofJson value) :: ofFields rest

end

/-- The value without the names put in front of it. -/
def untagged : Document → Document
  | .tagged _ value => untagged value
  | document => document

/-! ## Plain scalars -/

private def dropPlus : List Char → List Char
  | '+' :: rest => rest
  | letters => letters

private def isSigned (letters : List Char) : Bool :=
  letters.head? == some '+' || letters.head? == some '-'

/-- A double: an infinity or the value that is no number behind a point, or a finite decimal. -/
def plainFloat? (text : String) : Option Float :=
  let letters := text.toList
  let positive := dropPlus letters
  if letters.head? == some '+' && isSigned positive then none
  else if [".inf", ".Inf", ".INF"].contains (String.ofList positive) then some (1.0 / 0.0)
  else if ["-.inf", "-.Inf", "-.INF"].contains text then some (-(1.0 / 0.0))
  else if [".nan", ".NaN", ".NAN"].contains text then some (0.0 / 0.0)
  else
    match Number.read? positive with
    | some value => if value - value == 0.0 then some value else none
    | none => none

private def digitBelow? (base : Nat) (letter : Char) : Option Nat :=
  let value :=
    if '0' ≤ letter ∧ letter ≤ '9' then some (letter.toNat - 48)
    else if 'a' ≤ letter ∧ letter ≤ 'f' then some (letter.toNat - 87)
    else if 'A' ≤ letter ∧ letter ≤ 'F' then some (letter.toNat - 55)
    else none
  value.bind fun value => if value < base then some value else none

private def naturalIn? (base : Nat) (digits : List Char) : Option Nat :=
  if digits.isEmpty then none
  else
    (digits.mapM (digitBelow? base)).map fun values =>
      values.foldl (fun value digit => base * value + digit) 0

/-- Digits behind a leading zero are text. -/
def isZeroPadded (text : String) : Bool :=
  match (if isSigned text.toList then text.toList.drop 1 else text.toList) with
  | '0' :: digit :: rest => (digit :: rest).all Number.isDigit
  | _ => false

/-- A natural number in decimal, or in base 16, 8 or 2 behind `0x`, `0o` or `0b`. -/
def plainNat? (text : String) : Option Nat :=
  let positive := dropPlus text.toList
  let based := match positive with
    | '0' :: 'x' :: rest => naturalIn? 16 rest
    | '0' :: 'o' :: rest => naturalIn? 8 rest
    | '0' :: 'b' :: rest => naturalIn? 2 rest
    | _ => none
  match based with
  | some value => some value
  | none => if isZeroPadded text then none else naturalIn? 10 positive

def plainBool? (text : String) : Option Bool :=
  if ["true", "True", "TRUE"].contains text then some true
  else if ["false", "False", "FALSE"].contains text then some false
  else none

def isPlainNull (text : String) : Bool := ["", "~", "null", "Null", "NULL"].contains text

/-! ## Reading values -/

def toBool? (document : Document) : Option Bool :=
  match document.untagged with
  | .bool value => some value
  | .plain scalar => plainBool? scalar
  | _ => none

def toFloat? (document : Document) : Option Float :=
  match document.untagged with
  | .int value => some (Float.ofInt value)
  | .float value => some value
  | .plain scalar => plainFloat? scalar
  | _ => none

/-- A natural number of 64 bits. -/
def toNat? (document : Document) : Option Nat :=
  let value := match document.untagged with
    | .int value => if 0 ≤ value then some value.toNat else none
    | .plain scalar => plainNat? scalar
    | _ => none
  value.bind fun value => if value < Nat.pow 2 64 then some value else none

def toText? (document : Document) : Option String :=
  match document.untagged with
  | .text value => some value
  | .plain scalar => some scalar
  | _ => none

def isNull (document : Document) : Bool :=
  match document with
  | .null => true
  | .plain scalar => isPlainNull scalar
  | _ => false

/-- A value that may be missing. -/
def toOption? {α : Type} (read : Document → Option α) (document : Document) : Option (Option α) :=
  if document.isNull then some none else (read document).map some

def toList? {α : Type} (read : Document → Option α) (document : Document) : Option (List α) :=
  match document.untagged with
  | .list items => items.mapM read
  | _ => none

/-- One of the values of a closed list: its name, alone or in front of nothing. -/
def toNamed? {α : Type} [Named α] (document : Document) : Option α :=
  match document with
  | .tagged tag value => if value.isNull then Named.ofName? tag else none
  | .text name => Named.ofName? name
  | .plain name => Named.ofName? name
  | .map [(name, .null)] => Named.ofName? name
  | _ => none

/-- The fields of a record.  A field it knows may not be given twice; a list gives the fields in
order. -/
def toRecord? (names : List String) (document : Document) :
    Option (List (String × Document)) :=
  match document.untagged with
  | .map fields =>
      if names.all fun name => (fields.filter fun field => field.1 == name).length ≤ 1 then
        some fields
      else none
  | .list items => if items.length ≤ names.length then some (names.zip items) else none
  | .plain "" => some []
  | _ => none

/-- The value of a field that has to be there. -/
def required {α : Type} (fields : List (String × Document)) (name : String)
    (read : Document → Option α) : Option α :=
  match fields.find? fun field => field.1 == name with
  | some field => read field.2
  | none => none

/-- The value of a field, or the given one where the field is missing. -/
def withDefault {α : Type} (fields : List (String × Document)) (name : String)
    (read : Document → Option α) (default : α) : Option α :=
  match fields.find? fun field => field.1 == name with
  | some field => read field.2
  | none => some default

/-- The value of a field that may be missing or null. -/
def optional {α : Type} (fields : List (String × Document)) (name : String)
    (read : Document → Option α) : Option (Option α) :=
  withDefault fields name (toOption? read) none

end Document

end ReviewGate
