import ReviewGate.Number.Decimal
import ReviewGate.Number.Reader

/-!
# JSON values

Values keep whole numbers and doubles apart, so that `1` and `1.0` stay different.  An object built
with `Json.ofFields` has its keys in ascending order; printing follows the order of the list.
-/

namespace ReviewGate

inductive Json where
  | null
  | bool (value : Bool)
  | int (value : Int)
  | float (value : Float)
  | string (value : String)
  | array (items : List Json)
  | object (fields : List (String × Json))
  deriving Inhabited

namespace Json

/-- Sets a field in ascending fields, replacing an older value of the key. -/
def insertField (key : String) (value : Json) : List (String × Json) → List (String × Json)
  | [] => [(key, value)]
  | (other, kept) :: rest =>
      if key < other then (key, value) :: (other, kept) :: rest
      else if key = other then (key, value) :: rest
      else (other, kept) :: insertField key value rest

/-- The object of some fields, keys ascending; of two fields with one key the later one counts. -/
def ofFields (fields : List (String × Json)) : Json :=
  .object (fields.foldl (fun ascending field => insertField field.1 field.2 ascending) [])

/-- A double; one that is not finite is written as text. -/
def ofNumber (value : Float) : Json :=
  if value - value == 0.0 then .float value else .string (Layout.data.write value)

def ofNat (value : Nat) : Json := .int value

def ofOption {α : Type} (encode : α → Json) : Option α → Json
  | some value => encode value
  | none => .null

def ofList {α : Type} (encode : α → Json) (values : List α) : Json := .array (values.map encode)

def ofStrings (values : List String) : Json := ofList .string values

/-- The value of a field of an object. -/
def field? (key : String) : Json → Option Json
  | .object fields => (fields.find? fun field => field.1 == key).map Prod.snd
  | _ => none

/-! ## Printing -/

def hexDigits (code : Nat) : List Char :=
  ['0', '0', Nat.digitChar (code / 16), Nat.digitChar (code % 16)]

/-- One character of a string; quotes, backslashes and control characters are escaped. -/
def escapeChar (letter : Char) : List Char :=
  if letter = '"' then ['\\', '"']
  else if letter = '\\' then ['\\', '\\']
  else if letter = '\n' then ['\\', 'n']
  else if letter = '\r' then ['\\', 'r']
  else if letter = '\t' then ['\\', 't']
  else if letter.toNat = 8 then ['\\', 'b']
  else if letter.toNat = 12 then ['\\', 'f']
  else if letter.toNat < 32 then '\\' :: 'u' :: hexDigits letter.toNat
  else [letter]

def quote (text : String) : String :=
  String.ofList ('"' :: text.toList.flatMap escapeChar ++ ['"'])

def commaSeparated (parts : List String) : String := ",".intercalate parts

mutual

/-- The text without any blanks; a double that is not finite is written as null. -/
def compact : Json → String
  | .null => "null"
  | .bool value => if value then "true" else "false"
  | .int value => Number.integerText value
  | .float value => if value - value == 0.0 then Layout.data.write value else "null"
  | .string value => quote value
  | .array items => "[" ++ commaSeparated (compactItems items) ++ "]"
  | .object fields => "\x7b" ++ commaSeparated (compactFields fields) ++ "\x7d"

def compactItems : List Json → List String
  | [] => []
  | item :: rest => compact item :: compactItems rest

def compactFields : List (String × Json) → List String
  | [] => []
  | (key, value) :: rest => (quote key ++ ":" ++ compact value) :: compactFields rest

end

private def indentation (depth : Nat) : String :=
  String.ofList ('\n' :: List.replicate (2 * depth) ' ')

/-- Brackets around parts, each part on a line of its own. -/
private def block (opening closing : String) (depth : Nat) : List String → String
  | [] => opening ++ closing
  | parts =>
      opening ++ indentation (depth + 1) ++ ("," ++ indentation (depth + 1)).intercalate parts ++
        indentation depth ++ closing

mutual

/-- The text with every item and field on its own line, two blanks deeper than what holds it. -/
def pretty (depth : Nat) : Json → String
  | .array items => block "[" "]" depth (prettyItems (depth + 1) items)
  | .object fields => block "\x7b" "\x7d" depth (prettyFields (depth + 1) fields)
  | value => compact value

def prettyItems (depth : Nat) : List Json → List String
  | [] => []
  | item :: rest => pretty depth item :: prettyItems depth rest

def prettyFields (depth : Nat) : List (String × Json) → List String
  | [] => []
  | (key, value) :: rest => (quote key ++ ": " ++ pretty depth value) :: prettyFields depth rest

end

end Json

end ReviewGate
