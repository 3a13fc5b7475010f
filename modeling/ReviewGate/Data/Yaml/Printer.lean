import ReviewGate.Data.Document

/-!
# Writing YAML

Blocks without brackets: the fields of a mapping one below the other, the items of a sequence behind
dashes in the column of its key.  Text is quoted only where it would be read as something else.
-/

namespace ReviewGate.Yaml

/-! ## Scalars -/

/-- Whether an unmarked scalar is read as a whole number or a double. -/
def looksNumeric (text : String) : Bool :=
  let unsigned := match text.toList with
    | '-' :: rest => String.ofList rest
    | _ => text
  (Document.plainNat? text).isSome ||
    ((Document.plainNat? unsigned).isSome && unsigned.toList.head? != some '+') ||
    (Document.plainFloat? text).isSome

/-- Text that has to be marked as text. -/
def needsMark (text : String) : Bool :=
  Document.isPlainNull text || (Document.plainBool? text).isSome || looksNumeric text ||
    Document.isZeroPadded text

/-- Characters that are written as they are. -/
def isPrintable (letter : Char) : Bool :=
  let code := letter.toNat
  code == 0x0a || (decide (0x20 ≤ code) && decide (code ≤ 0x7e)) ||
    (decide (0xa0 ≤ code) && decide (code ≤ 0xfffd) && code != 0xfeff)

def isLineBreak (letter : Char) : Bool := [0x0a, 0x0d, 0x85, 0x2028, 0x2029].contains letter.toNat

private def isGap (letter : Option Char) : Bool :=
  match letter with
  | none => true
  | some letter => letter == ' ' || letter == '\t' || isLineBreak letter

/-- Whether a character, seen with its neighbours, makes a scalar look like something else. -/
private def misleads (before : Option Char) (letter : Char) (after : Option Char) : Bool :=
  if before.isNone then
    "#,[]\x7b\x7d&*!|>'\"%@\x60".toList.contains letter ||
      ("?:-".toList.contains letter && isGap after)
  else (letter == ':' && isGap after) || (letter == '#' && isGap before)

private def misleadsFrom (before : Option Char) : List Char → Bool
  | [] => false
  | letter :: rest => misleads before letter rest.head? || misleadsFrom (some letter) rest

/-- Whether a blank stands right before or right behind a line break. -/
private def blankThenBreak (first second : Char → Bool) : List Char → Bool
  | [] => false
  | [_] => false
  | letter :: next :: rest =>
      (first letter && second next) || blankThenBreak first second (next :: rest)

/-- Whether text needs escapes. -/
def needsEscapes (letters : List Char) : Bool :=
  !letters.all isPrintable || blankThenBreak (· == ' ') isLineBreak letters

/-- Whether text can stand without any mark. -/
def isPlain (letters : List Char) : Bool :=
  !needsEscapes letters && !letters.any isLineBreak && letters.head? != some ' ' &&
    letters.getLast? != some ' ' && !misleadsFrom none letters &&
    !(letters.take 3 == "---".toList) && !(letters.take 3 == "...".toList)

/-- Whether text can stand below its key, line by line. -/
def isBlockText (letters : List Char) : Bool :=
  !needsEscapes letters && letters.getLast? != some ' '

private def hexDigit (value : Nat) : Char := (Nat.digitChar value).toUpper

private def hexText (width code : Nat) : List Char :=
  (List.range width).map fun index => hexDigit (code / Nat.pow 16 (width - 1 - index) % 16)

/-- A character between double quotes. -/
def escaped (letter : Char) : List Char :=
  let code := letter.toNat
  match [(0x00, '0'), (0x07, 'a'), (0x08, 'b'), (0x09, 't'), (0x0a, 'n'), (0x0b, 'v'),
      (0x0c, 'f'), (0x0d, 'r'), (0x1b, 'e'), (0x22, '"'), (0x5c, '\\'), (0x85, 'N'),
      (0x2028, 'L'), (0x2029, 'P')].find? fun entry => entry.1 == code with
  | some entry => ['\\', entry.2]
  | none =>
      if isPrintable letter then [letter]
      else if code ≤ 0xff then '\\' :: 'x' :: hexText 2 code
      else if code ≤ 0xffff then '\\' :: 'u' :: hexText 4 code
      else '\\' :: 'U' :: hexText 8 code

def doubleQuoted (letters : List Char) : String :=
  String.ofList ('"' :: letters.flatMap escaped ++ ['"'])

def singleQuoted (letters : List Char) : String :=
  String.ofList
    ('\'' :: (letters.flatMap fun letter => if letter == '\'' then ['\'', '\''] else [letter]) ++
      ['\''])

/-- What stands behind the bar of a block: a width where the text starts with a gap, and how its
last line breaks are kept. -/
private def blockHeader (letters : List Char) : String :=
  let width := match letters with
    | ' ' :: _ | '\n' :: _ => "2"
    | _ => ""
  let ending := match letters.reverse with
    | '\n' :: '\n' :: _ => "+"
    | ['\n'] => "+"
    | '\n' :: _ => ""
    | _ => "-"
  "|" ++ width ++ ending

/-- The lines of a block of text, its last line break not counted. -/
private def blockLines (current : List Char) : List Char → List String
  | [] => if current.isEmpty then [] else [String.ofList current.reverse]
  | letter :: rest =>
      if letter == '\n' then String.ofList current.reverse :: blockLines [] rest
      else blockLines (letter :: current) rest

/-- A line two columns deeper; an empty line stays empty. -/
def deeper (line : String) : String := if line == "" then "" else "  " ++ line

/-- The text of a scalar behind its key, and the lines below it. -/
def textLines (text : String) : String × List String :=
  let letters := text.toList
  if letters.contains '\n' then
    if isBlockText letters then (blockHeader letters, (blockLines [] letters).map deeper)
    else (doubleQuoted letters, [])
  else if needsEscapes letters then (doubleQuoted letters, [])
  else if needsMark text || !isPlain letters then (singleQuoted letters, [])
  else (text, [])

/-! ## Blocks -/

/-- How a value goes on behind its key or dash. -/
inductive Layout where
  /-- Behind it, perhaps with lines below. -/
  | inline (text : String) (below : List String)
  | sequence (lines : List String)
  | mapping (lines : List String)

private def fieldLines (key : String) : Layout → List String
  | .inline text below => (key ++ ": " ++ text) :: below
  | .sequence lines => (key ++ ":") :: lines
  | .mapping lines => (key ++ ":") :: lines.map deeper

private def dashed : List String → List String
  | [] => []
  | line :: rest => ("- " ++ line) :: rest.map deeper

private def itemLines : Layout → List String
  | .inline text below => ("- " ++ text) :: below
  | .sequence lines | .mapping lines => dashed lines

mutual

def layout : Json → Layout
  | .null => .inline "null" []
  | .bool value => .inline (if value then "true" else "false") []
  | .int value => .inline (Number.integerText value) []
  | .float value => .inline (ReviewGate.Layout.configuration.write value) []
  | .string text => .inline (textLines text).1 (textLines text).2
  | .array [] => .inline "[]" []
  | .array (item :: rest) => .sequence (sequenceLines (item :: rest))
  | .object [] => .inline "\x7b\x7d" []
  | .object (field :: rest) => .mapping (mappingLines (field :: rest))

def sequenceLines : List Json → List String
  | [] => []
  | item :: rest => itemLines (layout item) ++ sequenceLines rest

def mappingLines : List (String × Json) → List String
  | [] => []
  | (key, value) :: rest => fieldLines key (layout value) ++ mappingLines rest

end

/-- The text of a document. -/
def write (value : Json) : String :=
  let lines := match layout value with
    | .inline text below => text :: below
    | .sequence lines | .mapping lines => lines
  String.join (lines.map fun line => line ++ "\n")

end ReviewGate.Yaml
