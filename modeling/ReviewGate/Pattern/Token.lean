import ReviewGate.Text.Blank
import ReviewGate.Text.Letter

/-!
# Tokens

A line of code as words, numbers, operators and string literals.  A literal is one token whatever
its contents, so shapes made of tokens cannot see inside it.
-/

namespace ReviewGate.Token

/-- Stands for a string literal. -/
def stringLiteral : String := "<str>"

/-- Stands for a string literal with interpolated parts. -/
def interpolatedLiteral : String := "<fstr>"

def operatorPairs : List (List Char) :=
  [['=', '='], ['!', '='], ['<', '='], ['>', '='], ['-', '>'], ['=', '>'], [':', ':'], ['*', '*'],
   ['/', '/'], ['+', '='], ['-', '='], ['&', '&'], ['|', '|'], ['<', '<']]

def startsWord (letter : Char) : Bool := Text.isAlphabetic letter || letter == '_'

def continuesWord (letter : Char) : Bool := Text.isAlphanumeric letter || letter == '_'

def isAsciiDigit (letter : Char) : Bool := letter.isDigit

/-- Numbers may hold letters, points and underscores. -/
def continuesNumber (letter : Char) : Bool :=
  letter.isAlphanum || letter == '.' || letter == '_'

def isQuote (letter : Char) : Bool := letter == '"' || letter == '\''

/-- Words that belong to the literal they stand in front of. -/
def isLiteralMark (word : List Char) : Bool :=
  [['f'], ['r'], ['b'], ['u'], ['r', 'b'], ['b', 'r'], ['f', 'r'], ['r', 'f']].contains
    (word.map Char.toLower)

/-- The mark that asks for interpolation. -/
def isInterpolating (word : List Char) : Bool := (word.map Char.toLower).contains 'f'

/-- What follows the closing quote; a backslash hides the character after it. -/
def afterLiteral (quote : Char) : List Char → List Char
  | [] => []
  | '\\' :: [] => []
  | '\\' :: _ :: rest => afterLiteral quote rest
  | letter :: rest => if letter = quote then rest else afterLiteral quote rest

theorem length_afterLiteral_le (quote : Char) (letters : List Char) :
    (afterLiteral quote letters).length ≤ letters.length := by
  fun_induction afterLiteral quote letters <;> simp_all <;> omega

/-- A word with what follows it: a literal if the word is its mark, and otherwise the word. -/
def word (letter : Char) (rest : List Char) : List Char × List Char :=
  let name := letter :: rest.takeWhile continuesWord
  let after := rest.dropWhile continuesWord
  match after with
  | [] => (name, [])
  | next :: literal =>
      if isQuote next && isLiteralMark name then
        ((if isInterpolating name then interpolatedLiteral else stringLiteral).toList,
          afterLiteral next literal)
      else (name, after)

/-- An operator of two characters if there is one, and the single character otherwise. -/
def operator (letter : Char) (rest : List Char) : List Char × List Char :=
  match rest with
  | [] => ([letter], [])
  | next :: after =>
      if operatorPairs.contains [letter, next] then ([letter, next], after)
      else ([letter], rest)

/-- The token that a character other than a blank begins, and what follows it. -/
def next (letter : Char) (rest : List Char) : List Char × List Char :=
  if startsWord letter then word letter rest
  else if isAsciiDigit letter then
    (letter :: rest.takeWhile continuesNumber, rest.dropWhile continuesNumber)
  else if isQuote letter then (stringLiteral.toList, afterLiteral letter rest)
  else operator letter rest

theorem length_word_le (letter : Char) (rest : List Char) :
    (word letter rest).2.length ≤ rest.length := by
  have dropped : (rest.dropWhile continuesWord).length ≤ rest.length :=
    (List.dropWhile_sublist continuesWord).length_le
  unfold word
  dsimp only
  split
  · simp
  · rename_i next literal found
    split
    · have shorter := length_afterLiteral_le next literal
      rw [found] at dropped
      simp only [List.length_cons] at dropped
      simp only
      omega
    · exact dropped

theorem length_operator_le (letter : Char) (rest : List Char) :
    (operator letter rest).2.length ≤ rest.length := by
  unfold operator
  split
  · simp
  · split <;> simp

theorem length_next_le (letter : Char) (rest : List Char) :
    (next letter rest).2.length ≤ rest.length := by
  unfold next
  split
  · exact length_word_le letter rest
  · split
    · exact (List.dropWhile_sublist continuesNumber).length_le
    · split
      · exact length_afterLiteral_le letter rest
      · exact length_operator_le letter rest

/-- The tokens of some characters. -/
def scan (letters : List Char) : List (List Char) :=
  match letters with
  | [] => []
  | letter :: rest =>
      if Text.isBlank letter then scan rest
      else (next letter rest).1 :: scan (next letter rest).2
termination_by letters.length
decreasing_by
  · simp
  · have shorter := length_next_le letter rest
    simp only [List.length_cons]
    omega

@[simp]
theorem scan_nil : scan [] = [] := by
  rw [scan]

theorem scan_blank {letter : Char} (blank : Text.isBlank letter = true) (rest : List Char) :
    scan (letter :: rest) = scan rest := by
  rw [scan]
  simp [blank]

theorem scan_cons {letter : Char} (visible : Text.isBlank letter = false) (rest : List Char) :
    scan (letter :: rest) = (next letter rest).1 :: scan (next letter rest).2 := by
  rw [scan]
  simp [visible]

/-- The tokens of a line. -/
def ofLine (line : String) : List String := (scan line.toList).map String.ofList

/-- A token that carries more than punctuation. -/
def isSignificant (token : String) : Bool :=
  token == stringLiteral || token == interpolatedLiteral ||
    match token.toList with
    | letter :: _ => Text.isAlphanumeric letter || letter == '_'
    | [] => false

/-- Punctuation that only groups or separates. -/
def isStructural (token : String) : Bool :=
  ["(", ")", "[", "]", "\x7b", "\x7d", ",", ";", ":", ".", "::", "#"].contains token

/-- A name; the literal constants are none. -/
def isIdentifier (token : String) : Bool :=
  (match token.toList with
    | letter :: _ => startsWord letter
    | [] => false) &&
    !(["True", "False", "None", "true", "false", "null"].contains token)

end ReviewGate.Token
