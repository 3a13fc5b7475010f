/-!
# Lines and pieces of text

A line ends at a line feed, which is not part of it, and neither is a carriage return right before
that line feed.  What follows the last line feed is a line of its own unless it is empty.
-/

namespace ReviewGate.Text

/-- A line collected in reverse, without the carriage return that ended it. -/
def endLine : List Char → List Char
  | '\r' :: current => current.reverse
  | current => current.reverse

/-- The lines of a text, the start of the first one already collected in reverse. -/
def linesFrom (current : List Char) : List Char → List (List Char)
  | [] => if current.isEmpty then [] else [current.reverse]
  | letter :: rest =>
      if letter = '\n' then endLine current :: linesFrom [] rest
      else linesFrom (letter :: current) rest

/-- The lines of a text. -/
def lines (source : String) : List String :=
  (linesFrom [] source.toList).map String.ofList

/-- Whether some stretch of the text equals the given part. -/
def occursIn (part : List Char) : List Char → Bool
  | [] => part.isEmpty
  | letter :: rest => part.isPrefixOf (letter :: rest) || occursIn part rest

/-- Whether a text holds another one. -/
def holds (text part : String) : Bool := occursIn part.toList text.toList

/-- The text with the letters A to Z in lower case. -/
def lowerAscii (text : String) : String := String.ofList (text.toList.map Char.toLower)

/-- A text filled up with blanks on the right. -/
def padRight (text : String) (width : Nat) : String :=
  text ++ String.ofList (List.replicate (width - text.length) ' ')

@[simp]
theorem linesFrom_nil_nil : linesFrom [] [] = [] := rfl

@[simp]
theorem linesFrom_newline (current rest : List Char) :
    linesFrom current ('\n' :: rest) = endLine current :: linesFrom [] rest := by
  simp [linesFrom]

theorem linesFrom_cons {letter : Char} (notNewline : letter ≠ '\n') (current rest : List Char) :
    linesFrom current (letter :: rest) = linesFrom (letter :: current) rest := by
  simp [linesFrom, notNewline]

/-- What follows a line feed begins a line of its own. -/
theorem linesFrom_append_newline (current letters rest : List Char) :
    linesFrom current (letters ++ '\n' :: rest) =
      linesFrom current (letters ++ ['\n']) ++ linesFrom [] rest := by
  induction letters generalizing current with
  | nil => simp
  | cons letter letters inductionHypothesis =>
      by_cases newline : letter = '\n'
      · subst newline
        simp [inductionHypothesis]
      · simp only [List.cons_append, linesFrom_cons newline, inductionHypothesis]

end ReviewGate.Text
