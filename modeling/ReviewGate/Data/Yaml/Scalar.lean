import ReviewGate.Data.Yaml.Printer

/-!
# Scalars in YAML

How the texts of scalars are read: plain, between quotes, or as a block below a bar.  A single line
break inside a scalar that is not written line by line stands for a blank, and of several the first
does not count.
-/

namespace ReviewGate.Yaml

def isSpaceOrTab (letter : Char) : Bool := letter == ' ' || letter == '\t'

/-- Nothing, a blank or the end of the line. -/
def isGapBefore (letters : List Char) : Bool :=
  match letters with
  | [] => true
  | letter :: _ => isSpaceOrTab letter || letter == '\n'

/-- What some line breaks in the text of a scalar stand for. -/
def folded (breaks : Nat) : List Char :=
  if breaks = 1 then [' '] else List.replicate (breaks - 1) '\n'

/-! ## Plain scalars -/

/-- Whether a plain scalar may start here. -/
def startsPlain (inFlow : Bool) : List Char → Bool
  | [] => false
  | letter :: rest =>
      if letter == '-' then !isGapBefore rest
      else if letter == '?' || letter == ':' then !inFlow && !isGapBefore rest
      else !("-?:,[]\x7b\x7d#&*!|>'\"%@\x60 \t\n".toList.contains letter)

/-- The rest of the line as far as it belongs to a plain scalar. -/
def plainLine (inFlow : Bool) (before : Char) : List Char → List Char
  | [] => []
  | letter :: rest =>
      if letter == '\n' || (letter == ':' && isGapBefore rest) ||
          (letter == '#' && isSpaceOrTab before) ||
          (inFlow && ",[]\x7b\x7d".toList.contains letter) ||
          (inFlow && letter == ':' &&
            rest.head?.any fun next => ",?[]\x7b\x7d".toList.contains next) then []
      else letter :: plainLine inFlow letter rest

/-- Text without the blanks behind it. -/
def dropBlanksBehind (letters : List Char) : List Char :=
  (letters.reverse.dropWhile isSpaceOrTab).reverse

/-- The line breaks up to the next text, and its column. -/
def lineGap (breaks column : Nat) : List Char → Nat × Nat × List Char
  | '\n' :: rest => lineGap (breaks + 1) 0 rest
  | ' ' :: rest => lineGap breaks (column + 1) rest
  | '\t' :: rest => lineGap breaks (column + 1) rest
  | letters => (breaks, column, letters)

/-- A line that starts or ends a document. -/
def startsMarker (letters : List Char) : Bool :=
  (letters.take 3 == "---".toList || letters.take 3 == "...".toList) &&
    isGapBefore (letters.drop 3)

/-- A plain scalar and what follows it.  It goes on in lines that are indented deeper than what
holds it. -/
def plainText (inFlow : Bool) (parent : Int) : Nat → List Char → List Char × List Char
  | 0, letters => ([], letters)
  | fuel + 1, letters =>
      let text := dropBlanksBehind (plainLine inFlow 'x' letters)
      let rest := letters.drop text.length
      match lineGap 0 0 rest with
      | (breaks, column, next) =>
          let goesOn := breaks != 0 && (inFlow || decide (parent < column)) &&
            next.head? != some '#' && !(column == 0 && startsMarker next)
          let more := if goesOn then plainText inFlow parent fuel next else ([], next)
          if more.1.isEmpty then (text, rest) else (text ++ folded breaks ++ more.1, more.2)

/-! ## Quoted scalars -/

/-- Blanks and line breaks of which it is not clear yet what they stand for. -/
inductive Pending where
  | blanks (reversed : List Char)
  | breaks (count : Nat)
  /-- Behind a line break that does not count. -/
  | escapedBreak (count : Nat)

namespace Pending

def isOnFreshLine : Pending → Bool
  | .blanks _ => false
  | _ => true

def addBreak : Pending → Pending
  | .blanks _ => .breaks 1
  | .breaks count => .breaks (count + 1)
  | .escapedBreak count => .escapedBreak (count + 1)

def addBlank (blank : Char) : Pending → Pending
  | .blanks reversed => .blanks (blank :: reversed)
  | pending => pending

/-- What they stand for once text follows. -/
def text : Pending → List Char
  | .blanks reversed => reversed.reverse
  | .breaks count => folded count
  | .escapedBreak count => List.replicate count '\n'

end Pending

/-- Text behind a single quote. -/
def singleText (pending : Pending) : List Char → Option (List Char × List Char)
  | [] => none
  | '\'' :: '\'' :: rest => do
      let (text, rest) ← singleText (.blanks []) rest
      pure (pending.text ++ '\'' :: text, rest)
  | letter :: rest =>
      if letter == '\'' then some (pending.text, rest)
      else if letter == '\n' then singleText pending.addBreak rest
      else if isSpaceOrTab letter then singleText (pending.addBlank letter) rest
      else do
        let (text, rest) ← singleText (.blanks []) rest
        pure (pending.text ++ letter :: text, rest)

/-- The characters that one letter behind a backslash stands for. -/
def namedEscape? (letter : Char) : Option Char :=
  ([('0', 0x00), ('a', 0x07), ('b', 0x08), ('t', 0x09), ('\t', 0x09), ('n', 0x0a), ('v', 0x0b),
    ('f', 0x0c), ('r', 0x0d), ('e', 0x1b), (' ', 0x20), ('"', 0x22), ('/', 0x2f), ('\\', 0x5c),
    ('N', 0x85), ('_', 0xa0), ('L', 0x2028), ('P', 0x2029)].find? fun entry =>
      entry.1 == letter).map fun entry => Char.ofNat entry.2

def hexValueOf? (letter : Char) : Option Nat :=
  if '0' ≤ letter ∧ letter ≤ '9' then some (letter.toNat - 48)
  else if 'a' ≤ letter ∧ letter ≤ 'f' then some (letter.toNat - 87)
  else if 'A' ≤ letter ∧ letter ≤ 'F' then some (letter.toNat - 55)
  else none

/-- The character whose number is given in hexadecimal. -/
def codeEscape? (digits : List Char) : Option Char := do
  let values ← digits.mapM hexValueOf?
  let code := values.foldl (fun code digit => 16 * code + digit) 0
  if code < 0xd800 ∨ (0xdfff < code ∧ code < 0x110000) then some (Char.ofNat code) else none

/-- Text behind a double quote. -/
def doubleText (pending : Pending) : Nat → List Char → Option (List Char × List Char)
  | 0, _ => none
  | _, [] => none
  | fuel + 1, '\\' :: '\n' :: rest =>
      doubleText (.escapedBreak 0) fuel rest |>.map fun (text, rest) => (pending.text ++ text, rest)
  | fuel + 1, '\\' :: letter :: rest => do
      let width := if letter == 'x' then 2 else if letter == 'u' then 4
        else if letter == 'U' then 8 else 0
      let value ←
        if width = 0 then namedEscape? letter
        else if rest.length < width then none
        else codeEscape? (rest.take width)
      let (text, rest) ← doubleText (.blanks []) fuel (rest.drop width)
      pure (pending.text ++ value :: text, rest)
  | fuel + 1, letter :: rest =>
      if letter == '"' then some (pending.text, rest)
      else if letter == '\n' then doubleText pending.addBreak fuel rest
      else if isSpaceOrTab letter then doubleText (pending.addBlank letter) fuel rest
      else do
        let (text, rest) ← doubleText (.blanks []) fuel rest
        pure (pending.text ++ letter :: text, rest)

/-- A scalar between quotes. -/
def quotedText? : List Char → Option (List Char × List Char)
  | '\'' :: rest => singleText (.blanks []) rest
  | '"' :: rest => doubleText (.blanks []) (rest.length + 1) rest
  | _ => none

/-! ## Blocks of text -/

/-- What becomes of the line breaks at the end of a block. -/
inductive Ending where
  | strip
  | clip
  | keep
  deriving DecidableEq

structure BlockHeader where
  /-- Written line by line. -/
  literal : Bool
  ending : Ending
  /-- Columns behind what holds it. -/
  width : Option Nat

/-- Reads what stands behind the bar. -/
def blockMarks (header : BlockHeader) : List Char → BlockHeader × List Char
  | '+' :: rest => blockMarks { header with ending := .keep } rest
  | '-' :: rest => blockMarks { header with ending := .strip } rest
  | letter :: rest =>
      if '1' ≤ letter ∧ letter ≤ '9' ∧ header.width = none then
        blockMarks { header with width := some (letter.toNat - 48) } rest
      else (header, letter :: rest)
  | [] => (header, [])

def splitLines (current : List Char) : List Char → List (List Char)
  | [] => [current.reverse]
  | letter :: rest =>
      if letter == '\n' then current.reverse :: splitLines [] rest
      else splitLines (letter :: current) rest

def joinLines : List (List Char) → List Char
  | [] => []
  | [line] => line
  | line :: rest => line ++ '\n' :: joinLines rest

def leadingSpaces (line : List Char) : Nat := (line.takeWhile (· == ' ')).length

/-- The column of a block: that of its first line with text, no less than that of the blank lines
before it. -/
def blockColumn (least : Nat) : List (List Char) → Nat
  | [] => least
  | line :: rest =>
      let column := max least (leadingSpaces line)
      if line.all (· == ' ') then blockColumn column rest else column

/-- How far the text of a block has been read. -/
structure BlockText where
  text : List Char
  /-- A line has ended behind the text. -/
  ended : Bool
  /-- Empty lines since then. -/
  empty : Nat
  /-- The last line started with a blank. -/
  indented : Bool

namespace BlockText

/-- Adds a line with text. -/
def add (block : BlockText) (literal : Bool) (line : List Char) (ends : Bool) : BlockText :=
  let indented := line.head?.any isSpaceOrTab
  let joint :=
    if !block.ended then []
    else if literal || block.indented || indented then ['\n']
    else if block.empty = 0 then [' ']
    else []
  ⟨block.text ++ joint ++ List.replicate block.empty '\n' ++ line, ends, 0, indented⟩

def finish (block : BlockText) : Ending → List Char
  | .strip => block.text
  | .clip => block.text ++ (if block.ended then ['\n'] else [])
  | .keep =>
      block.text ++ (if block.ended then ['\n'] else []) ++ List.replicate block.empty '\n'

end BlockText

/-- Reads the lines of a block, and tells the lines behind it. -/
def blockFrom (literal : Bool) (column : Nat) (block : BlockText) :
    List (List Char) → BlockText × List (List Char)
  | [] => (block, [])
  | line :: rest =>
      if line.all (· == ' ') && decide (line.length ≤ column) then
        if rest.isEmpty then (block, [])
        else blockFrom literal column { block with empty := block.empty + 1 } rest
      else if leadingSpaces line < column then (block, line :: rest)
      else blockFrom literal column (block.add literal (line.drop column) !rest.isEmpty) rest

/-- A block of text below its bar. -/
def blockText? (parent : Int) (letters : List Char) : Option (List Char × List Char) := do
  let literal ← match letters.head? with
    | some '|' => some true
    | some '>' => some false
    | _ => none
  let (header, rest) := blockMarks ⟨literal, .clip, none⟩ (letters.drop 1)
  let rest := rest.dropWhile isSpaceOrTab
  let rest := if rest.head? == some '#' then rest.dropWhile (· != '\n') else rest
  match rest with
  | [] => some ([], [])
  | letter :: rest =>
      if letter != '\n' then none
      else
        let lines := splitLines [] rest
        let column := match header.width with
          | some width => (max parent 0).toNat + width
          | none => blockColumn (max 1 (parent + 1).toNat) lines
        let (block, behind) := blockFrom literal column ⟨[], false, 0, false⟩ lines
        some (block.finish header.ending, joinLines behind)

end ReviewGate.Yaml
