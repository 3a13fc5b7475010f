import ReviewGate.Text.Folding
import ReviewGate.Text.Property

/-!
# Regular expressions

An expression is matched against a whole line at once: `Regex.advance` takes the set of positions
at which a match may begin and gives those at which it may end.  A set of positions is a natural
number whose bit `i` stands for the position before the `i`-th character.
-/

namespace ReviewGate.Text

/-- A set of characters, by code point. -/
inductive CharSet where
  | ranges (table : Ranges)
  /-- All case variants of the members. -/
  | folded (set : CharSet)
  | complement (set : CharSet)
  | union (first second : CharSet)
  | inter (first second : CharSet)
  deriving Inhabited

namespace CharSet

def contains (code : Nat) : CharSet → Bool
  | .ranges table => table.contains code
  | .folded set => (caseVariants code).any fun variant => contains variant set
  | .complement set => !contains code set
  | .union first second => contains code first || contains code second
  | .inter first second => contains code first && contains code second

def none : CharSet := .ranges []

def single (code : Nat) : CharSet := .ranges [(code, code)]

def unionAll (tables : List Ranges) : CharSet :=
  tables.foldl (fun set table => .union set (.ranges table)) .none

/-- A set or its complement. -/
def withNegation (negated : Bool) (set : CharSet) : CharSet :=
  if negated then .complement set else set

def ofMembers (members : Property.Members) : CharSet :=
  withNegation members.negated (unionAll members.tables)

/-- Decimal digits of any script. -/
def digit : CharSet := .ranges Category.decimalNumber

def space : CharSet := .ranges whiteSpace

/-- Letters, marks, decimal digits, connecting punctuation and joiners. -/
def word : CharSet :=
  unionAll [alphabetic, Category.nonspacingMark, Category.spacingMark, Category.enclosingMark,
    Category.decimalNumber, Category.connectorPunctuation, Property.joinControl]

def asciiDigit : CharSet := .ranges [(0x30, 0x39)]

def asciiSpace : CharSet := .ranges [(0x9, 0xd), (0x20, 0x20)]

def asciiWord : CharSet := .ranges [(0x30, 0x39), (0x41, 0x5a), (0x5f, 0x5f), (0x61, 0x7a)]

end CharSet

/-- Conditions on the characters around a position. -/
inductive Look where
  | startText
  | endText
  /-- Line ends are line feeds, and with `carriage` also carriage returns. -/
  | startLine (carriage : Bool)
  | endLine (carriage : Bool)
  | wordBoundary (word : CharSet)
  | noWordBoundary (word : CharSet)
  | wordStart (word : CharSet)
  | wordEnd (word : CharSet)
  | halfWordStart (word : CharSet)
  | halfWordEnd (word : CharSet)

namespace Look

private def isWord (word : CharSet) : Option Char → Bool
  | some letter => word.contains letter.toNat
  | none => false

/-- Whether the condition holds between two neighbours. -/
def holds (look : Look) (previous next : Option Char) : Bool :=
  match look with
  | .startText => previous.isNone
  | .endText => next.isNone
  | .startLine false => previous.isNone || previous == some '\n'
  | .startLine true =>
      previous.isNone || previous == some '\n' || (previous == some '\r' && next != some '\n')
  | .endLine false => next.isNone || next == some '\n'
  | .endLine true =>
      next.isNone || next == some '\r' || (next == some '\n' && previous != some '\r')
  | .wordBoundary word => isWord word previous != isWord word next
  | .noWordBoundary word => isWord word previous == isWord word next
  | .wordStart word => !isWord word previous && isWord word next
  | .wordEnd word => isWord word previous && !isWord word next
  | .halfWordStart word => !isWord word previous
  | .halfWordEnd word => !isWord word next

end Look

inductive Regex where
  | one (set : CharSet)
  | look (condition : Look)
  | sequence (items : List Regex)
  | choice (items : List Regex)
  | times (least : Nat) (most : Option Nat) (item : Regex)
  | group (item : Regex)
  deriving Inhabited

namespace Regex

/-- The positions right before a member of the set. -/
def memberMask (set : CharSet) : List Char → Nat
  | [] => 0
  | letter :: rest =>
      (if set.contains letter.toNat then 1 else 0) + 2 * memberMask set rest

/-- The positions at which a condition holds. -/
def lookMask (look : Look) (previous : Option Char) : List Char → Nat
  | [] => if look.holds previous none then 1 else 0
  | letter :: rest =>
      (if look.holds previous (some letter) then 1 else 0) +
        2 * lookMask look (some letter) rest

/-- Exactly `count` steps. -/
def repeatExactly (step : Nat → Nat) : Nat → Nat → Nat
  | 0, positions => positions
  | count + 1, positions =>
      if positions = 0 then 0 else repeatExactly step count (step positions)

/-- Up to `count` steps: what has been reached already is not followed again. -/
def repeatUpTo (step : Nat → Nat) : Nat → Nat → Nat → Nat
  | 0, reached, _ => reached
  | count + 1, reached, frontier =>
      let next := step frontier
      let fresh := next ^^^ (next &&& reached)
      if fresh = 0 then reached else repeatUpTo step count (reached ||| fresh) fresh

mutual

/-- The positions at which a match of the expression may end that begins at one of the given
positions.  Every further round of a repetition reaches a new position or ends it. -/
def advance (line : List Char) : Regex → Nat → Nat
  | .one set, positions => (positions &&& memberMask set line) <<< 1
  | .look condition, positions => positions &&& lookMask condition none line
  | .sequence items, positions => advanceAll line items positions
  | .choice items, positions => advanceAny line items positions
  | .times least most item, positions =>
      let reached := repeatExactly (advance line item) least positions
      let rounds := match most with
        | some most => most - least
        | none => line.length + 1
      repeatUpTo (advance line item) rounds reached reached
  | .group item, positions => advance line item positions

def advanceAll (line : List Char) : List Regex → Nat → Nat
  | [], positions => positions
  | item :: rest, positions => advanceAll line rest (advance line item positions)

def advanceAny (line : List Char) : List Regex → Nat → Nat
  | [], _ => 0
  | item :: rest, positions => advance line item positions ||| advanceAny line rest positions

end

/-- Whether some stretch of the text matches. -/
def isMatch (expression : Regex) (text : String) : Bool :=
  let line := text.toList
  advance line expression (Nat.pow 2 (line.length + 1) - 1) != 0

end Regex

end ReviewGate.Text
