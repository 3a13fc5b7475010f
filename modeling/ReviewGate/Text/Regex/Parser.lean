import ReviewGate.Number.Reader
import ReviewGate.Text.Regex

/-!
# Reading regular expressions

The grammar knows groups, flags, bracketed sets with set operations, counted repetitions, escapes
and property names; it has no look-around and no references to groups.  Expressions start out
Unicode-aware and blind to case.
-/

namespace ReviewGate.Text.Regex

/-- Flags in force at some place of an expression. -/
structure Flags where
  ignoreCase : Bool
  multiLine : Bool
  dotAll : Bool
  unicode : Bool
  carriage : Bool
  verbose : Bool

namespace Flags

/-- Case is ignored, and sets are sets of Unicode characters. -/
def start : Flags := ⟨true, false, false, true, false, false⟩

end Flags

/-- What a reader knows: the flags, the group names taken so far and the characters to come. -/
structure Cursor where
  flags : Flags
  names : List String
  rest : List Char

abbrev Reader := StateT Cursor Option

namespace Reader

def fail {α : Type} : Reader α := fun _ => none

def rest : Reader (List Char) := do return (← get).rest

def setRest (rest : List Char) : Reader Unit := modify fun cursor => { cursor with rest := rest }

def flags : Reader Flags := do return (← get).flags

/-- Blanks and comments mean nothing while the verbose flag is on. -/
def skipVerbose : Nat → List Char → List Char
  | 0, letters => letters
  | _, [] => []
  | fuel + 1, letter :: rest =>
      if isBlank letter then skipVerbose fuel rest
      else if letter = '#' then
        skipVerbose fuel ((rest.dropWhile (· != '\n')).drop 1)
      else letter :: rest

def skip : Reader Unit := do
  let cursor ← get
  if cursor.flags.verbose then
    setRest (skipVerbose (cursor.rest.length + 1) cursor.rest)

/-- Drops one character and what means nothing after it. -/
def bump : Reader Unit := do
  setRest ((← rest).drop 1)
  skip

def peek? : Reader (Option Char) := do return (← rest).head?

/-- The next character, which has to be there. -/
def current : Reader Char := do
  match (← rest) with
  | letter :: _ => return letter
  | [] => fail

/-- Drops a text at the front, if it stands there. -/
def accept (text : String) : Reader Bool := do
  let letters ← rest
  if text.toList.isPrefixOf letters then
    setRest (letters.drop text.length)
    return true
  else return false

end Reader

open Reader

private def hexDigit? (letter : Char) : Option Nat :=
  if '0' ≤ letter ∧ letter ≤ '9' then some (letter.toNat - 48)
  else if 'a' ≤ letter ∧ letter ≤ 'f' then some (letter.toNat - 87)
  else if 'A' ≤ letter ∧ letter ≤ 'F' then some (letter.toNat - 55)
  else none

/-- A code point that is a character. -/
private def isScalarValue (code : Nat) : Bool :=
  decide (code < 0xD800) || (decide (0xDFFF < code) && decide (code < 0x110000))

private def hexValue? (digits : List Char) : Option Nat := do
  let values ← digits.mapM hexDigit?
  let code := values.foldl (fun value digit => 16 * value + digit) 0
  if isScalarValue code then some code else none

/-- The digits of a braced code point, blanks allowed only when they mean nothing. -/
private def bracedHex : Nat → List Char → Reader Nat
  | 0, _ => fail
  | fuel + 1, collected => do
      let letter ← current
      if letter = '}' then
        setRest ((← rest).drop 1)
        match collected with
        | [] => fail
        | digits => liftM (hexValue? digits.reverse)
      else
        bump
        bracedHex fuel (letter :: collected)

private def fixedHex : Nat → List Char → Reader Nat
  | 0, collected => liftM (hexValue? collected.reverse)
  | count + 1, collected => do
      let letter ← current
      let _ ← liftM (hexDigit? letter)
      if count = 0 then setRest ((← rest).drop 1) else bump
      fixedHex count (letter :: collected)

/-- What an escape or a plain character stands for. -/
inductive Atom where
  | letter (code : Nat)
  | set (set : CharSet)
  | look (condition : Look)

private def propertySet (negated : Bool) (members : Option Property.Members) : Reader Atom := do
  match members with
  | none => fail
  | some members =>
      let flags ← flags
      if !flags.unicode then fail
      let set := CharSet.ofMembers members
      let set := if flags.ignoreCase then .folded set else set
      return .set (CharSet.withNegation negated set)

private def bracedName : Nat → List Char → Reader (List Char)
  | 0, _ => fail
  | fuel + 1, collected => do
      let letter ← current
      if letter = '}' then
        setRest ((← rest).drop 1)
        return collected.reverse
      else
        bump
        bracedName fuel (letter :: collected)

/-- A name, or a name and a value with one of three marks between them. -/
private def splitProperty (name : List Char) : Bool × String × Option String :=
  let unequal := name.takeWhile (· != '!')
  if (name.drop unequal.length).take 2 = ['!', '='] then
    (true, String.ofList unequal, some (String.ofList (name.drop (unequal.length + 2))))
  else
    let mark := if name.contains ':' then ':' else '='
    if name.contains mark then
      let before := name.takeWhile (· != mark)
      (false, String.ofList before, some (String.ofList (name.drop (before.length + 1))))
    else (false, String.ofList name, none)

/-- A property behind `\p` or `\P`. -/
private def propertyAtom (negated : Bool) : Reader Atom := do
  bump
  let letter ← current
  if letter = '\x7b' then
    bump
    let name ← bracedName ((← rest).length + 1) []
    match splitProperty name with
    | (flip, name, some value) =>
        propertySet (negated != flip) (Property.ofNameAndValue? name value)
    | (_, name, none) => propertySet negated (Property.ofName? name)
  else if letter = '\\' then fail
  else
    setRest ((← rest).drop 1)
    propertySet negated (Property.ofName? letter.toString)

private def wordSet : Reader CharSet := do
  return if (← flags).unicode then CharSet.word else CharSet.asciiWord

/-- The condition behind `\b`, which may be narrowed by a name in braces. -/
private def boundary : Reader Atom := do
  let word ← wordSet
  let braced := [("\x7bstart\x7d", Look.wordStart word), ("\x7bend\x7d", Look.wordEnd word),
    ("\x7bstart-half\x7d", Look.halfWordStart word), ("\x7bend-half\x7d", Look.halfWordEnd word)]
  let letters ← rest
  match braced.find? fun entry => entry.1.toList.isPrefixOf letters with
  | some (text, condition) =>
      setRest (letters.drop text.length)
      return .look condition
  | none =>
      match letters with
      | '\x7b' :: after =>
          let name := after.takeWhile fun letter => letter.isAlpha || letter == '-'
          if !name.isEmpty && (after.drop name.length).head? == some '\x7d' then fail
          else return .look (.wordBoundary word)
      | _ => return .look (.wordBoundary word)

private def perlSet (unicode : Bool) (letter : Char) : CharSet :=
  let set :=
    if letter.toLower = 'd' then if unicode then CharSet.digit else CharSet.asciiDigit
    else if letter.toLower = 's' then if unicode then CharSet.space else CharSet.asciiSpace
    else if unicode then CharSet.word else CharSet.asciiWord
  CharSet.withNegation letter.isUpper set

private def metaCharacters : List Char := "\\.+*?()|[]\x7b\x7d^$#&-~".toList

/-- An escape; the cursor stands on the backslash. -/
def escape : Reader Atom := do
  setRest ((← rest).drop 1)
  let letter ← current
  if letter.isDigit then fail
  else if letter = 'x' ∨ letter = 'u' ∨ letter = 'U' then
    bump
    if (← current) = '\x7b' then
      bump
      return .letter (← bracedHex ((← rest).length + 1) [])
    else
      return .letter
        (← fixedHex (if letter = 'x' then 2 else if letter = 'u' then 4 else 8) [])
  else if letter = 'p' ∨ letter = 'P' then propertyAtom (letter == 'P')
  else
    setRest ((← rest).drop 1)
    if ['d', 's', 'w', 'D', 'S', 'W'].contains letter then
      let flags ← flags
      if !flags.unicode && letter.isUpper then fail
      return .set (perlSet flags.unicode letter)
    else if metaCharacters.contains letter then return .letter letter.toNat
    else match letter with
      | 'a' => return .letter 0x07
      | 'f' => return .letter 0x0c
      | 't' => return .letter 0x09
      | 'n' => return .letter 0x0a
      | 'r' => return .letter 0x0d
      | 'v' => return .letter 0x0b
      | 'A' => return .look .startText
      | 'z' => return .look .endText
      | 'b' => boundary
      | 'B' => return .look (.noWordBoundary (← wordSet))
      | '<' => return .look (.wordStart (← wordSet))
      | '>' => return .look (.wordEnd (← wordSet))
      | _ =>
          if letter.toNat < 0x80 && !letter.isAlphanum then return .letter letter.toNat else fail

/-! ## Bracketed sets -/

private def posixSet? (name : String) : Option CharSet :=
  (([("alnum", [(0x30, 0x39), (0x41, 0x5a), (0x61, 0x7a)]), ("alpha", [(0x41, 0x5a), (0x61, 0x7a)]),
    ("ascii", [(0, 0x7f)]), ("blank", [(0x9, 0x9), (0x20, 0x20)]),
    ("cntrl", [(0, 0x1f), (0x7f, 0x7f)]), ("digit", [(0x30, 0x39)]), ("graph", [(0x21, 0x7e)]),
    ("lower", [(0x61, 0x7a)]), ("print", [(0x20, 0x7e)]),
    ("punct", [(0x21, 0x2f), (0x3a, 0x40), (0x5b, 0x60), (0x7b, 0x7e)]),
    ("space", [(0x9, 0xd), (0x20, 0x20)]), ("upper", [(0x41, 0x5a)]),
    ("word", [(0x30, 0x39), (0x41, 0x5a), (0x5f, 0x5f), (0x61, 0x7a)]),
    ("xdigit", [(0x30, 0x39), (0x41, 0x46), (0x61, 0x66)])] : List (String × Ranges)).find?
      fun entry => entry.1 == name).map fun entry => .ranges entry.2

/-- All case variants where case is ignored, those in ASCII where sets are not Unicode-aware. -/
private def foldIf (flags : Flags) (set : CharSet) : CharSet :=
  if !flags.ignoreCase then set
  else if flags.unicode then .folded set
  else .inter (.ranges [(0, 0x7f)]) (.folded set)

/-- A named ASCII set such as `[:alpha:]`, if one stands at the front. -/
private def posixClass? : Reader (Option CharSet) := do
  let letters ← rest
  match letters with
  | '[' :: ':' :: after =>
      let (negated, after) := match after with
        | '^' :: after => (true, after)
        | _ => (false, after)
      let name := after.takeWhile (· != ':')
      match (after.drop name.length) with
      | ':' :: ']' :: remaining =>
          match posixSet? (String.ofList name) with
          | some set =>
              setRest remaining
              return some (CharSet.withNegation negated (foldIf (← flags) set))
          | none => return none
      | _ => return none
  | _ => return none

/-- One member of a set: a character or a set, which a range may not start or end with. -/
private def setItem : Reader Atom := do
  let letter ← current
  if letter = '\\' then escape
  else
    setRest ((← rest).drop 1)
    return .letter letter.toNat

private def atomCode : Atom → Reader Nat
  | .letter code => return code
  | _ => fail

private def atomSet (atom : Atom) : Reader CharSet := do
  match atom with
  | .letter code => return foldIf (← flags) (.single code)
  | .set set => return set
  | .look _ => fail

/-- The character after the next one, where blanks may mean nothing. -/
private def peekAfter? : Reader (Option Char) := do
  let cursor ← get
  let after := cursor.rest.drop 1
  return if cursor.flags.verbose then (skipVerbose (after.length + 1) after).head? else after.head?

private def setRange : Reader CharSet := do
  let first ← setItem
  skip
  let letter ← current
  let after ← peekAfter?
  if letter != '-' || after == some ']' || after == some '-' then atomSet first
  else
    bump
    let _ ← current
    let last ← setItem
    let low ← atomCode first
    let high ← atomCode last
    if high < low then fail
    return foldIf (← flags) (.ranges [(low, high)])

/-- How the set read so far meets the set that follows. -/
inductive SetOperation where
  | inter
  | difference
  | symmetric

/-- An operation still waiting for its right side. -/
def applyPending : Option (SetOperation × CharSet) → CharSet → CharSet
  | none, right => right
  | some (.inter, left), right => .inter left right
  | some (.difference, left), right => .inter left (.complement right)
  | some (.symmetric, left), right =>
      .inter (.union left right) (.complement (.inter left right))

mutual

/-- A set behind its opening bracket, which is still in front; the depth is given as well. -/
def bracketed : Nat → Reader (CharSet × Nat)
  | 0 => fail
  | fuel + 1 => do
      bump
      let negated := (← current) == '^'
      if negated then bump
      if negated && !(← flags).unicode then fail
      let (start, hyphen) ← leadingHyphens fuel .none false
      let opened ← (do
        if (← current) = ']' && !hyphen then
          bump
          return CharSet.single (']'.toNat)
        else return start)
      let (set, depth) ← setBody fuel none opened 1
      return (CharSet.withNegation negated set, depth + 1)

/-- Hyphens right behind the bracket are members. -/
def leadingHyphens : Nat → CharSet → Bool → Reader (CharSet × Bool)
  | 0, _, _ => fail
  | fuel + 1, set, found => do
      if (← current) = '-' then
        bump
        leadingHyphens fuel (.union set (.single ('-'.toNat))) true
      else return (set, found)

/-- The members up to the closing bracket, joined to those already read. -/
def setBody : Nat → Option (SetOperation × CharSet) → CharSet → Nat → Reader (CharSet × Nat)
  | 0, _, _, _ => fail
  | fuel + 1, pending, set, depth => do
      skip
      let letter ← current
      let next := ((← rest).drop 1).head?
      let operate (operation : SetOperation) : Reader (CharSet × Nat) := do
        setRest ((← rest).drop 2)
        setBody fuel (some (operation, applyPending pending set)) .none (depth + 1)
      if letter = ']' then
        setRest ((← rest).drop 1)
        return (applyPending pending set, depth)
      else if letter = '[' then
        match (← posixClass?) with
        | some named => setBody fuel pending (.union set named) depth
        | none =>
            let (inner, innerDepth) ← bracketed fuel
            setBody fuel pending (.union set inner) (max depth (innerDepth + 1))
      else if letter = '&' && next == some '&' then operate .inter
      else if letter = '-' && next == some '-' then operate .difference
      else if letter = '~' && next == some '~' then operate .symmetric
      else
        let item ← setRange
        setBody fuel pending (.union set item) depth

end

/-! ## Groups and repetitions -/

/-- Digits of a repetition count, with blanks around them. -/
private def count : Reader Nat := do
  setRest ((← rest).dropWhile isBlank)
  let digits ← countDigits ((← rest).length + 1) []
  setRest ((← rest).dropWhile isBlank)
  skip
  if digits.isEmpty then fail
  let value := Number.naturalValue digits
  if value < Nat.pow 2 32 then return value else fail
where
  countDigits : Nat → List Char → Reader (List Char)
    | 0, collected => return collected.reverse
    | fuel + 1, collected => do
        match (← peek?) with
        | some letter =>
            if Number.isDigit letter then
              bump
              countDigits fuel (letter :: collected)
            else return collected.reverse
        | none => return collected.reverse

/-- The bounds between braces, the opening one still in front. -/
private def bounds : Reader (Nat × Option Nat) := do
  bump
  let least ← count
  let most ← (do
    if (← current) = ',' then
      bump
      if (← current) = '\x7d' then return none
      else return some (← count)
    else return some least)
  if (← current) != '\x7d' then fail
  bump
  if (← peek?) = some '?' then bump
  match most with
  | some most => if most < least then fail else return (least, some most)
  | none => return (least, none)

/-- A letter or underscore, then also digits, points and brackets, up to the closing mark. -/
private def groupName : Nat → List Char → Reader String
  | 0, _ => fail
  | fuel + 1, collected => do
      let letter ← current
      setRest ((← rest).drop 1)
      if letter = '>' then
        if collected.isEmpty then fail else return String.ofList collected.reverse
      else
        let allowed := letter == '_' || isAlphabetic letter || (!collected.isEmpty &&
          (letter == '.' || letter == '[' || letter == ']' || isNumeric letter))
        if allowed then groupName fuel (letter :: collected) else fail

private def setFlag (flags : Flags) (letter : Char) (value : Bool) : Option Flags :=
  match letter with
  | 'i' => some { flags with ignoreCase := value }
  | 'm' => some { flags with multiLine := value }
  | 's' => some { flags with dotAll := value }
  | 'U' => some flags
  | 'u' => some { flags with unicode := value }
  | 'R' => some { flags with carriage := value }
  | 'x' => some { flags with verbose := value }
  | _ => none

/-- Flag letters up to a colon or a closing parenthesis; each letter once, at most one hyphen, and
not at the end. -/
private def flagLetters : Nat → Flags → List Char → Bool → Reader (Flags × List Char)
  | 0, _, _, _ => fail
  | fuel + 1, flags, seen, negative => do
      let letter ← current
      if letter = ':' ∨ letter = ')' then
        if seen.head? == some '-' then fail else return (flags, seen)
      else if seen.contains letter then fail
      else
        setRest ((← rest).drop 1)
        if letter = '-' then flagLetters fuel flags (letter :: seen) true
        else
          let flags ← liftM (setFlag flags letter (!negative))
          flagLetters fuel flags (letter :: seen) negative

private def isLookAround (letters : List Char) : Bool :=
  ["?=", "?!", "?<=", "?<!"].any fun mark => mark.toList.isPrefixOf letters

private def atomRegex (atom : Atom) : Reader Regex := do
  match atom with
  | .letter code => return .one (foldIf (← flags) (.single code))
  | .set set => return .one set
  | .look condition => return .look condition

/-- A character that stands for itself, or a mark with a meaning of its own. -/
private def plain (letter : Char) : Reader Regex := do
  setRest ((← rest).drop 1)
  let flags ← flags
  match letter with
  | '.' =>
      if !flags.unicode then fail
      else if flags.dotAll then return .one (.complement .none)
      else if flags.carriage then return .one (.complement (.ranges [(0xa, 0xa), (0xd, 0xd)]))
      else return .one (.complement (.single 0xa))
  | '^' => return .look (if flags.multiLine then .startLine flags.carriage else .startText)
  | '$' => return .look (if flags.multiLine then .endLine flags.carriage else .endText)
  | _ => return .one (foldIf flags (.single letter.toNat))

/-- A concatenation is the list of its items, newest first; `none` is a change of flags. -/
abbrev Items := List (Option (Regex × Nat))

/-- The expression of some items, and how deep its parts are nested. -/
private def ofItems (items : Items) : Regex × Nat :=
  let kept := items.reverse.filterMap id
  let depth := (kept.map Prod.snd).foldl max 0
  match kept with
  | [single] => if items.length = 1 then single else (.sequence [single.1], depth + 1)
  | _ => (.sequence (kept.map Prod.fst), if items.isEmpty then 0 else depth + 1)

private def ofBranches (branches : List (Regex × Nat)) (last : Regex × Nat) : Regex × Nat :=
  if branches.isEmpty then last
  else
    let all := (last :: branches).reverse
    (.choice (all.map Prod.fst), (all.map Prod.snd).foldl max 0 + 1)

/-- The last item repeated; there has to be one, and not just a change of flags. -/
private def repeatLast (least : Nat) (most : Option Nat) (items : Items) : Reader Items := do
  match items with
  | some (item, depth) :: others => return some (.times least most item, depth + 1) :: others
  | _ => fail

mutual

/-- Branches up to the end or to a closing parenthesis, which is left in front. -/
def alternation : Nat → List (Regex × Nat) → Items → Reader (Regex × Nat)
  | 0, _, _ => fail
  | fuel + 1, branches, items => do
      skip
      match (← peek?) with
      | none => return ofBranches branches (ofItems items)
      | some letter =>
          let repetition (least : Nat) (most : Option Nat) : Reader (Regex × Nat) := do
            bump
            if (← peek?) = some '?' then bump
            alternation fuel branches (← repeatLast least most items)
          match letter with
          | ')' => return ofBranches branches (ofItems items)
          | '(' => do
              let item ← parenthesized fuel
              alternation fuel branches (item :: items)
          | '|' => do
              setRest ((← rest).drop 1)
              alternation fuel (ofItems items :: branches) []
          | '[' => do
              let (set, depth) ← bracketed fuel
              alternation fuel branches (some (.one set, depth) :: items)
          | '?' => repetition 0 (some 1)
          | '*' => repetition 0 none
          | '+' => repetition 1 none
          | '\x7b' => do
              match items with
              | some _ :: _ =>
                  let (least, most) ← bounds
                  alternation fuel branches (← repeatLast least most items)
              | _ => fail
          | '\\' => do
              let item ← atomRegex (← escape)
              alternation fuel branches (some (item, 0) :: items)
          | _ => do
              let item ← plain letter
              alternation fuel branches (some (item, 0) :: items)

/-- A group, or a change of flags for the rest of the group around it. -/
def parenthesized : Nat → Reader (Option (Regex × Nat))
  | 0 => fail
  | fuel + 1 => do
      bump
      if isLookAround (← rest) then fail
      let outer ← flags
      let inside : Reader (Option (Regex × Nat)) := do
        let (item, depth) ← alternation fuel [] []
        if (← peek?) != some ')' then fail
        modify fun cursor => { cursor with flags := outer }
        setRest ((← rest).drop 1)
        return some (.group item, depth + 1)
      if (← accept "?P<") || (← accept "?<") then
        let name ← groupName ((← rest).length + 1) []
        if (← get).names.contains name then fail
        modify fun cursor => { cursor with names := name :: cursor.names }
        inside
      else if (← accept "?") then
        let (changed, seen) ← flagLetters ((← rest).length + 1) outer [] false
        modify fun cursor => { cursor with flags := changed }
        let mark ← current
        setRest ((← rest).drop 1)
        if mark = ')' then
          if seen.isEmpty then fail else return none
        else inside
      else inside

end

/-! ## Size -/

/-- Bytes that one character of a set takes in a compiled expression, about sixty a range. -/
def setWeight : CharSet → Nat
  | .ranges table =>
      match table with
      | [(low, high)] => if low = high then 32 * (1 + (low.log2 - 1) / 6) else 80
      | _ => 64 + 60 * table.length
  | .folded set => setWeight set + 48
  | .complement set => setWeight set + 400
  | .union first second => setWeight first + setWeight second
  | .inter first second => setWeight first + setWeight second

mutual

/-- Bytes that a compiled expression takes. -/
def weight : Regex → Nat
  | .one set => setWeight set
  | .look _ => 32
  | .sequence items => weightAll items
  | .choice items => 64 + weightAll items
  | .times least most item => 72 + weight item * max 1 (most.getD least)
  | .group item => 64 + weight item

def weightAll : List Regex → Nat
  | [] => 0
  | item :: rest => 8 + weight item + weightAll rest

end

/-- Parts may be nested this deep. -/
def depthLimit : Nat := 250

/-- A compiled expression may take this many bytes. -/
def weightLimit : Nat := 10485760

/-- The expression a pattern stands for, if it is well formed and not too large. -/
def parse? (pattern : String) : Option Regex := do
  let letters := pattern.toList
  let ((expression, depth), cursor) ←
    (alternation (4 * letters.length + 4) [] []).run ⟨Flags.start, [], letters⟩
  if cursor.rest.isEmpty && decide (depth ≤ depthLimit) &&
      decide (weight expression ≤ weightLimit) then some expression
  else none

end ReviewGate.Text.Regex
