import ReviewGate.Data.Yaml.Scalar

/-!
# Reading YAML

One document of block mappings and sequences, brackets, scalars of all styles, anchors and tags.
Keys are scalars: on one line in front of a colon, or behind a question mark.
-/

namespace ReviewGate.Yaml

/-- A place in the text that is read. -/
structure Cursor where
  letters : List Char
  column : Nat
  /-- Only blanks stand before it on its line. -/
  fresh : Bool
  /-- Nodes that have been given a name. -/
  anchors : List (String × Document)
  /-- What the handles of tags stand for. -/
  handles : List (List Char × List Char)

/-- Skips blanks, comments and line ends.  A tab does not indent. -/
private def tokenFrom (inFlow inComment fresh : Bool) (column : Nat) :
    List Char → List Char × Nat × Bool
  | [] => ([], column, fresh)
  | letter :: rest =>
      if letter == '\n' then tokenFrom inFlow false true 0 rest
      else if inComment || letter == ' ' || (letter == '\t' && (inFlow || !fresh)) then
        tokenFrom inFlow inComment fresh (column + 1) rest
      else if letter == '#' then tokenFrom inFlow true fresh (column + 1) rest
      else (letter :: rest, column, fresh)

namespace Cursor

/-- The next token. -/
def token (cursor : Cursor) (inFlow : Bool) : Cursor :=
  match tokenFrom inFlow false cursor.fresh cursor.column cursor.letters with
  | (letters, column, fresh) => { cursor with letters, column, fresh }

/-- The place some characters further on the same line. -/
def behind (cursor : Cursor) (count : Nat) : Cursor :=
  { cursor with
    letters := cursor.letters.drop count
    column := cursor.column + count
    fresh := false }

/-- The place where a scalar ends. -/
def resume (cursor : Cursor) (rest : List Char) : Cursor :=
  { cursor with
    letters := rest
    column := cursor.column + 1
    fresh := false }

/-- The start of a line. -/
def atLine (cursor : Cursor) (rest : List Char) : Cursor :=
  { cursor with letters := rest, column := 0, fresh := true }

def isAtMarker (cursor : Cursor) : Bool := cursor.column == 0 && startsMarker cursor.letters

def isAtEnd (cursor : Cursor) : Bool := cursor.letters.isEmpty || cursor.isAtMarker

/-- A sign that stands for itself: nothing follows it directly. -/
def isAtSign (cursor : Cursor) (sign : Char) : Bool :=
  cursor.letters.head? == some sign && isGapBefore (cursor.letters.drop 1)

def isAtDash (cursor : Cursor) : Bool := cursor.isAtSign '-'

def startsWith (cursor : Cursor) (letter : Char) : Bool := cursor.letters.head? == some letter

end Cursor

/-! ## Names in front of nodes -/

private def isNameChar (letter : Char) : Bool :=
  letter.isAlphanum || letter == '_' || letter == '-'

/-- The name behind an ampersand or asterisk. -/
private def name? (cursor : Cursor) : Option (String × Cursor) :=
  let letters := (cursor.letters.drop 1).takeWhile isNameChar
  let rest := cursor.letters.drop (1 + letters.length)
  if letters.isEmpty || !(isGapBefore rest ||
      rest.head?.any fun letter => "?:,]\x7d%@\x60".toList.contains letter) then none
  else some (String.ofList letters, cursor.behind (1 + letters.length))

/-- Characters of the address that a tag is. -/
private def isAddressChar (letter : Char) : Bool :=
  isNameChar letter || ";/?:@&=+$.!~*'()%,[]".toList.contains letter

/-- The handle of a tag, through its second exclamation mark if it has one, and the rest. -/
private def splitHandle (letters : List Char) : List Char × List Char :=
  let name := (letters.drop 1).takeWhile isNameChar
  match letters.drop (1 + name.length) with
  | '!' :: rest => ('!' :: name ++ ['!'], rest)
  | _ => (['!'], letters.drop 1)

/-- The address that a tag stands for, if it is written well and its handle is known. -/
private def address? (handles : List (List Char × List Char)) (letters : List Char) :
    Option (List Char) :=
  match letters with
  | '!' :: '<' :: rest =>
      if rest.getLast? == some '>' && 1 < rest.length && rest.dropLast.all isAddressChar then
        some rest.dropLast
      else none
  | _ => do
      let (handle, rest) := splitHandle letters
      let known ← handles.find? fun entry => entry.1 == handle
      if !rest.all isAddressChar || (rest.isEmpty && handle != ['!']) then none
      some (known.2 ++ rest)

/-- A tag; only one of the document's own is told. -/
private def tag? (inFlow : Bool) (cursor : Cursor) : Option (Option String × Cursor) := do
  let letters := cursor.letters.takeWhile fun letter =>
    !(isSpaceOrTab letter || letter == '\n' || (inFlow && ",[]\x7b\x7d".toList.contains letter))
  let address ← address? cursor.handles letters
  let tag := match address with
    | '!' :: name => if letters == ['!'] then none else some (String.ofList name)
    | _ => none
  pure (tag, cursor.behind letters.length)

private def withTag (tag : Option String) (document : Document) : Document :=
  match tag with
  | some tag => .tagged tag document
  | none => document

/-- The names in front of a key on its line, and the key. -/
private def namesBefore (names : List String) : Nat → Cursor → List String × Cursor
  | 0, cursor => (names, cursor)
  | fuel + 1, cursor =>
      let found :=
        if cursor.startsWith '&' then
          (name? cursor).map fun (name, next) => (name :: names, next)
        else if cursor.startsWith '!' then (tag? false cursor).map fun (_, next) => (names, next)
        else none
      match found with
      | some (names', next) =>
          let blanks := (next.letters.takeWhile isSpaceOrTab).length
          if blanks = 0 then (names, cursor) else namesBefore names' fuel (next.behind blanks)
      | none => (names, cursor)

private def alias? (cursor : Cursor) : Option (Document × Cursor) := do
  let (name, cursor) ← name? cursor
  let found ← cursor.anchors.find? fun anchor => anchor.1 == name
  pure (found.2, cursor)

/-- The scalar that a key is, and what follows it. -/
private def keyScalar? (cursor : Cursor) : Option (Document × List Char) :=
  if cursor.startsWith '"' || cursor.startsWith '\'' then
    (quotedText? cursor.letters).map fun (text, rest) => (.text (String.ofList text), rest)
  else if cursor.startsWith '*' then
    (alias? cursor).map fun (node, next) => (node, next.letters)
  else if startsPlain false cursor.letters then
    let text := dropBlanksBehind (plainLine false 'x' cursor.letters)
    some (.plain (String.ofList text), cursor.letters.drop text.length)
  else none

/-- A key on one line with its colon. -/
def key? (cursor : Cursor) : Option (String × Cursor) := do
  let (names, cursor) := namesBefore [] 2 cursor
  let (key, rest) ← keyScalar? cursor
  let text ← key.toText?
  let used := cursor.letters.take (cursor.letters.length - rest.length)
  let blanks := (rest.takeWhile isSpaceOrTab).length
  match rest.drop blanks with
  | ':' :: behind =>
      if used.contains '\n' || !isGapBefore behind then none
      else
        let next := cursor.behind (used.length + blanks + 1)
        some (text, { next with anchors := names.map (fun name => (name, key)) ++ next.anchors })
  | _ => none

private def quoted? (cursor : Cursor) : Option (Document × Cursor) := do
  let (text, rest) ← quotedText? cursor.letters
  pure (.text (String.ofList text), cursor.resume rest)

/-- A colon that a sign of brackets follows directly. -/
private def isTightColon : List Char → Bool
  | ':' :: next :: _ => ",?[]\x7b\x7d".toList.contains next
  | _ => false

/-- A plain scalar.  Between brackets no tight colon may follow it. -/
private def plain? (inFlow : Bool) (parent : Int) (cursor : Cursor) : Option (Document × Cursor) :=
  if startsPlain inFlow cursor.letters then
    let (text, rest) := plainText inFlow parent (cursor.letters.length + 1) cursor.letters
    let next := rest.dropWhile fun letter => isSpaceOrTab letter || letter == '\n'
    if inFlow && isTightColon next then none
    else some (.plain (String.ofList text), cursor.resume rest)
  else none

/-! ## Brackets -/

mutual

/-- A node between brackets. -/
def flowNode? : Nat → Cursor → Option (Document × Cursor)
  | 0, _ => none
  | fuel + 1, cursor => do
      let cursor := cursor.token true
      match cursor.letters with
      | '[' :: _ => flowItems? fuel [] (cursor.behind 1)
      | '\x7b' :: _ => flowFields? fuel [] (cursor.behind 1)
      | '&' :: _ =>
          let (name, cursor) ← name? cursor
          let (node, cursor) ← flowNode? fuel cursor
          pure (node, { cursor with anchors := (name, node) :: cursor.anchors })
      | '!' :: _ =>
          let (tag, cursor) ← tag? true cursor
          let (node, cursor) ← flowNode? fuel cursor
          pure (withTag tag node, cursor)
      | '*' :: _ => alias? cursor
      | '"' :: _ | '\'' :: _ => quoted? cursor
      | ',' :: _ | ']' :: _ | '\x7d' :: _ => some (.plain "", cursor)
      | _ => plain? true 0 cursor

/-- The first node of an item or a field; a question mark makes it a key. -/
def flowStart? : Nat → Cursor → Option (Document × Cursor)
  | 0, _ => none
  | fuel + 1, cursor =>
      if cursor.startsWith '?' then
        let cursor := (cursor.behind 1).token true
        if cursor.startsWith ':' then some (.plain "", cursor) else flowNode? fuel cursor
      else flowNode? fuel cursor

/-- The items of a sequence up to its closing bracket. -/
def flowItems? : Nat → List Document → Cursor → Option (Document × Cursor)
  | 0, _, _ => none
  | fuel + 1, items, cursor => do
      let cursor := cursor.token true
      if cursor.startsWith ']' then pure (.list items.reverse, cursor.behind 1)
      else if cursor.startsWith ',' then none
      else
        let isKey := cursor.startsWith '?'
        let (node, cursor) ← flowStart? fuel cursor
        let cursor := cursor.token true
        let (item, cursor) ←
          if cursor.startsWith ':' then do
            let key ← node.toText?
            let (value, cursor) ← flowNode? fuel (cursor.behind 1)
            pure (Document.map [(key, value)], cursor.token true)
          else if isKey then do
            let key ← node.toText?
            pure (Document.map [(key, .plain "")], cursor)
          else some (node, cursor)
        if cursor.startsWith ',' then flowItems? fuel (item :: items) (cursor.behind 1)
        else if cursor.startsWith ']' then
          pure (.list (item :: items).reverse, cursor.behind 1)
        else none

/-- The fields of a mapping up to its closing bracket. -/
def flowFields? : Nat → List (String × Document) → Cursor → Option (Document × Cursor)
  | 0, _, _ => none
  | fuel + 1, fields, cursor => do
      let cursor := cursor.token true
      if cursor.startsWith '\x7d' then pure (.map fields.reverse, cursor.behind 1)
      else if cursor.startsWith ',' then none
      else
        let (node, cursor) ← flowStart? fuel cursor
        let key ← node.toText?
        let cursor := cursor.token true
        let (value, cursor) ←
          if cursor.startsWith ':' then do
            let (value, cursor) ← flowNode? fuel (cursor.behind 1)
            pure (value, cursor.token true)
          else some (Document.plain "", cursor)
        if cursor.startsWith ',' then flowFields? fuel ((key, value) :: fields) (cursor.behind 1)
        else if cursor.startsWith '\x7d' then
          pure (.map ((key, value) :: fields).reverse, cursor.behind 1)
        else none

end

/-! ## Blocks -/

mutual

/-- A node that is indented deeper than what holds it.  A sequence may stand in the column of the
key it belongs to. -/
def node? : Nat → Int → Bool → Bool → Cursor → Option (Document × Cursor)
  | 0, _, _, _, _ => none
  | fuel + 1, parent, ofKey, startsBlock, cursor =>
      let token := cursor.token false
      if token.isAtEnd then some (.plain "", cursor)
      else if token.fresh && decide ((token.column : Int) ≤ parent) then
        if ofKey && decide ((token.column : Int) = parent) && token.isAtDash then
          sequence? fuel token.column [] token
        else some (.plain "", cursor)
      else content? fuel parent (startsBlock || token.fresh) token

/-- A node that starts here; a block only where one may start. -/
def content? : Nat → Int → Bool → Cursor → Option (Document × Cursor)
  | 0, _, _, _ => none
  | fuel + 1, parent, startsBlock, cursor => do
      if startsBlock && cursor.isAtDash then sequence? fuel cursor.column [] cursor
      else if startsBlock && (cursor.isAtSign '?' || (key? cursor).isSome) then
        mapping? fuel cursor.column [] cursor
      else
        match cursor.letters with
        | '&' :: _ =>
            let (name, cursor) ← name? cursor
            let (node, cursor) ← node? fuel parent true false cursor
            pure (node, { cursor with anchors := (name, node) :: cursor.anchors })
        | '!' :: _ =>
            let (tag, cursor) ← tag? false cursor
            let (node, cursor) ← node? fuel parent true false cursor
            pure (withTag tag node, cursor)
        | '*' :: _ => alias? cursor
        | '|' :: _ | '>' :: _ =>
            let (text, rest) ← blockText? parent cursor.letters
            pure (.text (String.ofList text), cursor.atLine rest)
        | '[' :: _ | '\x7b' :: _ => flowNode? fuel cursor
        | '"' :: _ | '\'' :: _ => quoted? cursor
        | _ => plain? false parent cursor

/-- The fields of a mapping in a column. -/
def mapping? : Nat → Nat → List (String × Document) → Cursor → Option (Document × Cursor)
  | 0, _, _, _ => none
  | fuel + 1, column, fields, cursor => do
      let (key, value, cursor) ←
        if cursor.isAtSign '?' then do
          let (node, cursor) ← node? fuel column true true (cursor.behind 1)
          let key ← node.toText?
          let token := cursor.token false
          if token.fresh && token.column == column && token.isAtSign ':' then do
            let (value, cursor) ← node? fuel column true true (token.behind 1)
            pure (key, value, cursor)
          else pure (key, Document.plain "", cursor)
        else do
          let (key, cursor) ← key? cursor
          let (value, cursor) ← node? fuel column true false cursor
          pure (key, value, cursor)
      let fields := (key, value) :: fields
      let token := cursor.token false
      if token.isAtEnd then pure (.map fields.reverse, cursor)
      else if !token.fresh then none
      else if token.column = column then mapping? fuel column fields token
      else if token.column < column then pure (.map fields.reverse, cursor)
      else none

/-- The items of a sequence in a column. -/
def sequence? : Nat → Nat → List Document → Cursor → Option (Document × Cursor)
  | 0, _, _, _ => none
  | fuel + 1, column, items, cursor => do
      let (item, cursor) ← node? fuel column false true (cursor.behind 1)
      let items := item :: items
      let token := cursor.token false
      if token.isAtEnd then pure (.list items.reverse, cursor)
      else if !token.fresh then none
      else if token.column = column && token.isAtDash then sequence? fuel column items token
      else if token.column ≤ column then pure (.list items.reverse, cursor)
      else none

end

/-! ## Documents -/

/-- Line ends as line feeds. -/
private def unifyBreaks : List Char → List Char
  | '\r' :: '\n' :: rest => '\n' :: unifyBreaks rest
  | '\r' :: rest => '\n' :: unifyBreaks rest
  | letter :: rest => letter :: unifyBreaks rest
  | [] => []

/-- Characters that may stand in a document. -/
private def isAllowed (letter : Char) : Bool :=
  letter == '\t' || letter == '\r' || isPrintable letter || decide (0x10000 ≤ letter.toNat)

/-- Nothing but marks of its end may follow a document. -/
private def isLast : Nat → Cursor → Bool
  | 0, _ => false
  | fuel + 1, cursor =>
      let token := cursor.token false
      if token.isAtMarker && token.startsWith '.' then isLast fuel (token.behind 3)
      else token.letters.isEmpty

/-- The words of a line up to a comment. -/
private def words (line : List Char) : List (List Char) :=
  let pieces := (line.splitBy fun first second => isSpaceOrTab first == isSpaceOrTab second).filter
    fun piece => !piece.any isSpaceOrTab
  pieces.takeWhile fun piece => piece.head? != some '#'

/-- Versions 1.1 and 1.2 are understood. -/
private def isKnownVersion (version : List Char) : Bool :=
  Number.natural? (version.takeWhile (· != '.')) == some 1 &&
    [some 1, some 2].contains (Number.natural? ((version.dropWhile (· != '.')).drop 1))

/-- What may stand for the beginning of a tag. -/
private def isHandle (handle : List Char) : Bool :=
  handle == ['!'] ||
    (handle.length ≥ 2 && handle.head? == some '!' && handle.getLast? == some '!' &&
      (handle.drop 1).dropLast.all isNameChar)

/-- The handles that are known everywhere. -/
private def commonHandles : List (List Char × List Char) :=
  [(['!'], ['!']), (['!', '!'], "tag:yaml.org,2002:".toList)]

/-- The handles that the lines in front of a document declare, and the rest.  Such a line gives the
version, at most once, or a handle. -/
private def directives? (versioned : Bool) (handles : List (List Char × List Char)) :
    Nat → Cursor → Option (List (List Char × List Char) × Cursor)
  | 0, _ => none
  | fuel + 1, cursor =>
      let token := cursor.token false
      if !(token.column == 0 && token.startsWith '%') then some (handles, token)
      else
        let line := token.letters.takeWhile (· != '\n')
        let next := token.behind line.length
        match words line with
        | [name, version] =>
            if name == "%YAML".toList && !versioned && isKnownVersion version then
              directives? true handles fuel next
            else none
        | [name, handle, start] =>
            if name == "%TAG".toList && isHandle handle && start.all isAddressChar &&
                !handles.any (fun entry => entry.1 == handle) then
              directives? versioned ((handle, start) :: handles) fuel next
            else none
        | _ => none

/-- The one document of a text. -/
def parse? (text : String) : Option Document := do
  let letters := match text.toList with
    | '\ufeff' :: rest => rest
    | letters => letters
  if !letters.all isAllowed then none
  let letters := unifyBreaks letters
  let fuel := 4 * letters.length + 16
  let first := (Cursor.mk letters 0 true [] []).token false
  let (declared, start) ← directives? false [] fuel first
  let start := { start with handles := declared ++ commonHandles }
  let (document, cursor) ←
    if start.isAtMarker && start.startsWith '-' then node? fuel (-1) false false (start.behind 3)
    else if start.isAtMarker || start.letters.length < first.letters.length then none
    else node? fuel (-1) false true start
  if isLast fuel cursor then some document else none

end ReviewGate.Yaml
