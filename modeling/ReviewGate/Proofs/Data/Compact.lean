import ReviewGate.Data.Json
import ReviewGate.Proofs.Number.Shortest

/-!
# Compact text of JSON values

Two values with the same compact text are the same, as long as they hold no double that is written
as null.  Every value, key and string shows where it ends, so this also holds of values inside a
longer text.
-/

namespace ReviewGate.Json

/-! ## Doubles -/

mutual

def doubles : Json → List Float
  | .float value => [value]
  | .array items => doublesOfItems items
  | .object fields => doublesOfFields fields
  | _ => []

def doublesOfItems : List Json → List Float
  | [] => []
  | item :: rest => doubles item ++ doublesOfItems rest

def doublesOfFields : List (String × Json) → List Float
  | [] => []
  | (_, value) :: rest => doubles value ++ doublesOfFields rest

end

/-- All doubles inside are finite, as in every value that has been read from a text. -/
def IsFinite (value : Json) : Prop := ∀ double ∈ value.doubles, Scalar.isFinite double = true

theorem doublesOfItems_eq (items : List Json) : doublesOfItems items = items.flatMap doubles := by
  induction items with
  | nil => rfl
  | cons item rest inductionHypothesis =>
      rw [doublesOfItems, inductionHypothesis, List.flatMap_cons]

theorem doublesOfFields_eq (fields : List (String × Json)) :
    doublesOfFields fields = fields.flatMap fun field => doubles field.2 := by
  induction fields with
  | nil => rfl
  | cons field rest inductionHypothesis =>
      obtain ⟨key, value⟩ := field
      rw [doublesOfFields, inductionHypothesis, List.flatMap_cons]

theorem IsFinite.item {items : List Json} (finite : (array items).IsFinite) {item : Json}
    (membership : item ∈ items) : item.IsFinite := by
  intro double found
  refine finite double ?_
  rw [doubles, doublesOfItems_eq]
  exact List.mem_flatMap.mpr ⟨item, membership, found⟩

theorem IsFinite.field {fields : List (String × Json)} (finite : (object fields).IsFinite)
    {field : String × Json} (membership : field ∈ fields) : field.2.IsFinite := by
  intro double found
  refine finite double ?_
  rw [doubles, doublesOfFields_eq]
  exact List.mem_flatMap.mpr ⟨field, membership, found⟩

/-! ## Strings -/

def hexValue (digit : Char) : Nat :=
  if digit.isDigit then digit.toNat - 48 else digit.toNat - 87

/-- The first character of an escaped text, and the letters behind it. -/
def unescape : List Char → Char × List Char
  | '\\' :: 'n' :: rest => ('\n', rest)
  | '\\' :: 'r' :: rest => ('\r', rest)
  | '\\' :: 't' :: rest => ('\t', rest)
  | '\\' :: 'b' :: rest => (Char.ofNat 8, rest)
  | '\\' :: 'f' :: rest => (Char.ofNat 12, rest)
  | '\\' :: 'u' :: _ :: _ :: high :: low :: rest =>
      (Char.ofNat (16 * hexValue high + hexValue low), rest)
  | '\\' :: letter :: rest => (letter, rest)
  | letter :: rest => (letter, rest)
  | [] => (default, [])

theorem hexValue_hexDigits : ∀ code < 32,
    16 * hexValue (Nat.digitChar (code / 16)) + hexValue (Nat.digitChar (code % 16)) = code := by
  decide

theorem unescape_escapeChar (letter : Char) (rest : List Char) :
    unescape (escapeChar letter ++ rest) = (letter, rest) := by
  have code : letter = Char.ofNat letter.toNat := (Char.ofNat_toNat letter).symm
  by_cases quote : letter = '"'
  · subst quote
    rfl
  by_cases backslash : letter = '\\'
  · subst backslash
    rfl
  by_cases newline : letter = '\n'
  · subst newline
    rfl
  by_cases carriage : letter = '\r'
  · subst carriage
    rfl
  by_cases tab : letter = '\t'
  · subst tab
    rfl
  by_cases back : letter.toNat = 8
  · rw [code, back]
    rfl
  by_cases feed : letter.toNat = 12
  · rw [code, feed]
    rfl
  by_cases control : letter.toNat < 32
  · have value := hexValue_hexDigits letter.toNat control
    simp [escapeChar, quote, backslash, newline, carriage, tab, back, feed, control, hexDigits,
      unescape, value]
  · simp [escapeChar, quote, backslash, newline, carriage, tab, back, feed, control, unescape]

theorem escapeChar_append_inj {first second : Char} {rest other : List Char}
    (same : escapeChar first ++ rest = escapeChar second ++ other) :
    first = second ∧ rest = other := by
  have read := congrArg unescape same
  rw [unescape_escapeChar, unescape_escapeChar, Prod.mk.injEq] at read
  exact read

/-- An escaped character never begins with a quote. -/
theorem escapeChar_append_ne (letter : Char) (rest other : List Char) :
    escapeChar letter ++ rest ≠ '"' :: other := by
  intro same
  have read := congrArg unescape same
  have quote : unescape ('"' :: other) = ('"', other) := rfl
  rw [unescape_escapeChar, quote, Prod.mk.injEq] at read
  rw [read.1] at same
  injection same with first
  exact absurd first (by decide)

/-- Escaped characters end at the first quote of their own. -/
theorem escaped_append_inj {first second rest other : List Char}
    (same : first.flatMap escapeChar ++ '"' :: rest = second.flatMap escapeChar ++ '"' :: other) :
    first = second ∧ rest = other := by
  induction first generalizing second with
  | nil =>
      cases second with
      | nil =>
          injection same with _ same
          exact ⟨rfl, same⟩
      | cons letter second =>
          rw [List.flatMap_cons, List.append_assoc] at same
          exact absurd same.symm (escapeChar_append_ne _ _ _)
  | cons letter first inductionHypothesis =>
      rw [List.flatMap_cons, List.append_assoc] at same
      cases second with
      | nil => exact absurd same (escapeChar_append_ne _ _ _)
      | cons letterSecond second =>
          rw [List.flatMap_cons, List.append_assoc] at same
          obtain ⟨head, tail⟩ := escapeChar_append_inj same
          obtain ⟨tails, rests⟩ := inductionHypothesis tail
          exact ⟨by rw [head, tails], rests⟩

theorem quote_append_inj {first second : String} {rest other : List Char}
    (same : (quote first).toList ++ rest = (quote second).toList ++ other) :
    first = second ∧ rest = other := by
  simp only [quote, String.toList_ofList, List.cons_append, List.append_assoc, List.nil_append,
    List.cons.injEq, true_and] at same
  obtain ⟨letters, rests⟩ := escaped_append_inj same
  exact ⟨String.toList_inj.mp letters, rests⟩

/-! ## Numbers -/

/-- The letters that numbers are written with. -/
def isNumeric (letter : Char) : Bool :=
  Number.isDigit letter || letter == '-' || letter == '+' || letter == '.' || letter == 'e'

/-- What can stand behind a value. -/
def Ends (rest : List Char) : Prop :=
  ∀ letter ∈ rest.head?, letter = ',' ∨ letter = ']' ∨ letter = '\x7d'

theorem Ends.not_numeric {rest : List Char} (ends : Ends rest) :
    ∀ letter ∈ rest.head?, isNumeric letter = false := by
  intro letter first
  rcases ends letter first with rfl | rfl | rfl <;> rfl

def signed (negative : Bool) (numeral : Numeral) : List Char :=
  (if negative then ['-'] else []) ++ numeral.letters

theorem isNumeric_of_mem_signed {negative : Bool} {numeral : Numeral} (valid : numeral.IsValid) :
    ∀ letter ∈ signed negative numeral, isNumeric letter = true := by
  have digit : ∀ {letter}, Number.isDigit letter = true → isNumeric letter = true := by
    intro letter found
    simp [isNumeric, found]
  have inExponent : ∀ letter ∈ Numeral.exponentLetters numeral.exponent,
      isNumeric letter = true := by
    have digits := valid.exponent
    generalize numeral.exponent = exponent at digits
    cases exponent with
    | none => nofun
    | some part =>
        obtain ⟨sign, power⟩ := part
        intro letter membership
        rcases List.mem_cons.mp membership with rfl | membership
        · rfl
        · rcases List.mem_cons.mp membership with rfl | later
          · cases sign <;> rfl
          · exact digit (digits (sign, power) rfl letter later)
  intro letter membership
  rcases List.mem_append.mp membership with sign | membership
  · cases negative with
    | false => cases sign
    | true =>
        rw [List.mem_singleton.mp sign]
        rfl
  · rcases List.mem_append.mp membership with whole | membership
    · exact digit (valid.whole letter whole)
    · rcases List.mem_append.mp membership with fraction | power
      · split at fraction
        · cases fraction
        · rcases List.mem_cons.mp fraction with rfl | later
          · rfl
          · exact digit (valid.fraction letter later)
      · exact inExponent letter power

/-- A number ends where a letter follows that is none of its own. -/
theorem signed_append_inj {negative other : Bool} {first second : Numeral}
    (valid : first.IsValid) (validSecond : second.IsValid) {rest others : List Char}
    (ends : Ends rest) (endsOther : Ends others)
    (same : signed negative first ++ rest = signed other second ++ others) :
    (negative = other ∧ first = second) ∧ rest = others := by
  obtain ⟨numbers, rests⟩ := append_inj_of_kind (isNumeric_of_mem_signed valid)
    (isNumeric_of_mem_signed validSecond) ends.not_numeric endsOther.not_numeric same
  exact ⟨Numeral.eq_of_signed_eq valid validSecond numbers, rests⟩

theorem exists_int_text (value : Int) :
    ∃ numeral : Numeral, numeral.IsValid ∧ ¬ numeral.IsMarked ∧
      Number.naturalValue numeral.whole = value.natAbs ∧
      (compact (.int value)).toList = signed (decide (value < 0)) numeral := by
  refine ⟨⟨(toString value.natAbs).toList, [], none⟩,
    ⟨fun letter => isDigit_of_mem_toString, ?_, nofun, nofun⟩, by simp [Numeral.IsMarked],
    naturalValue_toString _, ?_⟩
  · rw [Nat.toString_eq_ofList_toDigits, String.toList_ofList]
    exact Nat.toDigits_ne_nil
  · rw [compact, Number.integerText, signed]
    by_cases negative : value < 0
    · simp [negative, Numeral.letters, Numeral.tail, Numeral.exponentLetters]
    · simp [negative, Numeral.letters, Numeral.tail, Numeral.exponentLetters]

theorem exists_float_text {value : Float} (bounded : Scalar.isFinite value = true) :
    ∃ negative numeral, Numeral.IsValid numeral ∧ numeral.IsMarked ∧
      (compact (.float value)).toList = signed negative numeral := by
  obtain ⟨parts, numeral, _, _, valid, marked, _, written⟩ := Layout.exists_numeral_write bounded
  have kept : (value - value == 0.0) = true := bounded
  exact ⟨parts.negative, numeral, valid, marked, by rw [compact, if_pos kept, written, signed]⟩

/-! ## Kinds of values -/

/-- What the first letter of a text tells about the value. -/
inductive Kind where
  | null
  | bool
  | number
  | string
  | array
  | object

def kind : Json → Kind
  | .null => .null
  | .bool _ => .bool
  | .int _ | .float _ => .number
  | .string _ => .string
  | .array _ => .array
  | .object _ => .object

def Kind.ofLetter? (letter : Char) : Option Kind :=
  if letter = 'n' then some .null
  else if letter = 't' ∨ letter = 'f' then some .bool
  else if letter = '"' then some .string
  else if letter = '[' then some .array
  else if letter = '\x7b' then some .object
  else if letter = '-' ∨ Number.isDigit letter then some .number
  else none

theorem ofLetter?_signed {negative : Bool} {numeral : Numeral} (valid : numeral.IsValid)
    (rest : List Char) :
    ((signed negative numeral ++ rest).head?.bind Kind.ofLetter?) = some .number := by
  obtain ⟨letter, others, begins, digit⟩ := Numeral.exists_letters_eq_cons valid
  cases negative with
  | true => rfl
  | false =>
      have different : ∀ other, Number.isDigit other = false → letter ≠ other := by
        intro other noDigit same
        rw [same, noDigit] at digit
        cases digit
      have n := different 'n' rfl
      have t := different 't' rfl
      have f := different 'f' rfl
      have quote := different '"' rfl
      have bracket := different '[' rfl
      have brace := different '\x7b' rfl
      simp [signed, begins, Kind.ofLetter?, n, t, f, quote, bracket, brace, digit]

/-- The first letter tells the kind of a value. -/
theorem ofLetter?_compact {value : Json} (finite : value.IsFinite) (rest : List Char) :
    ((value.compact.toList ++ rest).head?.bind Kind.ofLetter?) = some value.kind := by
  cases value with
  | null => rfl
  | bool value => cases value <;> rfl
  | int value =>
      obtain ⟨numeral, valid, _, _, written⟩ := exists_int_text value
      rw [written]
      exact ofLetter?_signed valid rest
  | float value =>
      obtain ⟨negative, numeral, valid, _, written⟩ :=
        exists_float_text (finite value (List.mem_singleton_self value))
      rw [written]
      exact ofLetter?_signed valid rest
  | string value =>
      rw [compact, quote, String.toList_ofList]
      rfl
  | array items =>
      rw [compact, String.toList_append, String.toList_append]
      rfl
  | object fields =>
      rw [compact, String.toList_append, String.toList_append]
      rfl

/-! ## Lists of parts -/

/-- Parts, each behind a comma. -/
def behindCommas {Item : Type} (text : Item → String) (items : List Item) : List Char :=
  items.flatMap fun item => ',' :: (text item).toList

theorem toList_commaSeparated {Item : Type} (text : Item → String) (item : Item)
    (rest : List Item) :
    (commaSeparated ((item :: rest).map text)).toList =
      (text item).toList ++ behindCommas text rest := by
  induction rest generalizing item with
  | nil => simp [commaSeparated, behindCommas]
  | cons next rest inductionHypothesis =>
      have joined := inductionHypothesis next
      rw [commaSeparated, List.map_cons] at joined
      rw [commaSeparated, List.map_cons, List.map_cons, String.intercalate_cons_cons,
        String.toList_append, String.toList_append, joined, behindCommas, behindCommas,
        List.flatMap_cons]
      simp

/-- What a text of one part determines, whatever may stand behind it. -/
def Determines {Item : Type} (text : Item → String) (first second : Item) : Prop :=
  ∀ rest other, Ends rest → Ends other →
    (text first).toList ++ rest = (text second).toList ++ other → first = second ∧ rest = other

theorem ends_behindCommas {Item : Type} (text : Item → String) (items : List Item)
    {closing : Char} (closes : closing = ']' ∨ closing = '\x7d') (rest : List Char) :
    Ends (behindCommas text items ++ closing :: rest) := by
  intro letter first
  cases items with
  | nil =>
      cases first
      exact .inr closes
  | cons item items =>
      cases first
      exact .inl rfl

/-- Where each part is determined, so is the list of parts up to its closing bracket. -/
theorem behindCommas_append_inj {Item : Type} {text : Item → String} {closing : Char}
    (closes : closing = ']' ∨ closing = '\x7d') {first second : List Item}
    (each : ∀ item ∈ first, ∀ other ∈ second, Determines text item other)
    {rest other : List Char}
    (same : behindCommas text first ++ closing :: rest =
      behindCommas text second ++ closing :: other) : first = second ∧ rest = other := by
  have noComma : closing ≠ ',' := by rcases closes with rfl | rfl <;> decide
  induction first generalizing second with
  | nil =>
      cases second with
      | nil =>
          injection same with _ same
          exact ⟨rfl, same⟩
      | cons item second =>
          injection same with head
          exact absurd head noComma
  | cons item first inductionHypothesis =>
      cases second with
      | nil =>
          injection same with head
          exact absurd head.symm noComma
      | cons itemSecond second =>
          simp only [behindCommas, List.flatMap_cons, List.cons_append, List.append_assoc,
            List.cons.injEq, true_and] at same
          obtain ⟨heads, tails⟩ := each item List.mem_cons_self itemSecond List.mem_cons_self _ _
            (ends_behindCommas text first closes rest)
            (ends_behindCommas text second closes other) same
          obtain ⟨items, rests⟩ := inductionHypothesis (fun one member two memberSecond =>
            each one (List.mem_cons_of_mem _ member) two (List.mem_cons_of_mem _ memberSecond))
            tails
          exact ⟨by rw [heads, items], rests⟩

/-- So is the list that follows an opening bracket, if no part begins like the closing one. -/
theorem commaSeparated_append_inj {Item : Type} {text : Item → String} {closing : Char}
    (closes : closing = ']' ∨ closing = '\x7d') {first second : List Item}
    (each : ∀ item ∈ first, ∀ other ∈ second, Determines text item other)
    (begins : ∀ item ∈ first ++ second, ∀ rest other,
      (text item).toList ++ rest ≠ closing :: other)
    {rest other : List Char}
    (same : (commaSeparated (first.map text)).toList ++ closing :: rest =
      (commaSeparated (second.map text)).toList ++ closing :: other) :
    first = second ∧ rest = other := by
  cases first with
  | nil =>
      cases second with
      | nil => exact behindCommas_append_inj closes each same
      | cons item second =>
          rw [toList_commaSeparated, List.append_assoc] at same
          exact absurd same.symm (begins item List.mem_cons_self _ _)
  | cons item first =>
      cases second with
      | nil =>
          rw [toList_commaSeparated, List.append_assoc] at same
          exact absurd same (begins item (List.mem_append_left _ List.mem_cons_self) _ _)
      | cons itemSecond second =>
          rw [toList_commaSeparated, toList_commaSeparated] at same
          refine behindCommas_append_inj closes each ?_
          rw [behindCommas, behindCommas, List.flatMap_cons, List.flatMap_cons, List.cons_append,
            List.cons_append, List.cons_append, List.cons_append]
          exact congrArg (',' :: ·) same

/-! ## Values -/

theorem compactItems_eq (items : List Json) : compactItems items = items.map compact := by
  induction items with
  | nil => rfl
  | cons item rest inductionHypothesis =>
      rw [compactItems, inductionHypothesis, List.map_cons]

def fieldText (field : String × Json) : String := quote field.1 ++ ":" ++ compact field.2

theorem compactFields_eq (fields : List (String × Json)) :
    compactFields fields = fields.map fieldText := by
  induction fields with
  | nil => rfl
  | cons field rest inductionHypothesis =>
      obtain ⟨key, value⟩ := field
      rw [compactFields, inductionHypothesis, List.map_cons, fieldText]

theorem determines_fieldText {first second : String × Json}
    (determined : Determines compact first.2 second.2) : Determines fieldText first second := by
  intro rest other ends endsOther same
  simp only [fieldText, String.toList_append, List.append_assoc] at same
  obtain ⟨keys, values⟩ := quote_append_inj same
  injection values with _ values
  obtain ⟨equal, rests⟩ := determined rest other ends endsOther values
  exact ⟨Prod.ext keys equal, rests⟩

theorem compact_append_ne {value : Json} (finite : value.IsFinite) (rest other : List Char) :
    value.compact.toList ++ rest ≠ ']' :: other := by
  intro same
  have read := ofLetter?_compact finite rest
  rw [same] at read
  cases read

theorem fieldText_append_ne (field : String × Json) (rest other : List Char) :
    (fieldText field).toList ++ rest ≠ '\x7d' :: other := by
  intro same
  rw [fieldText, quote, String.toList_append, String.toList_append, String.toList_ofList] at same
  injection same with first
  exact absurd first (by decide)

theorem determines_int (first second : Int) : Determines compact (.int first) (.int second) := by
  intro rest other ends endsOther same
  obtain ⟨numeral, valid, _, value, written⟩ := exists_int_text first
  obtain ⟨numeralSecond, validSecond, _, valueSecond, writtenSecond⟩ := exists_int_text second
  rw [written, writtenSecond] at same
  obtain ⟨⟨signs, numerals⟩, rests⟩ := signed_append_inj valid validSecond ends endsOther same
  rw [numerals, valueSecond] at value
  have equal : first = second := by
    rw [decide_eq_decide] at signs
    omega
  exact ⟨by rw [equal], rests⟩

theorem determines_float {first second : Float} (bounded : Scalar.isFinite first = true)
    (boundedSecond : Scalar.isFinite second = true) :
    Determines compact (.float first) (.float second) := by
  intro rest other ends endsOther same
  obtain ⟨negative, numeral, valid, _, written⟩ := exists_float_text bounded
  obtain ⟨negativeSecond, numeralSecond, validSecond, _, writtenSecond⟩ :=
    exists_float_text boundedSecond
  rw [written, writtenSecond] at same
  obtain ⟨⟨signs, numerals⟩, rests⟩ := signed_append_inj valid validSecond ends endsOther same
  have texts : compact (.float first) = compact (.float second) := by
    rw [← String.toList_inj, written, writtenSecond, signs, numerals]
  have kept : (first - first == 0.0) = true := bounded
  have keptSecond : (second - second == 0.0) = true := boundedSecond
  rw [compact, compact, if_pos kept, if_pos keptSecond] at texts
  exact ⟨by rw [Layout.eq_of_write_eq bounded boundedSecond texts], rests⟩

/-- A point or an exponent keeps doubles apart from whole numbers. -/
theorem int_append_ne_float (whole : Int) {value : Float}
    (bounded : Scalar.isFinite value = true) {rest other : List Char} (ends : Ends rest)
    (endsOther : Ends other) :
    (compact (.int whole)).toList ++ rest ≠ (compact (.float value)).toList ++ other := by
  intro same
  obtain ⟨numeral, valid, unmarked, _, written⟩ := exists_int_text whole
  obtain ⟨negative, numeralSecond, validSecond, marked, writtenSecond⟩ := exists_float_text bounded
  rw [written, writtenSecond] at same
  obtain ⟨⟨_, numerals⟩, _⟩ := signed_append_inj valid validSecond ends endsOther same
  exact unmarked (numerals ▸ marked)

/-- A value is determined by its text, also inside a longer one. -/
theorem determines_compact (first second : Json) (finite : first.IsFinite)
    (finiteSecond : second.IsFinite) : Determines compact first second := by
  -- Items of arrays and fields of objects are smaller, but no parts by structure.
  induction size : sizeOf first using Nat.strong_induction_on generalizing first second with
  | _ size inductionHypothesis =>
    intro rest other ends endsOther same
    have kinds : first.kind = second.kind := by
      have read := ofLetter?_compact finite rest
      rw [same, ofLetter?_compact finiteSecond other] at read
      exact (Option.some.inj read).symm
    cases first with
    | null =>
        cases second <;> try cases kinds
        exact ⟨rfl, List.append_cancel_left same⟩
    | bool value =>
        cases second <;> try cases kinds
        rename_i value'
        cases value <;> cases value'
        · exact ⟨rfl, List.append_cancel_left same⟩
        · injection same with head
          exact absurd head (by decide)
        · injection same with head
          exact absurd head (by decide)
        · exact ⟨rfl, List.append_cancel_left same⟩
    | int value =>
        cases second <;> try cases kinds
        · exact determines_int _ _ rest other ends endsOther same
        · exact absurd same (int_append_ne_float _
            (finiteSecond _ (List.mem_singleton_self _)) ends endsOther)
    | float value =>
        have bounded := finite value (List.mem_singleton_self _)
        cases second <;> try cases kinds
        · exact absurd same.symm (int_append_ne_float _ bounded endsOther ends)
        · exact determines_float bounded (finiteSecond _ (List.mem_singleton_self _)) rest other
            ends endsOther same
    | string value =>
        cases second <;> try cases kinds
        obtain ⟨texts, rests⟩ := quote_append_inj same
        exact ⟨by rw [texts], rests⟩
    | array items =>
        cases second <;> try cases kinds
        rename_i others
        have each : ∀ item ∈ items, ∀ other ∈ others, Determines compact item other := by
          intro item member other memberSecond
          have smaller := List.sizeOf_lt_of_mem member
          rw [array.sizeOf_spec] at size
          exact inductionHypothesis (sizeOf item) (by omega) item other (finite.item member)
            (finiteSecond.item memberSecond) rfl
        simp only [compact, compactItems_eq, String.toList_append, List.append_assoc] at same
        injection same with _ same
        obtain ⟨equal, rests⟩ := commaSeparated_append_inj (.inl rfl) each
          (fun item member => compact_append_ne ((List.mem_append.mp member).elim finite.item
            finiteSecond.item)) same
        exact ⟨by rw [equal], rests⟩
    | object fields =>
        cases second <;> try cases kinds
        rename_i others
        have each : ∀ field ∈ fields, ∀ other ∈ others, Determines fieldText field other := by
          intro field member other memberSecond
          have smaller := List.sizeOf_lt_of_mem member
          have value : sizeOf field.2 < sizeOf field := by
            obtain ⟨key, value⟩ := field
            simp
          rw [object.sizeOf_spec] at size
          exact determines_fieldText (inductionHypothesis (sizeOf field.2) (by omega) field.2
            other.2 (finite.field member) (finiteSecond.field memberSecond) rfl)
        simp only [compact, compactFields_eq, String.toList_append, List.append_assoc] at same
        injection same with _ same
        obtain ⟨equal, rests⟩ := commaSeparated_append_inj (.inr rfl) each
          (fun field _ => fieldText_append_ne field) same
        exact ⟨by rw [equal], rests⟩

theorem eq_of_compact_eq {first second : Json} (finite : first.IsFinite)
    (finiteSecond : second.IsFinite) (same : first.compact = second.compact) : first = second :=
  (determines_compact first second finite finiteSecond [] [] nofun nofun (by rw [same])).1

end ReviewGate.Json
