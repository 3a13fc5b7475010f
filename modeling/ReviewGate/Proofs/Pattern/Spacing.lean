import Mathlib.Data.List.TakeWhile
import ReviewGate.Proofs.Pattern.Literals

/-!
# Lines without literals

Where a line has no quotes, its tokens are its characters without the blanks, cut into words,
numbers, operators of two characters and single characters.  Each of these is read again as one
token wherever a blank or the end of the line comes behind it.  So the tokens of a line do not
change when all of them are spaced out.
-/

namespace ReviewGate

namespace Text

/-! ## Blanks -/

/-- The blanks, one by one. -/
def blanks : List Char :=
  whiteSpace.flatMap fun (low, high) => (List.range' low (high + 1 - low)).map Char.ofNat

theorem Ranges.exists_of_contains {code : Nat} {ranges : Ranges}
    (inside : ranges.contains code = true) :
    ∃ range ∈ ranges, range.1 ≤ code ∧ code ≤ range.2 := by
  induction ranges with
  | nil => simp at inside
  | cons range rest inductionHypothesis =>
      rw [Ranges.contains_cons] at inside
      split at inside
      · contradiction
      · rename_i above
        split at inside
        · rename_i below
          exact ⟨range, List.mem_cons_self, Nat.le_of_not_lt above, below⟩
        · obtain ⟨found, listed, between⟩ := inductionHypothesis inside
          exact ⟨found, List.mem_cons_of_mem _ listed, between⟩

theorem mem_blanks {letter : Char} (blank : isBlank letter = true) : letter ∈ blanks := by
  obtain ⟨⟨low, high⟩, listed, above, below⟩ := Ranges.exists_of_contains blank
  apply List.mem_flatMap.mpr
  refine ⟨(low, high), listed, List.mem_map.mpr ⟨letter.toNat, ?_, Char.ofNat_toNat letter⟩⟩
  apply List.mem_range'_1.mpr
  simp only at above below ⊢
  omega

end Text

namespace Token

/-- Neither words nor numbers go on over a blank, and no literal begins there. -/
theorem blank_stops {letter : Char} (blank : Text.isBlank letter = true) :
    continuesWord letter = false ∧ continuesNumber letter = false ∧ isQuote letter = false := by
  -- Letters are kept in a long table, but there are few blanks to look up in it.
  have each : (Text.blanks.all fun other =>
      !continuesWord other && !continuesNumber other && !isQuote other) = true := by
    decide +kernel
  simpa [and_assoc] using List.all_eq_true.mp each letter (Text.mem_blanks blank)

theorem isBlank_of_continuesWord {letter : Char} (continues : continuesWord letter = true) :
    Text.isBlank letter = false := by
  apply Bool.eq_false_iff.mpr
  intro blank
  simp [(blank_stops blank).1] at continues

theorem isBlank_of_continuesNumber {letter : Char} (continues : continuesNumber letter = true) :
    Text.isBlank letter = false := by
  apply Bool.eq_false_iff.mpr
  intro blank
  simp [(blank_stops blank).2.1] at continues

theorem continuesWord_of_startsWord {letter : Char} (starts : startsWord letter = true) :
    continuesWord letter = true := by
  simp only [startsWord, Bool.or_eq_true] at starts
  rcases starts with alphabetic | underscore
  · simp [continuesWord, alphabetic]
  · simp [continuesWord, underscore]

theorem continuesNumber_of_isAsciiDigit {letter : Char} (digit : isAsciiDigit letter = true) :
    continuesNumber letter = true := by
  simp only [isAsciiDigit] at digit
  simp [continuesNumber, Char.isAlphanum, digit]

/-- Operators are made of punctuation. -/
theorem operatorPairs_stop {pair : List Char} (listed : pair ∈ operatorPairs) :
    ∀ letter ∈ pair, Text.isBlank letter = false ∧ startsWord letter = false ∧
      isAsciiDigit letter = false ∧ isQuote letter = false := by
  have each : (operatorPairs.all fun pair => pair.all fun letter => !Text.isBlank letter &&
      !startsWord letter && !isAsciiDigit letter && !isQuote letter) = true := by
    decide +kernel
  intro letter among
  simpa [and_assoc] using
    List.all_eq_true.mp (List.all_eq_true.mp each pair listed) letter among

/-! ## Lexemes -/

/-- What is one token where there are no quotes. -/
inductive IsLexeme : List Char → Prop where
  | word {letter : Char} {rest : List Char} (starts : startsWord letter = true)
      (continues : ∀ other ∈ rest, continuesWord other = true) : IsLexeme (letter :: rest)
  | number {letter : Char} {rest : List Char} (unstarted : startsWord letter = false)
      (digit : isAsciiDigit letter = true)
      (continues : ∀ other ∈ rest, continuesNumber other = true) : IsLexeme (letter :: rest)
  | pair {first second : Char} (listed : [first, second] ∈ operatorPairs) :
      IsLexeme [first, second]
  | single {letter : Char} (visible : Text.isBlank letter = false)
      (unstarted : startsWord letter = false) (undigit : isAsciiDigit letter = false)
      (unquoted : isQuote letter = false) : IsLexeme [letter]

namespace IsLexeme

theorem ne_nil {token : List Char} (lexeme : IsLexeme token) : token ≠ [] := by
  cases lexeme <;> simp

theorem visible {token : List Char} (lexeme : IsLexeme token) :
    ∀ letter ∈ token, Text.isBlank letter = false := by
  intro letter membership
  cases lexeme with
  | word starts continues =>
      rcases List.mem_cons.mp membership with rfl | later
      · exact isBlank_of_continuesWord (continuesWord_of_startsWord starts)
      · exact isBlank_of_continuesWord (continues letter later)
  | number unstarted digit continues =>
      rcases List.mem_cons.mp membership with rfl | later
      · exact isBlank_of_continuesNumber (continuesNumber_of_isAsciiDigit digit)
      · exact isBlank_of_continuesNumber (continues letter later)
  | pair listed => exact (operatorPairs_stop listed letter membership).1
  | single visible => rwa [List.mem_singleton.mp membership]

end IsLexeme

/-! ## Lexemes alone -/

/-- A blank comes first, or nothing at all. -/
def Pauses (letters : List Char) : Prop := ∀ letter ∈ letters.head?, Text.isBlank letter = true

theorem takeWhile_append_of_pauses {goesOn : Char → Bool}
    (stops : ∀ letter, Text.isBlank letter = true → goesOn letter = false)
    {letters rest : List Char} (continues : ∀ letter ∈ letters, goesOn letter = true)
    (pauses : Pauses rest) :
    (letters ++ rest).takeWhile goesOn = letters ∧
      (letters ++ rest).dropWhile goesOn = rest := by
  rw [List.takeWhile_append_of_pos continues, List.dropWhile_append_of_pos continues]
  cases rest with
  | nil => simp
  | cons first more => simp [stops first (pauses first rfl)]

theorem next_word {letter : Char} {letters rest : List Char} (starts : startsWord letter = true)
    (continues : ∀ other ∈ letters, continuesWord other = true) (pauses : Pauses rest) :
    next letter (letters ++ rest) = (letter :: letters, rest) := by
  obtain ⟨taken, dropped⟩ :=
    takeWhile_append_of_pauses (fun _ blank => (blank_stops blank).1) continues pauses
  rw [next, if_pos starts, word, taken, dropped]
  cases rest with
  | nil => rfl
  | cons first more => simp [(blank_stops (pauses first rfl)).2.2]

theorem next_number {letter : Char} {letters rest : List Char}
    (unstarted : startsWord letter = false) (digit : isAsciiDigit letter = true)
    (continues : ∀ other ∈ letters, continuesNumber other = true) (pauses : Pauses rest) :
    next letter (letters ++ rest) = (letter :: letters, rest) := by
  obtain ⟨taken, dropped⟩ :=
    takeWhile_append_of_pauses (fun _ blank => (blank_stops blank).2.1) continues pauses
  simp [next, unstarted, digit, taken, dropped]

/-- Punctuation is read as an operator. -/
theorem next_eq_operator {letter : Char} (unstarted : startsWord letter = false)
    (undigit : isAsciiDigit letter = false) (unquoted : isQuote letter = false)
    (rest : List Char) : next letter rest = operator letter rest := by
  simp [next, unstarted, undigit, unquoted]

theorem operator_of_pauses {letter : Char} {rest : List Char} (pauses : Pauses rest) :
    operator letter rest = ([letter], rest) := by
  cases rest with
  | nil => rfl
  | cons first more =>
      have unlisted : [letter, first] ∉ operatorPairs := by
        intro listed
        have visible := (operatorPairs_stop listed first (by simp)).1
        simp [pauses first rfl] at visible
      simp [operator, unlisted]

/-- A lexeme is one token in front of a blank and at the end. -/
theorem scan_lexeme {token rest : List Char} (lexeme : IsLexeme token) (pauses : Pauses rest) :
    scan (token ++ rest) = token :: scan rest := by
  have visible := lexeme.visible
  have read : ∀ {letter : Char} {letters : List Char}, token = letter :: letters →
      next letter (letters ++ rest) = (token, rest) →
        scan (token ++ rest) = token :: scan rest := by
    intro letter letters same reads
    subst same
    rw [List.cons_append, scan_cons (visible letter List.mem_cons_self), reads]
  cases lexeme with
  | word starts continues => exact read rfl (next_word starts continues pauses)
  | number unstarted digit continues =>
      exact read rfl (next_number unstarted digit continues pauses)
  | @pair first second listed =>
      obtain ⟨-, unstarted, undigit, unquoted⟩ := operatorPairs_stop listed first (by simp)
      apply read rfl
      rw [next_eq_operator unstarted undigit unquoted]
      simp [operator, listed]
  | single _ unstarted undigit unquoted =>
      apply read rfl
      rw [List.nil_append, next_eq_operator unstarted undigit unquoted, operator_of_pauses pauses]

/-- Lexemes with a space between them are the tokens. -/
theorem scan_intercalate {tokens : List (List Char)}
    (lexemes : ∀ token ∈ tokens, IsLexeme token) : scan ([' '].intercalate tokens) = tokens := by
  induction tokens with
  | nil => simp
  | cons token others inductionHypothesis =>
      obtain ⟨lexeme, rest⟩ := List.forall_mem_cons.mp lexemes
      cases others with
      | nil =>
          have pauses : Pauses [] := by simp [Pauses]
          have alone := scan_lexeme lexeme pauses
          simpa using alone
      | cons second more =>
          have pauses : Pauses (' ' :: [' '].intercalate (second :: more)) := by
            simp [Pauses, Text.isBlank_space]
          rw [List.intercalate_cons_cons, List.append_assoc, List.singleton_append,
            scan_lexeme lexeme pauses, scan_blank Text.isBlank_space, inductionHypothesis rest]

/-! ## Lines -/

/-- Without quotes the next token is a lexeme, and with what is left it makes up what was there. -/
theorem next_of_isPlain {letter : Char} {rest : List Char}
    (visible : Text.isBlank letter = false) (plain : IsPlain (letter :: rest)) :
    IsLexeme (next letter rest).1 ∧
      (next letter rest).1 ++ (next letter rest).2 = letter :: rest := by
  obtain ⟨unquoted, others⟩ := List.forall_mem_cons.mp plain
  cases starts : startsWord letter with
  | true =>
      rw [next, if_pos starts, word_of_isPlain others]
      exact ⟨.word starts fun _ => List.mem_takeWhile_imp, by simp⟩
  | false =>
      cases digit : isAsciiDigit letter with
      | true =>
          simp only [next, starts, digit, Bool.false_eq_true, if_false, if_true]
          exact ⟨.number starts digit fun _ => List.mem_takeWhile_imp, by simp⟩
      | false =>
          rw [next_eq_operator starts digit unquoted]
          cases rest with
          | nil => exact ⟨.single visible starts digit unquoted, rfl⟩
          | cons second more =>
              rw [operator]
              split
              · rename_i listed
                exact ⟨.pair (by simpa using listed), rfl⟩
              · exact ⟨.single visible starts digit unquoted, rfl⟩

/-- Without quotes the tokens are lexemes, and nothing but blanks is lost. -/
theorem scan_of_isPlain {letters : List Char} (plain : IsPlain letters) :
    (∀ token ∈ scan letters, IsLexeme token) ∧
      (scan letters).flatten = letters.filter fun letter => !Text.isBlank letter := by
  induction letters using scan.induct with
  | case1 => simp
  | case2 letter rest blank inductionHypothesis =>
      rw [scan_blank blank, List.filter_cons_of_neg (by simp [blank])]
      exact inductionHypothesis (List.forall_mem_cons.mp plain).2
  | case3 letter rest visible inductionHypothesis =>
      have unblank : Text.isBlank letter = false := by simpa using visible
      obtain ⟨lexeme, parts⟩ := next_of_isPlain unblank plain
      -- What is left is a part of the line, so it has no quotes either.
      have left : IsPlain (next letter rest).2 := by
        intro other membership
        apply plain
        rw [← parts]
        exact List.mem_append_right _ membership
      obtain ⟨lexemes, covered⟩ := inductionHypothesis left
      rw [scan_cons unblank]
      constructor
      · exact List.forall_mem_cons.mpr ⟨lexeme, lexemes⟩
      · have kept : (next letter rest).1.filter (fun other => !Text.isBlank other) =
            (next letter rest).1 := by
          apply List.filter_eq_self.mpr
          intro other membership
          simp [lexeme.visible other membership]
        rw [List.flatten_cons, covered, ← parts, List.filter_append, kept]

theorem map_toList_ofLine (line : String) :
    (ofLine line).map String.toList = scan line.toList := by
  simp [ofLine, Function.comp_def]

/-- The tokens of a line without quotes are the line without its blanks, in pieces that are not
empty and hold no blank, and they are read again where they are joined by spaces. -/
theorem lossless_of_isPlain {line : String} (plain : IsPlain line.toList) :
    String.join (ofLine line) =
        String.ofList (line.toList.filter fun letter => !Text.isBlank letter) ∧
      (∀ token ∈ ofLine line,
        token ≠ "" ∧ ∀ letter ∈ token.toList, Text.isBlank letter = false) ∧
      ofLine (" ".intercalate (ofLine line)) = ofLine line := by
  obtain ⟨lexemes, covered⟩ := scan_of_isPlain plain
  refine ⟨?joined, ?pieces, ?spaced⟩
  case joined =>
    apply String.toList_injective
    rw [String.toList_join, List.flatMap_def, map_toList_ofLine, covered, String.toList_ofList]
  case pieces =>
    intro token membership
    obtain ⟨letters, among, rfl⟩ := List.mem_map.mp membership
    have lexeme := lexemes letters among
    rw [String.toList_ofList]
    exact ⟨by simpa using lexeme.ne_nil, lexeme.visible⟩
  case spaced =>
    have letters :
        (" ".intercalate (ofLine line)).toList = [' '].intercalate (scan line.toList) := by
      rw [String.toList_intercalate, map_toList_ofLine]
      rfl
    rw [ofLine, letters, scan_intercalate lexemes, ofLine]

/-- Words and numbers of several scripts, operators that touch each other, and a blank that is no
space. -/
theorem lossless_mixedLine :
    IsPlain "été//=٣ >=!=10.5e_x\u3000:".toList ∧
      ofLine "été//=٣ >=!=10.5e_x\u3000:" = ["été", "//", "=", "٣", ">=", "!=", "10.5e_x", ":"] ∧
      String.join (ofLine "été//=٣ >=!=10.5e_x\u3000:") = "été//=٣>=!=10.5e_x:" ∧
      ofLine (" ".intercalate (ofLine "été//=٣ >=!=10.5e_x\u3000:")) =
        ofLine "été//=٣ >=!=10.5e_x\u3000:" := by
  have unquoted : ("été//=٣ >=!=10.5e_x\u3000:".toList.all fun letter => !isQuote letter) = true :=
    rfl
  have plain : IsPlain "été//=٣ >=!=10.5e_x\u3000:".toList :=
    fun letter membership => by simpa using List.all_eq_true.mp unquoted letter membership
  obtain ⟨joined, -, spaced⟩ := lossless_of_isPlain plain
  exact ⟨plain, by decide +kernel, joined.trans (by decide +kernel), spaced⟩

end Token

end ReviewGate
