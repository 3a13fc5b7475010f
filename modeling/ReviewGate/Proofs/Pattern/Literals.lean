import Mathlib.Data.List.Infix
import ReviewGate.Pattern.Matcher

/-!
# String literals

What stands in front of a quote has the same tokens whatever comes behind it, but for a mark right
in front of the quote, which becomes part of the literal.  The body of a literal has no tokens of
its own, and what follows its closing quote has the tokens that it has alone.  So no shape can tell
the bodies of literals apart.
-/

namespace ReviewGate.Token

/-! ## Bodies -/

/-- What can stand between two quotes of a kind: the quote itself occurs only hidden, and the last
backslash hides a character as well. -/
inductive IsBody (quote : Char) : List Char → Prop where
  | nil : IsBody quote []
  | plain {letter : Char} {rest : List Char} (other : letter ≠ quote) (shows : letter ≠ '\\')
      (body : IsBody quote rest) : IsBody quote (letter :: rest)
  | hidden {letter : Char} {rest : List Char} (body : IsBody quote rest) :
      IsBody quote ('\\' :: letter :: rest)

theorem isQuote_iff {letter : Char} : isQuote letter = true ↔ letter = '"' ∨ letter = '\'' := by
  simp [isQuote]

theorem afterLiteral_body {quote : Char} (quotes : isQuote quote = true) {body : List Char}
    (isBody : IsBody quote body) (rest : List Char) :
    afterLiteral quote (body ++ quote :: rest) = rest := by
  induction isBody with
  | nil =>
      rcases isQuote_iff.mp quotes with rfl | rfl <;> simp [afterLiteral]
  | plain other shows body inductionHypothesis =>
      rw [List.cons_append, afterLiteral, if_neg other, inductionHypothesis]
      · rintro ⟨⟩
        exact absurd rfl shows
      · rintro _ _ ⟨⟩
        exact absurd rfl shows
  | hidden body inductionHypothesis =>
      rw [List.cons_append, List.cons_append, afterLiteral, inductionHypothesis]

/-! ## In front of a quote -/

/-- No quotes occur. -/
def IsPlain (letters : List Char) : Prop := ∀ letter ∈ letters, isQuote letter = false

/-- A quote is no blank, and neither words nor numbers go on over it. -/
theorem quote_stops {quote : Char} (quotes : isQuote quote = true) :
    Text.isBlank quote = false ∧ continuesWord quote = false ∧ continuesNumber quote = false := by
  rcases isQuote_iff.mp quotes with rfl | rfl <;> decide

theorem next_quote {quote : Char} (quotes : isQuote quote = true) (rest : List Char) :
    next quote rest = (stringLiteral.toList, afterLiteral quote rest) := by
  rcases isQuote_iff.mp quotes with rfl | rfl <;> rfl

theorem scan_quote {quote : Char} (quotes : isQuote quote = true) (rest : List Char) :
    scan (quote :: rest) = stringLiteral.toList :: scan (afterLiteral quote rest) := by
  rw [scan_cons (quote_stops quotes).1, next_quote quotes]

theorem takeWhile_append_of_stop {goesOn : Char → Bool} {quote : Char}
    (stops : goesOn quote = false) (letters rest : List Char) :
    (letters ++ quote :: rest).takeWhile goesOn = letters.takeWhile goesOn ∧
      (letters ++ quote :: rest).dropWhile goesOn =
        letters.dropWhile goesOn ++ quote :: rest := by
  induction letters with
  | nil => simp [stops]
  | cons letter letters inductionHypothesis =>
      cases continues : goesOn letter <;> simp [continues, inductionHypothesis]

/-- The literal that a mark makes of a body. -/
def markedLiteral (mark : List Char) : List Char :=
  (if isInterpolating mark then interpolatedLiteral else stringLiteral).toList

/-- What a quote at the end of some characters makes of their first token: it leaves the token as it
is, or the token is a mark right in front of the quote and becomes part of the literal. -/
inductive Meets (quote letter : Char) (letters : List Char) : Prop where
  | apart (left : (next letter letters).2 <:+ letters)
      (same : ∀ rest, next letter (letters ++ quote :: rest) =
        ((next letter letters).1, (next letter letters).2 ++ quote :: rest))
  | marked (mark : isLiteralMark (next letter letters).1 = true)
      (last : (next letter letters).2 = [])
      (joined : ∀ rest, next letter (letters ++ quote :: rest) =
        (markedLiteral (next letter letters).1, afterLiteral quote rest))

theorem word_of_isPlain {letter : Char} {letters : List Char} (plain : IsPlain letters) :
    word letter letters =
      (letter :: letters.takeWhile continuesWord, letters.dropWhile continuesWord) := by
  unfold word
  dsimp only
  split
  · rename_i ended
    rw [ended]
  · rename_i first rest found
    have kept : first ∈ letters :=
      (List.dropWhile_suffix continuesWord).subset (found ▸ List.mem_cons_self)
    rw [plain first kept, Bool.false_and, if_neg Bool.false_ne_true]

theorem meets_word {quote letter : Char} {letters : List Char} (quotes : isQuote quote = true)
    (starts : startsWord letter = true) (plain : IsPlain letters) :
    Meets quote letter letters := by
  have alone : next letter letters =
      (letter :: letters.takeWhile continuesWord, letters.dropWhile continuesWord) :=
    (if_pos starts).trans (word_of_isPlain plain)
  have read : ∀ rest, next letter (letters ++ quote :: rest) =
      word letter (letters ++ quote :: rest) := fun rest => if_pos starts
  have dropped : letters.dropWhile continuesWord <:+ letters := List.dropWhile_suffix _
  simp only [word, takeWhile_append_of_stop (quote_stops quotes).2.1 letters] at read
  cases left : letters.dropWhile continuesWord with
  | nil =>
      rw [left] at alone
      simp only [left, List.nil_append, quotes, Bool.true_and] at read
      cases mark : isLiteralMark (letter :: letters.takeWhile continuesWord) with
      | true =>
          simp only [mark, if_true] at read
          exact .marked (by rw [alone, mark]) (by rw [alone]) (by rw [alone]; exact read)
      | false =>
          simp only [mark, Bool.false_eq_true, if_false] at read
          exact .apart (by rw [alone]; exact List.nil_suffix) (by rw [alone]; exact read)
  | cons first more =>
      rw [left] at alone dropped
      have unquoted := plain first (dropped.subset List.mem_cons_self)
      simp only [left, List.cons_append, unquoted, Bool.false_and, Bool.false_eq_true, if_false]
        at read
      exact .apart (by rw [alone]; exact dropped) (by rw [alone]; exact read)

theorem meets_number {quote letter : Char} {letters : List Char} (quotes : isQuote quote = true)
    (unstarted : startsWord letter = false) (digit : isAsciiDigit letter = true) :
    Meets quote letter letters := by
  have alone : ∀ following, next letter following =
      (letter :: following.takeWhile continuesNumber, following.dropWhile continuesNumber) := by
    intro following
    simp only [next, unstarted, digit, Bool.false_eq_true, if_false, if_true]
  refine .apart ?_ fun rest => ?_
  · rw [alone]
    exact List.dropWhile_suffix _
  · obtain ⟨taken, dropped⟩ := takeWhile_append_of_stop (quote_stops quotes).2.2 letters rest
    rw [alone, alone, taken, dropped]

theorem not_operatorPair_quote {quote : Char} (quotes : isQuote quote = true) (letter : Char) :
    operatorPairs.contains [letter, quote] = false := by
  rcases isQuote_iff.mp quotes with rfl | rfl <;> simp [operatorPairs]

theorem operator_suffix (letter : Char) (rest : List Char) :
    (operator letter rest).2 <:+ rest := by
  cases rest with
  | nil => exact List.suffix_refl _
  | cons second rest =>
      rw [operator]
      split
      · exact List.suffix_cons ..
      · exact List.suffix_refl _

theorem operator_append_quote {quote : Char} (quotes : isQuote quote = true) (letter : Char)
    (letters rest : List Char) :
    operator letter (letters ++ quote :: rest) =
      ((operator letter letters).1, (operator letter letters).2 ++ quote :: rest) := by
  cases letters with
  | nil =>
      simp only [List.nil_append, operator, not_operatorPair_quote quotes, Bool.false_eq_true,
        if_false]
  | cons second letters =>
      rw [List.cons_append, operator, operator]
      split <;> rfl

theorem meets_next {quote letter : Char} {letters : List Char} (quotes : isQuote quote = true)
    (unquoted : isQuote letter = false) (plain : IsPlain letters) :
    Meets quote letter letters := by
  cases starts : startsWord letter with
  | true => exact meets_word quotes starts plain
  | false =>
      cases digit : isAsciiDigit letter with
      | true => exact meets_number quotes starts digit
      | false =>
          have alone : ∀ following, next letter following = operator letter following := by
            intro following
            simp only [next, starts, digit, unquoted, Bool.false_eq_true, if_false]
          refine .apart ?_ fun rest => ?_
          · rw [alone]
            exact operator_suffix ..
          · rw [alone, alone]
            exact operator_append_quote quotes ..

/-- How a literal is read behind some characters: as a token behind theirs, or as one with their
last token, which is a mark. -/
inductive Opens (quote : Char) (before : List Char) : Prop where
  | apart (same : ∀ rest, scan (before ++ quote :: rest) =
      scan before ++ stringLiteral.toList :: scan (afterLiteral quote rest))
  | marked (front : List (List Char)) {mark : List Char} (isMark : isLiteralMark mark = true)
      (last : scan before = front ++ [mark])
      (joined : ∀ rest, scan (before ++ quote :: rest) =
        front ++ markedLiteral mark :: scan (afterLiteral quote rest))

theorem Opens.cons {quote letter : Char} {before after : List Char} {token : List Char}
    (alone : scan (letter :: before) = token :: scan after)
    (same : ∀ rest, scan (letter :: (before ++ quote :: rest)) =
      token :: scan (after ++ quote :: rest))
    (opens : Opens quote after) : Opens quote (letter :: before) := by
  cases opens with
  | apart reads =>
      refine .apart fun rest => ?_
      rw [List.cons_append, same, alone, reads, List.cons_append]
  | @marked front mark isMark last joined =>
      refine .marked (token :: front) isMark ?_ fun rest => ?_
      · rw [alone, last, List.cons_append]
      · rw [List.cons_append, same, joined, List.cons_append]

theorem opens_of_isPlain {quote : Char} (quotes : isQuote quote = true) (before : List Char)
    (plain : IsPlain before) : Opens quote before := by
  match before with
  | [] =>
      refine .apart fun rest => ?_
      rw [List.nil_append, scan_quote quotes, scan_nil, List.nil_append]
  | letter :: letters =>
      have others : IsPlain letters :=
        fun other membership => plain other (List.mem_cons_of_mem _ membership)
      cases blank : Text.isBlank letter with
      | true =>
          cases opens_of_isPlain quotes letters others with
          | apart same =>
              refine .apart fun rest => ?_
              rw [List.cons_append, scan_blank blank, scan_blank blank, same]
          | marked front isMark last joined =>
              refine .marked front isMark ((scan_blank blank _).trans last) fun rest => ?_
              rw [List.cons_append, scan_blank blank, joined]
      | false =>
          cases meets_next quotes (plain letter List.mem_cons_self) others with
          | apart left same =>
              refine Opens.cons (scan_cons blank _) (fun rest => ?_)
                (opens_of_isPlain quotes (next letter letters).2
                  fun other membership => others other (left.subset membership))
              rw [scan_cons blank, same]
          | marked mark last joined =>
              refine .marked [] mark ?_ fun rest => ?_
              · rw [scan_cons blank, last, scan_nil]
                rfl
              · rw [List.cons_append, scan_cons blank, joined]
                rfl
termination_by before.length
decreasing_by
  all_goals
    have shorter := length_next_le letter letters
    simp only [List.length_cons]
    omega

/-! ## Lines with a literal -/

/-- A line with a literal in it. -/
def quoted (before : String) (quote : Char) (body after : String) : String :=
  before ++ quote.toString ++ body ++ quote.toString ++ after

theorem toList_quoted (before : String) (quote : Char) (body after : String) :
    (quoted before quote body after).toList =
      before.toList ++ quote :: (body.toList ++ quote :: after.toList) := by
  simp [quoted, Char.toString]

/-- What some text becomes in front of a literal, and what the literal becomes behind it. -/
inductive Precedes (before : String) : List String → String → Prop where
  | apart : Precedes before (ofLine before) stringLiteral
  | marked {front : List String} {mark : List Char} (isMark : isLiteralMark mark = true)
      (last : ofLine before = front ++ [String.ofList mark]) :
      Precedes before front (String.ofList (markedLiteral mark))

/-- Every body of a literal reads the same in the same place. -/
theorem exists_ofLine_quoted {quote : Char} (quotes : isQuote quote = true) {before : String}
    (plain : IsPlain before.toList) :
    ∃ front literal, Precedes before front literal ∧ ∀ body after, IsBody quote body.toList →
      ofLine (quoted before quote body after) = front ++ literal :: ofLine after := by
  have read : ∀ body after : String, IsBody quote body.toList → ∀ {front literal},
      (∀ rest, scan (before.toList ++ quote :: rest) =
        front ++ literal :: scan (afterLiteral quote rest)) →
      ofLine (quoted before quote body after) =
        front.map String.ofList ++ String.ofList literal :: ofLine after := by
    intro body after isBody front literal reads
    rw [ofLine, toList_quoted, reads, afterLiteral_body quotes isBody]
    simp [ofLine]
  cases opens_of_isPlain quotes before.toList plain with
  | apart same =>
      refine ⟨_, _, .apart, fun body after isBody => ?_⟩
      exact (read body after isBody same).trans (by rw [String.ofList_toList]; rfl)
  | @marked front mark isMark last joined =>
      refine ⟨front.map String.ofList, _, .marked isMark ?_,
        fun body after isBody => read body after isBody joined⟩
      rw [ofLine, last, List.map_append]
      rfl

end ReviewGate.Token

namespace ReviewGate

open Token

/-- The tokens of a line are those in front of a literal, the literal, and those behind it.  So
every shape answers alike on two lines that differ in the body of the literal alone. -/
theorem Shape.blind_to_bodies {quote : Char} (quotes : isQuote quote = true) {before : String}
    (plain : IsPlain before.toList) :
    (∃ front literal, Precedes before front literal ∧ ∀ body after, IsBody quote body.toList →
      ofLine (quoted before quote body after) = front ++ literal :: ofLine after) ∧
    ∀ first second after, IsBody quote first.toList → IsBody quote second.toList →
      ofLine (quoted before quote first after) = ofLine (quoted before quote second after) ∧
      ∀ shape : Shape,
        (CompiledMatcher.shape shape).matchesLine (quoted before quote first after) =
          (CompiledMatcher.shape shape).matchesLine (quoted before quote second after) := by
  have reads := exists_ofLine_quoted quotes plain
  refine ⟨reads, fun first second after isBody isOther => ?_⟩
  obtain ⟨front, literal, -, same⟩ := reads
  have alike : ofLine (quoted before quote first after) =
      ofLine (quoted before quote second after) :=
    (same first after isBody).trans (same second after isOther).symm
  refine ⟨alike, fun shape => ?_⟩
  rw [CompiledMatcher.matchesLine_shape, CompiledMatcher.matchesLine_shape, alike]

/-- A hidden quote and an operator in an interpolated literal do not show. -/
theorem Shape.blind_to_query :
    isQuote '"' = true ∧ IsPlain "execute(f".toList ∧ IsBody '"' "\\\"+x".toList ∧
      IsBody '"' "".toList ∧
      ofLine (quoted "execute(f" '"' "\\\"+x" ")") = ofLine (quoted "execute(f" '"' "" ")") ∧
      ∀ shape : Shape,
        (CompiledMatcher.shape shape).matchesLine (quoted "execute(f" '"' "\\\"+x" ")") =
          (CompiledMatcher.shape shape).matchesLine (quoted "execute(f" '"' "" ")") := by
  have quotes : isQuote '"' = true := rfl
  have unquoted : ("execute(f".toList.all fun letter => !isQuote letter) = true := rfl
  have plain : IsPlain "execute(f".toList :=
    fun letter membership => by simpa using List.all_eq_true.mp unquoted letter membership
  have isBody : IsBody '"' "\\\"+x".toList :=
    .hidden (.plain (by decide) (by decide) (.plain (by decide) (by decide) .nil))
  obtain ⟨alike, blind⟩ := (blind_to_bodies quotes plain).2 _ "" ")" isBody .nil
  exact ⟨quotes, plain, isBody, .nil, alike, blind⟩

end ReviewGate
