import ReviewGate.Proofs.Contract.Grammar
import ReviewGate.Proofs.Contract.Source

/-!
# How written conditions are read

A conjunction is split where it is written, and each of its conditions into the operands and the
signs of its chain.  Negations stay with the first operand.
-/

namespace ReviewGate

/-! ## Blanks around words -/

namespace Text

/-- No blank at either end. -/
structure IsTrimmed (letters : List Char) : Prop where
  head : ∀ letter ∈ letters.head?, isBlank letter = false
  last : ∀ letter ∈ letters.getLast?, isBlank letter = false

theorem dropWhile_blanks {blanks rest : List Char}
    (blank : ∀ letter ∈ blanks, isBlank letter = true)
    (stops : ∀ letter ∈ rest.head?, isBlank letter = false) :
    (blanks ++ rest).dropWhile isBlank = rest := by
  rw [List.dropWhile_append_of_pos blank]
  cases rest with
  | nil => rfl
  | cons letter rest => rw [List.dropWhile_cons_of_neg (by simp [stops letter rfl])]

theorem trimChars_append {lead letters trail : List Char}
    (leadBlank : ∀ letter ∈ lead, isBlank letter = true)
    (trailBlank : ∀ letter ∈ trail, isBlank letter = true) (some : letters ≠ [])
    (trimmed : IsTrimmed letters) : trimChars (lead ++ (letters ++ trail)) = letters := by
  have front : ∀ letter ∈ (letters ++ trail).head?, isBlank letter = false := by
    rw [List.head?_append_of_ne_nil _ some]
    exact trimmed.head
  have back : ∀ letter ∈ letters.reverse.head?, isBlank letter = false := by
    rw [List.head?_reverse]
    exact trimmed.last
  have trailBlank : ∀ letter ∈ trail.reverse, isBlank letter = true := fun letter belongs =>
    trailBlank letter (List.mem_reverse.mp belongs)
  rw [trimChars, dropWhile_blanks leadBlank front, List.reverse_append,
    dropWhile_blanks trailBlank back, List.reverse_reverse]

theorem isTrimmed_of_forall {letters : List Char}
    (solid : ∀ letter ∈ letters, isBlank letter = false) : IsTrimmed letters where
  head letter first := solid letter (List.mem_of_mem_head? first)
  last letter final := solid letter (List.mem_of_mem_getLast? final)

/-- Blanks inside do not matter. -/
theorem IsTrimmed.append {front back : List Char} (trimmed : IsTrimmed front)
    (some : front ≠ []) (middle : List Char) (trimmedBack : IsTrimmed back)
    (someBack : back ≠ []) :
    IsTrimmed (front ++ (middle ++ back)) where
  head := by
    rw [List.head?_append_of_ne_nil _ some]
    exact trimmed.head
  last := by
    rw [← List.append_assoc, List.getLast?_append_of_ne_nil _ someBack]
    exact trimmedBack.last

end Text

namespace Contract

/-! ## Plain letters -/

theorem isPlain_iff {letter : Char} :
    isPlain letter = true ↔
      Text.isBlank letter = false ∧ letter ∉ ['<', '>', '=', '!', '&'] := by
  rw [isPlain, Bool.and_eq_true, Bool.not_eq_true', decide_eq_true_eq]

theorem isPlain_of_isDigit {letter : Char} (digit : Number.isDigit letter = true) :
    isPlain letter = true := by
  rw [Number.isDigit, Bool.and_eq_true, decide_eq_true_eq, decide_eq_true_eq] at digit
  have low : 48 ≤ letter.toNat := digit.1
  have high : letter.toNat < 58 := Nat.lt_succ_of_le digit.2
  have small : ∀ code, code < 58 → 48 ≤ code → isPlain (Char.ofNat code) = true := by decide
  rw [← Char.ofNat_toNat letter]
  exact small letter.toNat high low

theorem Operand.plain (operand : Operand) : ∀ letter ∈ operand.letters, isPlain letter = true := by
  cases operand with
  | name word => exact word.plain
  | literal number =>
      have others : ∀ letter ∈ ['+', '-', '.', 'e', 'E'], isPlain letter = true := by
        simp only [List.forall_mem_cons]
        exact ⟨rfl, rfl, rfl, rfl, rfl, nofun⟩
      exact fun letter belongs =>
        (number.mem_letters belongs).elim isPlain_of_isDigit (others letter)

theorem Operand.letters_ne_nil (operand : Operand) : operand.letters ≠ [] := by
  cases operand with
  | name word => exact word.some
  | literal number => exact number.letters_ne_nil

/-- No operand is taken for a conjunction. -/
theorem Operand.letters_ne_and (operand : Operand) : operand.letters ≠ ['a', 'n', 'd'] := by
  cases operand with
  | name word => exact fun same => word.free (same ▸ List.mem_cons_self)
  | literal number =>
      intro same
      have same : number.letters = ['a', 'n', 'd'] := same
      have first : 'a' ∈ number.letters := same ▸ List.mem_cons_self
      exact absurd (number.mem_letters first) (by decide)

/-- A word ends here. -/
def EndsWord (rest : List Char) : Prop := ∀ letter ∈ rest.head?, isPlain letter = false

/-! ## Conjunctions -/

/-- Letters that go on with the same condition, also behind blanks. -/
structure Continues (rest : List Char) : Prop where
  solid : ∀ letter ∈ rest.head?, Text.isBlank letter = false ∧ letter ≠ '&'
  apart : ∀ others, rest = 'a' :: 'n' :: 'd' :: others →
    (others.head?.map Text.isBlank).getD false = false

theorem Continues.conjunction? {rest : List Char} (continues : Continues rest)
    {blanks : List Char} (blank : ∀ letter ∈ blanks, Text.isBlank letter = true) :
    conjunction? (blanks ++ rest) = none := by
  have dropped : (blanks ++ rest).dropWhile Text.isBlank = rest :=
    Text.dropWhile_blanks blank fun letter first => (continues.solid letter first).1
  unfold Contract.conjunction?
  rw [dropped]
  dsimp only
  split
  · exact absurd rfl (continues.solid '&' rfl).2
  · rw [continues.apart _ rfl, Bool.and_false, if_neg Bool.false_ne_true]
  · rfl

theorem splitExpression_of_none {letter : Char} {clause rest : List Char}
    (apart : conjunction? (letter :: rest) = none) :
    splitExpression clause (letter :: rest) = splitExpression (letter :: clause) rest := by
  rw [splitExpression]
  split
  · rename_i found
    rw [apart] at found
    cases found
  · rfl

theorem splitExpression_of_some {letters clause rest : List Char}
    (found : conjunction? letters = some rest) :
    splitExpression clause letters = clause.reverse :: splitExpression [] rest := by
  cases letters with
  | nil => cases found
  | cons letter letters =>
      rw [splitExpression]
      split
      · rename_i other same
        rw [found] at same
        cases same
        rfl
      · rename_i none
        rw [found] at none
        cases none

/-- Nothing but a blank or an ampersand begins a conjunction. -/
theorem conjunction?_of_solid {letter : Char} {rest : List Char}
    (solid : Text.isBlank letter = false) (notAmpersand : letter ≠ '&') :
    conjunction? (letter :: rest) = none := by
  have kept : (letter :: rest).dropWhile Text.isBlank = letter :: rest :=
    List.dropWhile_cons_of_neg (by simp [solid])
  unfold conjunction?
  rw [kept]
  dsimp only
  split
  · rename_i same
    exact absurd (List.cons.inj same).1 notAmpersand
  · simp
  · rfl

theorem splitExpression_solid {letters : List Char}
    (solid : ∀ letter ∈ letters, Text.isBlank letter = false ∧ letter ≠ '&')
    (clause rest : List Char) :
    splitExpression clause (letters ++ rest) =
      splitExpression (letters.reverse ++ clause) rest := by
  induction letters generalizing clause with
  | nil => rfl
  | cons letter letters inductionHypothesis =>
      obtain ⟨⟨notBlank, notAmpersand⟩, solid⟩ := List.forall_mem_cons.mp solid
      rw [List.cons_append, splitExpression_of_none (conjunction?_of_solid notBlank notAmpersand),
        inductionHypothesis solid, List.reverse_cons, List.append_assoc, List.singleton_append]

theorem splitExpression_blanks {blanks rest : List Char}
    (blank : ∀ letter ∈ blanks, Text.isBlank letter = true) (continues : Continues rest)
    (clause : List Char) :
    splitExpression clause (blanks ++ rest) =
      splitExpression (blanks.reverse ++ clause) rest := by
  induction blanks generalizing clause with
  | nil => rfl
  | cons letter blanks inductionHypothesis =>
      have apart : conjunction? (letter :: (blanks ++ rest)) = none :=
        continues.conjunction? blank
      rw [List.cons_append, splitExpression_of_none apart,
        inductionHypothesis (List.forall_mem_cons.mp blank).2, List.reverse_cons,
        List.append_assoc, List.singleton_append]

theorem continues_nil : Continues [] := ⟨nofun, nofun⟩

/-- Signs go on with the same condition. -/
theorem continues_sign (comparison : Comparison) (rest : List Char) :
    Continues (signLetters comparison ++ rest) := by
  cases comparison <;>
  · refine ⟨?_, nofun⟩
    rintro _ ⟨⟩
    decide

/-- A word goes on with the same condition unless it is the one that joins conditions. -/
theorem continues_word {word rest : List Char} (plain : ∀ letter ∈ word, isPlain letter = true)
    (some : word ≠ []) (other : word ≠ ['a', 'n', 'd']) (ends : EndsWord rest) :
    Continues (word ++ rest) where
  solid letter first := by
    rw [List.head?_append_of_ne_nil _ some] at first
    obtain ⟨solid, notSign⟩ := isPlain_iff.mp (plain letter (List.mem_of_mem_head? first))
    exact ⟨solid, fun same => notSign (by simp [same])⟩
  apart others same := by
    by_contra blank
    rw [Bool.not_eq_false] at blank
    have endsOther : EndsWord others := by
      intro letter first
      rw [first] at blank
      rw [Bool.eq_false_iff]
      intro plain
      exact absurd (blank.symm.trans (isPlain_iff.mp plain).1) (by decide)
    have andPlain : ∀ letter ∈ ['a', 'n', 'd'], isPlain letter = true := by
      simp only [List.forall_mem_cons]
      exact ⟨rfl, rfl, rfl, nofun⟩
    exact other (append_inj_of_kind plain andPlain ends endsOther same).1

theorem solid_of_isPlain {letters : List Char} (plain : ∀ letter ∈ letters, isPlain letter = true) :
    ∀ letter ∈ letters, Text.isBlank letter = false ∧ letter ≠ '&' := by
  intro letter belongs
  obtain ⟨solid, notSign⟩ := isPlain_iff.mp (plain letter belongs)
  exact ⟨solid, fun same => notSign (by simp [same])⟩

theorem signLetters_subset (comparison : Comparison) :
    signLetters comparison ⊆ ['<', '>', '=', '!'] := by
  cases comparison <;> decide

theorem solid_sign (comparison : Comparison) :
    ∀ letter ∈ signLetters comparison, Text.isBlank letter = false ∧ letter ≠ '&' := by
  have signs : ∀ letter ∈ ['<', '>', '=', '!'], Text.isBlank letter = false ∧ letter ≠ '&' := by
    simp only [List.forall_mem_cons]
    exact ⟨⟨rfl, by decide⟩, ⟨rfl, by decide⟩, ⟨rfl, by decide⟩, ⟨rfl, by decide⟩, nofun⟩
  exact fun letter belongs => signs letter (signLetters_subset comparison belongs)

theorem endsWord_of_blank {blanks rest : List Char}
    (blank : ∀ letter ∈ blanks, Text.isBlank letter = true) (ends : EndsWord rest) :
    EndsWord (blanks ++ rest) := by
  cases blanks with
  | nil => exact ends
  | cons letter blanks =>
      rintro _ ⟨⟩
      rw [Bool.eq_false_iff]
      exact fun plain => absurd ((blank letter List.mem_cons_self).symm.trans
        (isPlain_iff.mp plain).1) (by decide)

theorem endsWord_sign (comparison : Comparison) (rest : List Char) :
    EndsWord (signLetters comparison ++ rest) := by
  cases comparison <;>
  · rintro _ ⟨⟩
    rfl

theorem endsWord_links (links : List Link) {rest : List Char} (ends : EndsWord rest) :
    EndsWord (linksLetters links ++ rest) := by
  cases links with
  | nil => exact ends
  | cons link links =>
      rw [linksLetters, List.flatMap_cons, Link.letters]
      simp only [List.append_assoc]
      exact endsWord_of_blank link.before.blank (endsWord_sign link.comparison _)

theorem continues_operand (operand : Operand) {rest : List Char} (ends : EndsWord rest) :
    Continues (operand.letters ++ rest) :=
  continues_word operand.plain operand.letters_ne_nil operand.letters_ne_and ends

theorem splitExpression_links (links : List Link) {rest : List Char} (ends : EndsWord rest)
    (clause : List Char) :
    splitExpression clause (linksLetters links ++ rest) =
      splitExpression ((linksLetters links).reverse ++ clause) rest := by
  induction links generalizing clause with
  | nil => rfl
  | cons link links inductionHypothesis =>
      have following := endsWord_links links ends
      rw [linksLetters, List.flatMap_cons, ← linksLetters, Link.letters]
      simp only [List.append_assoc]
      rw [splitExpression_blanks link.before.blank (continues_sign link.comparison _),
        splitExpression_solid (solid_sign link.comparison),
        splitExpression_blanks link.after.blank (continues_operand link.operand following),
        splitExpression_solid (solid_of_isPlain link.operand.plain), inductionHypothesis]
      simp only [List.reverse_append, List.append_assoc]

theorem notPlain : ∀ letter ∈ ['n', 'o', 't'], isPlain letter = true := by
  simp only [List.forall_mem_cons]
  exact ⟨rfl, rfl, rfl, nofun⟩

theorem endsWord_gap (gap : Gap) (rest : List Char) : EndsWord (gap.letters ++ rest) := by
  obtain ⟨⟨letters, blank⟩, some⟩ := gap
  obtain ⟨letter, letters, rfl⟩ := List.exists_cons_of_ne_nil some
  rintro _ ⟨⟩
  rw [Bool.eq_false_iff]
  exact fun plain => absurd ((blank letter List.mem_cons_self).symm.trans
    (isPlain_iff.mp plain).1) (by decide)

theorem Condition.letters_cons (gap : Gap) (negations : List Gap) (chain : Chain) :
    Condition.letters ⟨gap :: negations, chain⟩ =
      ['n', 'o', 't'] ++ (gap.letters ++ Condition.letters ⟨negations, chain⟩) := by
  simp only [Condition.letters, negationLetters, List.flatMap_cons, List.append_assoc]

theorem Condition.letters_nil (chain : Chain) :
    Condition.letters ⟨[], chain⟩ = chain.first.letters ++ linksLetters chain.links := rfl

theorem continues_condition (condition : Condition) {rest : List Char} (ends : EndsWord rest) :
    Continues (condition.letters ++ rest) := by
  obtain ⟨negations, chain⟩ := condition
  cases negations with
  | nil =>
      rw [Condition.letters_nil, List.append_assoc]
      exact continues_operand chain.first (endsWord_links chain.links ends)
  | cons gap negations =>
      rw [Condition.letters_cons, List.append_assoc, List.append_assoc]
      exact continues_word notPlain (by decide) (by decide) (endsWord_gap gap _)

/-- A condition is not split. -/
theorem splitExpression_condition (condition : Condition) {rest : List Char}
    (ends : EndsWord rest) (clause : List Char) :
    splitExpression clause (condition.letters ++ rest) =
      splitExpression (condition.letters.reverse ++ clause) rest := by
  obtain ⟨negations, chain⟩ := condition
  induction negations generalizing clause with
  | nil =>
      rw [Condition.letters_nil, List.append_assoc,
        splitExpression_solid (solid_of_isPlain chain.first.plain),
        splitExpression_links chain.links ends, List.reverse_append, List.append_assoc]
  | cons gap negations inductionHypothesis =>
      rw [Condition.letters_cons]
      simp only [List.append_assoc]
      rw [splitExpression_solid (solid_of_isPlain notPlain),
        splitExpression_blanks gap.blank (continues_condition ⟨negations, chain⟩ ends),
        inductionHypothesis]
      simp only [List.reverse_append, List.append_assoc]

theorem Gap.head?_isBlank (gap : Gap) (rest : List Char) :
    ((gap.letters ++ rest).head?.map Text.isBlank).getD false = true := by
  obtain ⟨⟨letters, blank⟩, some⟩ := gap
  obtain ⟨letter, letters, rfl⟩ := List.exists_cons_of_ne_nil some
  exact blank letter List.mem_cons_self

theorem conjunction?_gap (before after : Gap) {rest : List Char}
    (solid : ∀ letter ∈ rest.head?, Text.isBlank letter = false) :
    conjunction? (before.letters ++ 'a' :: 'n' :: 'd' :: (after.letters ++ rest)) = some rest := by
  have joined : (before.letters ++ 'a' :: 'n' :: 'd' :: (after.letters ++ rest)).dropWhile
      Text.isBlank = 'a' :: 'n' :: 'd' :: (after.letters ++ rest) :=
    Text.dropWhile_blanks before.blank (by rintro _ ⟨⟩; rfl)
  have spaced : ∀ others : List Char, others.length < (before.letters ++ others).length := by
    intro others
    rw [List.length_append]
    exact Nat.lt_add_of_pos_left (List.length_pos_iff.mpr before.some)
  unfold conjunction?
  rw [joined]
  simp only [after.head?_isBlank, spaced, decide_true, Bool.and_true, if_true,
    Text.dropWhile_blanks after.blank solid]

theorem splitExpression_trail {trail : List Char}
    (blank : ∀ letter ∈ trail, Text.isBlank letter = true) (clause : List Char) :
    splitExpression clause trail = [clause.reverse ++ trail] := by
  have split := splitExpression_blanks blank continues_nil clause
  rw [List.append_nil] at split
  rw [split, splitExpression, List.reverse_append, List.reverse_reverse]

theorem endsWord_nil : EndsWord [] := nofun

theorem Operand.isTrimmed (operand : Operand) : Text.IsTrimmed operand.letters :=
  Text.isTrimmed_of_forall fun letter belongs => (isPlain_iff.mp (operand.plain letter belongs)).1

/-- A chain ends with an operand. -/
theorem isTrimmed_links {front : List Char} (some : front ≠ []) (trimmed : Text.IsTrimmed front)
    (links : List Link) : Text.IsTrimmed (front ++ linksLetters links) := by
  induction links generalizing front with
  | nil =>
      rw [linksLetters, List.flatMap_nil, List.append_nil]
      exact trimmed
  | cons link links inductionHypothesis =>
      have longer := trimmed.append some (link.before.letters ++
        (signLetters link.comparison ++ link.after.letters)) link.operand.isTrimmed
          link.operand.letters_ne_nil
      have whole := inductionHypothesis (List.append_ne_nil_of_left_ne_nil some _) longer
      rw [linksLetters, List.flatMap_cons, ← linksLetters, Link.letters]
      simpa only [List.append_assoc] using whole

/-- The first operand with the negations before it. -/
def Condition.head (condition : Condition) : List Char :=
  negationLetters condition.negations ++ condition.chain.first.letters

theorem Condition.letters_eq (condition : Condition) :
    condition.letters = condition.head ++ linksLetters condition.chain.links := by
  rw [letters, head, Chain.letters, List.append_assoc]

theorem Condition.head_ne_nil (condition : Condition) : condition.head ≠ [] :=
  List.append_ne_nil_of_right_ne_nil _ condition.chain.first.letters_ne_nil

theorem Condition.isTrimmed_head (condition : Condition) : Text.IsTrimmed condition.head := by
  obtain ⟨negations, chain⟩ := condition
  induction negations with
  | nil => exact chain.first.isTrimmed
  | cons gap negations inductionHypothesis =>
      have solid : Text.IsTrimmed ['n', 'o', 't'] :=
        Text.isTrimmed_of_forall fun letter belongs => (isPlain_iff.mp (notPlain letter belongs)).1
      have longer := solid.append (by decide) gap.letters inductionHypothesis
        (Condition.head_ne_nil ⟨negations, chain⟩)
      simpa only [head, negationLetters, List.flatMap_cons, List.append_assoc] using longer

theorem Condition.isTrimmed (condition : Condition) : Text.IsTrimmed condition.letters := by
  rw [letters_eq]
  exact isTrimmed_links condition.head_ne_nil condition.isTrimmed_head _

theorem Condition.letters_ne_nil (condition : Condition) : condition.letters ≠ [] := by
  rw [letters_eq]
  exact List.append_ne_nil_of_left_ne_nil condition.head_ne_nil _

/-- A conjunction is split into its conditions. -/
theorem map_trimChars_splitExpression (first : Condition) (others : List (Joined Condition))
    {lead trail : List Char} (leadBlank : ∀ letter ∈ lead, Text.isBlank letter = true)
    (trailBlank : ∀ letter ∈ trail, Text.isBlank letter = true) :
    (splitExpression lead.reverse
        (Series.letters ['a', 'n', 'd'] Condition.letters ⟨first, others⟩ ++ trail)).map
      Text.trimChars = (Series.items ⟨first, others⟩).map Condition.letters := by
  induction others generalizing first lead with
  | nil =>
      have ends : EndsWord trail := by
        simpa using endsWord_of_blank trailBlank endsWord_nil
      rw [Series.letters, joinedLetters, List.flatMap_nil, List.append_nil,
        splitExpression_condition first ends, splitExpression_trail trailBlank,
        List.reverse_append, List.reverse_reverse, List.reverse_reverse, List.append_assoc,
        List.map_singleton,
        Text.trimChars_append leadBlank trailBlank first.letters_ne_nil first.isTrimmed]
      rfl
  | cons joined others inductionHypothesis =>
      have written : Series.letters ['a', 'n', 'd'] Condition.letters ⟨first, joined :: others⟩ ++
          trail = first.letters ++ (joined.before.letters ++ 'a' :: 'n' :: 'd' ::
            (joined.after.letters ++ (Series.letters ['a', 'n', 'd'] Condition.letters
              ⟨joined.item, others⟩ ++ trail))) := by
        simp [Series.letters, joinedLetters]
      have solid : ∀ letter ∈ (Series.letters ['a', 'n', 'd'] Condition.letters
          ⟨joined.item, others⟩ ++ trail).head?, Text.isBlank letter = false := by
        rw [Series.letters, List.append_assoc,
          List.head?_append_of_ne_nil _ joined.item.letters_ne_nil]
        exact joined.item.isTrimmed.head
      have front := Text.trimChars_append leadBlank (@List.forall_mem_nil _ _)
        first.letters_ne_nil first.isTrimmed
      have rest := inductionHypothesis joined.item (@List.forall_mem_nil _ _)
      rw [List.append_nil] at front
      rw [List.reverse_nil] at rest
      rw [written, splitExpression_condition first (endsWord_gap joined.before _),
        splitExpression_of_some (conjunction?_gap joined.before joined.after solid),
        List.map_cons, rest, List.reverse_append, List.reverse_reverse, List.reverse_reverse, front]
      rfl

theorem endsWord_joined (others : List (Joined Condition)) {trail : List Char}
    (ends : EndsWord trail) :
    EndsWord (joinedLetters ['a', 'n', 'd'] Condition.letters others ++ trail) := by
  cases others with
  | nil => exact ends
  | cons joined others =>
      simp only [joinedLetters, List.flatMap_cons, List.append_assoc]
      exact endsWord_gap joined.before _

theorem constraints_foldl {Piece : Type*} (read : Piece → ConstraintSet) (pieces : List Piece)
    (set : ConstraintSet) :
    (pieces.foldl (fun set piece => set ++ read piece) set).constraints =
      set.constraints ++ pieces.flatMap fun piece => (read piece).constraints := by
  induction pieces generalizing set with
  | nil => exact (List.append_nil _).symm
  | cons piece pieces inductionHypothesis =>
      rw [List.foldl_cons, inductionHypothesis, ConstraintSet.constraints_append,
        List.flatMap_cons, List.append_assoc]

/-- An expression without a disjunction is read condition by condition. -/
theorem constraints_ofExpression (kind : ContractKind) {expression : Expression}
    (conjunctive : expression.body.others = []) :
    (ofExpression kind expression.text).constraints =
      expression.conditions.flatMap fun condition =>
        (ofClause kind condition.letters).constraints := by
  obtain ⟨lead, ⟨⟨first, others⟩, _⟩, trail⟩ := expression
  cases conjunctive
  have written : Expression.letters ⟨lead, ⟨⟨first, others⟩, []⟩, trail⟩ =
      lead.letters ++ (Series.letters ['a', 'n', 'd'] Condition.letters ⟨first, others⟩ ++
        trail.letters) := by
    simp [Expression.letters, Series.letters, joinedLetters]
  have ends : EndsWord trail.letters := by
    simpa using endsWord_of_blank trail.blank endsWord_nil
  have continues : Continues (Series.letters ['a', 'n', 'd'] Condition.letters ⟨first, others⟩ ++
      trail.letters) := by
    rw [Series.letters, List.append_assoc]
    exact continues_condition first (endsWord_joined others ends)
  have conditions : Expression.conditions ⟨lead, ⟨⟨first, others⟩, []⟩, trail⟩ =
      Series.items ⟨first, others⟩ := by
    simp [Expression.conditions, Series.items]
  have kept : ((Series.items ⟨first, others⟩).map Condition.letters).filter
      (fun clause => !clause.isEmpty) = (Series.items ⟨first, others⟩).map Condition.letters := by
    refine List.filter_eq_self.mpr fun clause belongs => ?_
    obtain ⟨condition, -, rfl⟩ := List.mem_map.mp belongs
    simpa using condition.letters_ne_nil
  rw [ofExpression, Expression.text, String.toList_ofList, ofExpressionChars, written,
    splitExpression_blanks lead.blank continues, List.append_nil,
    map_trimChars_splitExpression first others lead.blank trail.blank, conditions]
  rw [kept, constraints_foldl, List.flatMap_map]
  rfl

/-! ## Chains -/

/-- Letters that no sign begins with. -/
def IsFree (letters : List Char) : Prop := ∀ letter ∈ letters, letter ∉ ['<', '>', '=', '!']

theorem comparison?_of_free {letter : Char} (free : letter ∉ ['<', '>', '=', '!'])
    (rest : List Char) : comparison? (letter :: rest) = none := by
  unfold comparison?
  split <;> simp_all

theorem splitClause_free {letters : List Char} (free : IsFree letters)
    (operand rest : List Char) :
    splitClause operand (letters ++ rest) = splitClause (letters.reverse ++ operand) rest := by
  induction letters generalizing operand with
  | nil => rfl
  | cons letter letters inductionHypothesis =>
      obtain ⟨freeHead, free⟩ := List.forall_mem_cons.mp free
      rw [List.cons_append, splitClause]
      split
      · rename_i found
        rw [comparison?_of_free freeHead] at found
        cases found
      · rw [inductionHypothesis free, List.reverse_cons, List.append_assoc, List.singleton_append]

theorem comparison?_sign (comparison : Comparison) {rest : List Char}
    (free : ∀ letter ∈ rest.head?, letter ≠ '=') :
    comparison? (signLetters comparison ++ rest) = some (comparison, rest) := by
  cases comparison with
  | le | ge | eq | ne => rfl
  | lt | gt =>
      cases rest with
      | nil => rfl
      | cons letter rest =>
          simp [signLetters, Comparison.symbol, comparison?, free letter rfl]

theorem splitClause_sign (comparison : Comparison) {rest : List Char}
    (free : ∀ letter ∈ rest.head?, letter ≠ '=') (operand : List Char) :
    splitClause operand (signLetters comparison ++ rest) =
      (operand.reverse, (comparison, (splitClause [] rest).1) :: (splitClause [] rest).2) := by
  have found := comparison?_sign comparison free
  obtain ⟨letter, letters, sign⟩ :
      ∃ letter letters, signLetters comparison = letter :: letters := by
    cases comparison <;> exact ⟨_, _, rfl⟩
  rw [sign, List.cons_append] at found ⊢
  rw [splitClause]
  split
  · rename_i read
    rw [found] at read
    cases read
    rfl
  · rename_i read
    rw [found] at read
    cases read

theorem isFree_of_isPlain {letters : List Char}
    (plain : ∀ letter ∈ letters, isPlain letter = true) : IsFree letters := by
  intro letter belongs sign
  refine (isPlain_iff.mp (plain letter belongs)).2 ?_
  simp only [List.mem_cons] at sign ⊢
  tauto

theorem isFree_of_blank {letters : List Char}
    (blank : ∀ letter ∈ letters, Text.isBlank letter = true) : IsFree letters := by
  intro letter belongs sign
  have solid : ∀ letter ∈ ['<', '>', '=', '!'], Text.isBlank letter = false := by
    simp only [List.forall_mem_cons]
    exact ⟨rfl, rfl, rfl, rfl, nofun⟩
  exact absurd ((blank letter belongs).symm.trans (solid letter sign)) (by decide)

theorem IsFree.append {first second : List Char} (free : IsFree first)
    (freeSecond : IsFree second) : IsFree (first ++ second) :=
  fun letter belongs => (List.mem_append.mp belongs).elim (free letter) (freeSecond letter)

theorem IsFree.head?_append {first : List Char} (free : IsFree first) (some : first ≠ [])
    (rest : List Char) : ∀ letter ∈ (first ++ rest).head?, letter ≠ '=' := by
  intro letter begins same
  rw [List.head?_append_of_ne_nil _ some] at begins
  exact free letter (List.mem_of_mem_head? begins) (by simp [same])

/-- A chain is split into its operands, up to blanks around them. -/
theorem splitClause_links (links : List Link) {lead first : List Char}
    (blank : ∀ letter ∈ lead, Text.isBlank letter = true) (some : first ≠ [])
    (trimmed : Text.IsTrimmed first) :
    let split := splitClause (lead ++ first).reverse (linksLetters links)
    Text.trimChars split.1 = first ∧
      split.2.map (fun link => (link.1, Text.trimChars link.2)) =
        links.map fun link => (link.comparison, link.operand.letters) := by
  induction links generalizing lead first with
  | nil =>
      have front := Text.trimChars_append blank (@List.forall_mem_nil _ _) some trimmed
      rw [linksLetters, List.flatMap_nil, splitClause]
      refine ⟨?_, rfl⟩
      simpa using front
  | cons link links inductionHypothesis =>
      obtain ⟨before, comparison, after, operand⟩ := link
      have front := Text.trimChars_append blank before.blank some trimmed
      have operandFree := isFree_of_isPlain operand.plain
      have behind : IsFree (after.letters ++ operand.letters) :=
        (isFree_of_blank after.blank).append operandFree
      obtain ⟨next, others⟩ := inductionHypothesis after.blank operand.letters_ne_nil
        operand.isTrimmed
      have written : linksLetters (⟨before, comparison, after, operand⟩ :: links) =
          before.letters ++ (signLetters comparison ++
            ((after.letters ++ operand.letters) ++ linksLetters links)) := by
        simp [linksLetters, Link.letters]
      rw [written, splitClause_free (isFree_of_blank before.blank), splitClause_sign comparison
        (behind.head?_append (List.append_ne_nil_of_right_ne_nil _ operand.letters_ne_nil) _),
        splitClause_free behind, List.append_nil]
      dsimp only
      rw [List.map_cons, next, others]
      refine ⟨?_, rfl⟩
      simpa using front

theorem splitClause_condition {condition : Condition} (free : IsFree condition.head) :
    let split := splitClause [] condition.letters
    Text.trimChars split.1 = condition.head ∧
      split.2.map (fun link => (link.1, Text.trimChars link.2)) =
        condition.chain.links.map fun link => (link.comparison, link.operand.letters) := by
  have split := splitClause_links condition.chain.links (@List.forall_mem_nil _ _)
    condition.head_ne_nil condition.isTrimmed_head
  rw [Condition.letters_eq, splitClause_free free, List.append_nil]
  exact split

theorem Condition.isFree_head (condition : Condition) : IsFree condition.head := by
  obtain ⟨negations, chain⟩ := condition
  refine IsFree.append ?_ (isFree_of_isPlain chain.first.plain)
  intro letter belongs
  obtain ⟨gap, -, inside⟩ := List.mem_flatMap.mp belongs
  exact (isFree_of_isPlain notPlain).append (isFree_of_blank gap.blank) letter inside

/-- A condition is modelled by the links of its chain, or set aside. -/
theorem constraints_ofClause (kind : ContractKind) (condition : Condition) :
    (ofClause kind condition.letters).constraints =
      (links? kind condition.head
        (condition.chain.links.map fun link =>
          (link.comparison, link.operand.letters))).getD [] := by
  obtain ⟨first, others⟩ := splitClause_condition condition.isFree_head
  unfold ofClause
  dsimp only
  rw [first, others]
  split
  · rename_i empty
    rw [List.isEmpty_iff] at empty
    rw [empty]
    rfl
  · split
    · rename_i constraints read
      rw [read]
      rfl
    · rename_i read
      rw [read]
      rfl

end Contract

end ReviewGate
