import ReviewGate.Proofs.Contract.Reading

/-!
# Where clauses and expressions are cut

Text is cut from the front on, at the first place where a mark begins and behind the whole mark.
The marks of a clause are its signs, of which a longer one goes before a shorter one, and those of
an expression are its conjunctions with all blanks around them.
-/

namespace ReviewGate.Contract

/-! ## Cuts -/

section Cuts

variable {Mark : Type*} {Begins : List Char → Mark → List Char → Prop}

/-- No mark begins inside the piece where the text goes on behind it. -/
def IsUncut (Begins : List Char → Mark → List Char → Prop) (piece text : List Char) : Prop :=
  ∀ back, back <:+ piece → back ≠ [] → ∀ mark rest, ¬Begins (back ++ text) mark rest

/-- The first piece of a text, and its marks with the pieces behind them.  `Begins text mark rest`
says that the text begins with the mark and goes on with the rest. -/
inductive Cut (Begins : List Char → Mark → List Char → Prop) :
    List Char → List Char → List (Mark × List Char) → Prop
  | last {piece : List Char} : IsUncut Begins piece [] → Cut Begins piece piece []
  | mark {piece text rest next : List Char} {mark : Mark} {others : List (Mark × List Char)} :
      IsUncut Begins piece text → Begins text mark rest → Cut Begins rest next others →
      Cut Begins (piece ++ text) piece ((mark, next) :: others)

theorem isUncut_nil (text : List Char) : IsUncut Begins [] text :=
  fun _ suffix some => absurd (List.suffix_nil.mp suffix) some

theorem IsUncut.cons {letter : Char} {piece text : List Char}
    (apart : ∀ mark rest, ¬Begins (letter :: (piece ++ text)) mark rest)
    (uncut : IsUncut Begins piece text) : IsUncut Begins (letter :: piece) text := by
  intro back suffix some
  rcases List.suffix_cons_iff.mp suffix with whole | inside
  · rw [whole]
    exact apart
  · exact uncut back inside some

theorem Cut.cons {letter : Char} {text piece : List Char} {links : List (Mark × List Char)}
    (apart : ∀ mark rest, ¬Begins (letter :: text) mark rest) (cut : Cut Begins text piece links) :
    Cut Begins (letter :: text) (letter :: piece) links := by
  cases cut with
  | last uncut =>
      refine .last (IsUncut.cons ?_ uncut)
      rwa [List.append_nil]
  | mark uncut begins cut => exact .mark (IsUncut.cons apart uncut) begins cut

theorem Cut.here {text rest next : List Char} {mark : Mark} {others : List (Mark × List Char)}
    (begins : Begins text mark rest) (cut : Cut Begins rest next others) :
    Cut Begins text [] ((mark, next) :: others) :=
  .mark (isUncut_nil text) begins cut

theorem IsUncut.eq_nil {front back text rest : List Char} {mark : Mark}
    (uncut : IsUncut Begins (front ++ back) text) (begins : Begins (back ++ text) mark rest) :
    back = [] := by
  by_contra some
  exact uncut back (List.suffix_append front back) some mark rest begins

/-- A piece ends at the first mark. -/
theorem IsUncut.append_inj {piece other text otherText rest otherRest : List Char}
    {mark otherMark : Mark} (uncut : IsUncut Begins piece text)
    (uncutOther : IsUncut Begins other otherText) (begins : Begins text mark rest)
    (beginsOther : Begins otherText otherMark otherRest)
    (same : piece ++ text = other ++ otherText) : piece = other ∧ text = otherText := by
  rcases List.append_eq_append_iff.mp same with ⟨back, rfl, rfl⟩ | ⟨back, rfl, rfl⟩
  · simp [uncutOther.eq_nil begins]
  · simp [uncut.eq_nil beginsOther]

/-- There is one way to cut a text if it does not begin with two marks, and nothing with none. -/
theorem Cut.unique
    (exact : ∀ {text mark rest other otherRest}, Begins text mark rest →
      Begins text other otherRest → mark = other ∧ rest = otherRest)
    (some : ∀ mark rest, ¬Begins [] mark rest) {text piece other : List Char}
    {links others : List (Mark × List Char)} (cut : Cut Begins text piece links)
    (cutOther : Cut Begins text other others) : piece = other ∧ links = others := by
  induction cut generalizing other others with
  | @last piece uncut =>
      cases cutOther with
      | last => exact ⟨rfl, rfl⟩
      | @mark _ text _ _ _ _ _ begins =>
          have empty : text = [] := uncut.eq_nil (by rwa [List.append_nil])
          subst empty
          exact absurd begins (some _ _)
  | @mark piece text rest next mark links uncut begins _ inductionHypothesis =>
      generalize whole : piece ++ text = letters at cutOther
      cases cutOther with
      | last uncutOther =>
          subst whole
          have empty : text = [] := uncutOther.eq_nil (by rwa [List.append_nil])
          subst empty
          exact absurd begins (some _ _)
      | @mark _ otherText _ _ _ _ uncutOther beginsOther cutOther =>
          obtain ⟨rfl, rfl⟩ := uncut.append_inj uncutOther begins beginsOther whole
          obtain ⟨rfl, rfl⟩ := exact begins beginsOther
          obtain ⟨rfl, rfl⟩ := inductionHypothesis cutOther
          exact ⟨rfl, rfl⟩

end Cuts

/-! ## Signs -/

/-- A sign at the front, and no longer one. -/
structure IsSign (text : List Char) (comparison : Comparison) (rest : List Char) : Prop where
  written : text = signLetters comparison ++ rest
  longest : ∀ other, signLetters other <+: text →
    (signLetters other).length ≤ (signLetters comparison).length

theorem length_signLetters_le (comparison : Comparison) : (signLetters comparison).length ≤ 2 := by
  cases comparison <;> decide

theorem isSign_iff {text rest : List Char} {comparison : Comparison} :
    IsSign text comparison rest ↔ comparison? text = some (comparison, rest) := by
  constructor
  · rintro ⟨rfl, longest⟩
    cases comparison with
    | le | ge | eq | ne => rfl
    | lt =>
        refine comparison?_sign .lt fun letter first same => ?_
        obtain ⟨others, rfl⟩ := List.head?_eq_some_iff.mp (same ▸ first)
        exact absurd (longest .le ⟨others, rfl⟩) (by decide)
    | gt =>
        refine comparison?_sign .gt fun letter first same => ?_
        obtain ⟨others, rfl⟩ := List.head?_eq_some_iff.mp (same ▸ first)
        exact absurd (longest .ge ⟨others, rfl⟩) (by decide)
  · intro found
    unfold comparison? at found
    split at found
    all_goals cases found
    case h_1 | h_2 | h_3 | h_4 => exact ⟨rfl, fun other _ => length_signLetters_le other⟩
    all_goals
      rename_i apart
      have single : ¬['='] <+: rest := fun ⟨others, same⟩ => apart others same.symm
      refine ⟨rfl, fun other begins => ?_⟩
      cases other <;> simp_all [signLetters, Comparison.symbol, List.cons_prefix_cons]

theorem cut_splitClause (operand letters : List Char) :
    ∃ piece, (splitClause operand letters).1 = operand.reverse ++ piece ∧
      Cut IsSign letters piece (splitClause operand letters).2 := by
  fun_induction splitClause operand letters with
  | case1 operand => exact ⟨[], by simp, .last (isUncut_nil _)⟩
  | case2 operand letter after comparison rest found next others split inductionHypothesis =>
      obtain ⟨piece, same, cut⟩ := inductionHypothesis
      rw [split] at same cut
      have same : next = piece := same
      subst same
      exact ⟨[], by simp, .here (isSign_iff.mpr found) cut⟩
  | case3 operand letter after none inductionHypothesis =>
      obtain ⟨piece, same, cut⟩ := inductionHypothesis
      refine ⟨letter :: piece, by simp [same], cut.cons ?_⟩
      intro comparison rest sign
      cases none.symm.trans (isSign_iff.mp sign)

/-- A clause is cut at its signs. -/
theorem cut_isSign_iff {clause first : List Char} {links : List (Comparison × List Char)} :
    Cut IsSign clause first links ↔
      first = (splitClause [] clause).1 ∧ links = (splitClause [] clause).2 := by
  obtain ⟨piece, same, cut⟩ := cut_splitClause [] clause
  rw [List.reverse_nil, List.nil_append] at same
  rw [← same] at cut
  constructor
  · intro other
    refine other.unique (fun sign signOther => ?_) (fun comparison rest sign => ?_) cut
    · cases (isSign_iff.mp sign).symm.trans (isSign_iff.mp signOther)
      exact ⟨rfl, rfl⟩
    · cases isSign_iff.mp sign
  · rintro ⟨rfl, rfl⟩
    exact cut

/-! ## Conjunctions -/

/-- `and` between blanks, or `&&` with or without them. -/
inductive IsJoint : List Char → Prop
  | word (before after : Gap) :
      IsJoint (before.letters ++ 'a' :: 'n' :: 'd' :: after.letters)
  | sign (before after : Blanks) : IsJoint (before.letters ++ '&' :: '&' :: after.letters)

/-- A conjunction at the front with all blanks behind it. -/
structure IsConjunction (text joint rest : List Char) : Prop where
  written : text = joint ++ rest
  isJoint : IsJoint joint
  solid : ∀ letter ∈ rest.head?, Text.isBlank letter = false

theorem conjunction?_sign (before after : Blanks) {rest : List Char}
    (solid : ∀ letter ∈ rest.head?, Text.isBlank letter = false) :
    conjunction? (before.letters ++ '&' :: '&' :: (after.letters ++ rest)) = some rest := by
  have joined : (before.letters ++ '&' :: '&' :: (after.letters ++ rest)).dropWhile Text.isBlank =
      '&' :: '&' :: (after.letters ++ rest) :=
    Text.dropWhile_blanks before.blank (by rintro _ ⟨⟩; rfl)
  unfold conjunction?
  rw [joined]
  exact congrArg some (Text.dropWhile_blanks after.blank solid)

theorem IsConjunction.conjunction? {text joint rest : List Char}
    (joins : IsConjunction text joint rest) : conjunction? text = some rest := by
  obtain ⟨rfl, isJoint, solid⟩ := joins
  cases isJoint with
  | word before after =>
      rw [List.append_assoc]
      exact conjunction?_gap before after solid
  | sign before after =>
      rw [List.append_assoc]
      exact conjunction?_sign before after solid

/-- The blanks at the front. -/
def blanksOf (letters : List Char) : Blanks where
  letters := letters.takeWhile Text.isBlank
  blank _ belongs := List.mem_takeWhile_imp belongs

theorem blanksOf_append (letters : List Char) :
    (blanksOf letters).letters ++ letters.dropWhile Text.isBlank = letters :=
  List.takeWhile_append_dropWhile

theorem solid_dropWhile (letters : List Char) :
    ∀ letter ∈ (letters.dropWhile Text.isBlank).head?, Text.isBlank letter = false := by
  intro letter first
  have head := List.head?_dropWhile_not Text.isBlank letters
  rw [Option.mem_def.mp first] at head
  simpa using head

theorem exists_isConjunction {text rest : List Char} (found : conjunction? text = some rest) :
    ∃ joint, IsConjunction text joint rest := by
  unfold Contract.conjunction? at found
  dsimp only at found
  split at found
  · rename_i tail shape
    cases found
    refine ⟨_, ?_, .sign (blanksOf text) (blanksOf tail), solid_dropWhile tail⟩
    simp [blanksOf_append, ← shape]
  · rename_i tail shape
    split at found
    · rename_i spaced
      cases found
      rw [Bool.and_eq_true, decide_eq_true_eq] at spaced
      have before : (blanksOf text).letters ≠ [] := by
        intro none
        have whole := blanksOf_append text
        rw [none, List.nil_append] at whole
        exact absurd (congrArg List.length whole) spaced.1.ne
      have after : (blanksOf tail).letters ≠ [] := by
        cases tail with
        | nil => cases spaced.2
        | cons letter tail =>
            have blank : Text.isBlank letter = true := spaced.2
            simp [blanksOf, blank]
      refine ⟨_, ?_, .word ⟨blanksOf text, before⟩ ⟨blanksOf tail, after⟩, solid_dropWhile tail⟩
      simp [blanksOf_append, ← shape]
    · cases found
  · cases found

theorem cut_splitExpression (clause letters : List Char) :
    ∃ piece others, splitExpression clause letters =
        (clause.reverse ++ piece) :: others.map Prod.snd ∧
      Cut IsConjunction letters piece others := by
  fun_induction splitExpression clause letters with
  | case1 clause => exact ⟨[], [], by simp, .last (isUncut_nil _)⟩
  | case2 clause letter after rest found inductionHypothesis =>
      obtain ⟨next, others, same, cut⟩ := inductionHypothesis
      obtain ⟨joint, joins⟩ := exists_isConjunction found
      exact ⟨[], (joint, next) :: others, by simp [same], .here joins cut⟩
  | case3 clause letter after none inductionHypothesis =>
      obtain ⟨piece, others, same, cut⟩ := inductionHypothesis
      refine ⟨letter :: piece, others, by simp [same], cut.cons ?_⟩
      intro joint rest joins
      cases none.symm.trans joins.conjunction?

/-- An expression is cut at its conjunctions. -/
theorem exists_cut_isConjunction (letters : List Char) :
    ∃ first others, splitExpression [] letters = first :: others.map Prod.snd ∧
      ∀ other rest, Cut IsConjunction letters other rest ↔ other = first ∧ rest = others := by
  obtain ⟨first, others, same, cut⟩ := cut_splitExpression [] letters
  refine ⟨first, others, same, fun other rest => ⟨fun cutOther => ?_, ?_⟩⟩
  · refine cutOther.unique (fun joins joinsOther => ?_) (fun joint rest joins => ?_) cut
    · cases joins.conjunction?.symm.trans joinsOther.conjunction?
      exact ⟨List.append_cancel_right (joins.written.symm.trans joinsOther.written), rfl⟩
    · cases joins.conjunction?
  · rintro ⟨rfl, rfl⟩
    exact cut

end ReviewGate.Contract
