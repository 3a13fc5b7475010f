import Mathlib.Data.List.Infix
import ReviewGate.Pattern.Matcher

/-!
# Dynamic calls

A dynamic call is found exactly where the callee stands in front of an opening parenthesis, not
behind a dot, and a dynamic token comes before that parenthesis is closed.  A search by positions,
which fails where a position lies outside the line or a count falls below zero, never fails and
finds the same.
-/

namespace ReviewGate.Shape

/-! ## Arguments -/

/-- A dynamic token stands at a place, and all tokens before it leave something open, if so much was
open before them. -/
structure Reaches (depth : Nat) (tokens : List String) (place : Nat) : Prop where
  dynamic : ∃ token, tokens[place]? = some token ∧ isDynamicToken token = true
  unclosed : ∀ count ≤ place,
    (tokens.take count).count ")" < depth + (tokens.take count).count "("

section Reaches

variable {depth place : Nat} {token : String} {rest : List String}

theorem reaches_zero (isOpen : 0 < depth) :
    Reaches depth (token :: rest) 0 ↔ isDynamicToken token = true := by
  constructor
  · rintro ⟨⟨_, ⟨⟩, dynamic⟩, -⟩
    exact dynamic
  · intro dynamic
    refine ⟨⟨token, rfl, dynamic⟩, fun count first => ?_⟩
    simpa [Nat.le_zero.mp first] using isOpen

/-- The first token is left out, and what it opens or closes is counted at once. -/
theorem reaches_succ {later : Nat} (isOpen : 0 < depth)
    (balance : ∀ tokens : List String,
      (token :: tokens).count ")" < depth + (token :: tokens).count "(" ↔
        tokens.count ")" < later + tokens.count "(") :
    Reaches depth (token :: rest) (place + 1) ↔ Reaches later rest place := by
  constructor
  · rintro ⟨dynamic, unclosed⟩
    exact ⟨dynamic, fun count before => (balance _).mp (unclosed (count + 1) (by omega))⟩
  · rintro ⟨dynamic, unclosed⟩
    refine ⟨dynamic, fun count before => ?_⟩
    cases count with
    | zero => simpa using isOpen
    | succ count => exact (balance _).mpr (unclosed count (by omega))

theorem reaches_open (isOpen : 0 < depth) :
    (∃ place, Reaches depth ("(" :: rest) place) ↔ ∃ place, Reaches (depth + 1) rest place := by
  rw [← Nat.or_exists_add_one, reaches_zero isOpen, or_iff_right (by decide)]
  refine exists_congr fun place => reaches_succ isOpen fun tokens => ?_
  simp only [List.count_cons_self, List.count_cons_of_ne (show "(" ≠ ")" by decide)]
  omega

theorem not_reaches_close : ¬∃ place, Reaches 1 (")" :: rest) place := by
  rw [← Nat.or_exists_add_one, reaches_zero Nat.one_pos]
  rintro (dynamic | ⟨place, -, unclosed⟩)
  · revert dynamic
    decide
  · have closed := unclosed 1 (by omega)
    simp at closed

theorem reaches_close (more : 1 < depth) :
    (∃ place, Reaches depth (")" :: rest) place) ↔ ∃ place, Reaches (depth - 1) rest place := by
  rw [← Nat.or_exists_add_one, reaches_zero (by omega), or_iff_right (by decide)]
  refine exists_congr fun place => reaches_succ (by omega) fun tokens => ?_
  simp only [List.count_cons_self, List.count_cons_of_ne (show ")" ≠ "(" by decide)]
  omega

theorem reaches_other (isOpen : 0 < depth) (opens : token ≠ "(") (closes : token ≠ ")") :
    (∃ place, Reaches depth (token :: rest) place) ↔
      isDynamicToken token = true ∨ ∃ place, Reaches depth rest place := by
  rw [← Nat.or_exists_add_one, reaches_zero isOpen]
  refine or_congr_right (exists_congr fun place => reaches_succ isOpen fun tokens => ?_)
  rw [List.count_cons_of_ne closes, List.count_cons_of_ne opens]

end Reaches

theorem argumentsAreDynamic_iff {depth : Nat} (isOpen : 0 < depth) (tokens : List String) :
    argumentsAreDynamic depth tokens = true ↔ ∃ place, Reaches depth tokens place := by
  fun_induction argumentsAreDynamic depth tokens with
  | case1 depth =>
      refine iff_of_false Bool.false_ne_true ?_
      rintro ⟨place, ⟨token, found, -⟩, -⟩
      simp at found
  | case2 depth rest inductionHypothesis =>
      rw [inductionHypothesis (Nat.succ_pos depth), reaches_open isOpen]
  | case3 depth rest _ last =>
      have only : depth = 1 := by omega
      rw [only]
      exact iff_of_false Bool.false_ne_true not_reaches_close
  | case4 depth rest _ more inductionHypothesis =>
      rw [inductionHypothesis (by omega), reaches_close (by omega)]
  | case5 depth token rest opens closes dynamic =>
      rw [reaches_other isOpen opens closes]
      simp [dynamic]
  | case6 depth token rest opens closes static inductionHypothesis =>
      rw [inductionHypothesis isOpen, reaches_other isOpen opens closes, or_iff_right static]

/-! ## Positions -/

/-- A call of a callee begins at a position, and the token at another one, inside its parentheses,
is more than a literal. -/
structure IsDynamicCall (callee tokens : List String) (start place : Nat) : Prop where
  named : tokens.extract start (start + callee.length) = callee
  opens : tokens[start + callee.length]? = some "("
  whole : start = 0 ∨ tokens[start - 1]? ≠ some "."
  behind : start + callee.length < place
  unclosed : ∀ arguments, arguments ≠ [] →
    arguments <+: tokens.extract (start + callee.length) place →
    arguments.count ")" < arguments.count "("
  dynamic : ∃ token, tokens[place]? = some token ∧
    (token = Token.interpolatedLiteral ∨ token = "+" ∨ Token.isIdentifier token = true)

/-- The token before a position, where the line goes on behind another token or begins. -/
def before (previous : Option String) (tokens : List String) (start : Nat) : Option String :=
  if start = 0 then previous else tokens[start - 1]?

theorem before_succ (previous : Option String) (token : String) (rest : List String)
    (start : Nat) :
    before previous (token :: rest) (start + 1) = before (some token) rest start := by
  cases start <;> rfl

theorem callsHere_nil (callee : List String) (previous : Option String) :
    callsHere callee previous [] = false := by
  simp [callsHere]

theorem callsFrom_iff {callee tokens : List String} {previous : Option String} :
    callsFrom callee previous tokens = true ↔
      ∃ start, callsHere callee (before previous tokens start) (tokens.drop start) = true := by
  induction tokens generalizing previous with
  | nil => simp [callsFrom, callsHere_nil]
  | cons token rest inductionHypothesis =>
      rw [callsFrom, Bool.or_eq_true, ← Nat.or_exists_add_one, inductionHypothesis]
      refine or_congr Iff.rfl (exists_congr fun start => ?_)
      rw [before_succ, List.drop_succ_cons]

theorem isDynamicToken_iff {token : String} :
    isDynamicToken token = true ↔
      token = Token.interpolatedLiteral ∨ token = "+" ∨ Token.isIdentifier token = true := by
  simp [isDynamicToken, or_assoc]

/-- Whether a dynamic call begins at a position. -/
def callsAt (callee tokens : List String) (start : Nat) : Bool :=
  callsHere callee (before none tokens start) (tokens.drop start)

theorem drop_eq_cons {tokens : List String} {opening : Nat} {token : String}
    (found : tokens[opening]? = some token) :
    tokens.drop opening = token :: tokens.drop (opening + 1) := by
  obtain ⟨inside, same⟩ := List.getElem?_eq_some_iff.mp found
  rw [List.drop_eq_getElem_cons inside, same]

theorem callsAt_iff {callee tokens : List String} {start : Nat} :
    callsAt callee tokens start = true ↔
      tokens.extract start (start + callee.length) = callee ∧
      tokens[start + callee.length]? = some "(" ∧
      (start = 0 ∨ tokens[start - 1]? ≠ some ".") ∧
      argumentsAreDynamic 0 (tokens.drop (start + callee.length)) = true := by
  have named : callee.isPrefixOf (tokens.drop start) = true ↔
      tokens.extract start (start + callee.length) = callee := by
    rw [List.isPrefixOf_iff_prefix, List.prefix_iff_eq_take, eq_comm, List.extract_eq_take_drop,
      Nat.add_sub_cancel_left]
  have whole : (before none tokens start != some ".") = true ↔
      start = 0 ∨ tokens[start - 1]? ≠ some "." := by
    unfold before
    split <;> simp_all
  rw [callsAt, callsHere]
  simp only [Bool.and_eq_true, named, whole, List.drop_drop, List.head?_drop, beq_iff_eq, and_assoc]

theorem argumentsAreDynamic_open (rest : List String) :
    argumentsAreDynamic 0 ("(" :: rest) = argumentsAreDynamic 1 rest := by
  rw [argumentsAreDynamic, if_pos rfl]

theorem argumentsAreDynamic_drop_iff {tokens : List String} {opening : Nat}
    (opens : tokens[opening]? = some "(") :
    argumentsAreDynamic 0 (tokens.drop opening) = true ↔
      ∃ place, Reaches 1 (tokens.drop (opening + 1)) place := by
  rw [drop_eq_cons opens, argumentsAreDynamic_open, argumentsAreDynamic_iff Nat.one_pos]

theorem reaches_iff {tokens : List String} {opening place : Nat}
    (opens : tokens[opening]? = some "(") :
    Reaches 1 (tokens.drop (opening + 1)) place ↔
      (∀ arguments, arguments ≠ [] →
        arguments <+: tokens.extract opening (opening + 1 + place) →
        arguments.count ")" < arguments.count "(") ∧
      ∃ token, tokens[opening + 1 + place]? = some token ∧
        (token = Token.interpolatedLiteral ∨ token = "+" ∨ Token.isIdentifier token = true) := by
  have inside : tokens.extract opening (opening + 1 + place) =
      "(" :: (tokens.drop (opening + 1)).take place := by
    rw [List.extract_eq_take_drop, drop_eq_cons opens, Nat.add_assoc, Nat.add_sub_cancel_left,
      Nat.add_comm 1 place, List.take_succ_cons]
  simp only [← isDynamicToken_iff, ← List.getElem?_drop, inside]
  generalize tokens.drop (opening + 1) = rest
  constructor
  · rintro ⟨dynamic, unclosed⟩
    refine ⟨?_, dynamic⟩
    intro arguments nonempty first
    obtain _ | ⟨_, more⟩ := arguments
    · contradiction
    · obtain ⟨rfl, within⟩ := List.cons_prefix_cons.mp first
      rw [List.prefix_iff_eq_take, List.take_take] at within
      have balanced := unclosed (min more.length place) (Nat.min_le_right ..)
      rw [← within] at balanced
      simp only [List.count_cons_self, List.count_cons_of_ne (show "(" ≠ ")" by decide)]
      omega
  · rintro ⟨unclosed, dynamic⟩
    refine ⟨dynamic, fun count before => ?_⟩
    have balanced := unclosed ("(" :: rest.take count) (List.cons_ne_nil _ _)
      (List.cons_prefix_cons.mpr ⟨rfl, List.take_prefix_take_left before⟩)
    simp only [List.count_cons_self, List.count_cons_of_ne (show "(" ≠ ")" by decide)] at balanced
    omega

theorem hasDynamicCall_iff_callsAt {callee tokens : List String} :
    hasDynamicCall callee tokens = true ↔
      callee ≠ [] ∧ ∃ start, callsAt callee tokens start = true := by
  rw [hasDynamicCall, Bool.and_eq_true, callsFrom_iff]
  exact and_congr (by simp) Iff.rfl

theorem hasDynamicCall_iff {callee tokens : List String} :
    hasDynamicCall callee tokens = true ↔
      callee ≠ [] ∧ ∃ start place, IsDynamicCall callee tokens start place := by
  rw [hasDynamicCall_iff_callsAt]
  refine and_congr_right fun _ => exists_congr fun start => callsAt_iff.trans ?_
  constructor
  · rintro ⟨named, opens, whole, arguments⟩
    obtain ⟨place, reached⟩ := (argumentsAreDynamic_drop_iff opens).mp arguments
    obtain ⟨unclosed, dynamic⟩ := (reaches_iff opens).mp reached
    exact ⟨_, named, opens, whole, by omega, unclosed, dynamic⟩
  · rintro ⟨place, named, opens, whole, behind, unclosed, dynamic⟩
    refine ⟨named, opens, whole, (argumentsAreDynamic_drop_iff opens).mpr
      ⟨place - (start + callee.length + 1), (reaches_iff opens).mpr ?_⟩⟩
    rw [Nat.add_sub_cancel' behind]
    exact ⟨unclosed, dynamic⟩

/-! ## A search that can fail -/

/-- A difference that is not below zero. -/
def difference? (left right : Nat) : Option Nat :=
  if right ≤ left then some (left - right) else none

/-- The tokens between two positions of a line. -/
def slice? (tokens : List String) (first last : Nat) : Option (List String) :=
  if first ≤ last ∧ last ≤ tokens.length then some (tokens.extract first last) else none

/-- Whether an argument is dynamic, with a count of what is open that may not fall below zero. -/
def argumentsAreDynamic? : Nat → List String → Option Bool
  | _, [] => some false
  | depth, token :: rest =>
      if token = "(" then argumentsAreDynamic? (depth + 1) rest
      else if token = ")" then do
        let depth ← difference? depth 1
        if depth = 0 then return false
        argumentsAreDynamic? depth rest
      else if isDynamicToken token then some true
      else argumentsAreDynamic? depth rest

/-- Whether a dynamic call begins at a position. -/
def callsAt? (callee tokens : List String) (start : Nat) : Option Bool := do
  let opening := start + callee.length
  if (← slice? tokens start opening) ≠ callee then return false
  if (← tokens[opening]?) ≠ "(" then return false
  if 0 < start then
    if (← tokens[← difference? start 1]?) = "." then return false
  argumentsAreDynamic? 0 (← slice? tokens opening tokens.length)

/-- Whether a dynamic call begins at a position where the callee and a parenthesis have room. -/
def hasDynamicCall? (callee tokens : List String) : Option Bool :=
  if callee = [] ∨ tokens.length ≤ callee.length then some false
  else do
    let positions ← difference? tokens.length callee.length
    (List.range positions).anyM (callsAt? callee tokens)

theorem argumentsAreDynamic?_eq {depth : Nat} (isOpen : 0 < depth) (tokens : List String) :
    argumentsAreDynamic? depth tokens = some (argumentsAreDynamic depth tokens) := by
  fun_induction argumentsAreDynamic depth tokens with
  | case1 depth => rfl
  | case2 depth rest inductionHypothesis =>
      rw [argumentsAreDynamic?, if_pos rfl, inductionHypothesis (Nat.succ_pos depth)]
  | case3 depth rest opens last =>
      have only : depth = 1 := by omega
      rw [only]
      rfl
  | case4 depth rest more opens inductionHypothesis =>
      have positive : 1 ≤ depth := by omega
      have left : ¬ depth - 1 = 0 := by omega
      rw [argumentsAreDynamic?, if_neg opens, if_pos rfl, difference?, if_pos positive]
      simp only [Option.bind_eq_bind, Option.bind_some, if_neg left]
      exact inductionHypothesis (by omega)
  | case5 depth token rest opens closes dynamic =>
      rw [argumentsAreDynamic?, if_neg opens, if_neg closes, if_pos dynamic]
  | case6 depth token rest opens closes static inductionHypothesis =>
      rw [argumentsAreDynamic?, if_neg opens, if_neg closes, if_neg static,
        inductionHypothesis isOpen]

theorem argumentsAreDynamic?_open (rest : List String) :
    argumentsAreDynamic? 0 ("(" :: rest) = some (argumentsAreDynamic 0 ("(" :: rest)) := by
  rw [argumentsAreDynamic?, if_pos rfl, argumentsAreDynamic?_eq Nat.one_pos,
    argumentsAreDynamic_open]

theorem callsAt?_eq {callee tokens : List String} {start : Nat}
    (room : start + callee.length < tokens.length) :
    callsAt? callee tokens start = some (callsAt callee tokens start) := by
  have named : slice? tokens start (start + callee.length) =
      some (tokens.extract start (start + callee.length)) := if_pos ⟨by omega, by omega⟩
  have arguments : slice? tokens (start + callee.length) tokens.length =
      some (tokens.drop (start + callee.length)) := by
    rw [slice?, if_pos ⟨by omega, by omega⟩, List.extract_eq_take_drop,
      List.take_of_length_le (by simp)]
  have opening := List.getElem?_eq_getElem room
  have without : ∀ {condition : Prop}, (callsAt callee tokens start = true → condition) →
      ¬condition → pure false = some (callsAt callee tokens start) :=
    fun needed fails => congrArg some (Bool.eq_false_iff.mpr (mt needed fails)).symm
  unfold callsAt?
  simp only [named, arguments, opening, Option.bind_eq_bind, Option.bind_some]
  -- The checks come one after the other; where one fails no call begins here.
  by_cases same : tokens.extract start (start + callee.length) = callee
  case neg => exact (if_pos same).trans (without (fun calls => (callsAt_iff.mp calls).1) same)
  by_cases opens : tokens[start + callee.length] = "("
  case neg =>
    rw [if_neg (not_not_intro same), if_pos opens]
    refine without (fun calls => (callsAt_iff.mp calls).2.1) ?_
    simpa [opening] using opens
  rw [if_neg (not_not_intro same), if_neg (not_not_intro opens)]
  rw [opens] at opening
  have found (whole : start = 0 ∨ tokens[start - 1]? ≠ some ".") :
      argumentsAreDynamic? 0 (tokens.drop (start + callee.length)) =
        some (callsAt callee tokens start) := by
    rw [drop_eq_cons opening, argumentsAreDynamic?_open, ← drop_eq_cons opening]
    refine congrArg some (Bool.eq_iff_iff.mpr ?_)
    rw [callsAt_iff]
    tauto
  cases start with
  | zero => exact found (.inl rfl)
  | succ previous =>
      have inside : previous < tokens.length := by omega
      have last : tokens[previous]? = some tokens[previous] := List.getElem?_eq_getElem inside
      rw [if_pos previous.succ_pos, difference?, if_pos (Nat.le_add_left 1 previous)]
      simp only [Option.bind_some, Nat.add_sub_cancel, last]
      split
      case isTrue dot =>
        refine without (fun calls => (callsAt_iff.mp calls).2.2.1) ?_
        simp [last, dot]
      case isFalse noDot =>
        refine found (.inr ?_)
        simpa [last] using noDot

theorem anyM_eq {search : Nat → Option Bool} {found : Nat → Bool} {positions : List Nat}
    (same : ∀ position ∈ positions, search position = some (found position)) :
    positions.anyM search = some (positions.any found) := by
  induction positions with
  | nil => rfl
  | cons position rest inductionHypothesis =>
      rw [List.anyM, same position List.mem_cons_self, List.any_cons]
      cases found position with
      | true => rfl
      | false => exact inductionHypothesis fun later among => same later (.tail _ among)

theorem hasDynamicCall?_eq (callee tokens : List String) :
    hasDynamicCall? callee tokens = some (hasDynamicCall callee tokens) := by
  have inside {start : Nat} (calls : callsAt callee tokens start = true) :
      start + callee.length < tokens.length :=
    (List.getElem?_eq_some_iff.mp (callsAt_iff.mp calls).2.1).1
  unfold hasDynamicCall?
  split
  case isTrue absent =>
    refine congrArg some (Bool.eq_false_iff.mpr fun called => ?_).symm
    obtain ⟨nonempty, start, calls⟩ := hasDynamicCall_iff_callsAt.mp called
    have room := inside calls
    have short := absent.resolve_left nonempty
    omega
  case isFalse present =>
    obtain ⟨nonempty, long⟩ := not_or.mp present
    have searched : (List.range (tokens.length - callee.length)).anyM (callsAt? callee tokens) =
        some ((List.range (tokens.length - callee.length)).any (callsAt callee tokens)) := by
      refine anyM_eq fun start among => callsAt?_eq ?_
      have room := List.mem_range.mp among
      omega
    rw [difference?, if_pos (by omega)]
    refine searched.trans (congrArg some (Bool.eq_iff_iff.mpr ?_))
    rw [hasDynamicCall_iff_callsAt, List.any_eq_true]
    constructor
    · rintro ⟨start, -, calls⟩
      exact ⟨nonempty, start, calls⟩
    · rintro ⟨-, start, calls⟩
      have room := inside calls
      exact ⟨start, List.mem_range.mpr (by omega), calls⟩

/-- The search by positions never leaves the line and never counts below zero.  It agrees with the
matcher, which accepts a line exactly if there is a dynamic call on it. -/
theorem matchesTokens_dynamicCall (callee : String) (tokens : List String) :
    hasDynamicCall? (Token.ofLine callee) tokens =
        some ((Shape.dynamicCall callee).matchesTokens tokens) ∧
      ((Shape.dynamicCall callee).matchesTokens tokens = true ↔
        Token.ofLine callee ≠ [] ∧
          ∃ start place, IsDynamicCall (Token.ofLine callee) tokens start place) :=
  ⟨hasDynamicCall?_eq _ _, hasDynamicCall_iff⟩

end ReviewGate.Shape
