import ReviewGate.Proofs.Gate.System
import ReviewGate.Proofs.Pattern.Lifecycle

/-!
# Successions

Whoever switches a rule off notes its successor, or that it has none, over whatever was noted
before.  Nothing else touches the note.  So a successor stays noted exactly as long as nobody
switches the rule off once more and notes something else.
-/

namespace ReviewGate

variable {K : Type}

namespace Library

/-! ## Notes of a library -/

/-- The successor that a rule is said to have. -/
def successor? (library : Library) (ruleId : String) : Option String :=
  (library.get? ruleId).bind Rule.supersededBy

/-- What an edit says of the successor of a rule, if it switches the rule off. -/
def Edit.note? (ruleId : String) : Edit → Option (Option String)
  | insert _ => none
  | deactivate retired successor => if retired = ruleId then some successor else none
  | supersede retired replacement => if retired = ruleId then some (some replacement.id) else none

/-- What is noted of the successor of a rule when an edit is tried. -/
def noted? (library : Library) (ruleId : String) (edit : Edit) : Option (Option String) :=
  if (library.publish edit).isOk then edit.note? ruleId else none

theorem exists_get?_of_successor? {library : Library} {ruleId successor : String}
    (noted : library.successor? ruleId = some successor) :
    ∃ rule, library.get? ruleId = some rule := by
  obtain ⟨rule, found, -⟩ := Option.bind_eq_some_iff.mp noted
  exact ⟨rule, found⟩

/-- Rules are found by their ids, whichever of them are switched off and whatever comes behind
them. -/
theorem get?_switchOff {library : Library} {ruleId : String} {rule : Rule}
    (found : library.get? ruleId = some rule) (retired : String) (successor : Option String)
    (version : Nat) (more : List CompiledRule) :
    get? ⟨version, switchOff retired successor library.rules ++ more⟩ ruleId =
      some (if retired = ruleId then { rule with active := false, supersededBy := successor }
        else rule) := by
  have sameIds : ((fun entry : CompiledRule => entry.rule.id == ruleId) ∘ fun entry =>
      if entry.rule.id = retired then entry.deactivate successor else entry) =
      fun entry => entry.rule.id == ruleId := by
    funext entry
    simp only [Function.comp_apply]
    split <;> rfl
  obtain ⟨entry, first, rfl⟩ := Option.map_eq_some_iff.mp found
  have named : entry.rule.id = ruleId := by simpa using List.find?_some first
  simp only [get?, switchOff, List.find?_append, List.find?_map, sameIds, first, Option.map_some,
    Option.some_or]
  by_cases same : retired = ruleId
  · rw [if_pos (named.trans same.symm), if_pos same]
    rfl
  · rw [if_neg fun alike => same (alike.symm.trans named), if_neg same]

theorem get?_append {library : Library} {ruleId : String} {rule : Rule}
    (found : library.get? ruleId = some rule) (version : Nat) (more : List CompiledRule) :
    get? ⟨version, library.rules ++ more⟩ ruleId = some rule := by
  obtain ⟨entry, first, rfl⟩ := Option.map_eq_some_iff.mp found
  simp [get?, List.find?_append, first]

theorem Publishes.successor? {library later : Library} {edit : Edit} {ruleId : String} {rule : Rule}
    (publishes : library.Publishes edit later) (distinct : library.ids.Nodup)
    (found : library.get? ruleId = some rule) :
    later.successor? ruleId = (edit.note? ruleId).getD (library.successor? ruleId) := by
  cases publishes with
  | insert new made => simp [Library.successor?, get?_append found, found, Edit.note?]
  | @deactivate place old successor there =>
      have kept := get?_switchOff found old.rule.id successor (library.version + 1) []
      rw [List.append_nil, switchOff_eq_set distinct there] at kept
      simp only [Library.successor?, kept, found, Edit.note?, Option.bind_some]
      split <;> rfl
  | @supersede place old entry replacement there new made =>
      rw [← switchOff_eq_set distinct there]
      simp only [Library.successor?, get?_switchOff found, found, Edit.note?, Option.bind_some]
      split <;> rfl

/-- After an edit a rule has the successor that the edit has noted, and otherwise the one it had. -/
theorem successor?_edit {library : Library} {ruleId : String} {rule : Rule}
    (distinct : library.ids.Nodup) (found : library.get? ruleId = some rule) (edit : Edit) :
    (library.edit edit).successor? ruleId =
      (library.noted? ruleId edit).getD (library.successor? ruleId) := by
  rcases edit_cases distinct edit with
    ⟨later, published, same, publishes⟩ | ⟨cause, refused, same⟩
  · rw [same, noted?, published]
    exact publishes.successor? distinct found
  · rw [same, noted?, refused]
    rfl

end Library

namespace Gate

/-! ## Notes of a gate -/

/-- What is done to the library of a gate: somebody edits it or has the gate switch a rule off, or
the storage changes its mind about what it refuses. -/
inductive Upkeep where
  | change (edit : Library.Edit)
  | deactivateRule (now : Instant) (ruleId : String) (successor : Option String)
  | refuse (refusal : Refusal)

/-- The edit that is tried. -/
def Upkeep.edit? : Upkeep → Option Library.Edit
  | change edit => some edit
  | deactivateRule _ ruleId successor => some (.deactivate ruleId successor)
  | refuse _ => none

/-- The gate after one of these. -/
def tend (gate : Gate K) : Upkeep → Gate K
  | .change edit =>
      { gate with learner := { gate.learner with library := gate.library.edit edit } }
  | .deactivateRule now ruleId successor => (gate.deactivateRule now ruleId successor).2
  | .refuse refusal => { gate with engine := { gate.engine with refusal } }

def tendAll (gate : Gate K) (upkeep : List Upkeep) : Gate K := upkeep.foldl tend gate

/-- What is noted of the successor of a rule. -/
def noted? (gate : Gate K) (ruleId : String) (upkeep : Upkeep) : Option (Option String) :=
  upkeep.edit?.bind (gate.library.noted? ruleId)

@[simp]
theorem tendAll_concat (gate : Gate K) (upkeep : List Upkeep) (last : Upkeep) :
    gate.tendAll (upkeep ++ [last]) = (gate.tendAll upkeep).tend last := by
  simp [tendAll]

/-- A rule is switched off whether or not the storage takes the entry that tells of it. -/
theorem library_deactivateRule (gate : Gate K) (now : Instant) (ruleId : String)
    (successor : Option String) :
    (gate.deactivateRule now ruleId successor).2.library =
      gate.library.edit (.deactivate ruleId successor) := by
  rw [Library.edit, deactivateRule]
  rcases gate.library.deactivateInPlace ruleId successor with ⟨cause | rule, library⟩
  · rfl
  · dsimp only
    split
    · rfl
    · rename_i later written
      rw [writeEvents_eq_ok written]
      rfl

theorem library_tend (gate : Gate K) (upkeep : Upkeep) :
    (gate.tend upkeep).library = upkeep.edit?.elim gate.library gate.library.edit := by
  cases upkeep with
  | change edit => rfl
  | deactivateRule now ruleId successor => exact gate.library_deactivateRule now ruleId successor
  | refuse refusal => rfl

theorem nodup_tendAll {gate : Gate K} (distinct : gate.library.ids.Nodup)
    (upkeep : List Upkeep) : (gate.tendAll upkeep).library.ids.Nodup := by
  induction upkeep using List.reverseRecOn with
  | nil => exact distinct
  | append_singleton upkeep last inductionHypothesis =>
      rw [tendAll_concat, library_tend]
      cases last.edit? with
      | none => exact inductionHypothesis
      | some edit => exact Library.nodup_run inductionHypothesis [edit]

theorem successor?_tend {gate : Gate K} {ruleId : String} {rule : Rule}
    (distinct : gate.library.ids.Nodup) (found : gate.library.get? ruleId = some rule)
    (upkeep : Upkeep) :
    (gate.tend upkeep).library.successor? ruleId =
      (gate.noted? ruleId upkeep).getD (gate.library.successor? ruleId) := by
  rw [library_tend, noted?]
  cases upkeep.edit? with
  | none => rfl
  | some edit => exact Library.successor?_edit distinct found edit

/-- Once a rule of a library that was founded has a successor, it has the same one in all later
libraries exactly if nobody notes anything else of it. -/
theorem successor?_tendAll_iff {rules : List Rule} {gate : Gate K}
    (founded : Library.Founded rules gate.library) (before : List Upkeep)
    {ruleId successor : String}
    (recorded : (gate.tendAll before).library.successor? ruleId = some successor)
    (after : List Upkeep) :
    (∀ count, (gate.tendAll (before ++ after.take count)).library.successor? ruleId =
        some successor) ↔
      ∀ (count : Nat) (upkeep : Upkeep) (named : Option String), after[count]? = some upkeep →
        (gate.tendAll (before ++ after.take count)).noted? ruleId upkeep = some named →
          named = some successor := by
  -- One more of the later steps: what it notes counts, and otherwise what was noted before it.
  have step {count : Nat} {upkeep : Upkeep} (next : after[count]? = some upkeep)
      (kept : (gate.tendAll (before ++ after.take count)).library.successor? ruleId =
        some successor) :
      (gate.tendAll (before ++ after.take (count + 1))).library.successor? ruleId =
        ((gate.tendAll (before ++ after.take count)).noted? ruleId upkeep).getD
          (some successor) := by
    obtain ⟨rule, found⟩ := Library.exists_get?_of_successor? kept
    have told := successor?_tend (nodup_tendAll founded.nodup _) found upkeep
    rw [kept] at told
    rw [List.take_add_one, next, Option.toList_some, ← List.append_assoc, tendAll_concat, told]
  constructor
  · intro stays count upkeep named next noted
    have told := step next (stays count)
    rw [stays (count + 1), noted] at told
    exact told.symm
  · intro agree count
    induction count with
    | zero => simpa using recorded
    | succ count inductionHypothesis =>
        cases next : after[count]? with
        | none =>
            have ended : after.take (count + 1) = after.take count := by
              rw [List.take_add_one, next, Option.toList_none, List.append_nil]
            rw [ended]
            exact inductionHypothesis
        | some upkeep =>
            rw [step next inductionHypothesis]
            cases noted : (gate.tendAll (before ++ after.take count)).noted? ruleId upkeep with
            | none => rfl
            | some named => exact agree count upkeep named next noted

/-! ## A rule that was replaced -/

/-- A gate with two rules. -/
def paired : Gate LocalKeys := Small.gateWith .default Library.pair none Small.staffed

theorem founded_paired :
    Library.Founded [Library.sample "eval", Library.sample "system"] paired.library :=
  .ofRules rfl

/-- The storage becomes full, and one of the rules is replaced. -/
def replacement : List Upkeep :=
  [.refuse fun _ => some (.unavailable "disk full"),
    .change (.supersede "eval" (Library.sample "exec"))]

/-- The other rule is switched off, and so is the one that was replaced, for the same successor. -/
def retirements : List Upkeep :=
  [.deactivateRule Small.now "system" none, .deactivateRule Small.now "eval" (some "exec")]

theorem successor?_retirements :
    Library.Founded [Library.sample "eval", Library.sample "system"] paired.library ∧
      (paired.tendAll replacement).library.successor? "eval" = some "exec" ∧
      ∀ count, (paired.tendAll (replacement ++ retirements.take count)).library.successor? "eval" =
        some "exec" := by
  have recorded : (paired.tendAll replacement).library.successor? "eval" = some "exec" := by
    decide +kernel
  refine ⟨founded_paired, recorded,
    (successor?_tendAll_iff founded_paired replacement recorded retirements).mpr ?_⟩
  intro count upkeep named next noted
  rcases count with _ | _ | count
  · cases next
    have silent : (paired.tendAll (replacement ++ retirements.take 0)).noted? "eval"
        (.deactivateRule Small.now "system" none) = none := by decide +kernel
    cases silent.symm.trans noted
  · cases next
    have told : (paired.tendAll (replacement ++ retirements.take 1)).noted? "eval"
        (.deactivateRule Small.now "eval" (some "exec")) = some (some "exec") := by decide +kernel
    cases told.symm.trans noted
    rfl
  · simp [retirements] at next

/-- A rule that was replaced is switched off once more, and nothing tells of its successor, which is
there and active; or it is replaced once more, and the second replacement stands in place of the
first. -/
theorem successor?_lost :
    Library.Founded [Library.sample "eval", Library.sample "system"] paired.library ∧
      (paired.tendAll replacement).library.successor? "eval" = some "exec" ∧
      (paired.tendAll (replacement ++ [.change (.deactivate "eval" none)])).library.successor?
        "eval" = none ∧
      (paired.tendAll (replacement ++ [.deactivateRule Small.now "eval" none])).library.successor?
        "eval" = none ∧
      ((paired.tendAll (replacement ++ [.deactivateRule Small.now "eval" none])).library.get?
        "exec").map (·.active) = some true ∧
      (paired.tendAll (replacement ++
        [.change (.supersede "eval" (Library.sample "run"))])).library.successor? "eval" =
          some "run" :=
  ⟨founded_paired, by decide +kernel, by decide +kernel, by decide +kernel, by decide +kernel,
    by decide +kernel⟩

end Gate

end ReviewGate
