import Mathlib.Data.List.Induction
import ReviewGate.Proofs.Pattern.Learning

/-!
# The life of a library

A library is founded with its first rules, or with none, and is edited from then on.  An edit
succeeds exactly where the ids it names are as it needs them and its rule can be compiled; a success
makes the next version, and a failure leaves the library.  Rules keep their places and what they
say, and a rule that is off stays off.
-/

namespace ReviewGate

/-- A rule and the same rule later: only its activity and its successor have changed, and it has not
been switched on. -/
structure Rule.Ages (rule later : Rule) : Prop where
  same : later = { rule with active := later.active, supersededBy := later.supersededBy }
  off : rule.active = false → later.active = false

namespace Rule

theorem Ages.refl (rule : Rule) : rule.Ages rule := ⟨rfl, fun off => off⟩

theorem Ages.trans {rule later last : Rule} (first : rule.Ages later) (second : later.Ages last) :
    rule.Ages last := by
  refine ⟨?_, fun off => second.off (first.off off)⟩
  rw [second.same, first.same]

theorem ages_deactivate (entry : CompiledRule) (successor : Option String) :
    entry.rule.Ages (entry.deactivate successor).rule := ⟨rfl, fun _ => rfl⟩

end Rule

theorem CompiledRule.exists_ofRule_iff {rule : Rule} :
    (∃ entry, ofRule rule = .ok entry) ↔ ∃ matcher, rule.matcher.compile = .ok matcher := by
  constructor
  · rintro ⟨entry, made⟩
    exact ⟨entry.matcher, rule_of_ofRule made ▸ entry.compiled⟩
  · rintro ⟨matcher, compiles⟩
    exact ofRule_of_compile compiles

namespace Library

def ids (library : Library) : List String := library.rules.map fun entry => entry.rule.id

theorem isSome_get?_iff_mem_ids {library : Library} {ruleId : String} :
    (library.get? ruleId).isSome = true ↔ ruleId ∈ library.ids := by
  rw [isSome_get?_iff, ids, List.mem_map]

/-! ## Edits -/

/-- What a library is asked to change. -/
inductive Edit where
  | insert (rule : Rule)
  | deactivate (ruleId : String) (successor : Option String)
  | supersede (ruleId : String) (replacement : Rule)

/-- The rule that an edit brings. -/
def Edit.added? : Edit → Option Rule
  | insert rule => some rule
  | deactivate .. => none
  | supersede _ replacement => some replacement

/-- The id that an edit takes for known. -/
def Edit.known? : Edit → Option String
  | insert _ => none
  | deactivate ruleId _ => some ruleId
  | supersede ruleId _ => some ruleId

/-- What comes of an edit. -/
def publish (library : Library) : Edit → Except LibraryError Library
  | .insert rule => library.insert rule
  | .deactivate ruleId successor => Prod.snd <$> library.deactivate ruleId successor
  | .supersede ruleId replacement => library.supersede ruleId replacement

/-- The library that an edit leaves, whether it fails or not. -/
def edit (library : Library) : Edit → Library
  | .insert rule => (library.insertInPlace rule).2
  | .deactivate ruleId successor => (library.deactivateInPlace ruleId successor).2
  | .supersede ruleId replacement => (library.supersedeInPlace ruleId replacement).2

def run (library : Library) (edits : List Edit) : Library := edits.foldl Library.edit library

/-- How many of some edits succeed. -/
def successes (library : Library) : List Edit → Nat
  | [] => 0
  | edit :: edits =>
      (if (library.publish edit).isOk then 1 else 0) + (library.edit edit).successes edits

theorem run_cons (library : Library) (edit : Edit) (edits : List Edit) :
    library.run (edit :: edits) = (library.edit edit).run edits := rfl

theorem run_append (library : Library) (edits more : List Edit) :
    library.run (edits ++ more) = (library.run edits).run more := by
  simp [run]

@[simp]
theorem run_concat (library : Library) (edits : List Edit) (edit : Edit) :
    library.run (edits ++ [edit]) = (library.run edits).edit edit := by
  simp [run]

theorem edit_of_ok {library later : Library} {edit : Edit}
    (published : library.publish edit = .ok later) : library.edit edit = later := by
  cases edit with
  | insert | deactivate | supersede => exact snd_eq_of_together published

theorem edit_of_error {library : Library} {edit : Edit} {cause : LibraryError}
    (refused : library.publish edit = .error cause) : library.edit edit = library := by
  cases edit with
  | insert rule => exact (library.spares_insertInPlace rule).snd_eq_of_together refused
  | deactivate ruleId successor =>
      exact (library.spares_deactivateInPlace ruleId successor).snd_eq_of_together refused
  | supersede ruleId replacement =>
      exact (library.spares_supersedeInPlace ruleId replacement).snd_eq_of_together refused

/-! ## What one edit does -/

/-- An edit can be made: its rule has a new id and a matcher that compiles, and the id that it takes
for known is known. -/
structure Admits (library : Library) (edit : Edit) : Prop where
  new : ∀ rule, edit.added? = some rule →
    rule.id ∉ library.ids ∧ ∃ matcher, rule.matcher.compile = .ok matcher
  known : ∀ ruleId, edit.known? = some ruleId → ruleId ∈ library.ids

/-- What an edit that succeeds makes of a library: the next version, with one rule switched off in
its place, with one more rule at the end, or with both. -/
inductive Publishes (library : Library) : Edit → Library → Prop where
  | insert {rule : Rule} {entry : CompiledRule} (new : rule.id ∉ library.ids)
      (made : entry.rule = { rule with version := library.version + 1 }) :
      Publishes library (.insert rule) ⟨library.version + 1, library.rules ++ [entry]⟩
  | deactivate {place : Nat} {old : CompiledRule} {successor : Option String}
      (found : library.rules[place]? = some old) :
      Publishes library (.deactivate old.rule.id successor)
        ⟨library.version + 1, library.rules.set place (old.deactivate successor)⟩
  | supersede {place : Nat} {old entry : CompiledRule} {replacement : Rule}
      (found : library.rules[place]? = some old) (new : replacement.id ∉ library.ids)
      (made : entry.rule = { replacement with version := library.version + 1 }) :
      Publishes library (.supersede old.rule.id replacement)
        ⟨library.version + 1,
          library.rules.set place (old.deactivate (some replacement.id)) ++ [entry]⟩

/-- Of rules with distinct ids, one is switched off. -/
theorem switchOff_eq_set {entries : List CompiledRule} {place : Nat} {old : CompiledRule}
    (distinct : (entries.map fun entry => entry.rule.id).Nodup)
    (found : entries[place]? = some old) (successor : Option String) :
    switchOff old.rule.id successor entries = entries.set place (old.deactivate successor) := by
  obtain ⟨below, here⟩ := List.getElem?_eq_some_iff.mp found
  apply List.ext_getElem?
  intro index
  rw [switchOff, List.getElem?_map]
  by_cases same : place = index
  · subst same
    simp [below, here]
  · rw [List.getElem?_set_ne same]
    cases other : entries[index]? with
    | none => rfl
    | some entry =>
        have differs : entry.rule.id ≠ old.rule.id := by
          intro alike
          apply same
          apply (List.getElem?_inj (by simpa using below) distinct).mp
          simp [List.getElem?_map, found, other, alike]
        simp [differs]

theorem exists_place_of_mem_ids {library : Library} {ruleId : String}
    (known : ruleId ∈ library.ids) :
    ∃ (place : Nat) (old : CompiledRule), library.rules[place]? = some old ∧
      old.rule.id = ruleId := by
  obtain ⟨old, present, named⟩ := List.mem_map.mp known
  obtain ⟨place, found⟩ := List.mem_iff_getElem?.mp present
  exact ⟨place, old, found, named⟩

/-- A rule is made an entry of the version to come, or its matcher does not compile. -/
theorem ofRule_cases (rule : Rule) (version : Nat) :
    (∃ entry, CompiledRule.ofRule { rule with version := version } = .ok entry ∧
        entry.rule = { rule with version := version } ∧
        ∃ matcher, rule.matcher.compile = .ok matcher) ∨
      ∃ cause, CompiledRule.ofRule { rule with version := version } = .error cause ∧
        ¬∃ matcher, rule.matcher.compile = .ok matcher := by
  have compiles : (∃ entry, CompiledRule.ofRule { rule with version := version } = .ok entry) ↔
      ∃ matcher, rule.matcher.compile = .ok matcher := CompiledRule.exists_ofRule_iff
  rw [← compiles]
  cases made : CompiledRule.ofRule { rule with version := version } with
  | ok entry => exact .inl ⟨entry, rfl, CompiledRule.rule_of_ofRule made, entry, rfl⟩
  | error cause => exact .inr ⟨cause, rfl, by simp⟩

/-- An edit that can be made is made, and any other one fails. -/
inductive Settles (library : Library) (edit : Edit) : Prop where
  | made {later : Library} (published : library.publish edit = .ok later)
      (admits : library.Admits edit) (publishes : library.Publishes edit later)
  | failed (cause : LibraryError) (refused : library.publish edit = .error cause)
      (unfit : ¬library.Admits edit)

theorem settles_insert (library : Library) (rule : Rule) : library.Settles (.insert rule) := by
  by_cases known : rule.id ∈ library.ids
  · refine .failed (.duplicateRule rule.id) ?_ fun admits => (admits.new rule rfl).1 known
    rw [publish, insert, insertInPlace, if_pos (isSome_get?_iff_mem_ids.mpr known)]
    rfl
  · have absent : ¬(library.get? rule.id).isSome = true := by rwa [isSome_get?_iff_mem_ids]
    rcases ofRule_cases rule (library.version + 1) with
      ⟨entry, made, same, compiles⟩ | ⟨cause, failed, broken⟩
    · refine .made ?_ ⟨?_, ?_⟩ (.insert known same)
      · simp only [publish, insert, insertInPlace, if_neg absent, made]
        rfl
      · rintro _ ⟨⟩
        exact ⟨known, compiles⟩
      · rintro _ ⟨⟩
    · refine .failed cause ?_ fun admits => broken (admits.new rule rfl).2
      simp only [publish, insert, insertInPlace, if_neg absent, failed]
      rfl

theorem settles_deactivate {library : Library} (distinct : library.ids.Nodup) (ruleId : String)
    (successor : Option String) : library.Settles (.deactivate ruleId successor) := by
  by_cases known : ruleId ∈ library.ids
  · obtain ⟨place, old, found, rfl⟩ := exists_place_of_mem_ids known
    obtain ⟨rule, got⟩ := Option.isSome_iff_exists.mp (isSome_get?_iff_mem_ids.mpr known)
    refine .made ?_ ⟨?_, ?_⟩ (.deactivate found)
    · rw [publish, deactivate, deactivateInPlace, got, ← switchOff_eq_set distinct found]
      rfl
    · rintro _ ⟨⟩
    · rintro _ ⟨⟩
      exact known
  · have absent : library.get? ruleId = none := by
      rwa [← Option.not_isSome_iff_eq_none, isSome_get?_iff_mem_ids]
    refine .failed (.unknownRule ruleId) ?_ fun admits => known (admits.known ruleId rfl)
    rw [publish, deactivate, deactivateInPlace, absent]
    rfl

theorem settles_supersede {library : Library} (distinct : library.ids.Nodup) (ruleId : String)
    (replacement : Rule) : library.Settles (.supersede ruleId replacement) := by
  by_cases known : ruleId ∈ library.ids
  · have present : ¬(library.get? ruleId).isNone = true := by
      simpa [Option.isSome_iff_ne_none] using isSome_get?_iff_mem_ids.mpr known
    by_cases taken : replacement.id ∈ library.ids
    · refine .failed (.duplicateRule replacement.id) ?_
        fun admits => (admits.new replacement rfl).1 taken
      rw [publish, supersede, supersedeInPlace, if_neg present,
        if_pos (isSome_get?_iff_mem_ids.mpr taken)]
      rfl
    · have absent : ¬(library.get? replacement.id).isSome = true := by
        rwa [isSome_get?_iff_mem_ids]
      rcases ofRule_cases replacement (library.version + 1) with
        ⟨entry, made, same, compiles⟩ | ⟨cause, failed, broken⟩
      · obtain ⟨place, old, found, rfl⟩ := exists_place_of_mem_ids known
        refine .made ?_ ⟨?_, ?_⟩ (.supersede found taken same)
        · simp only [publish, supersede, supersedeInPlace, if_neg present, if_neg absent, made,
            switchOff_eq_set distinct found]
          rfl
        · rintro _ ⟨⟩
          exact ⟨taken, compiles⟩
        · rintro _ ⟨⟩
          exact known
      · refine .failed cause ?_ fun admits => broken (admits.new replacement rfl).2
        simp only [publish, supersede, supersedeInPlace, if_neg present, if_neg absent, failed]
        rfl
  · have absent : (library.get? ruleId).isNone = true := by
      rwa [Option.isNone_iff_eq_none, ← Option.not_isSome_iff_eq_none, isSome_get?_iff_mem_ids]
    refine .failed (.unknownRule ruleId) ?_ fun admits => known (admits.known ruleId rfl)
    rw [publish, supersede, supersedeInPlace, if_pos absent]
    rfl

theorem settles {library : Library} (distinct : library.ids.Nodup) (edit : Edit) :
    library.Settles edit := by
  cases edit with
  | insert rule => exact settles_insert library rule
  | deactivate ruleId successor => exact settles_deactivate distinct ruleId successor
  | supersede ruleId replacement => exact settles_supersede distinct ruleId replacement

theorem publishes_of_publish {library later : Library} {edit : Edit}
    (distinct : library.ids.Nodup) (published : library.publish edit = .ok later) :
    library.Publishes edit later := by
  cases settles distinct edit with
  | made same _ publishes =>
      cases published.symm.trans same
      exact publishes
  | failed _ refused _ => cases published.symm.trans refused

theorem exists_publish_iff {library : Library} (distinct : library.ids.Nodup) (edit : Edit) :
    (∃ later, library.publish edit = .ok later) ↔ library.Admits edit := by
  cases settles distinct edit with
  | made published admits _ => exact iff_of_true ⟨_, published⟩ admits
  | failed _ refused unfit => exact iff_of_false (by simp [refused]) unfit

/-! ## What an edit preserves -/

/-- Each rule has its place, and only its activity and its successor have changed. -/
def Keeps (library later : Library) : Prop :=
  ∀ (place : Nat) (entry : CompiledRule), library.rules[place]? = some entry →
    ∃ kept, later.rules[place]? = some kept ∧ entry.rule.Ages kept.rule

theorem Keeps.refl (library : Library) : library.Keeps library :=
  fun _ entry found => ⟨entry, found, .refl entry.rule⟩

theorem Keeps.trans {library later last : Library} (first : library.Keeps later)
    (second : later.Keeps last) : library.Keeps last := by
  intro place entry found
  obtain ⟨kept, there, aged⟩ := first place entry found
  obtain ⟨final, still, older⟩ := second place kept there
  exact ⟨final, still, aged.trans older⟩

theorem map_id_set {entries : List CompiledRule} {place : Nat} {old : CompiledRule}
    (found : entries[place]? = some old) (successor : Option String) :
    (entries.set place (old.deactivate successor)).map (fun entry => entry.rule.id) =
      entries.map fun entry => entry.rule.id := by
  obtain ⟨before, after, parts, changed⟩ :=
    exists_split_of_getElem? found (old.deactivate successor)
  rw [changed, parts]
  simp

theorem eq_of_getElem?_concat {entries : List CompiledRule} {last found : CompiledRule}
    {place : Nat} (here : (entries ++ [last])[place]? = some found)
    (behind : entries.length ≤ place) : place = entries.length ∧ found = last := by
  rw [List.getElem?_append_right behind, List.getElem?_singleton] at here
  split at here
  · rename_i first
    cases here
    exact ⟨by omega, rfl⟩
  · contradiction

theorem keeps_set {library : Library} {place : Nat} {old : CompiledRule}
    (found : library.rules[place]? = some old) (successor : Option String) (version : Nat)
    (more : List CompiledRule) :
    library.Keeps ⟨version, library.rules.set place (old.deactivate successor) ++ more⟩ := by
  intro index entry there
  obtain ⟨below, -⟩ := List.getElem?_eq_some_iff.mp there
  have inside : index < (library.rules.set place (old.deactivate successor)).length := by
    simpa using below
  simp only [List.getElem?_append_left inside]
  by_cases same : place = index
  · subst same
    cases found.symm.trans there
    exact ⟨old.deactivate successor, List.getElem?_set_self below, Rule.ages_deactivate ..⟩
  · rw [List.getElem?_set_ne same]
    exact ⟨entry, there, .refl entry.rule⟩

namespace Publishes

variable {library later : Library} {edit : Edit}

theorem version (publishes : library.Publishes edit later) :
    later.version = library.version + 1 := by
  cases publishes <;> rfl

theorem keeps (publishes : library.Publishes edit later) : library.Keeps later := by
  cases publishes with
  | insert new made =>
      intro place entry found
      obtain ⟨below, -⟩ := List.getElem?_eq_some_iff.mp found
      exact ⟨entry, by rw [List.getElem?_append_left below, found], .refl entry.rule⟩
  | deactivate found => simpa using keeps_set found _ (library.version + 1) []
  | supersede found new made => exact keeps_set found _ _ _

/-- The ids stay in their order, and the id of a new rule, which is new too, comes after them. -/
theorem ids (publishes : library.Publishes edit later) :
    later.ids = library.ids ++ (edit.added?.map Rule.id).toList ∧
      ∀ rule, edit.added? = some rule → rule.id ∉ library.ids := by
  cases publishes with
  | insert new made =>
      refine ⟨by simp [Library.ids, Edit.added?, made], ?_⟩
      rintro _ ⟨⟩
      exact new
  | deactivate found =>
      refine ⟨by simp [Library.ids, Edit.added?, map_id_set found], ?_⟩
      rintro _ ⟨⟩
  | supersede found new made =>
      refine ⟨by simp [Library.ids, Edit.added?, map_id_set found, made], ?_⟩
      rintro _ ⟨⟩
      exact new

theorem nodup (publishes : library.Publishes edit later) (distinct : library.ids.Nodup) :
    later.ids.Nodup := by
  obtain ⟨same, new⟩ := publishes.ids
  rw [same]
  cases added : edit.added? with
  | none => simpa using distinct
  | some rule =>
      exact List.perm_append_comm.nodup (List.nodup_cons.mpr ⟨new rule added, distinct⟩)

/-- A rule in a place that was empty is the rule of the edit, at the version that the edit makes. -/
theorem added (publishes : library.Publishes edit later) {place : Nat} {entry : CompiledRule}
    (found : later.rules[place]? = some entry) (fresh : library.rules.length ≤ place) :
    place = library.rules.length ∧
      ∃ rule, edit.added? = some rule ∧ entry.rule = { rule with version := later.version } := by
  cases publishes with
  | insert new made =>
      obtain ⟨last, rfl⟩ := eq_of_getElem?_concat found fresh
      exact ⟨last, _, rfl, made⟩
  | deactivate there =>
      rw [List.getElem?_eq_none (by simpa using fresh)] at found
      contradiction
  | supersede there new made =>
      obtain ⟨last, rfl⟩ := eq_of_getElem?_concat found (by simpa using fresh)
      exact ⟨by simpa using last, _, rfl, made⟩

end Publishes

theorem edit_cases {library : Library} (distinct : library.ids.Nodup) (edit : Edit) :
    (∃ later, library.publish edit = .ok later ∧ library.edit edit = later ∧
        library.Publishes edit later) ∨
      ∃ cause, library.publish edit = .error cause ∧ library.edit edit = library := by
  cases settles distinct edit with
  | made published _ publishes =>
      exact .inl ⟨_, published, edit_of_ok published, publishes⟩
  | failed cause refused _ => exact .inr ⟨cause, refused, edit_of_error refused⟩

/-! ## What a run preserves -/

theorem nodup_run {library : Library} (distinct : library.ids.Nodup) (edits : List Edit) :
    (library.run edits).ids.Nodup := by
  induction edits using List.reverseRecOn with
  | nil => exact distinct
  | append_singleton edits last inductionHypothesis =>
      rw [run_concat]
      rcases edit_cases inductionHypothesis last with
        ⟨later, -, same, publishes⟩ | ⟨cause, -, same⟩
      · rw [same]
        exact publishes.nodup inductionHypothesis
      · rwa [same]

/-- A run counts its successes in the version and keeps the rules. -/
theorem advances_run {library : Library} (distinct : library.ids.Nodup) (edits : List Edit) :
    (library.run edits).version = library.version + library.successes edits ∧
      library.Keeps (library.run edits) := by
  induction edits generalizing library with
  | nil => exact ⟨rfl, .refl library⟩
  | cons edit edits inductionHypothesis =>
      rw [run_cons, successes]
      rcases edit_cases distinct edit with
        ⟨later, published, same, publishes⟩ | ⟨cause, refused, same⟩
      · obtain ⟨counted, kept⟩ := inductionHypothesis (publishes.nodup distinct)
        rw [same, published, counted, publishes.version, Nat.add_assoc]
        exact ⟨rfl, publishes.keeps.trans kept⟩
      · rw [same, refused]
        simpa [Except.isOk, Except.toBool] using inductionHypothesis distinct

/-! ## Where the rules come from -/

/-- A library at its start: without rules, or with some of distinct ids. -/
inductive Founded : List Rule → Library → Prop where
  | empty : Founded [] .empty
  | ofRules {rules : List Rule} {library : Library} (made : ofRules rules = .ok library) :
      Founded rules library

theorem foldlM_add {rules : List Rule} {entries later : List CompiledRule}
    (distinct : (entries.map fun entry => entry.rule.id).Nodup)
    (added : rules.foldlM ofRules.add entries = .ok later) :
    (later.map fun entry => entry.rule.id).Nodup ∧
      later.map CompiledRule.rule =
        entries.map CompiledRule.rule ++ rules.map fun rule => { rule with version := 1 } := by
  induction rules generalizing entries with
  | nil =>
      cases added
      exact ⟨distinct, by simp⟩
  | cons rule rules inductionHypothesis =>
      rw [List.foldlM_cons] at added
      obtain ⟨more, first, continued⟩ := bind_eq_ok_iff.mp added
      unfold ofRules.add at first
      split at first
      · contradiction
      · rename_i absent
        obtain ⟨entry, made, rest⟩ := bind_eq_ok_iff.mp first
        cases rest
        have same := CompiledRule.rule_of_ofRule made
        have new : rule.id ∉ entries.map fun entry => entry.rule.id := by simpa using absent
        have grown : ((entries ++ [entry]).map fun entry => entry.rule.id).Nodup := by
          rw [List.map_append]
          refine List.perm_append_comm.nodup (List.nodup_cons.mpr ⟨?_, distinct⟩)
          simpa [same] using new
        obtain ⟨still, listed⟩ := inductionHypothesis grown continued
        exact ⟨still, by simp [listed, same]⟩

theorem ofRules_eq_ok {rules : List Rule} {library : Library}
    (made : ofRules rules = .ok library) :
    library.ids.Nodup ∧ library.rules.map CompiledRule.rule =
      rules.map fun rule => { rule with version := library.version } := by
  obtain ⟨entries, added, rest⟩ := bind_eq_ok_iff.mp made
  cases rest
  exact @foldlM_add rules [] entries List.nodup_nil added

namespace Founded

variable {rules : List Rule} {start : Library}

theorem nodup (founded : Founded rules start) : start.ids.Nodup := by
  cases founded with
  | empty => exact List.nodup_nil
  | ofRules made => exact (ofRules_eq_ok made).1

theorem rules_eq (founded : Founded rules start) : start.rules.map CompiledRule.rule =
    rules.map fun rule => { rule with version := start.version } := by
  cases founded with
  | empty => rfl
  | ofRules made => exact (ofRules_eq_ok made).2

end Founded

/-- How a rule came to its place: it is one of the first rules, or it was brought by an edit that
succeeded when the places before it were taken.  Its version is the one that introduced it. -/
inductive Introduced (rules : List Rule) (start : Library) (edits : List Edit) :
    Nat → Rule → Prop where
  | first {place : Nat} {rule : Rule} (listed : rules[place]? = some rule) :
      Introduced rules start edits place { rule with version := start.version }
  | edit {before : List Edit} {edit : Edit} {later : Library} {rule : Rule}
      (begun : before ++ [edit] <+: edits)
      (published : (start.run before).publish edit = .ok later)
      (brought : edit.added? = some rule) :
      Introduced rules start edits (start.run before).rules.length
        { rule with version := later.version }

variable {rules : List Rule} {start : Library}

theorem Introduced.concat {edits : List Edit} {place : Nat} {rule : Rule}
    (introduced : Introduced rules start edits place rule) (last : Edit) :
    Introduced rules start (edits ++ [last]) place rule := by
  cases introduced with
  | first listed => exact .first listed
  | edit begun published brought =>
      exact .edit (begun.trans (List.prefix_append edits [last])) published brought

/-- Each rule has aged from the one that was introduced in its place. -/
theorem exists_introduced (founded : Founded rules start) (edits : List Edit) {place : Nat}
    {entry : CompiledRule} (found : (start.run edits).rules[place]? = some entry) :
    ∃ rule, Introduced rules start edits place rule ∧ rule.Ages entry.rule := by
  induction edits using List.reverseRecOn generalizing entry with
  | nil =>
      have listed : (start.rules.map CompiledRule.rule)[place]? = some entry.rule := by
        rw [List.getElem?_map]
        exact congrArg (Option.map CompiledRule.rule) found
      rw [founded.rules_eq, List.getElem?_map, Option.map_eq_some_iff] at listed
      obtain ⟨rule, there, same⟩ := listed
      exact ⟨_, .first there, same ▸ .refl _⟩
  | append_singleton edits last inductionHypothesis =>
      rw [run_concat] at found
      rcases edit_cases (nodup_run founded.nodup edits) last with
        ⟨later, published, same, publishes⟩ | ⟨cause, -, same⟩
      · rw [same] at found
        rcases Nat.lt_or_ge place (start.run edits).rules.length with below | fresh
        · obtain ⟨kept, there, aged⟩ := publishes.keeps place _ (List.getElem?_eq_getElem below)
          cases there.symm.trans found
          obtain ⟨rule, introduced, grown⟩ :=
            inductionHypothesis (List.getElem?_eq_getElem below)
          exact ⟨rule, introduced.concat last, grown.trans aged⟩
        · obtain ⟨rfl, rule, brought, made⟩ := publishes.added found fresh
          exact ⟨_, .edit List.prefix_rfl published brought, made ▸ .refl _⟩
      · rw [same] at found
        obtain ⟨rule, introduced, grown⟩ := inductionHypothesis found
        exact ⟨rule, introduced.concat last, grown⟩

/-! ## The life of a library -/

/-- What holds of a library after some edits: what it contains and where that comes from, what the
next edit does, and what later edits leave of it. -/
structure Lifecycle (rules : List Rule) (start : Library) (edits : List Edit) : Prop where
  distinct : (start.run edits).ids.Nodup
  introduced : ∀ (place : Nat) (entry : CompiledRule),
    (start.run edits).rules[place]? = some entry →
      ∃ rule, Introduced rules start edits place rule ∧ rule.Ages entry.rule
  possible : ∀ edit, (∃ later, (start.run edits).publish edit = .ok later) ↔
    (start.run edits).Admits edit
  succeeds : ∀ edit later, (start.run edits).publish edit = .ok later →
    (start.run edits).Publishes edit later ∧ start.run (edits ++ [edit]) = later
  fails : ∀ edit cause, (start.run edits).publish edit = .error cause →
    start.run (edits ++ [edit]) = start.run edits
  counts : ∀ more, (start.run (edits ++ more)).version =
    (start.run edits).version + (start.run edits).successes more
  keeps : ∀ more, (start.run edits).Keeps (start.run (edits ++ more))

/-- Every library that was founded lives by this, whatever edits it gets. -/
theorem lifecycle_of_founded (founded : Founded rules start) (edits : List Edit) :
    Lifecycle rules start edits := by
  have distinct := nodup_run founded.nodup edits
  refine ⟨distinct, fun _ _ => exists_introduced founded edits, exists_publish_iff distinct,
    ?succeeds, ?fails, ?counts, ?keeps⟩
  case succeeds =>
    intro edit later published
    exact ⟨publishes_of_publish distinct published, by rw [run_concat, edit_of_ok published]⟩
  case fails =>
    intro edit cause refused
    rw [run_concat, edit_of_error refused]
  case counts =>
    intro more
    rw [run_append]
    exact (advances_run distinct more).1
  case keeps =>
    intro more
    rw [run_append]
    exact (advances_run distinct more).2

/-- A rule that looks for one token. -/
def sample (token : String) : Rule where
  id := token
  name := token
  weakness := .logic
  severity := .low
  hardBlock := false
  matcher := .sequence [token]
  description := ""
  origin := .manual
  active := true
  supersededBy := none
  version := 0
  createdAt := ⟨0, 0⟩

/-- A library of two rules. -/
def pair : Library :=
  ⟨1, [⟨{ sample "eval" with version := 1 }, .shape (.sequence ["eval"]), rfl⟩,
    ⟨{ sample "system" with version := 1 }, .shape (.sequence ["system"]), rfl⟩]⟩

/-- A replacement, an id that is taken, two retirements of which one is of an unknown rule, a
matcher that does not compile, and a new rule. -/
def course : List Edit :=
  [.supersede "eval" (sample "exec"), .insert (sample "eval"), .deactivate "system" none,
    .deactivate "call" none, .supersede "exec" { sample "run" with matcher := .sequence [] },
    .insert (sample "run")]

theorem lifecycle_of_pair : Founded [sample "eval", sample "system"] pair ∧
    Lifecycle [sample "eval", sample "system"] pair course ∧
    ((pair.run course).version, pair.successes course) = (4, 3) ∧
    ((pair.run course).rules.map fun entry =>
      (entry.rule.id, entry.rule.active, entry.rule.supersededBy, entry.rule.version)) =
      [("eval", false, some "exec", 1), ("system", false, none, 1), ("exec", true, none, 2),
        ("run", true, none, 4)] := by
  have founded : Founded [sample "eval", sample "system"] pair := .ofRules rfl
  exact ⟨founded, lifecycle_of_founded founded course, by decide +kernel, by decide +kernel⟩

end Library

end ReviewGate
