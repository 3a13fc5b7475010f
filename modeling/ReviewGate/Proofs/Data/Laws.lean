import ReviewGate.Data.Cause
import ReviewGate.Data.Json
import ReviewGate.Data.Table

/-!
# Laws of results, lists, objects and tables

A chain of results succeeds where each of its links does.  A change with its result tells the
subject that it leaves.  Of a list one item can be told apart from the others.  In an object or a
table the last value that was given to a key is found, and for any other key what was there before.
-/

namespace ReviewGate

/-- A chain of two results succeeds exactly when both links do. -/
theorem bind_eq_ok_iff {Failure First Second : Type} {first : Except Failure First}
    {second : First → Except Failure Second} {value : Second} :
    (first >>= second) = .ok value ↔ ∃ found, first = .ok found ∧ second found = .ok value := by
  cases first with
  | error cause => simp [bind, Except.bind]
  | ok found => simp [bind, Except.bind]

/-- What follows a check is done exactly when the check goes through. -/
theorem check_bind_eq_ok_iff {Failure Second : Type} {check : Except Failure Unit}
    {second : Unit → Except Failure Second} {value : Second} :
    (check >>= second) = .ok value ↔ check = .ok () ∧ second () = .ok value :=
  bind_eq_ok_iff.trans ⟨fun ⟨_, both⟩ => both, fun both => ⟨(), both⟩⟩

section Changes

variable {Failure Answer Subject : Type} {result : Except Failure Answer × Subject}

theorem together_eq_ok_iff {answer : Answer} {later : Subject} :
    together result = .ok (answer, later) ↔ result = (.ok answer, later) := by
  rcases result with ⟨cause | other, subject⟩
  · simp [together]
  · simp [together]

/-- A change leaves its subject as it was where it fails. -/
def Spares (subject : Subject) (result : Except Failure Answer × Subject) : Prop :=
  ∀ cause, result.1 = .error cause → result.2 = subject

theorem spares_ok (subject later : Subject) (answer : Answer) :
    Spares subject ((.ok answer, later) : Except Failure Answer × Subject) := nofun

theorem spares_same (subject : Subject) (answer : Except Failure Answer) :
    Spares subject (answer, subject) := fun _ _ => rfl

/-- What a result makes of a subject that stays as it is where there is no result. -/
def apart (subject : Subject) :
    Except Failure (Answer × Subject) → Except Failure Answer × Subject
  | .ok (answer, later) => (.ok answer, later)
  | .error cause => (.error cause, subject)

/-- The result alone tells what a change has left that spares its subject. -/
theorem Spares.eq_apart {subject : Subject} (spares : Spares subject result) :
    result = apart subject (together result) := by
  rcases result with ⟨cause | answer, later⟩
  · obtain rfl : later = subject := spares cause rfl
    rfl
  · rfl

theorem snd_eq_of_together {later : Subject} (done : Prod.snd <$> together result = .ok later) :
    result.2 = later := by
  rcases result with ⟨cause | answer, subject⟩
  · contradiction
  · cases done
    rfl

theorem Spares.snd_eq_of_together {subject : Subject} {cause : Failure}
    (spares : Spares subject result) (failed : Prod.snd <$> together result = .error cause) :
    result.2 = subject := by
  rcases result with ⟨other | answer, later⟩
  · exact spares other rfl
  · contradiction

end Changes

theorem eq_ok_of_toOption {Failure Value : Type} {result : Except Failure Value} {value : Value}
    (found : result.toOption = some value) : result = .ok value := by
  cases result with
  | error cause => contradiction
  | ok other =>
      cases found
      rfl

/-- A loop of checks goes through only where each of them does. -/
theorem yields_of_forIn_eq_ok {Failure Item : Type} {items : List Item}
    {check : Item → Unit → Except Failure (ForInStep Unit)}
    (goesOn : ∀ item step, check item () = .ok step → step = .yield ())
    (passed : forIn items () check = .ok ()) :
    ∀ item ∈ items, check item () = .ok (.yield ()) := by
  induction items with
  | nil => simp
  | cons first rest inductionHypothesis =>
      rw [List.forIn_cons] at passed
      obtain ⟨step, checked, continued⟩ := bind_eq_ok_iff.mp passed
      have yields := goesOn first step checked
      rw [yields] at checked continued
      intro item membership
      rcases List.mem_cons.mp membership with rfl | later
      · exact checked
      · exact inductionHypothesis continued item later

/-- A loop that only checks goes through exactly when each check does. -/
theorem forIn_checks_eq_ok_iff {Failure Item : Type} {items : List Item}
    {check : Item → Except Failure Unit} :
    (forIn items () fun item _ => do check item; pure (ForInStep.yield ())) = .ok () ↔
      ∀ item ∈ items, check item = .ok () := by
  induction items with
  | nil => simp [pure, Except.pure]
  | cons first rest inductionHypothesis =>
      rw [List.forIn_cons, List.forall_mem_cons, ← inductionHypothesis]
      cases check first with
      | error cause => simp [bind, Except.bind]
      | ok _ => simp [bind, Except.bind, pure, Except.pure]

/-- What is seen of an item in the middle can be told first. -/
theorem filterMap_middle {β γ : Type} (view : β → Option γ) (before after : List β) (middle : β) :
    ((before ++ middle :: after).filterMap view).Perm
      ((view middle).toList ++ (before ++ after).filterMap view) := by
  have moved : (before ++ middle :: after).Perm (middle :: (before ++ after)) := List.perm_middle
  refine (moved.filterMap view).trans ?_
  cases seen : view middle with
  | none => rw [List.filterMap_cons_none seen, Option.toList_none, List.nil_append]
  | some value => rw [List.filterMap_cons_some seen, Option.toList_some, List.singleton_append]

/-- An item of a list stands between what comes before and after it, and so does what takes its
place. -/
theorem exists_split_of_getElem? {β : Type} {values : List β} {index : Nat} {old : β}
    (found : values[index]? = some old) (new : β) :
    ∃ before after, values = before ++ old :: after ∧
      values.set index new = before ++ new :: after := by
  obtain ⟨below, here⟩ := List.getElem?_eq_some_iff.mp found
  obtain ⟨before, after, parts, -, changed⟩ :
      ∃ before after, values = before ++ values[index] :: after ∧ before.length = index ∧
        values.set index new = before ++ new :: after := List.exists_of_set below
  rw [here] at parts
  exact ⟨before, after, parts, changed⟩

/-- When one item is replaced, the same is seen of the others. -/
theorem exists_rest_of_getElem? {β : Type} {values : List β} {index : Nat} {old : β}
    (found : values[index]? = some old) (new : β) :
    ∃ rest : List β, ∀ {γ : Type} (view : β → Option γ),
      (values.filterMap view).Perm ((view old).toList ++ rest.filterMap view) ∧
      ((values.set index new).filterMap view).Perm
        ((view new).toList ++ rest.filterMap view) := by
  obtain ⟨before, after, parts, changed⟩ := exists_split_of_getElem? found new
  refine ⟨before ++ after, fun view => ⟨?_, ?_⟩⟩
  · rw [parts]
    exact filterMap_middle view before after old
  · rw [changed]
    exact filterMap_middle view before after new

/-- Where nothing is seen twice, it is seen of one item. -/
theorem eq_of_nodup_filterMap {β γ : Type} {view : β → Option γ} {values : List β}
    (distinct : (values.filterMap view).Nodup) {i j : Nat} {first second : β} {seen : γ}
    (atFirst : values[i]? = some first) (atSecond : values[j]? = some second)
    (ofFirst : view first = some seen) (ofSecond : view second = some seen) : i = j := by
  have pairs := List.pairwise_filterMap.mp distinct
  rw [List.pairwise_iff_getElem] at pairs
  obtain ⟨belowFirst, rfl⟩ := List.getElem?_eq_some_iff.mp atFirst
  obtain ⟨belowSecond, rfl⟩ := List.getElem?_eq_some_iff.mp atSecond
  rcases Nat.lt_trichotomy i j with less | same | greater
  · exact absurd rfl (pairs i j belowFirst belowSecond less seen ofFirst seen ofSecond)
  · exact same
  · exact absurd rfl (pairs j i belowSecond belowFirst greater seen ofSecond seen ofFirst)

namespace Json

theorem find?_insertField (key other : String) (value : Json) (fields : List (String × Json)) :
    (insertField other value fields).find? (fun field => field.1 == key) =
      if other = key then some (other, value) else fields.find? fun field => field.1 == key := by
  induction fields with
  | nil =>
      by_cases same : other = key <;> simp [insertField, same]
  | cons field rest inductionHypothesis =>
      obtain ⟨name, kept⟩ := field
      by_cases same : other = key
      · subst same
        by_cases equal : other = name
        · simp [insertField, equal]
        · by_cases less : other < name
          · simp [insertField, less]
          · simpa [insertField, less, equal, Ne.symm equal] using inductionHypothesis
      · by_cases less : other < name
        · simp [insertField, less, same]
        · by_cases equal : other = name
          · subst equal
            simp [insertField, same]
          · rw [insertField, if_neg less, if_neg equal]
            by_cases found : name = key
            · simp [same, found]
            · simpa [same, found] using inductionHypothesis

private theorem find?_foldl_insertField (key : String) (fields ascending : List (String × Json)) :
    (fields.foldl (fun ascending field => insertField field.1 field.2 ascending) ascending).find?
        (fun field => field.1 == key) =
      (fields.reverse.find? fun field => field.1 == key).or
        (ascending.find? fun field => field.1 == key) := by
  induction fields generalizing ascending with
  | nil => simp
  | cons field rest inductionHypothesis =>
      rw [List.foldl_cons, inductionHypothesis, find?_insertField, List.reverse_cons,
        List.find?_append, Option.or_assoc]
      obtain ⟨name, value⟩ := field
      by_cases same : name = key <;> simp [same]

/-- Of two fields with one key the later one is found. -/
theorem field?_ofFields (key : String) (fields : List (String × Json)) :
    (ofFields fields).field? key =
      (fields.reverse.find? fun field => field.1 == key).map Prod.snd := by
  simp [field?, ofFields, find?_foldl_insertField]

end Json

namespace Table

variable {α : Type}

theorem get?_insert (key other : String) (value : α) (table : Table α) :
    get? other (insert key value table) = if key = other then some value else get? other table := by
  by_cases same : key = other
  · subst same
    simp
  · simp [same, get?_insert_of_ne (Ne.symm same)]

theorem get?_erase (key other : String) (table : Table α) :
    get? other (erase key table) = if key = other then none else get? other table := by
  by_cases same : key = other
  · subst same
    simp
  · simp [same, get?_erase_of_ne (Ne.symm same)]

/-- Of two values set under one key the later one counts. -/
theorem insert_insert (key : String) (first second : α) (table : Table α) :
    insert key second (insert key first table) = insert key second table := by
  fun_induction insert key first table with
  | case1 => simp [insert]
  | case2 => simp [insert]
  | case3 other kept rest different less => simp [insert, different, less]
  | case4 other kept rest different notLess inductionHypothesis =>
      rw [insert, if_neg different, if_neg notLess, inductionHypothesis]
      rw [insert, if_neg different, if_neg notLess]

/-- What is set under a new key can be taken back. -/
theorem erase_insert_of_get?_eq_none {key : String} {value : α} {table : Table α}
    (absent : get? key table = none) : erase key (insert key value table) = table := by
  have erased : ∀ rest : Table α, get? key rest = none → erase key rest = rest := by
    intro rest missing
    induction rest with
    | nil => rfl
    | cons entry rest inductionHypothesis =>
        obtain ⟨other, kept⟩ := entry
        by_cases same : other = key
        · simp [get?, same] at missing
        · rw [get?, if_neg same] at missing
          rw [erase, if_neg same, inductionHypothesis missing]
  induction table with
  | nil => simp [insert, erase]
  | cons entry rest inductionHypothesis =>
      obtain ⟨other, kept⟩ := entry
      by_cases same : other = key
      · simp [get?, same] at absent
      · by_cases less : key < other
        · rw [insert, if_neg same, if_pos less, erase, if_pos rfl]
          exact erased _ absent
        · rw [get?, if_neg same] at absent
          rw [insert, if_neg same, if_neg less, erase, if_neg same, inductionHypothesis absent]

theorem mem_of_get?_eq_some {key : String} {value : α} {table : Table α}
    (found : get? key table = some value) : (key, value) ∈ table := by
  induction table with
  | nil => cases found
  | cons entry rest inductionHypothesis =>
      obtain ⟨other, kept⟩ := entry
      rw [get?] at found
      split at found
      · rename_i same
        cases found
        exact same ▸ List.mem_cons_self
      · exact List.mem_cons_of_mem _ (inductionHypothesis found)

theorem has_eq_false_iff {key : String} {table : Table α} :
    has key table = false ↔ get? key table = none := by
  simp [has]

end Table

end ReviewGate
