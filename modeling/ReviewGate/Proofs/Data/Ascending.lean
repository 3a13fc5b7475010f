import ReviewGate.Proofs.Data.Laws

/-!
# Ascending tables

Tables keep their keys in ascending order, so no key comes twice and a table is known by what it
holds under each key.
-/

namespace ReviewGate.Table

variable {α : Type}

/-- The keys come in ascending order. -/
def Ascending (table : Table α) : Prop := table.Pairwise fun first second => first.1 < second.1

theorem ascending_nil : Ascending ([] : Table α) := List.Pairwise.nil

theorem eq_or_mem_of_mem_insert {key : String} {value : α} {table : Table α} {entry : String × α}
    (membership : entry ∈ table.insert key value) : entry = (key, value) ∨ entry ∈ table := by
  induction table with
  | nil => exact .inl (List.mem_singleton.mp membership)
  | cons first rest inductionHypothesis =>
      obtain ⟨other, kept⟩ := first
      rw [insert] at membership
      split at membership
      · rcases List.mem_cons.mp membership with new | old
        · exact .inl new
        · exact .inr (List.mem_cons_of_mem _ old)
      · split at membership
        · exact List.mem_cons.mp membership
        · rcases List.mem_cons.mp membership with same | later
          · exact .inr (same ▸ List.mem_cons_self)
          · exact (inductionHypothesis later).imp id (List.mem_cons_of_mem _)

theorem Ascending.insert {table : Table α} (ascending : table.Ascending) (key : String)
    (value : α) : (table.insert key value).Ascending := by
  induction table with
  | nil => exact List.pairwise_singleton _ _
  | cons first rest inductionHypothesis =>
      obtain ⟨other, kept⟩ := first
      obtain ⟨below, sorted⟩ := List.pairwise_cons.mp ascending
      rw [Table.insert]
      split
      · rename_i same
        subst same
        exact List.pairwise_cons.mpr ⟨below, sorted⟩
      · rename_i different
        split
        · rename_i less
          refine List.pairwise_cons.mpr ⟨?_, ascending⟩
          intro entry membership
          rcases List.mem_cons.mp membership with rfl | later
          · exact less
          · exact String.lt_trans less (below entry later)
        · rename_i notLess
          refine List.pairwise_cons.mpr ⟨?_, inductionHypothesis sorted⟩
          intro entry membership
          rcases eq_or_mem_of_mem_insert membership with rfl | old
          · exact String.not_le.mp fun reversed =>
              different (String.le_antisymm (String.not_lt.mp notLess) reversed)
          · exact below entry old

theorem Ascending.foldl_insert {β : Type} {table : Table α} (ascending : table.Ascending)
    (change : β → α) (others : Table β) :
    Ascending (others.foldl (fun table entry => table.insert entry.1 (change entry.2)) table) := by
  induction others generalizing table with
  | nil => exact ascending
  | cons entry rest inductionHypothesis =>
      exact inductionHypothesis (ascending.insert entry.1 (change entry.2))

theorem Ascending.nodup_keys {table : Table α} (ascending : table.Ascending) :
    table.keys.Nodup := by
  refine List.pairwise_map.mpr (ascending.imp ?_)
  intro first second less same
  rw [same] at less
  exact String.lt_irrefl _ less

theorem mem_keys_iff {key : String} {table : Table α} :
    key ∈ table.keys ↔ (table.get? key).isSome := by
  induction table with
  | nil => simp [keys]
  | cons entry rest inductionHypothesis =>
      obtain ⟨other, value⟩ := entry
      by_cases same : other = key
      · simp [keys, get?, same]
      · simpa [keys, get?, same, Ne.symm same] using inductionHypothesis

theorem get?_eq_none_iff {key : String} {table : Table α} :
    table.get? key = none ↔ key ∉ table.keys := by
  rw [mem_keys_iff, Option.not_isSome_iff_eq_none]

/-- What a table holds under a key is the one entry with that key. -/
theorem get?_eq_some_iff {key : String} {value : α} {table : Table α}
    (distinct : table.keys.Nodup) :
    table.get? key = some value ↔ (key, value) ∈ table := by
  induction table with
  | nil => simp
  | cons entry rest inductionHypothesis =>
      obtain ⟨other, kept⟩ := entry
      obtain ⟨absent, distinctRest⟩ := List.nodup_cons.mp distinct
      by_cases same : other = key
      · subst same
        have nowhere : (other, value) ∉ rest := fun found =>
          absent (List.mem_map.mpr ⟨_, found, rfl⟩)
        simp [get?, nowhere, eq_comm]
      · rw [get?, if_neg same, inductionHypothesis distinctRest, List.mem_cons]
        exact ⟨.inr, fun either => either.resolve_left fun equal => same (by cases equal; rfl)⟩

/-- Ascending tables that hold the same under each key are the same. -/
theorem Ascending.ext {first second : Table α} (ascendingFirst : first.Ascending)
    (ascendingSecond : second.Ascending) (agree : ∀ key, first.get? key = second.get? key) :
    first = second := by
  have distinct : ∀ {table : Table α}, table.Ascending → table.Nodup := fun ascending =>
    List.Pairwise.of_map Prod.fst (fun _ _ different same => different (same ▸ rfl))
      ascending.nodup_keys
  have members : first.Perm second := by
    refine (List.perm_ext_iff_of_nodup (distinct ascendingFirst) (distinct ascendingSecond)).mpr ?_
    intro entry
    rw [← get?_eq_some_iff ascendingFirst.nodup_keys, agree,
      get?_eq_some_iff ascendingSecond.nodup_keys]
  refine members.eq_of_pairwise ?_ ascendingFirst ascendingSecond
  intro one other _ _ less greater
  exact absurd greater (String.lt_asymm less)

/-- Setting the keys of another table leaves all other keys as they were. -/
theorem get?_foldl_insert {β : Type} (change : β → α) {others : Table β}
    (distinct : others.keys.Nodup) (table : Table α) (key : String) :
    get? key (others.foldl (fun table entry => table.insert entry.1 (change entry.2)) table) =
      ((others.get? key).map change).or (table.get? key) := by
  induction others generalizing table with
  | nil => simp
  | cons entry rest inductionHypothesis =>
      obtain ⟨other, value⟩ := entry
      obtain ⟨absent, distinctRest⟩ := List.nodup_cons.mp distinct
      rw [List.foldl_cons, inductionHypothesis distinctRest, get?_insert, get?]
      by_cases same : other = key
      · subst same
        simp [get?_eq_none_iff.mpr absent]
      · simp [same]

end ReviewGate.Table
