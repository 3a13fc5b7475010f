/-!
# Tables

Values under distinct texts, kept with the keys ascending.
-/

namespace ReviewGate

/-- Values by key, the keys ascending. -/
abbrev Table (α : Type) := List (String × α)

namespace Table

variable {α : Type}

def get? (key : String) : Table α → Option α
  | [] => none
  | (other, value) :: rest => if other = key then some value else get? key rest

/-- Sets the value of a key. -/
def insert (key : String) (value : α) : Table α → Table α
  | [] => [(key, value)]
  | (other, kept) :: rest =>
      if other = key then (key, value) :: rest
      else if key < other then (key, value) :: (other, kept) :: rest
      else (other, kept) :: insert key value rest

def erase (key : String) : Table α → Table α
  | [] => []
  | (other, value) :: rest =>
      if other = key then erase key rest else (other, value) :: erase key rest

def has (key : String) (table : Table α) : Bool := (get? key table).isSome

def keys (table : Table α) : List String := table.map Prod.fst

def values (table : Table α) : List α := table.map Prod.snd

@[simp]
theorem get?_nil (key : String) : get? key ([] : Table α) = none := rfl

@[simp]
theorem get?_insert_self (key : String) (value : α) (table : Table α) :
    get? key (insert key value table) = some value := by
  fun_induction insert key value table <;> simp_all [get?]

theorem get?_insert_of_ne {key other : String} (different : other ≠ key) (value : α)
    (table : Table α) : get? other (insert key value table) = get? other table := by
  fun_induction insert key value table <;> simp_all [get?, Ne.symm different]

@[simp]
theorem get?_erase_self (key : String) (table : Table α) : get? key (erase key table) = none := by
  fun_induction erase key table <;> simp_all [get?]

theorem get?_erase_of_ne {key other : String} (different : other ≠ key) (table : Table α) :
    get? other (erase key table) = get? other table := by
  fun_induction erase key table <;> simp_all [get?, Ne.symm different]

end Table

end ReviewGate
