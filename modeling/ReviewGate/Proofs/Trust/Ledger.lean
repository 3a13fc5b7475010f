import ReviewGate.Trust.Ledger

/-!
# Records in a ledger

What a ledger says, apart from the numbers and hashes that chain its entries: an append adds exactly
the records of its batch.
-/

namespace ReviewGate

namespace LedgerRecord

/-- The records of one kind of event, in order. -/
def ofType (eventType : EventType) (records : List LedgerRecord) : List LedgerRecord :=
  records.filter fun record => record.eventType = eventType

@[simp]
theorem ofType_nil (eventType : EventType) : ofType eventType [] = [] := rfl

theorem ofType_cons (eventType : EventType) (record : LedgerRecord) (rest : List LedgerRecord) :
    ofType eventType (record :: rest) =
      if record.eventType = eventType then record :: ofType eventType rest
      else ofType eventType rest := by
  by_cases same : record.eventType = eventType <;> simp [ofType, same]

@[simp]
theorem ofType_append (eventType : EventType) (first second : List LedgerRecord) :
    ofType eventType (first ++ second) = ofType eventType first ++ ofType eventType second := by
  simp [ofType]

theorem ofType_eq_nil_iff {eventType : EventType} {records : List LedgerRecord} :
    ofType eventType records = [] ↔ ∀ record ∈ records, record.eventType ≠ eventType := by
  simp [ofType]

/-- The records of one kind about one identity. -/
def about (identity : String) (eventType : EventType) (records : List LedgerRecord) :
    List LedgerRecord :=
  (ofType eventType records).filter fun record => record.identity = identity

@[simp]
theorem about_append (identity : String) (eventType : EventType)
    (first second : List LedgerRecord) :
    about identity eventType (first ++ second) =
      about identity eventType first ++ about identity eventType second := by
  simp [about]

theorem about_eq_nil {eventType : EventType} {records : List LedgerRecord} (identity : String)
    (absent : ofType eventType records = []) : about identity eventType records = [] := by
  simp [about, absent]

end LedgerRecord

namespace Ledger

/-- The records of the entries. -/
def records (ledger : Ledger) : List LedgerRecord := ledger.map (·.toLedgerRecord)

theorem records_entriesAfter (length : Nat) (previousHash : String)
    (records : List LedgerRecord) :
    (entriesAfter length previousHash records).map (·.toLedgerRecord) = records := by
  induction records generalizing length previousHash with
  | nil => rfl
  | cons record rest inductionHypothesis =>
      rw [entriesAfter, List.map_cons, inductionHypothesis]

@[simp]
theorem records_staged (ledger : Ledger) (records : List LedgerRecord) :
    (ledger.staged records).map (·.toLedgerRecord) = records :=
  records_entriesAfter ledger.length ledger.head records

@[simp]
theorem records_append (ledger : Ledger) (records : List LedgerRecord) :
    (ledger.append records).records = ledger.records ++ records := by
  simp [Ledger.records, append]

@[simp]
theorem length_append (ledger : Ledger) (records : List LedgerRecord) :
    (ledger.append records).length = ledger.length + records.length := by
  simpa [Ledger.records] using congrArg List.length (records_append ledger records)

@[simp]
theorem drop_length_append (ledger : Ledger) (records : List LedgerRecord) :
    (ledger.append records).drop ledger.length = ledger.staged records := by
  simp [append]

end Ledger

end ReviewGate
