import ReviewGate.Proofs.Trust.Ledger

/-!
# The chain of a ledger

Whatever is appended in whatever batches, every entry is numbered by its place, refers to the hash
of the entry before it and has a hash of its own fields with that one.  Where a batch ends and the
next one begins leaves no trace.
-/

namespace ReviewGate

namespace Ledger

/-! ## One entry more -/

theorem head_eq (ledger : Ledger) :
    ledger.head = (ledger.getLast?.map (·.hash)).getD genesisHash := by
  unfold head
  cases ledger.getLast? <;> rfl

@[simp]
theorem head_nil : head [] = genesisHash := rfl

@[simp]
theorem head_concat (ledger : Ledger) (entry : LedgerEntry) :
    head (ledger ++ [entry]) = entry.hash := by
  simp [head]

/-- The entry that a record becomes next. -/
def nextEntry (ledger : Ledger) (record : LedgerRecord) : LedgerEntry :=
  { record with
    sequence := ledger.length
    previousHash := ledger.head
    hash := record.hash ledger.length ledger.head }

theorem staged_cons (ledger : Ledger) (record : LedgerRecord) (rest : List LedgerRecord) :
    ledger.staged (record :: rest) =
      ledger.nextEntry record :: staged (ledger ++ [ledger.nextEntry record]) rest := by
  simp [staged, entriesAfter, nextEntry]

theorem append_cons (ledger : Ledger) (record : LedgerRecord) (rest : List LedgerRecord) :
    ledger.append (record :: rest) = append (ledger ++ [ledger.nextEntry record]) rest := by
  simp [append, staged_cons]

/-! ## Batches one after another -/

theorem append_append (ledger : Ledger) (first second : List LedgerRecord) :
    ledger.append (first ++ second) = (ledger.append first).append second := by
  induction first generalizing ledger with
  | nil => simp
  | cons record rest inductionHypothesis =>
      rw [List.cons_append, append_cons, append_cons, inductionHypothesis]

theorem appendedHashes_append (ledger : Ledger) (first second : List LedgerRecord) :
    ledger.appendedHashes (first ++ second) =
      ledger.appendedHashes first ++ (ledger.append first).appendedHashes second := by
  have joined : ledger.staged (first ++ second) =
      ledger.staged first ++ (ledger.append first).staged second := by
    have whole := append_append ledger first second
    rw [append, append, append, List.append_assoc] at whole
    exact List.append_cancel_left whole
  rw [appendedHashes, joined, List.map_append]
  rfl

/-! ## Chains -/

/-- Entries that are numbered by their places, each linked to the one before it. -/
structure Chained (ledger : Ledger) : Prop where
  sequence : ∀ place (inside : place < ledger.length), ledger[place].sequence = place
  first : ∀ (some : 0 < ledger.length), ledger[0].previousHash = genesisHash
  linked : ∀ place (inside : place + 1 < ledger.length),
    ledger[place + 1].previousHash = ledger[place].hash
  hashed : ∀ entry ∈ ledger,
    entry.hash = entry.toLedgerRecord.hash entry.sequence entry.previousHash

theorem chained_nil : Chained [] where
  sequence := nofun
  first := nofun
  linked := nofun
  hashed := nofun

/-- A ledger ends at the hash of its last entry. -/
theorem head_eq_of_last {ledger : Ledger} {place : Nat} (inside : place < ledger.length)
    (last : ledger.length - 1 = place) : ledger.head = ledger[place].hash := by
  rw [head_eq, List.getLast?_eq_getElem?, last, List.getElem?_eq_getElem inside]
  rfl

/-- The next entry keeps a chain. -/
theorem Chained.next {ledger : Ledger} (chained : ledger.Chained) (record : LedgerRecord) :
    Chained (ledger ++ [ledger.nextEntry record]) := by
  constructor
  case sequence =>
    intro place inside
    by_cases old : place < ledger.length
    · rw [List.getElem_append_left old]
      exact chained.sequence place old
    · have last : place = ledger.length := by
        rw [List.length_append, List.length_singleton] at inside
        omega
      subst last
      rw [List.getElem_concat_length rfl]
      rfl
  case first =>
    intro _
    by_cases old : 0 < ledger.length
    · rw [List.getElem_append_left old]
      exact chained.first old
    · have none : ledger = [] := List.length_eq_zero_iff.mp (by omega)
      subst none
      rfl
  case linked =>
    intro place inside
    by_cases old : place + 1 < ledger.length
    · rw [List.getElem_append_left old, List.getElem_append_left (by omega)]
      exact chained.linked place old
    · have last : ledger.length = place + 1 := by
        rw [List.length_append, List.length_singleton] at inside
        omega
      rw [List.getElem_append_left (show place < ledger.length by omega),
        ← head_eq_of_last _ (by omega), List.getElem_concat_length last.symm]
      rfl
  case hashed =>
    intro entry membership
    rcases List.mem_append.mp membership with old | new
    · exact chained.hashed entry old
    · rw [List.mem_singleton.mp new]
      rfl

/-- Appending keeps a chain. -/
theorem Chained.append {ledger : Ledger} (chained : ledger.Chained) (records : List LedgerRecord) :
    (ledger.append records).Chained := by
  induction records generalizing ledger with
  | nil => rwa [append_nil]
  | cons record rest inductionHypothesis =>
      rw [append_cons]
      exact inductionHypothesis (chained.next record)

/-! ## Verification -/

/-- Of a ledger with one entry more, that entry is looked at last. -/
theorem firstBroken?_concat (previousHash : String) (entries : List LedgerEntry)
    (entry : LedgerEntry) :
    firstBroken? previousHash (entries ++ [entry]) = none ↔
      firstBroken? previousHash entries = none ∧
        entry.previousHash = (entries.getLast?.map (·.hash)).getD previousHash ∧
        entry.hash = entry.toLedgerRecord.hash entry.sequence entry.previousHash := by
  induction entries generalizing previousHash with
  | nil =>
      by_cases linked : entry.previousHash = previousHash
      · simp [firstBroken?, linked]
      · simp [firstBroken?, linked]
  | cons first rest inductionHypothesis =>
      rw [List.cons_append, firstBroken?, firstBroken?]
      split
      · rw [inductionHypothesis, List.getLast?_cons]
        cases rest.getLast? <;> rfl
      · simp

theorem verify_eq_ok_iff {ledger : Ledger} :
    ledger.verify = .ok () ↔ firstBroken? genesisHash ledger = none := by
  unfold verify
  split
  · rename_i entry found
    simp [found]
  · rename_i found
    simp [found]

@[simp]
theorem verify_nil : verify [] = .ok () := rfl

theorem verify_concat {ledger : Ledger} {entry : LedgerEntry} :
    verify (ledger ++ [entry]) = .ok () ↔
      ledger.verify = .ok () ∧ entry.previousHash = ledger.head ∧
        entry.hash = entry.toLedgerRecord.hash entry.sequence entry.previousHash := by
  rw [verify_eq_ok_iff, verify_eq_ok_iff, firstBroken?_concat, ← head_eq]

/-- What is appended to a ledger that passes verification leaves one that passes. -/
theorem verify_append {ledger : Ledger} (verified : ledger.verify = .ok ())
    (records : List LedgerRecord) : (ledger.append records).verify = .ok () := by
  induction records generalizing ledger with
  | nil => rwa [append_nil]
  | cons record rest inductionHypothesis =>
      rw [append_cons]
      exact inductionHypothesis (verify_concat.mpr ⟨verified, rfl, rfl⟩)

/-! ## Runs of calls -/

/-- A call that adds to a ledger. -/
inductive Call where
  | batch (records : List LedgerRecord)
  | event (record : LedgerRecord)

namespace Call

def records : Call → List LedgerRecord
  | .batch records => records
  | .event record => [record]

/-- The answer to a call with the ledger after it. -/
def perform (ledger : Ledger) : Call → Except LedgerError (List String × Ledger)
  | .batch records => .ok (ledger.appendedHashes records, ledger.append records)
  | .event record => do
      let (hash, later) ← ledger.appendEvent record
      return ([hash], later)

/-- Every call succeeds, and an event is a batch of one. -/
theorem perform_eq (ledger : Ledger) (call : Call) :
    call.perform ledger =
      .ok (ledger.appendedHashes call.records, ledger.append call.records) := by
  cases call with
  | batch records => rfl
  | event record => rfl

end Call

def run (ledger : Ledger) (calls : List Call) : Ledger :=
  calls.foldl (fun ledger call =>
    match call.perform ledger with
    | .ok (_, later) => later
    | .error _ => ledger) ledger

@[simp]
theorem run_nil (ledger : Ledger) : ledger.run [] = ledger := rfl

theorem run_append (ledger : Ledger) (earlier later : List Call) :
    ledger.run (earlier ++ later) = (ledger.run earlier).run later := by
  simp [run]

theorem run_cons (ledger : Ledger) (call : Call) (rest : List Call) :
    ledger.run (call :: rest) = (ledger.append call.records).run rest := by
  simp only [run, List.foldl_cons, Call.perform_eq]

/-- A run of calls appends all their records. -/
theorem run_eq_append (ledger : Ledger) (calls : List Call) :
    ledger.run calls = ledger.append (calls.flatMap Call.records) := by
  induction calls generalizing ledger with
  | nil => simp
  | cons call rest inductionHypothesis =>
      rw [run_cons, inductionHypothesis, List.flatMap_cons, append_append]

/-- After any calls a ledger is a chain that passes verification and ends at its head; further calls
leave its entries as they are; the next call adds an entry for each of its records and answers with
their hashes; and a batch is the same as its parts one after another. -/
theorem chained_of_run (calls : List Call) :
    Chained (run [] calls) ∧
      (run [] calls).verify = .ok () ∧
      (run [] calls).head = ((run [] calls).getLast?.map (·.hash)).getD genesisHash ∧
      (∀ later, run [] calls <+: run [] (calls ++ later)) ∧
      (∀ call : Call, ∃ added,
        call.perform (run [] calls) = .ok (added.map (·.hash), run [] calls ++ added) ∧
          run [] (calls ++ [call]) = run [] calls ++ added ∧
          added.map (·.toLedgerRecord) = call.records) ∧
      ∀ first second,
        (run [] calls).append (first ++ second) = ((run [] calls).append first).append second ∧
          (run [] calls).appendedHashes (first ++ second) =
            (run [] calls).appendedHashes first ++
              ((run [] calls).append first).appendedHashes second := by
  refine ⟨?chained, ?verified, head_eq _, ?kept, ?answered,
    fun first second => ⟨append_append _ first second, appendedHashes_append _ first second⟩⟩
  case chained =>
    rw [run_eq_append]
    exact chained_nil.append _
  case verified =>
    rw [run_eq_append]
    exact verify_append verify_nil _
  case kept =>
    intro later
    rw [run_append, run_eq_append (run [] calls)]
    exact List.prefix_append _ _
  case answered =>
    intro call
    refine ⟨(run [] calls).staged call.records, call.perform_eq _, ?_, records_staged _ _⟩
    rw [run_append, run_cons, run_nil]
    rfl

end Ledger

end ReviewGate
