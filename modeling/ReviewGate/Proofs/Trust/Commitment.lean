import ReviewGate.Proofs.Data.Compact
import ReviewGate.Proofs.Trust.Chain
import ReviewGate.Proofs.Trust.Policy

/-!
# The head of a ledger

The last hash commits to everything before it: histories that end in one hash are the same, or the
hash has been broken on texts that were hashed for them.
-/

namespace ReviewGate

/-! ## What is hashed -/

theorem Instant.eq_of_toText_eq {first second : Instant} (tellable : first.IsTellable)
    (tellableSecond : second.IsTellable) (same : first.toText = second.toText) :
    first = second := by
  have read := Instant.ofText?_toText tellable.valid tellable.within
  rw [same, Instant.ofText?_toText tellableSecond.valid tellableSecond.within] at read
  exact (Option.some.inj read).symm

theorem EventType.ofName?_name (eventType : EventType) :
    Named.ofName? (Named.name eventType) = some eventType := by
  cases eventType <;> rfl

theorem EventType.eq_of_name_eq {first second : EventType}
    (same : Named.name first = Named.name second) : first = second := by
  have read := ofName?_name first
  rw [same, ofName?_name] at read
  exact (Option.some.inj read).symm

/-- What a ledger can hold: a payload that has been read from a text, and a timestamp that can be
told in full. -/
structure LedgerRecord.IsStorable (record : LedgerRecord) : Prop where
  payload : record.payload.IsFinite
  timestamp : record.timestamp.IsTellable

theorem LedgerRecord.isFinite_hashedFields {record : LedgerRecord}
    (finite : record.payload.IsFinite) (sequence : Nat) (previousHash : String) :
    (record.hashedFields sequence previousHash).IsFinite := by
  intro double membership
  refine finite double ?_
  simpa [hashedFields, Json.doubles, Json.doublesOfFields, Json.ofNat, Instant.toJson]
    using membership

namespace LedgerEntry

def hashedText (entry : LedgerEntry) : String :=
  entry.toLedgerRecord.hashedText entry.sequence entry.previousHash

/-- The text leaves no field open. -/
theorem fields_of_hashedText_eq {first second : LedgerEntry} (storable : first.IsStorable)
    (storableSecond : second.IsStorable) (same : first.hashedText = second.hashedText) :
    first.toLedgerRecord = second.toLedgerRecord ∧ first.sequence = second.sequence ∧
      first.previousHash = second.previousHash := by
  have fields := Json.eq_of_compact_eq
    (LedgerRecord.isFinite_hashedFields storable.payload first.sequence first.previousHash)
    (LedgerRecord.isFinite_hashedFields storableSecond.payload second.sequence
      second.previousHash) same
  obtain ⟨⟨identity, eventType, payload, timestamp⟩, sequence, previousHash, hash⟩ := first
  obtain ⟨⟨identitySecond, eventTypeSecond, payloadSecond, timestampSecond⟩, sequenceSecond,
    previousHashSecond, hashSecond⟩ := second
  simp only [LedgerRecord.hashedFields, Json.ofNat, Instant.toJson, Json.object.injEq,
    List.cons.injEq, Prod.mk.injEq, Json.int.injEq, Json.string.injEq, true_and, and_true]
    at fields
  obtain ⟨sequences, identities, names, payloads, timestamps, hashes⟩ := fields
  refine ⟨?_, Int.ofNat_inj.mp sequences, hashes⟩
  rw [LedgerRecord.mk.injEq]
  exact ⟨identities, EventType.eq_of_name_eq names, payloads,
    Instant.eq_of_toText_eq storable.timestamp storableSecond.timestamp timestamps⟩

end LedgerEntry

/-! ## Broken hashes -/

/-- Two texts have one hash, or one has the hash that stands for no entry. -/
def Digest.BrokenOn (texts : List String) : Prop :=
  (∃ first ∈ texts, ∃ second ∈ texts, first ≠ second ∧ ofText first = ofText second) ∨
    ∃ text ∈ texts, ofText text = Ledger.genesisHash

theorem Digest.BrokenOn.mono {texts others : List String} (broken : BrokenOn texts)
    (subset : texts ⊆ others) : BrokenOn others := by
  rcases broken with ⟨first, member, second, memberSecond, different, same⟩ | ⟨text, member, same⟩
  · exact .inl ⟨first, subset member, second, subset memberSecond, different, same⟩
  · exact .inr ⟨text, subset member, same⟩

namespace Ledger

/-- A ledger whose entries can be held. -/
def IsStorable (ledger : Ledger) : Prop := ∀ record ∈ ledger.records, record.IsStorable

theorem isStorable_concat {ledger : Ledger} {entry : LedgerEntry} :
    IsStorable (ledger ++ [entry]) ↔ ledger.IsStorable ∧ entry.IsStorable := by
  simp only [IsStorable, records, List.map_append, List.forall_mem_append, List.map_cons,
    List.map_nil, List.forall_mem_singleton]

def hashedTexts (ledger : Ledger) : List String := ledger.map (·.hashedText)

theorem hashedTexts_concat (ledger : Ledger) (entry : LedgerEntry) :
    hashedTexts (ledger ++ [entry]) = ledger.hashedTexts ++ [entry.hashedText] := by
  simp [hashedTexts]

/-- No entry has the hash that stands for none. -/
theorem eq_nil_or_broken {ledger : Ledger} (verified : ledger.verify = .ok ())
    (head : ledger.head = genesisHash) : ledger = [] ∨ Digest.BrokenOn ledger.hashedTexts := by
  rcases List.eq_nil_or_concat' ledger with none | ⟨earlier, last, rfl⟩
  · exact .inl none
  · obtain ⟨_, _, hashed⟩ := verify_concat.mp verified
    rw [head_concat, hashed] at head
    exact .inr (.inr ⟨last.hashedText, by simp [hashedTexts_concat], head⟩)

/-- The head commits to the whole history: ledgers that pass verification and end at one hash have
the same entries, or the hash is broken on the texts that were hashed for them. -/
theorem eq_or_broken_of_head_eq {first second : Ledger} (verified : first.verify = .ok ())
    (verifiedSecond : second.verify = .ok ())
    (storable : first.IsStorable) (storableSecond : second.IsStorable)
    (same : first.head = second.head) :
    first = second ∨ Digest.BrokenOn (first.hashedTexts ++ second.hashedTexts) := by
  -- Backward over the first ledger: each last entry leads to the head before it.
  induction first using List.reverseRecOn generalizing second with
  | nil =>
      exact (eq_nil_or_broken verifiedSecond same.symm).imp Eq.symm
        fun broken => broken.mono (List.subset_append_right _ _)
  | append_singleton earlier last inductionHypothesis =>
      rcases List.eq_nil_or_concat' second with rfl | ⟨earlierSecond, lastSecond, rfl⟩
      · exact (eq_nil_or_broken verified same).imp id
          fun broken => broken.mono (List.subset_append_left _ _)
      · obtain ⟨verifiedEarlier, linked, hashed⟩ := verify_concat.mp verified
        obtain ⟨verifiedEarlierSecond, linkedSecond, hashedSecond⟩ :=
          verify_concat.mp verifiedSecond
        rw [head_concat, head_concat] at same
        have digests : Digest.ofText last.hashedText = Digest.ofText lastSecond.hashedText :=
          hashed.symm.trans (same.trans hashedSecond)
        obtain ⟨storableEarlier, storableLast⟩ := isStorable_concat.mp storable
        obtain ⟨storableEarlierSecond, storableLastSecond⟩ := isStorable_concat.mp storableSecond
        by_cases texts : last.hashedText = lastSecond.hashedText
        · obtain ⟨recordsEqual, sequences, links⟩ :=
            LedgerEntry.fields_of_hashedText_eq storableLast storableLastSecond texts
          have lasts : last = lastSecond := by
            obtain ⟨record, sequence, previousHash, hash⟩ := last
            obtain ⟨recordSecond, sequenceSecond, previousHashSecond, hashSecond⟩ := lastSecond
            rw [LedgerEntry.mk.injEq]
            exact ⟨recordsEqual, sequences, links, same⟩
          have heads : head earlier = head earlierSecond := by
            rw [← linked, ← linkedSecond, links]
          rcases inductionHypothesis verifiedEarlier verifiedEarlierSecond storableEarlier
            storableEarlierSecond heads with equal | broken
          · exact .inl (by rw [equal, lasts])
          · refine .inr (broken.mono ?_)
            intro text membership
            simp only [hashedTexts_concat, List.mem_append] at membership ⊢
            exact membership.imp .inl .inl
        · exact .inr (.inl ⟨last.hashedText, by simp [hashedTexts_concat],
            lastSecond.hashedText, by simp [hashedTexts_concat], texts, digests⟩)

/-- A score that was updated in the first second of the clock. -/
def firstUpdate : LedgerRecord :=
  ⟨"reviewer", .trustUpdated, .object [("new_score", .float 0.5)], ⟨0, 0⟩⟩

/-- A window that was entered a second later. -/
def firstWindow : LedgerRecord := ⟨"reviewer", .coolingOffEntered, .null, ⟨1, 0⟩⟩

theorem eq_or_broken_of_batches :
    let apart := (append [] [firstUpdate]).append [firstWindow]
    let together := append [] [firstUpdate, firstWindow]
    apart.verify = .ok () ∧ together.verify = .ok () ∧ apart.IsStorable ∧ together.IsStorable ∧
      apart.head = together.head ∧
      (apart = together ∨ Digest.BrokenOn (apart.hashedTexts ++ together.hashedTexts)) := by
  intro apart together
  have verified : apart.verify = .ok () := verify_append (verify_append verify_nil _) _
  have verifiedTogether : together.verify = .ok () := verify_append verify_nil _
  have heads : apart.head = together.head :=
    congrArg head (append_append [] [firstUpdate] [firstWindow]).symm
  have each : ∀ record ∈ [firstUpdate, firstWindow], record.IsStorable := by
    rw [List.forall_mem_cons, List.forall_mem_singleton]
    constructor
    · refine ⟨?_, ⟨by decide, by decide⟩, by decide⟩
      intro double membership
      rw [List.mem_singleton.mp membership]
      decide
    · exact ⟨nofun, ⟨by decide, by decide⟩, by decide⟩
  have storable : apart.IsStorable := by
    rw [IsStorable, records_append, records_append]
    exact each
  have storableTogether : together.IsStorable := by
    rw [IsStorable, records_append]
    exact each
  exact ⟨verified, verifiedTogether, storable, storableTogether, heads,
    eq_or_broken_of_head_eq verified verifiedTogether storable storableTogether heads⟩

end Ledger

end ReviewGate
