import ReviewGate.Proofs.Trust.Operation

/-!
# Keys kept in memory

The valid key of an identity is not revoked, and no key is valid for two identities.  A key that is
taken back leaves every answer about the keys before it as it was.
-/

namespace ReviewGate.LocalKeys

/-! ## Answers -/

/-- A fingerprint that may have been handed out. -/
def HasIssued (keys : LocalKeys) (fingerprint : String) : Prop :=
  ∃ identity number, number < keys.minted ∧ keys.mint identity number = fingerprint

theorem isValid_eq_true_iff {keys : LocalKeys} {identity fingerprint : String} :
    keys.isValid identity fingerprint = true ↔ keys.active.get? identity = some fingerprint :=
  beq_iff_eq

theorem isRevoked_eq_true_iff {keys : LocalKeys} {fingerprint : String} :
    keys.isRevoked fingerprint = true ↔ fingerprint ∈ keys.revoked :=
  List.contains_iff_mem

/-- The same answers about everything that has been handed out so far. -/
structure Alike (keys later : LocalKeys) : Prop where
  valid : ∀ identity, later.active.get? identity = keys.active.get? identity
  revoked : ∀ fingerprint, keys.HasIssued fingerprint →
    (fingerprint ∈ later.revoked ↔ fingerprint ∈ keys.revoked)

theorem Alike.refl (keys : LocalKeys) : keys.Alike keys := ⟨fun _ => rfl, fun _ _ => Iff.rfl⟩

theorem Alike.isValid_eq {keys later : LocalKeys} (alike : keys.Alike later)
    (identity fingerprint : String) :
    later.isValid identity fingerprint = keys.isValid identity fingerprint := by
  rw [isValid, isValid, alike.valid]

theorem Alike.isRevoked_eq {keys later : LocalKeys} (alike : keys.Alike later)
    {fingerprint : String} (issued : keys.HasIssued fingerprint) :
    later.isRevoked fingerprint = keys.isRevoked fingerprint := by
  rw [Bool.eq_iff_iff, isRevoked_eq_true_iff, isRevoked_eq_true_iff, alike.revoked _ issued]

/-! ## The invariant -/

/-- Numbers are used once, and a valid key is valid for one identity and not revoked. -/
structure Sound (keys : LocalKeys) : Prop where
  fresh : ∀ {identity other number another},
    keys.mint identity number = keys.mint other another → number = another
  issued : ∀ {identity fingerprint}, keys.active.get? identity = some fingerprint →
    keys.HasIssued fingerprint
  apart : ∀ {identity other fingerprint}, keys.active.get? identity = some fingerprint →
    keys.active.get? other = some fingerprint → identity = other
  revoked : ∀ {fingerprint}, fingerprint ∈ keys.revoked → keys.HasIssued fingerprint
  unrevoked : ∀ {identity fingerprint}, keys.active.get? identity = some fingerprint →
    fingerprint ∉ keys.revoked

theorem sound_start {mint : String → Nat → String}
    (fresh : ∀ identity other number another,
      mint identity number = mint other another → number = another) : (start mint).Sound where
  fresh := fresh _ _ _ _
  issued := nofun
  apart := nofun
  revoked := nofun
  unrevoked := nofun

namespace Sound

variable {keys later : LocalKeys} {identity fingerprint : String}

/-- The next fingerprint has not been handed out. -/
theorem ne_mint (sound : keys.Sound) (identity : String) (issued : keys.HasIssued fingerprint) :
    fingerprint ≠ keys.mint identity keys.minted := by
  obtain ⟨owner, number, used, rfl⟩ := issued
  intro same
  exact Nat.ne_of_lt used (sound.fresh same)

/-- A new key for an identity, the old one of which is revoked if there is one. -/
theorem replace (sound : keys.Sound) (mint : later.mint = keys.mint)
    (minted : later.minted = keys.minted + 1)
    (active : ∀ other, later.active.get? other =
      if identity = other then some (keys.mint identity keys.minted) else keys.active.get? other)
    (revoked : ∀ other, other ∈ later.revoked ↔
      keys.active.get? identity = some other ∨ other ∈ keys.revoked) : later.Sound := by
  have grows : ∀ {other}, keys.HasIssued other → later.HasIssued other := by
    rintro other ⟨owner, number, used, same⟩
    exact ⟨owner, number, by omega, by rw [mint, same]⟩
  have newest : later.HasIssued (keys.mint identity keys.minted) :=
    ⟨identity, keys.minted, by omega, by rw [mint]⟩
  constructor
  case fresh =>
    rw [mint]
    exact sound.fresh
  case issued =>
    intro owner other valid
    rw [active] at valid
    split at valid
    · cases valid
      exact newest
    · exact grows (sound.issued valid)
  case apart =>
    intro owner second other left right
    rw [active] at left right
    split at left
    · split at right
      · rename_i first second
        exact first.symm.trans second
      · cases left
        exact absurd rfl (sound.ne_mint identity (sound.issued right))
    · split at right
      · cases right
        exact absurd rfl (sound.ne_mint identity (sound.issued left))
      · exact sound.apart left right
  case revoked =>
    intro other gone
    rcases (revoked other).mp gone with replaced | gone
    · exact grows (sound.issued replaced)
    · exact grows (sound.revoked gone)
  case unrevoked =>
    intro owner other valid gone
    rw [active] at valid
    split at valid
    · cases valid
      rcases (revoked _).mp gone with replaced | gone
      · exact sound.ne_mint identity (sound.issued replaced) rfl
      · exact sound.ne_mint identity (sound.revoked gone) rfl
    · rename_i different
      rcases (revoked other).mp gone with replaced | gone
      · exact different (sound.apart replaced valid)
      · exact sound.unrevoked valid gone

/-- A key that has been taken back is as if it had been revoked at once. -/
theorem withdraw (sound : keys.Sound) (identity : String) (mint : later.mint = keys.mint)
    (minted : later.minted = keys.minted + 1)
    (active : ∀ other, later.active.get? other = keys.active.get? other)
    (revoked : ∀ other, other ∈ later.revoked ↔
      other = keys.mint identity keys.minted ∨ other ∈ keys.revoked) :
    later.Sound ∧ keys.Alike later := by
  have grows : ∀ {other}, keys.HasIssued other → later.HasIssued other := by
    rintro other ⟨owner, number, used, same⟩
    exact ⟨owner, number, by omega, by rw [mint, same]⟩
  have unaffected : ∀ other, keys.HasIssued other →
      (other ∈ later.revoked ↔ other ∈ keys.revoked) := by
    intro other issued
    rw [revoked, or_iff_right (sound.ne_mint identity issued)]
  refine ⟨?_, active, unaffected⟩
  constructor
  case fresh =>
    rw [mint]
    exact sound.fresh
  case issued =>
    intro owner other valid
    rw [active] at valid
    exact grows (sound.issued valid)
  case apart =>
    intro owner second other left right
    rw [active] at left right
    exact sound.apart left right
  case revoked =>
    intro other gone
    rcases (revoked other).mp gone with rfl | gone
    · exact ⟨identity, keys.minted, by omega, by rw [mint]⟩
    · exact grows (sound.revoked gone)
  case unrevoked =>
    intro owner other valid
    rw [active] at valid
    rw [unaffected other (sound.issued valid)]
    exact sound.unrevoked valid

end Sound

/-! ## Keys issued, replaced and taken back -/

variable {keys later : LocalKeys} {identity fingerprint : String}

theorem issue_eq_ok (issued : keys.issue identity = (.ok fingerprint, later)) :
    keys.active.get? identity = none ∧ fingerprint = keys.mint identity keys.minted ∧
      later = { keys with
        minted := keys.minted + 1
        active := keys.active.insert identity (keys.mint identity keys.minted)
        previous := keys.previous.erase identity } := by
  unfold issue at issued
  split at issued
  · cases issued
  · rename_i free
    cases issued
    exact ⟨free, rfl, rfl⟩

theorem rotate_eq_ok (rotated : keys.rotate identity = (.ok fingerprint, later)) :
    ∃ old, keys.active.get? identity = some old ∧
      fingerprint = keys.mint identity keys.minted ∧
      later = { keys with
        minted := keys.minted + 1
        active := keys.active.insert identity (keys.mint identity keys.minted)
        previous := keys.previous.insert identity old
        revoked := old :: keys.revoked } := by
  unfold rotate at rotated
  split at rotated
  · cases rotated
  · rename_i old found
    cases rotated
    exact ⟨old, found, rfl, rfl⟩

theorem issue_eq_error {cause : KeyError} (refused : keys.issue identity = (.error cause, later)) :
    later = keys := by
  unfold issue at refused
  split at refused <;> cases refused
  rfl

theorem rotate_eq_error {cause : KeyError}
    (refused : keys.rotate identity = (.error cause, later)) : later = keys := by
  unfold rotate at refused
  split at refused <;> cases refused
  rfl

/-- Taking back a first key leaves the identity without one. -/
theorem revert_of_first (valid : keys.active.get? identity = some fingerprint)
    (first : keys.previous.get? identity = none) :
    (KeyProvider.revert keys identity fingerprint).2 = { keys with
      active := keys.active.erase identity
      revoked := fingerprint :: keys.revoked } := by
  change (keys.revert identity fingerprint).2 = _
  rw [revert, if_pos (isValid_eq_true_iff.mpr valid), first]

/-- Taking back a later key brings back the one before. -/
theorem revert_of_rotated {old : String} (valid : keys.active.get? identity = some fingerprint)
    (replaced : keys.previous.get? identity = some old) :
    (KeyProvider.revert keys identity fingerprint).2 = { keys with
      active := keys.active.insert identity old
      previous := keys.previous.erase identity
      revoked := fingerprint :: keys.revoked.filter (· != old) } := by
  change (keys.revert identity fingerprint).2 = _
  rw [revert, if_pos (isValid_eq_true_iff.mpr valid), replaced]

theorem Sound.issue (sound : keys.Sound) (issued : keys.issue identity = (.ok fingerprint, later)) :
    later.Sound ∧ ∀ other, later.active.get? other =
      if identity = other then some fingerprint else keys.active.get? other := by
  obtain ⟨free, rfl, rfl⟩ := issue_eq_ok issued
  have active := fun other =>
    Table.get?_insert identity other (keys.mint identity keys.minted) keys.active
  refine ⟨sound.replace rfl rfl active ?_, active⟩
  intro other
  rw [free]
  simp

theorem Sound.rotate (sound : keys.Sound)
    (rotated : keys.rotate identity = (.ok fingerprint, later)) :
    later.Sound ∧ ∀ other, later.active.get? other =
      if identity = other then some fingerprint else keys.active.get? other := by
  obtain ⟨old, found, rfl, rfl⟩ := rotate_eq_ok rotated
  have active := fun other =>
    Table.get?_insert identity other (keys.mint identity keys.minted) keys.active
  refine ⟨sound.replace rfl rfl active ?_, active⟩
  intro other
  rw [found, Option.some_inj, eq_comm]
  exact List.mem_cons

/-- A request for a first key that comes to nothing. -/
theorem Sound.undone_issue (sound : keys.Sound)
    (undone : KeyProvider.Undone keys identity (KeyProvider.issue keys identity) later) :
    later.Sound ∧ keys.Alike later := by
  cases undone with
  | unasked => exact ⟨sound, .refl keys⟩
  | refused refusal =>
      rw [issue_eq_error refusal]
      exact ⟨sound, .refl keys⟩
  | reverted grant =>
      obtain ⟨free, rfl, rfl⟩ := issue_eq_ok grant
      rw [revert_of_first (Table.get?_insert_self ..) (Table.get?_erase_self ..)]
      refine sound.withdraw identity rfl rfl ?_ (fun other => List.mem_cons)
      intro other
      by_cases same : other = identity
      · rw [same, Table.get?_erase_self, free]
      · rw [Table.get?_erase_of_ne same, Table.get?_insert_of_ne same]

/-- A rotation that comes to nothing. -/
theorem Sound.undone_rotate (sound : keys.Sound)
    (undone : KeyProvider.Undone keys identity (KeyProvider.rotate keys identity) later) :
    later.Sound ∧ keys.Alike later := by
  cases undone with
  | unasked => exact ⟨sound, .refl keys⟩
  | refused refusal =>
      rw [rotate_eq_error refusal]
      exact ⟨sound, .refl keys⟩
  | reverted grant =>
      obtain ⟨old, found, rfl, rfl⟩ := rotate_eq_ok grant
      rw [revert_of_rotated (Table.get?_insert_self ..) (Table.get?_insert_self ..)]
      refine sound.withdraw identity rfl rfl ?_ ?_
      · intro other
        by_cases same : other = identity
        · rw [same, Table.get?_insert_self, found]
        · rw [Table.get?_insert_of_ne same, Table.get?_insert_of_ne same]
      · -- The old key is taken off the list, and it has not been on it before.
        intro other
        have kept : other ∈ (old :: keys.revoked).filter (· != old) ↔ other ∈ keys.revoked := by
          rw [List.filter_cons_of_neg (by simp), List.mem_filter, bne_iff_ne]
          refine and_iff_left_of_imp ?_
          rintro gone rfl
          exact sound.unrevoked found gone
        rw [List.mem_cons, kept]

end ReviewGate.LocalKeys
