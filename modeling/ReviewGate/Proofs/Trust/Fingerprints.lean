import Mathlib.Data.List.Induction
import Mathlib.Data.List.Nodup
import ReviewGate.Proofs.Trust.Keys

/-!
# What becomes of a fingerprint

A fingerprint is handed out to one identity.  From then on it is the valid key of that identity, or
it is revoked, and never both.  Handing out a key and taking one back each move the valid key of one
identity, so that one lemma for each is enough.
-/

namespace ReviewGate.LocalKeys

/-! ## Requests -/

inductive Request where
  | issue (identity : String)
  | rotate (identity : String)
  | revert (identity fingerprint : String)
  deriving DecidableEq, Repr

/-- Answers a request with the fingerprint that is handed out, if it is a request for one. -/
def serve (keys : LocalKeys) : Request → Except KeyError (Option String) × LocalKeys
  | .issue identity => ((keys.issue identity).1.map some, (keys.issue identity).2)
  | .rotate identity => ((keys.rotate identity).1.map some, (keys.rotate identity).2)
  | .revert identity fingerprint =>
      ((keys.revert identity fingerprint).1.map fun _ => none, (keys.revert identity fingerprint).2)

/-- The identity with the fingerprint that it is given. -/
def grant? (keys : LocalKeys) : Request → Option (String × String)
  | .issue identity => (keys.issue identity).1.toOption.map (identity, ·)
  | .rotate identity => (keys.rotate identity).1.toOption.map (identity, ·)
  | .revert .. => none

def run (keys : LocalKeys) (requests : List Request) : LocalKeys :=
  requests.foldl (fun keys request => (keys.serve request).2) keys

/-- The fingerprints that are handed out in a run, with the identities they are made for. -/
def handedOut (keys : LocalKeys) : List Request → List (String × String)
  | [] => []
  | request :: requests => (keys.grant? request).toList ++ (keys.serve request).2.handedOut requests

theorem run_concat (keys : LocalKeys) (requests : List Request) (last : Request) :
    keys.run (requests ++ [last]) = ((keys.run requests).serve last).2 := by
  simp [run]

theorem handedOut_concat (keys : LocalKeys) (requests : List Request) (last : Request) :
    keys.handedOut (requests ++ [last]) =
      keys.handedOut requests ++ ((keys.run requests).grant? last).toList := by
  induction requests generalizing keys with
  | nil => simp [handedOut, run]
  | cons request requests inductionHypothesis =>
      rw [List.cons_append, handedOut, handedOut, inductionHypothesis, List.append_assoc]
      rfl

/-! ## The books -/

/-- The keys agree with what has been handed out: the valid key of an identity and the one before it
were made for it, and a fingerprint is revoked unless it is valid. -/
structure Books (handed : List (String × String)) (keys : LocalKeys) : Prop where
  active : ∀ {identity fingerprint}, keys.active.get? identity = some fingerprint →
    (identity, fingerprint) ∈ handed ∧ fingerprint ∉ keys.revoked
  previous : ∀ {identity fingerprint}, keys.previous.get? identity = some fingerprint →
    (identity, fingerprint) ∈ handed ∧ fingerprint ∈ keys.revoked
  revoked : ∀ {fingerprint}, fingerprint ∈ keys.revoked → ∃ owner, (owner, fingerprint) ∈ handed
  settled : ∀ {identity fingerprint}, (identity, fingerprint) ∈ handed →
    keys.active.get? identity = some fingerprint ∨ fingerprint ∈ keys.revoked

theorem books_start (mint : String → Nat → String) : Books [] (start mint) where
  active := nofun
  previous := nofun
  revoked := nofun
  settled := nofun

/-- A fingerprint was handed out once. -/
theorem eq_of_handed {handed : List (String × String)}
    (distinct : (handed.map Prod.snd).Nodup) {identity other fingerprint : String}
    (first : (identity, fingerprint) ∈ handed) (second : (other, fingerprint) ∈ handed) :
    identity = other :=
  congrArg Prod.fst (List.inj_on_of_nodup_map distinct first second rfl)

namespace Books

variable {handed : List (String × String)} {keys later : LocalKeys} {identity fingerprint : String}

/-- An identity gets a new key, and the key that it had, if any, is revoked and remembered. -/
theorem handOut (books : Books handed keys)
    (distinct : ((handed ++ [(identity, fingerprint)]).map Prod.snd).Nodup)
    (active : ∀ other, later.active.get? other =
      if identity = other then some fingerprint else keys.active.get? other)
    (previous : ∀ other, later.previous.get? other =
      if identity = other then keys.active.get? identity else keys.previous.get? other)
    (revoked : ∀ other, other ∈ later.revoked ↔
      keys.active.get? identity = some other ∨ other ∈ keys.revoked) :
    Books (handed ++ [(identity, fingerprint)]) later := by
  have earlier : ∀ {owner other}, (owner, other) ∈ handed →
      (owner, other) ∈ handed ++ [(identity, fingerprint)] := List.mem_append_left _
  have newest : (identity, fingerprint) ∈ handed ++ [(identity, fingerprint)] := by simp
  have unknown : ∀ {owner}, (owner, fingerprint) ∉ handed := by
    intro owner present
    rw [List.map_append] at distinct
    exact (List.disjoint_of_nodup_append distinct) (List.mem_map_of_mem present) (by simp)
  have known : ∀ {other}, other ∈ later.revoked → ∃ owner, (owner, other) ∈ handed := by
    intro other gone
    rcases (revoked other).mp gone with replaced | gone
    · exact ⟨identity, (books.active replaced).1⟩
    · exact books.revoked gone
  constructor
  case active =>
    intro owner other valid
    rw [active] at valid
    split at valid
    · rename_i same
      cases valid
      refine ⟨same ▸ newest, fun gone => ?_⟩
      obtain ⟨_, present⟩ := known gone
      exact unknown present
    · rename_i different
      obtain ⟨present, stands⟩ := books.active valid
      refine ⟨earlier present, fun gone => ?_⟩
      rcases (revoked other).mp gone with replaced | gone
      · exact different (eq_of_handed distinct (earlier (books.active replaced).1)
          (earlier present))
      · exact stands gone
  case previous =>
    intro owner other before
    rw [previous] at before
    split at before
    · rename_i same
      subst same
      exact ⟨earlier (books.active before).1, (revoked other).mpr (.inl before)⟩
    · obtain ⟨present, gone⟩ := books.previous before
      exact ⟨earlier present, (revoked other).mpr (.inr gone)⟩
  case revoked =>
    intro other gone
    obtain ⟨owner, present⟩ := known gone
    exact ⟨owner, earlier present⟩
  case settled =>
    intro owner other present
    rw [active]
    rcases List.mem_append.mp present with present | new
    · rcases books.settled present with valid | gone
      · by_cases same : identity = owner
        · subst same
          exact .inr ((revoked other).mpr (.inl valid))
        · exact .inl (by rw [if_neg same, valid])
      · exact .inr ((revoked other).mpr (.inr gone))
    · cases List.mem_singleton.mp new
      exact .inl (if_pos rfl)

/-- An identity loses its valid key, and the key that is remembered, if any, is brought back. -/
theorem takeBack (books : Books handed keys) (distinct : (handed.map Prod.snd).Nodup)
    (valid : keys.active.get? identity = some fingerprint)
    (active : ∀ other, later.active.get? other =
      if identity = other then keys.previous.get? identity else keys.active.get? other)
    (previous : ∀ other, later.previous.get? other =
      if identity = other then none else keys.previous.get? other)
    (revoked : ∀ other, other ∈ later.revoked ↔
      other = fingerprint ∨ other ∈ keys.revoked ∧ keys.previous.get? identity ≠ some other) :
    Books handed later := by
  obtain ⟨owned, unrevoked⟩ := books.active valid
  constructor
  case active =>
    intro owner other now
    rw [active] at now
    split at now
    · rename_i same
      subst same
      obtain ⟨present, gone⟩ := books.previous now
      refine ⟨present, fun still => ?_⟩
      rcases (revoked other).mp still with rfl | ⟨-, forgotten⟩
      · exact unrevoked gone
      · exact forgotten now
    · rename_i different
      obtain ⟨present, stands⟩ := books.active now
      refine ⟨present, fun still => ?_⟩
      rcases (revoked other).mp still with rfl | ⟨gone, -⟩
      · exact different (eq_of_handed distinct owned present)
      · exact stands gone
  case previous =>
    intro owner other before
    rw [previous] at before
    split at before
    · contradiction
    · rename_i different
      obtain ⟨present, gone⟩ := books.previous before
      refine ⟨present, (revoked other).mpr (.inr ⟨gone, fun restored => ?_⟩)⟩
      exact different (eq_of_handed distinct (books.previous restored).1 present)
  case revoked =>
    intro other gone
    rcases (revoked other).mp gone with rfl | ⟨gone, -⟩
    · exact ⟨identity, owned⟩
    · exact books.revoked gone
  case settled =>
    intro owner other present
    rw [active]
    rcases books.settled present with stands | gone
    · by_cases same : identity = owner
      · subst same
        cases valid.symm.trans stands
        exact .inr ((revoked fingerprint).mpr (.inl rfl))
      · exact .inl (by rw [if_neg same, stands])
    · by_cases restored : keys.previous.get? identity = some other
      · have same : identity = owner := eq_of_handed distinct (books.previous restored).1 present
        exact .inl (by rw [if_pos same, restored])
      · exact .inr ((revoked other).mpr (.inr ⟨gone, restored⟩))

theorem issue (books : Books handed keys)
    (distinct : ((handed ++ [(identity, fingerprint)]).map Prod.snd).Nodup)
    (issued : keys.issue identity = (.ok fingerprint, later)) :
    Books (handed ++ [(identity, fingerprint)]) later := by
  obtain ⟨free, rfl, rfl⟩ := issue_eq_ok issued
  refine books.handOut distinct (fun _ => Table.get?_insert ..) ?_ (by simp [free])
  intro other
  rw [free]
  exact Table.get?_erase ..

theorem rotate (books : Books handed keys)
    (distinct : ((handed ++ [(identity, fingerprint)]).map Prod.snd).Nodup)
    (rotated : keys.rotate identity = (.ok fingerprint, later)) :
    Books (handed ++ [(identity, fingerprint)]) later := by
  obtain ⟨old, found, rfl, rfl⟩ := rotate_eq_ok rotated
  refine books.handOut distinct (fun _ => Table.get?_insert ..) ?_ ?_
  · intro other
    rw [found]
    exact Table.get?_insert ..
  · intro other
    rw [found, Option.some_inj, eq_comm]
    exact List.mem_cons

theorem revert (books : Books handed keys) (distinct : (handed.map Prod.snd).Nodup)
    (identity fingerprint : String) : Books handed (keys.revert identity fingerprint).2 := by
  by_cases valid : keys.active.get? identity = some fingerprint
  · cases before : keys.previous.get? identity with
    | none =>
        have same : (keys.revert identity fingerprint).2 = _ := revert_of_first valid before
        rw [same]
        refine books.takeBack distinct valid (fun other => ?_) (fun other => ?_) fun other => ?_
        · rw [before]
          exact Table.get?_erase ..
        · split
          · rename_i same
            rw [← same, before]
          · rfl
        · simp [before]
    | some old =>
        have same : (keys.revert identity fingerprint).2 = _ := revert_of_rotated valid before
        rw [same]
        refine books.takeBack distinct valid (fun other => ?_) (fun other => ?_) fun other => ?_
        · rw [before]
          exact Table.get?_insert ..
        · exact Table.get?_erase ..
        · rw [List.mem_cons, List.mem_filter, bne_iff_ne, before, Option.some_inj.ne, ne_comm]
  · rw [LocalKeys.revert, if_neg (by rwa [isValid_eq_true_iff])]
    exact books

/-- One request, served or refused. -/
theorem serve (books : Books handed keys) (request : Request)
    (distinct : ((handed ++ (keys.grant? request).toList).map Prod.snd).Nodup) :
    Books (handed ++ (keys.grant? request).toList) (keys.serve request).2 := by
  cases request with
  | issue identity =>
      rw [grant?] at distinct ⊢
      rw [LocalKeys.serve]
      rcases issued : keys.issue identity with ⟨cause | fingerprint, later⟩
      · rw [issue_eq_error issued]
        simpa [Except.toOption] using books
      · rw [issued] at distinct
        exact books.issue distinct issued
  | rotate identity =>
      rw [grant?] at distinct ⊢
      rw [LocalKeys.serve]
      rcases rotated : keys.rotate identity with ⟨cause | fingerprint, later⟩
      · rw [rotate_eq_error rotated]
        simpa [Except.toOption] using books
      · rw [rotated] at distinct
        exact books.rotate distinct rotated
  | revert identity fingerprint =>
      simp only [grant?, Option.toList_none, List.append_nil] at distinct ⊢
      exact books.revert distinct identity fingerprint

end Books

/-- The books are right after every run. -/
theorem books_run {mint : String → Nat → String} {requests : List Request}
    (distinct : (((start mint).handedOut requests).map Prod.snd).Nodup) :
    Books ((start mint).handedOut requests) ((start mint).run requests) := by
  induction requests using List.reverseRecOn with
  | nil => exact books_start mint
  | append_singleton requests last inductionHypothesis =>
      rw [handedOut_concat] at distinct ⊢
      rw [run_concat]
      refine (inductionHypothesis ?_).serve last distinct
      rw [List.map_append] at distinct
      exact distinct.of_append_left

/-! ## Answers -/

/-- Valid for one identity, and not revoked. -/
def IsCurrent (keys : LocalKeys) (identity fingerprint : String) : Prop :=
  keys.isRevoked fingerprint = false ∧
    ∀ other, keys.isValid other fingerprint = true ↔ other = identity

/-- Revoked, and valid for no identity. -/
def IsGone (keys : LocalKeys) (fingerprint : String) : Prop :=
  keys.isRevoked fingerprint = true ∧ ∀ identity, keys.isValid identity fingerprint = false

def HasKey (keys : LocalKeys) (identity : String) : Prop :=
  ∃ fingerprint, keys.isValid identity fingerprint = true

/-- An identity without a key can get a first one, an identity with a key another one, and a valid
key can be taken back. -/
def Request.Fits (keys : LocalKeys) : Request → Prop
  | .issue identity => ¬keys.HasKey identity
  | .rotate identity => keys.HasKey identity
  | .revert identity fingerprint => keys.isValid identity fingerprint = true

theorem hasKey_iff {keys : LocalKeys} {identity : String} :
    keys.HasKey identity ↔ ∃ fingerprint, keys.active.get? identity = some fingerprint := by
  simp only [HasKey, isValid_eq_true_iff]

/-- A request is served exactly where it fits, and otherwise it changes nothing. -/
theorem serve_cases (keys : LocalKeys) (request : Request) :
    request.Fits keys ∧ (∃ answer, (keys.serve request).1 = .ok answer) ∨
      ¬request.Fits keys ∧ (∃ cause, (keys.serve request).1 = .error cause) ∧
        (keys.serve request).2 = keys := by
  cases request with
  | issue identity =>
      rw [Request.Fits, hasKey_iff, serve, issue]
      cases keys.active.get? identity with
      | none => exact .inl ⟨by simp, _, rfl⟩
      | some held => exact .inr ⟨by simp, ⟨_, rfl⟩, rfl⟩
  | rotate identity =>
      rw [Request.Fits, hasKey_iff, serve, rotate]
      cases keys.active.get? identity with
      | none => exact .inr ⟨by simp, ⟨_, rfl⟩, rfl⟩
      | some held => exact .inl ⟨⟨held, rfl⟩, _, rfl⟩
  | revert identity fingerprint =>
      rw [Request.Fits, serve, revert]
      by_cases valid : keys.isValid identity fingerprint = true
      · rw [if_pos valid]
        cases keys.previous.get? identity with
        | none => exact .inl ⟨valid, _, rfl⟩
        | some old => exact .inl ⟨valid, _, rfl⟩
      · rw [if_neg valid]
        exact .inr ⟨valid, ⟨_, rfl⟩, rfl⟩

theorem isCurrent_or_isGone_of_books {handed : List (String × String)} {keys : LocalKeys}
    {identity fingerprint : String} (books : Books handed keys)
    (distinct : (handed.map Prod.snd).Nodup) (present : (identity, fingerprint) ∈ handed) :
    keys.IsCurrent identity fingerprint ∨ keys.IsGone fingerprint := by
  by_cases valid : keys.active.get? identity = some fingerprint
  · refine .inl ⟨?_, fun other => ?_⟩
    · rw [← Bool.not_eq_true, isRevoked_eq_true_iff]
      exact (books.active valid).2
    · rw [isValid_eq_true_iff]
      constructor
      · exact fun stands => eq_of_handed distinct (books.active stands).1 present
      · rintro rfl
        exact valid
  · have gone := (books.settled present).resolve_left valid
    refine .inr ⟨isRevoked_eq_true_iff.mpr gone, fun other => ?_⟩
    rw [← Bool.not_eq_true, isValid_eq_true_iff]
    exact fun stands => (books.active stands).2 gone

/-- What keys answer about fingerprints that have been handed out. -/
structure Accounted (handed : List (String × String)) (keys : LocalKeys) : Prop where
  single : ∀ identity first second, keys.isValid identity first = true →
    keys.isValid identity second = true → first = second
  valid : ∀ identity fingerprint, keys.isValid identity fingerprint = true →
    (identity, fingerprint) ∈ handed
  revoked : ∀ fingerprint, keys.isRevoked fingerprint = true →
    ∃ identity, (identity, fingerprint) ∈ handed
  standing : ∀ identity fingerprint, (identity, fingerprint) ∈ handed →
    keys.IsCurrent identity fingerprint ∨ keys.IsGone fingerprint
  refused : ∀ request, (∃ cause, (keys.serve request).1 = .error cause) ↔ ¬request.Fits keys
  unchanged : ∀ request cause, (keys.serve request).1 = .error cause →
    ∀ identity fingerprint,
      (keys.serve request).2.isValid identity fingerprint = keys.isValid identity fingerprint ∧
      (keys.serve request).2.isRevoked fingerprint = keys.isRevoked fingerprint

/-- After every run of requests, served or refused, in which no fingerprint came up twice, each one
that was handed out is current or gone, and what is refused next changes no answer. -/
theorem accounted_of_run {mint : String → Nat → String} {requests : List Request}
    (distinct : (((start mint).handedOut requests).map Prod.snd).Nodup) :
    Accounted ((start mint).handedOut requests) ((start mint).run requests) := by
  have books := books_run distinct
  constructor
  case single =>
    intro identity first second holds also
    rw [isValid_eq_true_iff] at holds also
    exact Option.some_inj.mp (holds.symm.trans also)
  case valid =>
    intro identity fingerprint holds
    exact (books.active (isValid_eq_true_iff.mp holds)).1
  case revoked =>
    intro fingerprint gone
    exact books.revoked (isRevoked_eq_true_iff.mp gone)
  case standing =>
    intro identity fingerprint present
    exact isCurrent_or_isGone_of_books books distinct present
  case refused =>
    intro request
    rcases ((start mint).run requests).serve_cases request with
      ⟨fits, answer, served⟩ | ⟨unfit, refusal, -⟩
    · simp [served, fits]
    · exact iff_of_true refusal unfit
  case unchanged =>
    intro request cause refusal identity fingerprint
    rcases ((start mint).run requests).serve_cases request with ⟨-, answer, served⟩ | ⟨-, -, same⟩
    · cases refusal.symm.trans served
    · rw [same]
      exact ⟨rfl, rfl⟩

/-- Fingerprints that name their identities. -/
def labelled (identity : String) (number : Nat) : String := identity ++ "/" ++ toString number

/-- Two rotations of which the last is taken back, a key that is taken back at once, and three
requests that do not fit. -/
def traffic : List Request :=
  [.issue "ann", .issue "ann", .rotate "ann", .rotate "ann", .revert "ann" "ann/2",
    .revert "ann" "ann/0", .issue "bob", .revert "bob" "bob/3", .rotate "bob"]

theorem accounted_traffic :
    (start labelled).handedOut traffic =
      [("ann", "ann/0"), ("ann", "ann/1"), ("ann", "ann/2"), ("bob", "bob/3")] ∧
    (((start labelled).handedOut traffic).map Prod.snd).Nodup ∧
    Accounted ((start labelled).handedOut traffic) ((start labelled).run traffic) ∧
    ["ann/0", "ann/1", "ann/2", "bob/3"].map ((start labelled).run traffic).isRevoked =
      [true, false, true, true] := by
  have distinct : (((start labelled).handedOut traffic).map Prod.snd).Nodup := by decide +kernel
  exact ⟨by decide +kernel, distinct, accounted_of_run distinct, by decide +kernel⟩

end ReviewGate.LocalKeys
