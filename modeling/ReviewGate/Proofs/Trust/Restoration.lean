import ReviewGate.Proofs.Trust.Fingerprints

/-!
# What comes back when a key is taken back

For each identity one key is remembered, the one that was replaced last.  Taking back a key spends
it.  So a rotation is undone by taking back its key unless another key of the identity has been
taken back since then, and in that case the identity is left without a key.
-/

namespace ReviewGate.LocalKeys

/-! ## One request and one identity -/

/-- Whether a request takes back the valid key of an identity. -/
def takesBack (keys : LocalKeys) (identity : String) : Request → Bool
  | .revert other fingerprint => other == identity && keys.isValid other fingerprint
  | .issue _ | .rotate _ => false

/-- Whether a key of an identity is taken back in a run. -/
def takesBackIn (keys : LocalKeys) (identity : String) : List Request → Bool
  | [] => false
  | request :: requests =>
      keys.takesBack identity request || (keys.serve request).2.takesBackIn identity requests

theorem takesBackIn_concat (keys : LocalKeys) (identity : String) (requests : List Request)
    (last : Request) :
    keys.takesBackIn identity (requests ++ [last]) =
      (keys.takesBackIn identity requests || (keys.run requests).takesBack identity last) := by
  induction requests generalizing keys with
  | nil => simp [takesBackIn, run]
  | cons request requests inductionHypothesis =>
      rw [List.cons_append, takesBackIn, takesBackIn, inductionHypothesis, Bool.or_assoc]
      rfl

/-- A key that is handed out is valid, and the one before it is remembered. -/
theorem lookups_of_grant? {keys : LocalKeys} {owner fingerprint : String} {request : Request}
    (granted : keys.grant? request = some (owner, fingerprint)) (identity : String) :
    (keys.serve request).2.active.get? identity =
        (if owner = identity then some fingerprint else keys.active.get? identity) ∧
      (keys.serve request).2.previous.get? identity =
        (if owner = identity then keys.active.get? owner else keys.previous.get? identity) := by
  cases request with
  | issue other =>
      obtain ⟨_, answered, same⟩ := Option.map_eq_some_iff.mp granted
      cases same
      obtain ⟨free, rfl, later⟩ := issue_eq_ok (Prod.ext (eq_ok_of_toOption answered) rfl)
      rw [show (keys.serve (.issue owner)).2 = _ from later, free]
      exact ⟨Table.get?_insert .., Table.get?_erase ..⟩
  | rotate other =>
      obtain ⟨_, answered, same⟩ := Option.map_eq_some_iff.mp granted
      cases same
      obtain ⟨old, found, rfl, later⟩ :=
        rotate_eq_ok (Prod.ext (eq_ok_of_toOption answered) rfl)
      rw [show (keys.serve (.rotate owner)).2 = _ from later, found]
      exact ⟨Table.get?_insert .., Table.get?_insert ..⟩
  | revert other fingerprint => contradiction

/-- The key that is remembered takes the place of one that is taken back, and none is remembered
then. -/
theorem lookups_of_revert {keys : LocalKeys} {owner fingerprint : String}
    (valid : keys.active.get? owner = some fingerprint) (identity : String) :
    (keys.revert owner fingerprint).2.active.get? identity =
        (if owner = identity then keys.previous.get? owner else keys.active.get? identity) ∧
      (keys.revert owner fingerprint).2.previous.get? identity =
        (if owner = identity then none else keys.previous.get? identity) := by
  cases before : keys.previous.get? owner with
  | none =>
      rw [show (keys.revert owner fingerprint).2 = _ from revert_of_first valid before]
      refine ⟨Table.get?_erase .., ?_⟩
      split
      · rename_i same
        rw [← same, before]
      · rfl
  | some old =>
      rw [show (keys.revert owner fingerprint).2 = _ from revert_of_rotated valid before]
      exact ⟨Table.get?_insert .., Table.get?_erase ..⟩

/-- What a request, served or refused, does to the keys of an identity: nothing, or it hands out a
key, or it takes back the valid key and spends what is remembered. -/
inductive Turn (keys : LocalKeys) (identity : String) (request : Request) : Prop where
  | idle (spared : keys.takesBack identity request = false)
      (active : (keys.serve request).2.active.get? identity = keys.active.get? identity)
      (previous : (keys.serve request).2.previous.get? identity = keys.previous.get? identity)
  | handOut {fingerprint : String} (granted : keys.grant? request = some (identity, fingerprint))
  | takeBack (taken : keys.takesBack identity request = true)
      (previous : (keys.serve request).2.previous.get? identity = none)

theorem turn_of_grant? {keys : LocalKeys} {owner fingerprint : String} {request : Request}
    (granted : keys.grant? request = some (owner, fingerprint)) (identity : String) :
    Turn keys identity request := by
  by_cases same : owner = identity
  · exact .handOut (same ▸ granted)
  · obtain ⟨active, previous⟩ := lookups_of_grant? granted identity
    rw [if_neg same] at active previous
    refine .idle ?_ active previous
    cases request with
    | issue other | rotate other => rfl
    | revert other fingerprint => contradiction

theorem turn_of_revert {keys : LocalKeys} {owner fingerprint : String}
    (valid : keys.active.get? owner = some fingerprint) (identity : String) :
    Turn keys identity (.revert owner fingerprint) := by
  obtain ⟨active, previous⟩ := lookups_of_revert valid identity
  by_cases same : owner = identity
  · rw [if_pos same] at previous
    exact .takeBack (by simp [takesBack, same, isValid_eq_true_iff.mpr (same ▸ valid)]) previous
  · rw [if_neg same] at active previous
    exact .idle (by simp [takesBack, same]) active previous

theorem turn_serve (keys : LocalKeys) (identity : String) (request : Request) :
    Turn keys identity request := by
  rcases keys.serve_cases request with ⟨fits, answer, served⟩ | ⟨unfit, -, same⟩
  · cases request with
    | issue owner =>
        cases issued : (keys.issue owner).1 with
        | error cause => simp [serve, issued, Except.map] at served
        | ok fingerprint => exact turn_of_grant? (by rw [grant?, issued]; rfl) identity
    | rotate owner =>
        cases rotated : (keys.rotate owner).1 with
        | error cause => simp [serve, rotated, Except.map] at served
        | ok fingerprint => exact turn_of_grant? (by rw [grant?, rotated]; rfl) identity
    | revert owner fingerprint => exact turn_of_revert (isValid_eq_true_iff.mp fits) identity
  · refine .idle ?_ (by rw [same]) (by rw [same])
    cases request with
    | issue owner | rotate owner => rfl
    | revert owner fingerprint =>
        rw [takesBack, Bool.eq_false_iff.mpr unfit, Bool.and_false]

/-! ## Origins -/

/-- Where in a run a fingerprint was handed out to an identity. -/
structure Origin (keys : LocalKeys) (requests : List Request) (identity fingerprint : String) where
  before : List Request
  request : Request
  after : List Request
  split : requests = before ++ request :: after
  granted : (keys.run before).grant? request = some (identity, fingerprint)

theorem exists_origin {keys : LocalKeys} {requests : List Request} {identity fingerprint : String}
    (handed : (identity, fingerprint) ∈ keys.handedOut requests) :
    Nonempty (Origin keys requests identity fingerprint) := by
  induction requests using List.reverseRecOn with
  | nil => contradiction
  | append_singleton requests last inductionHypothesis =>
      rw [handedOut_concat] at handed
      rcases List.mem_append.mp handed with earlier | now
      · obtain ⟨before, request, after, rfl, granted⟩ := inductionHypothesis earlier
        exact ⟨⟨before, request, after ++ [last], by simp, granted⟩⟩
      · exact ⟨⟨requests, last, [], rfl, Option.mem_toList.mp now⟩⟩

theorem run_append (keys : LocalKeys) (first second : List Request) :
    keys.run (first ++ second) = (keys.run first).run second := List.foldl_append

theorem handedOut_append (keys : LocalKeys) (first second : List Request) :
    keys.handedOut (first ++ second) =
      keys.handedOut first ++ (keys.run first).handedOut second := by
  induction first generalizing keys with
  | nil => rfl
  | cons request first inductionHypothesis =>
      rw [List.cons_append, handedOut, handedOut, inductionHypothesis, List.append_assoc]
      rfl

/-- As long as a key is valid, the one before it is remembered unless a key of the identity has been
taken back since it was handed out. -/
theorem previous_run {keys : LocalKeys} {request : Request} {after : List Request}
    {identity fingerprint : String} (granted : keys.grant? request = some (identity, fingerprint))
    (distinct : ((keys.handedOut (request :: after)).map Prod.snd).Nodup)
    (valid : (keys.run (request :: after)).active.get? identity = some fingerprint) :
    (keys.run (request :: after)).previous.get? identity =
      if (keys.serve request).2.takesBackIn identity after then none
      else keys.active.get? identity := by
  induction after using List.reverseRecOn with
  | nil =>
      rw [takesBackIn, if_neg Bool.false_ne_true]
      exact (lookups_of_grant? granted identity).2.trans (if_pos rfl)
  | append_singleton after last inductionHypothesis =>
      rw [← List.cons_append] at distinct valid ⊢
      rw [handedOut_concat, List.map_append] at distinct
      rw [run_concat] at valid ⊢
      rw [takesBackIn_concat]
      have known : (identity, fingerprint) ∈ keys.handedOut (request :: after) := by
        rw [handedOut, granted]
        exact List.mem_append_left _ (List.mem_singleton.mpr rfl)
      have turn : Turn (keys.run (request :: after)) identity last := turn_serve ..
      cases turn with
      | idle spared active previous =>
          rw [active] at valid
          rw [previous, inductionHypothesis distinct.of_append_left valid]
          have spared : ((keys.serve request).2.run after).takesBack identity last = false := spared
          rw [spared, Bool.or_false]
      | @handOut newest again =>
          -- The newest key of the identity is another one.
          have valid := valid.symm.trans ((lookups_of_grant? again identity).1.trans (if_pos rfl))
          cases valid
          refine absurd ?_ (List.disjoint_of_nodup_append distinct (List.mem_map_of_mem known))
          simp [again]
      | takeBack taken previous =>
          have taken : ((keys.serve request).2.run after).takesBack identity last = true := taken
          rw [previous, taken, Bool.or_true, if_pos rfl]

/-! ## Undoing -/

namespace Origin

variable {keys : LocalKeys} {requests : List Request} {identity fingerprint : String}

/-- The keys right before the fingerprint was handed out. -/
def earlier (origin : Origin keys requests identity fingerprint) : LocalKeys :=
  keys.run origin.before

/-- Whether a key of the identity has been taken back since then. -/
def isSpent (origin : Origin keys requests identity fingerprint) : Bool :=
  (origin.earlier.serve origin.request).2.takesBackIn identity origin.after

/-- A fingerprint is handed out as a first key or as one that replaces another. -/
theorem cases_request (origin : Origin keys requests identity fingerprint) :
    origin.request = .issue identity ∧ origin.earlier.active.get? identity = none ∨
      origin.request = .rotate identity ∧
        ∃ old, origin.earlier.active.get? identity = some old := by
  have granted := origin.granted
  cases asked : origin.request with
  | issue owner =>
      rw [asked] at granted
      obtain ⟨_, answered, same⟩ := Option.map_eq_some_iff.mp granted
      cases same
      exact .inl ⟨rfl, (issue_eq_ok (Prod.ext (eq_ok_of_toOption answered) rfl)).1⟩
  | rotate owner =>
      rw [asked] at granted
      obtain ⟨_, answered, same⟩ := Option.map_eq_some_iff.mp granted
      cases same
      obtain ⟨old, found, -⟩ := rotate_eq_ok (Prod.ext (eq_ok_of_toOption answered) rfl)
      exact .inr ⟨rfl, old, found⟩
  | revert owner fingerprint =>
      rw [asked] at granted
      contradiction

/-- What is remembered while the fingerprint is valid. -/
theorem previous_eq (origin : Origin keys requests identity fingerprint)
    (distinct : ((keys.handedOut requests).map Prod.snd).Nodup)
    (valid : (keys.run requests).active.get? identity = some fingerprint) :
    (keys.run requests).previous.get? identity =
      if origin.isSpent then none else origin.earlier.active.get? identity := by
  obtain ⟨before, request, after, rfl, granted⟩ := origin
  rw [handedOut_append, List.map_append] at distinct
  rw [run_append] at valid ⊢
  exact previous_run granted distinct.of_append_right valid

end Origin

/-- The same key, if any, is valid for an identity. -/
def SameKey (keys later : LocalKeys) (identity : String) : Prop :=
  ∀ fingerprint, later.isValid identity fingerprint = keys.isValid identity fingerprint

theorem sameKey_iff {keys later : LocalKeys} {identity : String} :
    keys.SameKey later identity ↔ later.active.get? identity = keys.active.get? identity := by
  constructor
  · intro same
    apply Option.ext
    intro fingerprint
    rw [← isValid_eq_true_iff, ← isValid_eq_true_iff, same]
  · intro same fingerprint
    rw [isValid, isValid, same]

/-- After every run in which no fingerprint came up twice, taking back the valid key of an identity
leaves it with the key that was valid right before the fingerprint was handed out, unless it was
handed out by a rotation and another key of the identity has been taken back since.  In that case,
and where it was the first key, the identity is left without a key. -/
theorem undoes_iff_of_run {mint : String → Nat → String} {requests : List Request}
    (distinct : (((start mint).handedOut requests).map Prod.snd).Nodup)
    {identity fingerprint : String}
    (reverted : (((start mint).run requests).revert identity fingerprint).1 = .ok ()) :
    Nonempty (Origin (start mint) requests identity fingerprint) ∧
      ∀ origin : Origin (start mint) requests identity fingerprint,
        (origin.earlier.SameKey (((start mint).run requests).revert identity fingerprint).2
            identity ↔ origin.request = .issue identity ∨ origin.isSpent = false) ∧
        ((((start mint).run requests).revert identity fingerprint).2.HasKey identity ↔
          origin.request = .rotate identity ∧ origin.isSpent = false) := by
  have valid : ((start mint).run requests).active.get? identity = some fingerprint := by
    by_contra invalid
    rw [revert, if_neg (by rwa [isValid_eq_true_iff])] at reverted
    contradiction
  refine ⟨exists_origin ((books_run distinct).active valid).1, fun origin => ?_⟩
  have left : (((start mint).run requests).revert identity fingerprint).2.active.get? identity =
      if origin.isSpent then none else origin.earlier.active.get? identity := by
    rw [(lookups_of_revert valid identity).1, if_pos rfl, origin.previous_eq distinct valid]
  rw [sameKey_iff, hasKey_iff, left]
  rcases origin.cases_request with ⟨asked, before⟩ | ⟨asked, old, before⟩
  · simp [asked, before]
  · cases origin.isSpent <;> simp [asked, before]

/-- A rotation, made once more after it has been taken back. -/
def renewal : List Request :=
  [.issue "ann", .rotate "ann", .revert "ann" "ann/1", .rotate "ann"]

theorem undone_renewal :
    (((start labelled).handedOut renewal).map Prod.snd).Nodup ∧
    (((start labelled).run renewal).revert "ann" "ann/2").1 = .ok () ∧
    ∃ origin : Origin (start labelled) renewal "ann" "ann/2",
      origin.earlier.isValid "ann" "ann/0" = true ∧
      origin.earlier.SameKey (((start labelled).run renewal).revert "ann" "ann/2").2 "ann" ∧
      (((start labelled).run renewal).revert "ann" "ann/2").2.HasKey "ann" := by
  have distinct : (((start labelled).handedOut renewal).map Prod.snd).Nodup := by decide +kernel
  have reverted : (((start labelled).run renewal).revert "ann" "ann/2").1 = .ok () := by
    decide +kernel
  obtain ⟨-, undoes⟩ := undoes_iff_of_run distinct reverted
  let origin : Origin (start labelled) renewal "ann" "ann/2" :=
    ⟨[.issue "ann", .rotate "ann", .revert "ann" "ann/1"], .rotate "ann", [], rfl,
      by decide +kernel⟩
  obtain ⟨same, keeps⟩ := undoes origin
  exact ⟨distinct, reverted, origin, by decide +kernel, same.mpr (.inr rfl),
    keeps.mpr ⟨rfl, rfl⟩⟩

/-- Of two rotations that are taken back one after the other the first is not undone: the identity
is left without the key that was valid before it. -/
theorem not_undone : ∃ (requests : List Request)
    (origin : Origin (start labelled) requests "ann" "ann/1"),
      (((start labelled).handedOut requests).map Prod.snd).Nodup ∧
      origin.request = .rotate "ann" ∧
      (((start labelled).run requests).revert "ann" "ann/1").1 = .ok () ∧
      origin.earlier.isValid "ann" "ann/0" = true ∧
      (((start labelled).run requests).revert "ann" "ann/1").2.isValid "ann" "ann/0" = false :=
  ⟨[.issue "ann", .rotate "ann", .rotate "ann", .revert "ann" "ann/2"],
    ⟨[.issue "ann"], .rotate "ann", [.rotate "ann", .revert "ann" "ann/2"], rfl,
      by decide +kernel⟩,
    by decide +kernel, rfl, by decide +kernel, by decide +kernel, by decide +kernel⟩

end ReviewGate.LocalKeys
