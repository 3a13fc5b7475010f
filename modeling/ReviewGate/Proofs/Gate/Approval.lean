import Mathlib.Data.List.Basic
import Mathlib.Logic.Relation
import ReviewGate.Proofs.Gate.Course

/-!
# Resolvers side by side

Any number of resolvers at one approval gate.  Each looks at its request while nothing can be
stored, claims it, has the resolution finalized elsewhere, stores the request and gives its claim
up.  Finalizing may succeed or fail, and a resolver that waits may be given up.

The claims are exactly those of the resolvers between claiming and giving up, and no request is
claimed twice.  So a request that is stored as resolved is still as it was when its resolver looked
at it.  The resolutions of a gate are attempts of this kind.
-/

namespace ReviewGate

/-! ## Looking and claiming -/

namespace ApprovalGate

/-- What a ruling finds before anybody asks for claims. -/
def resolvable (approvals : ApprovalGate) (ruling : Ruling) : Except GateError ApprovalRequest :=
  { approvals with claims := [] }.claimable ruling

/-- Takes a claim that nobody holds. -/
def takeClaim (approvals : ApprovalGate) (requestId : String) : Except GateError ApprovalGate :=
  if approvals.claims.contains requestId then .error (.conflict (.claimed requestId))
  else .ok { approvals with claims := requestId :: approvals.claims }

theorem claimable_eq (approvals : ApprovalGate) (ruling : Ruling) :
    approvals.claimable ruling = (do
      let request ← approvals.resolvable ruling
      if approvals.claims.contains ruling.requestId then
        .error (.conflict (.claimed ruling.requestId))
      else .ok request) := by
  have same : get? { approvals with claims := [] } ruling.requestId =
      approvals.get? ruling.requestId := rfl
  unfold resolvable claimable
  rw [same]
  split
  · rfl
  · split
    · rfl
    · split
      · rfl
      · split
        · rfl
        · rfl

/-- Claiming is looking, and then taking the claim. -/
theorem claim_eq (approvals : ApprovalGate) (now : Instant) (ruling : Ruling) :
    approvals.claim now ruling = (do
      let request ← approvals.resolvable ruling
      let later ← approvals.takeClaim ruling.requestId
      return (request.resolve now ruling, later)) := by
  unfold claim takeClaim
  rw [claimable_eq]
  cases approvals.resolvable ruling with
  | error cause => rfl
  | ok request => cases approvals.claims.contains ruling.requestId <;> rfl

theorem resolvable_eq_ok_iff {approvals : ApprovalGate} {ruling : Ruling}
    {request : ApprovalRequest} :
    approvals.resolvable ruling = .ok request ↔
      Text.isBlankText ruling.resolver = false ∧
        approvals.get? ruling.requestId = some request ∧ request.isPending = true ∧
          request.requester ≠ ruling.resolver := by
  have same : get? { approvals with claims := [] } ruling.requestId =
      approvals.get? ruling.requestId := rfl
  unfold resolvable claimable
  rw [same]
  constructor
  · intro looked
    split at looked
    · contradiction
    · rename_i named
      split at looked
      · contradiction
      · rename_i other found
        split at looked
        · contradiction
        · rename_i pending
          split at looked
          · contradiction
          · rename_i foreign
            cases looked
            exact ⟨by simpa using named, found, by simpa using pending, foreign⟩
  · rintro ⟨named, found, pending, foreign⟩
    simp [named, found, pending, foreign]

end ApprovalGate

/-! ## Attempts -/

variable {α : Type}

/-- How far an attempt has come; finalizing yields an `α`. -/
inductive Attempt.Course (α : Type) where
  | submitted
  /-- Has looked at its request, and asks for the claim before anything is stored. -/
  | looking (request : ApprovalRequest)
  | finalizing (resolved : ApprovalRequest)
  /-- Waits to store what has been finalized. -/
  | storing (resolved : ApprovalRequest) (output : α)
  /-- Has stored the request and still holds its claim. -/
  | closing (resolved : ApprovalRequest) (output : α)
  | finished (result : Except GateError (ApprovalRequest × α))
  | dropped

/-- An attempt to resolve a request. -/
structure Attempt (α : Type) where
  ruling : Ruling
  course : Attempt.Course α

namespace Attempt

/-- One step of an attempt, and the gate after it.  What waits may be dropped. -/
inductive Step (approvals : ApprovalGate) (ruling : Ruling) :
    Course α → Course α → ApprovalGate → Prop where
  | refuse {cause : GateError} (refused : approvals.resolvable ruling = .error cause) :
      Step approvals ruling .submitted (.finished (.error cause)) approvals
  | look {request : ApprovalRequest} (found : approvals.resolvable ruling = .ok request) :
      Step approvals ruling .submitted (.looking request) approvals
  | lose {request : ApprovalRequest} {cause : GateError}
      (claimed : approvals.takeClaim ruling.requestId = .error cause) :
      Step approvals ruling (.looking request) (.finished (.error cause)) approvals
  | claim {request : ApprovalRequest} {later : ApprovalGate} (now : Instant)
      (taken : approvals.takeClaim ruling.requestId = .ok later) :
      Step approvals ruling (.looking request) (.finalizing (request.resolve now ruling)) later
  | finalize {resolved : ApprovalRequest} (output : α) :
      Step approvals ruling (.finalizing resolved) (.storing resolved output) approvals
  | fail {resolved : ApprovalRequest} (cause : GateError) :
      Step approvals ruling (.finalizing resolved) (.finished (.error cause))
        (approvals.unclaim ruling.requestId)
  | store {resolved : ApprovalRequest} {output : α} :
      Step approvals ruling (.storing resolved output) (.closing resolved output)
        (approvals.insert resolved)
  | close {resolved : ApprovalRequest} {output : α} :
      Step approvals ruling (.closing resolved output) (.finished (.ok (resolved, output)))
        (approvals.unclaim ruling.requestId)
  | leave : Step approvals ruling .submitted .dropped approvals
  | dropFinalizing {resolved : ApprovalRequest} :
      Step approvals ruling (.finalizing resolved) .dropped (approvals.unclaim ruling.requestId)
  | dropStoring {resolved : ApprovalRequest} {output : α} :
      Step approvals ruling (.storing resolved output) .dropped
        (approvals.unclaim ruling.requestId)

/-- The request whose claim an attempt holds. -/
def held? (attempt : Attempt α) : Option String :=
  match attempt.course with
  | .finalizing _ | .storing .. | .closing .. => some attempt.ruling.requestId
  | _ => none

/-- What an attempt has stored. -/
def stored? (attempt : Attempt α) : Option ApprovalRequest :=
  match attempt.course with
  | .closing resolved _ | .finished (.ok (resolved, _)) => some resolved
  | _ => none

/-- The request that an attempt has resolved. -/
def won? (attempt : Attempt α) : Option String :=
  attempt.stored?.map fun _ => attempt.ruling.requestId

/-- Nothing more will happen to an attempt. -/
def IsOver (attempt : Attempt α) : Prop :=
  attempt.course = .dropped ∨ ∃ result, attempt.course = .finished result

theorem held?_of_isOver {attempt : Attempt α} (ended : attempt.IsOver) : attempt.held? = none := by
  rcases ended with dropped | ⟨result, finished⟩
  · simp [held?, dropped]
  · simp [held?, finished]

end Attempt

/-- A request as somebody else than its author resolves it by a ruling. -/
def Ruling.Settles (ruling : Ruling) (resolved : ApprovalRequest) : Prop :=
  ∃ (request : ApprovalRequest) (now : Instant), request.isPending = true ∧
    request.requester ≠ ruling.resolver ∧ resolved = request.resolve now ruling

theorem ApprovalRequest.isPending_resolve (request : ApprovalRequest) (now : Instant)
    (ruling : Ruling) : (request.resolve now ruling).isPending = false := by
  unfold isPending resolve
  cases ruling.decision <;> rfl

theorem Ruling.Settles.isPending {ruling : Ruling} {resolved : ApprovalRequest}
    (settles : ruling.Settles resolved) : resolved.isPending = false := by
  obtain ⟨request, now, -, -, rfl⟩ := settles
  exact request.isPending_resolve now ruling

/-- The ruling may resolve its request to this. -/
def ApprovalGate.Resolves (approvals : ApprovalGate) (ruling : Ruling)
    (resolved : ApprovalRequest) : Prop :=
  ∃ (request : ApprovalRequest) (now : Instant), approvals.resolvable ruling = .ok request ∧
    resolved = request.resolve now ruling

theorem ApprovalGate.Resolves.id_eq {approvals : ApprovalGate} {ruling : Ruling}
    {resolved : ApprovalRequest} (resolves : approvals.Resolves ruling resolved)
    (keyed : approvals.Keyed) : resolved.id = ruling.requestId := by
  obtain ⟨request, now, looked, rfl⟩ := resolves
  obtain ⟨-, found, -, -⟩ := resolvable_eq_ok_iff.mp looked
  exact keyed ruling.requestId request found

namespace Attempt

/-- What an attempt knows of its request. -/
def Knows (approvals : ApprovalGate) (attempt : Attempt α) : Prop :=
  match attempt.course with
  | .looking request => approvals.resolvable attempt.ruling = .ok request
  | .finalizing resolved | .storing resolved _ => approvals.Resolves attempt.ruling resolved
  | .closing resolved _ | .finished (.ok (resolved, _)) =>
      approvals.get? attempt.ruling.requestId = some resolved ∧ attempt.ruling.Settles resolved
  | _ => True

theorem Knows.of_get? {approvals later : ApprovalGate} {attempt : Attempt α}
    (knows : attempt.Knows approvals)
    (same : later.get? attempt.ruling.requestId = approvals.get? attempt.ruling.requestId) :
    attempt.Knows later := by
  have found : ∀ request, approvals.resolvable attempt.ruling = .ok request →
      later.resolvable attempt.ruling = .ok request := by
    intro request
    rw [ApprovalGate.resolvable_eq_ok_iff, ApprovalGate.resolvable_eq_ok_iff, same]
    exact id
  unfold Knows at knows ⊢
  split
  · rename_i request looking
    rw [looking] at knows
    exact found request knows
  · rename_i resolved finalizing
    rw [finalizing] at knows
    obtain ⟨request, now, looked, made⟩ := knows
    exact ⟨request, now, found request looked, made⟩
  · rename_i resolved output storing
    rw [storing] at knows
    obtain ⟨request, now, looked, made⟩ := knows
    exact ⟨request, now, found request looked, made⟩
  · rename_i resolved output closing
    rw [closing] at knows
    exact ⟨same.trans knows.1, knows.2⟩
  · rename_i resolved output finished
    rw [finished] at knows
    exact ⟨same.trans knows.1, knows.2⟩
  · trivial

/-- What has been stored is there, and it settles the request. -/
theorem Knows.of_stored? {approvals : ApprovalGate} {attempt : Attempt α}
    {resolved : ApprovalRequest} (knows : attempt.Knows approvals)
    (stored : attempt.stored? = some resolved) :
    approvals.get? attempt.ruling.requestId = some resolved ∧ attempt.ruling.Settles resolved := by
  obtain ⟨ruling, course⟩ := attempt
  cases course with
  | closing found output =>
      cases stored
      exact knows
  | finished result =>
      cases result with
      | error cause => contradiction
      | ok answer =>
          cases stored
          exact knows
  | submitted | looking | finalizing | storing | dropped => contradiction

end Attempt

/-! ## All attempts at a gate -/

/-- A gate with the attempts at its requests. -/
structure Desk (α : Type) where
  approvals : ApprovalGate
  attempts : List (Attempt α)

namespace Desk

/-- Nobody looks at a request, so that one can be stored. -/
def Unread (desk : Desk α) : Prop :=
  ∀ attempt ∈ desk.attempts, ∀ request, attempt.course ≠ .looking request

/-- One move: a new request under a new id, a new attempt, or a step of one of the attempts, which
waits where it stores something while others look.  Reading and listing change nothing. -/
inductive Move : Desk α → Desk α → Prop where
  | receive {desk : Desk α} {id : String} (unread : desk.Unread)
      (fresh : desk.approvals.get? id = none) (now : Instant) (verdict : Verdict)
      (critical : Bool) (trail : List ReviewState) :
      Move desk { desk with
        approvals := desk.approvals.insert (.ofVerdict id now verdict critical trail) }
  | submit {desk : Desk α} (ruling : Ruling) :
      Move desk { desk with attempts := desk.attempts ++ [⟨ruling, .submitted⟩] }
  | step {approvals later : ApprovalGate} {before after : List (Attempt α)} {ruling : Ruling}
      {course next : Attempt.Course α}
      (stepped : Attempt.Step approvals ruling course next later)
      (unread : (∃ resolved output, course = .storing resolved output ∧
        next = .closing resolved output) →
          Unread ⟨approvals, before ++ ⟨ruling, course⟩ :: after⟩) :
      Move ⟨approvals, before ++ ⟨ruling, course⟩ :: after⟩
        ⟨later, before ++ ⟨ruling, next⟩ :: after⟩

/-- Any number of moves. -/
def Run : Desk α → Desk α → Prop := Relation.ReflTransGen Move

def empty : Desk α := ⟨.empty, []⟩

/-! ## What holds at any time -/

/-- The gate and the attempts agree. -/
structure Sound (desk : Desk α) : Prop where
  keyed : desk.approvals.Keyed
  claims : desk.approvals.claims.Perm (desk.attempts.filterMap Attempt.held?)
  exclusive : desk.approvals.claims.Nodup
  knows : ∀ attempt ∈ desk.attempts, attempt.Knows desk.approvals
  winners : (desk.attempts.filterMap Attempt.won?).Nodup
  open_ : ∀ id request, desk.approvals.get? id = some request → request.isPending = true →
    request.resolver = none
  decided : ∀ id request, desk.approvals.get? id = some request → request.isPending = false →
    ∃ attempt ∈ desk.attempts, attempt.ruling.requestId = id ∧ attempt.stored? = some request

theorem sound_empty : (empty : Desk α).Sound := by
  have absent : ∀ id request, (empty : Desk α).approvals.get? id ≠ some request := by
    intro id request
    simp [empty, ApprovalGate.empty, ApprovalGate.get?]
  refine ⟨?_, .refl [], .nil, ?_, .nil, ?_, ?_⟩
  · intro id request found
    exact absurd found (absent id request)
  · simp [empty]
  · intro id request found
    exact absurd found (absent id request)
  · intro id request found
    exact absurd found (absent id request)

section Step

variable {approvals later : ApprovalGate} {before after : List (Attempt α)} {ruling : Ruling}
  {course next : Attempt.Course α}

/-- Who else knows something still knows it where the requests stay as they are. -/
theorem Sound.others (sound : Sound ⟨approvals, before ++ ⟨ruling, course⟩ :: after⟩)
    (requests : later.requests = approvals.requests) (knows : Attempt.Knows later ⟨ruling, next⟩) :
    ∀ attempt ∈ before ++ ⟨ruling, next⟩ :: after, attempt.Knows later := by
  intro attempt membership
  have same : ∀ id, later.get? id = approvals.get? id := by
    intro id
    unfold ApprovalGate.get?
    rw [requests]
  rw [List.mem_append, List.mem_cons] at membership
  rcases membership with old | rfl | old
  · exact (sound.knows attempt (by simp [old])).of_get? (same _)
  · exact knows
  · exact (sound.knows attempt (by simp [old])).of_get? (same _)

/-- A step that keeps the requests and what the attempt has stored. -/
theorem Sound.claiming (sound : Sound ⟨approvals, before ++ ⟨ruling, course⟩ :: after⟩)
    (requests : later.requests = approvals.requests)
    (stored : Attempt.stored? ⟨ruling, next⟩ = Attempt.stored? (⟨ruling, course⟩ : Attempt α))
    (knows : Attempt.Knows later ⟨ruling, next⟩)
    (claims : later.claims.Perm ((Attempt.held? ⟨ruling, next⟩).toList ++
      (before ++ after).filterMap Attempt.held?)) (exclusive : later.claims.Nodup) :
    Sound ⟨later, before ++ ⟨ruling, next⟩ :: after⟩ := by
  have same : ∀ id, later.get? id = approvals.get? id := by
    intro id
    unfold ApprovalGate.get?
    rw [requests]
  have won : Attempt.won? ⟨ruling, next⟩ = Attempt.won? (⟨ruling, course⟩ : Attempt α) := by
    simp only [Attempt.won?, stored]
  refine ⟨?_, ?_, exclusive, sound.others requests knows, ?_, ?_, ?_⟩
  · intro id request found
    exact sound.keyed id request ((same id).symm.trans found)
  · exact claims.trans (filterMap_middle _ _ _ _).symm
  · have winners := sound.winners
    rw [(filterMap_middle _ _ _ _).nodup_iff] at winners ⊢
    rw [won]
    exact winners
  · intro id request found
    exact sound.open_ id request ((same id).symm.trans found)
  · intro id request found resolved
    obtain ⟨attempt, membership, named, kept⟩ :=
      sound.decided id request ((same id).symm.trans found) resolved
    rw [List.mem_append, List.mem_cons] at membership
    rcases membership with old | rfl | old
    · exact ⟨attempt, by simp [old], named, kept⟩
    · exact ⟨⟨ruling, next⟩, by simp, named, stored.trans kept⟩
    · exact ⟨attempt, by simp [old], named, kept⟩

/-- A step that leaves the gate alone. -/
theorem Sound.stay (sound : Sound ⟨approvals, before ++ ⟨ruling, course⟩ :: after⟩)
    (held : Attempt.held? ⟨ruling, next⟩ = Attempt.held? (⟨ruling, course⟩ : Attempt α))
    (stored : Attempt.stored? ⟨ruling, next⟩ = Attempt.stored? (⟨ruling, course⟩ : Attempt α))
    (knows : Attempt.Knows approvals ⟨ruling, next⟩) :
    Sound ⟨approvals, before ++ ⟨ruling, next⟩ :: after⟩ := by
  refine sound.claiming rfl stored knows ?_ sound.exclusive
  rw [held]
  exact sound.claims.trans (filterMap_middle _ _ _ _)

/-- A step that gives the claim up. -/
theorem Sound.release (sound : Sound ⟨approvals, before ++ ⟨ruling, course⟩ :: after⟩)
    (held : Attempt.held? (⟨ruling, course⟩ : Attempt α) = some ruling.requestId)
    (free : Attempt.held? (⟨ruling, next⟩ : Attempt α) = none)
    (stored : Attempt.stored? ⟨ruling, next⟩ = Attempt.stored? (⟨ruling, course⟩ : Attempt α))
    (knows : Attempt.Knows (approvals.unclaim ruling.requestId) ⟨ruling, next⟩) :
    Sound ⟨approvals.unclaim ruling.requestId, before ++ ⟨ruling, next⟩ :: after⟩ := by
  refine sound.claiming rfl stored knows ?_ (sound.exclusive.erase _)
  have claims := sound.claims.trans (filterMap_middle _ _ _ _)
  rw [held] at claims
  have released := claims.erase ruling.requestId
  rw [Option.toList_some, List.singleton_append, List.erase_cons_head] at released
  rw [free]
  exact released

theorem Sound.claim (sound : Sound ⟨approvals, before ++ ⟨ruling, course⟩ :: after⟩)
    (taken : approvals.takeClaim ruling.requestId = .ok later)
    (free : Attempt.held? (⟨ruling, course⟩ : Attempt α) = none)
    (held : Attempt.held? (⟨ruling, next⟩ : Attempt α) = some ruling.requestId)
    (stored : Attempt.stored? ⟨ruling, next⟩ = Attempt.stored? (⟨ruling, course⟩ : Attempt α))
    (knows : Attempt.Knows approvals ⟨ruling, next⟩) :
    Sound ⟨later, before ++ ⟨ruling, next⟩ :: after⟩ := by
  unfold ApprovalGate.takeClaim at taken
  split at taken
  · contradiction
  · rename_i unclaimed
    cases taken
    have claims := sound.claims.trans (filterMap_middle _ _ _ _)
    rw [free] at claims
    refine sound.claiming rfl stored (knows.of_get? rfl) ?_ ?_
    · rw [held]
      exact claims.cons ruling.requestId
    · exact List.nodup_cons.mpr ⟨by simpa using unclaimed, sound.exclusive⟩

/-- Who holds a claim is alone in it. -/
theorem Sound.alone (sound : Sound ⟨approvals, before ++ ⟨ruling, course⟩ :: after⟩)
    (held : Attempt.held? (⟨ruling, course⟩ : Attempt α) = some ruling.requestId)
    {other : Attempt α} (membership : other ∈ before ++ after) :
    other.held? ≠ some ruling.requestId := by
  intro same
  have exclusive := sound.exclusive
  rw [(sound.claims.trans (filterMap_middle _ _ _ _)).nodup_iff, held] at exclusive
  have fresh := (List.nodup_cons.mp exclusive).1
  exact fresh (List.mem_filterMap.mpr ⟨other, membership, same⟩)

end Step

/-! ## What a move keeps -/

/-- Whoever stores a request that he has found open is the first to resolve it. -/
theorem Sound.store {approvals : ApprovalGate} {before after : List (Attempt α)} {ruling : Ruling}
    {resolved : ApprovalRequest} {output : α}
    (sound : Sound ⟨approvals, before ++ ⟨ruling, .storing resolved output⟩ :: after⟩)
    (unread : Unread ⟨approvals, before ++ ⟨ruling, .storing resolved output⟩ :: after⟩) :
    Sound ⟨approvals.insert resolved, before ++ ⟨ruling, .closing resolved output⟩ :: after⟩ := by
  have knows : approvals.Resolves ruling resolved :=
    sound.knows ⟨ruling, .storing resolved output⟩ (by simp)
  have named : resolved.id = ruling.requestId := knows.id_eq sound.keyed
  obtain ⟨request, now, looked, made⟩ := knows
  obtain ⟨-, found, pending, foreign⟩ := ApprovalGate.resolvable_eq_ok_iff.mp looked
  have settles : ruling.Settles resolved := ⟨request, now, pending, foreign, made⟩
  have stored : ∀ id, (approvals.insert resolved).get? id =
      if ruling.requestId = id then some resolved else approvals.get? id := by
    intro id
    rw [← named]
    exact Table.get?_insert resolved.id id resolved approvals.requests
  have unresolved : ∀ attempt ∈ before ++ after, ∀ other, attempt.stored? = some other →
      attempt.ruling.requestId ≠ ruling.requestId := by
    intro attempt membership other kept same
    have member : attempt ∈ before ++ ⟨ruling, .storing resolved output⟩ :: after := by
      rcases List.mem_append.mp membership with old | old <;> simp [old]
    obtain ⟨there, settled⟩ := (sound.knows attempt member).of_stored? kept
    rw [same, found] at there
    cases there
    rw [settled.isPending] at pending
    contradiction
  refine ⟨?_, ?_, sound.exclusive, ?_, ?_, ?_, ?_⟩
  · exact sound.keyed.of_requests (.inr ⟨resolved, rfl⟩)
  · have claims := sound.claims.trans (filterMap_middle _ _ _ _)
    exact claims.trans
      (filterMap_middle Attempt.held? before after ⟨ruling, .closing resolved output⟩).symm
  · intro attempt membership
    have others : ∀ attempt ∈ before ++ after, attempt.Knows (approvals.insert resolved) := by
      intro attempt old
      have member : attempt ∈ before ++ ⟨ruling, .storing resolved output⟩ :: after := by
        rcases List.mem_append.mp old with earlier | later <;> simp [*]
      have knows := sound.knows attempt member
      by_cases same : ruling.requestId = attempt.ruling.requestId
      · -- Of the others at this request none looks, holds the claim, or has stored anything.
        have unheld := sound.alone rfl old
        have unstored := unresolved attempt old
        have away := unread attempt member
        obtain ⟨other, course⟩ := attempt
        cases course with
        | looking request => exact absurd rfl (away request)
        | finalizing | storing | closing =>
            exact absurd (congrArg some same.symm) unheld
        | finished result =>
            cases result with
            | error cause => trivial
            | ok answer => exact absurd same.symm (unstored answer.1 rfl)
        | submitted | dropped => trivial
      · refine knows.of_get? ?_
        rw [stored, if_neg same]
    rw [List.mem_append, List.mem_cons] at membership
    rcases membership with old | rfl | old
    · exact others attempt (List.mem_append_left after old)
    · refine ⟨?_, settles⟩
      rw [stored, if_pos rfl]
    · exact others attempt (List.mem_append_right before old)
  · have winners := sound.winners
    rw [(filterMap_middle _ _ _ _).nodup_iff] at winners ⊢
    refine List.nodup_cons.mpr ⟨?_, winners⟩
    intro repeated
    obtain ⟨attempt, membership, won⟩ := List.mem_filterMap.mp repeated
    obtain ⟨other, kept, same⟩ := Option.map_eq_some_iff.mp won
    exact unresolved attempt membership other kept same
  · intro id other present waiting
    rw [stored] at present
    split at present
    · cases present
      rw [settles.isPending] at waiting
      contradiction
    · exact sound.open_ id other present waiting
  · intro id other present done
    rw [stored] at present
    split at present
    · rename_i same
      cases present
      exact ⟨⟨ruling, .closing resolved output⟩, by simp, same, rfl⟩
    · obtain ⟨attempt, membership, about, kept⟩ := sound.decided id other present done
      rw [List.mem_append, List.mem_cons] at membership
      rcases membership with old | rfl | old
      · exact ⟨attempt, by simp [old], about, kept⟩
      · contradiction
      · exact ⟨attempt, by simp [old], about, kept⟩

theorem Sound.step {approvals later : ApprovalGate} {before after : List (Attempt α)}
    {ruling : Ruling} {course next : Attempt.Course α}
    (sound : Sound ⟨approvals, before ++ ⟨ruling, course⟩ :: after⟩)
    (stepped : Attempt.Step approvals ruling course next later)
    (unread : (∃ resolved output, course = .storing resolved output ∧
      next = .closing resolved output) → Unread ⟨approvals, before ++ ⟨ruling, course⟩ :: after⟩) :
    Sound ⟨later, before ++ ⟨ruling, next⟩ :: after⟩ := by
  have knows := sound.knows ⟨ruling, course⟩ (by simp)
  cases stepped with
  | refuse refused => exact sound.stay rfl rfl trivial
  | look found => exact sound.stay rfl rfl found
  | lose claimed => exact sound.stay rfl rfl trivial
  | claim now taken => exact sound.claim taken rfl rfl rfl ⟨_, now, knows, rfl⟩
  | finalize output => exact sound.stay rfl rfl knows
  | fail cause => exact sound.release rfl rfl rfl trivial
  | store => exact sound.store (unread ⟨_, _, rfl, rfl⟩)
  | close => exact sound.release rfl rfl rfl (knows.of_get? rfl)
  | leave => exact sound.stay rfl rfl trivial
  | dropFinalizing => exact sound.release rfl rfl rfl trivial
  | dropStoring => exact sound.release rfl rfl rfl trivial

theorem Sound.receive {desk : Desk α} (sound : desk.Sound) {id : String}
    (fresh : desk.approvals.get? id = none) (now : Instant) (verdict : Verdict) (critical : Bool)
    (trail : List ReviewState) :
    Sound { desk with
      approvals := desk.approvals.insert (.ofVerdict id now verdict critical trail) } := by
  have stored : ∀ other, (desk.approvals.insert (.ofVerdict id now verdict critical trail)).get?
      other = if id = other then some (.ofVerdict id now verdict critical trail)
        else desk.approvals.get? other :=
    fun other => Table.get?_insert id other _ desk.approvals.requests
  refine ⟨?_, sound.claims, sound.exclusive, ?_, sound.winners, ?_, ?_⟩
  · exact sound.keyed.of_requests (.inr ⟨.ofVerdict id now verdict critical trail, rfl⟩)
  · intro attempt membership
    have knows := sound.knows attempt membership
    by_cases same : id = attempt.ruling.requestId
    · -- Whoever knows anything of a request has found it, and this one is new.
      rw [same] at fresh
      obtain ⟨ruling, course⟩ := attempt
      cases course with
      | looking request =>
          obtain ⟨-, found, -⟩ := ApprovalGate.resolvable_eq_ok_iff.mp knows
          rw [fresh] at found
          contradiction
      | finalizing | storing =>
          obtain ⟨request, claimedAt, looked, -⟩ := knows
          obtain ⟨-, found, -⟩ := ApprovalGate.resolvable_eq_ok_iff.mp looked
          rw [fresh] at found
          contradiction
      | closing =>
          obtain ⟨found, -⟩ := knows
          rw [fresh] at found
          contradiction
      | finished result =>
          cases result with
          | error cause => trivial
          | ok answer =>
              obtain ⟨found, -⟩ := knows
              rw [fresh] at found
              contradiction
      | submitted | dropped => trivial
    · refine knows.of_get? ?_
      rw [stored, if_neg same]
  · intro other request present waiting
    rw [stored] at present
    split at present
    · cases present
      rfl
    · exact sound.open_ other request present waiting
  · intro other request present done
    rw [stored] at present
    split at present
    · cases present
      contradiction
    · exact sound.decided other request present done

theorem Sound.submit {desk : Desk α} (sound : desk.Sound) (ruling : Ruling) :
    Sound { desk with attempts := desk.attempts ++ [⟨ruling, .submitted⟩] } := by
  refine ⟨sound.keyed, ?_, sound.exclusive, ?_, ?_, sound.open_, ?_⟩
  · have nothing : [(⟨ruling, .submitted⟩ : Attempt α)].filterMap Attempt.held? = [] := rfl
    rw [List.filterMap_append, nothing, List.append_nil]
    exact sound.claims
  · intro attempt membership
    rcases List.mem_append.mp membership with old | new
    · exact sound.knows attempt old
    · cases List.mem_singleton.mp new
      trivial
  · have nothing : [(⟨ruling, .submitted⟩ : Attempt α)].filterMap Attempt.won? = [] := rfl
    rw [List.filterMap_append, nothing, List.append_nil]
    exact sound.winners
  · intro id request found resolved
    obtain ⟨attempt, membership, named, kept⟩ := sound.decided id request found resolved
    exact ⟨attempt, List.mem_append_left _ membership, named, kept⟩

theorem Sound.move {desk later : Desk α} (sound : desk.Sound) (moves : Move desk later) :
    later.Sound := by
  cases moves with
  | receive unread fresh now verdict critical trail =>
      exact sound.receive fresh now verdict critical trail
  | submit ruling => exact sound.submit ruling
  | step stepped unread => exact sound.step stepped unread

theorem Sound.run {desk later : Desk α} (sound : desk.Sound) (run : Run desk later) :
    later.Sound := by
  induction run with
  | refl => exact sound
  | tail before moves inductionHypothesis => exact inductionHypothesis.move moves

/-! ## What becomes of a request -/

/-- A request is as it was, or it was open and has been resolved. -/
def Becomes (request stored : ApprovalRequest) : Prop :=
  stored = request ∨ request.isPending = true ∧ ∃ (now : Instant) (ruling : Ruling),
    request.requester ≠ ruling.resolver ∧ stored = request.resolve now ruling

theorem Becomes.trans {request middle stored : ApprovalRequest} (first : Becomes request middle)
    (second : Becomes middle stored) : Becomes request stored := by
  rcases first with rfl | ⟨pending, now, ruling, foreign, rfl⟩
  · exact second
  · rcases second with rfl | ⟨open_, -⟩
    · exact .inr ⟨pending, now, ruling, foreign, rfl⟩
    · rw [ApprovalRequest.isPending_resolve] at open_
      contradiction

theorem Sound.becomes_of_move {desk later : Desk α} (sound : desk.Sound)
    (moves : Move desk later) {id : String} {request : ApprovalRequest}
    (found : desk.approvals.get? id = some request) :
    ∃ stored, later.approvals.get? id = some stored ∧ Becomes request stored := by
  cases moves with
  | @receive _ other unread fresh now verdict critical trail =>
      refine ⟨request, ?_, .inl rfl⟩
      have different : other ≠ id := by
        rintro rfl
        rw [fresh] at found
        contradiction
      have kept := Table.get?_insert other id
        (ApprovalRequest.ofVerdict other now verdict critical trail) desk.approvals.requests
      rw [if_neg different] at kept
      exact kept.trans found
  | submit ruling => exact ⟨request, found, .inl rfl⟩
  | @step approvals later before after ruling course next stepped unread =>
      cases stepped with
      | @store resolved output =>
          have knows : approvals.Resolves ruling resolved :=
            sound.knows ⟨ruling, .storing resolved output⟩ (by simp)
          have named : resolved.id = ruling.requestId := knows.id_eq sound.keyed
          obtain ⟨other, now, looked, made⟩ := knows
          obtain ⟨-, there, pending, foreign⟩ := ApprovalGate.resolvable_eq_ok_iff.mp looked
          have stored := Table.get?_insert resolved.id id resolved approvals.requests
          by_cases same : resolved.id = id
          · rw [if_pos same] at stored
            have met : some request = some other := by
              rw [← found, ← same, named]
              exact there
            cases met
            exact ⟨resolved, stored, .inr ⟨pending, now, ruling, foreign, made⟩⟩
          · rw [if_neg same] at stored
            exact ⟨request, stored.trans found, .inl rfl⟩
      | claim now taken =>
          unfold ApprovalGate.takeClaim at taken
          split at taken
          · contradiction
          · cases taken
            exact ⟨request, found, .inl rfl⟩
      | refuse | look | lose | finalize | fail | close | leave | dropFinalizing | dropStoring =>
          exact ⟨request, found, .inl rfl⟩

theorem Sound.becomes_of_run {desk later : Desk α} (sound : desk.Sound) (run : Run desk later)
    {id : String} {request : ApprovalRequest} (found : desk.approvals.get? id = some request) :
    ∃ stored, later.approvals.get? id = some stored ∧ Becomes request stored := by
  induction run with
  | refl => exact ⟨request, found, .inl rfl⟩
  | tail before moves inductionHypothesis =>
      obtain ⟨middle, there, first⟩ := inductionHypothesis
      obtain ⟨stored, last, second⟩ := (sound.run before).becomes_of_move moves there
      exact ⟨stored, last, first.trans second⟩

/-! ## One resolution -/

/-- All that is promised of resolvers at one gate. -/
structure Orderly (desk : Desk α) : Prop where
  /-- At most one attempt at a request succeeds. -/
  once : ∀ (i j : Nat) (first second : Attempt α),
    desk.attempts[i]? = some first → desk.attempts[j]? = some second →
    first.ruling.requestId = second.ruling.requestId →
    first.stored?.isSome = true → second.stored?.isSome = true → i = j
  /-- Who succeeds has stored the request as the ruling resolves it. -/
  succeeded : ∀ (ruling : Ruling) (resolved : ApprovalRequest) (output : α),
    ⟨ruling, .finished (.ok (resolved, output))⟩ ∈ desk.attempts →
    desk.approvals.get? ruling.requestId = some resolved ∧ ruling.Settles resolved
  /-- What is no longer open has been resolved by an attempt. -/
  decided : ∀ id request, desk.approvals.get? id = some request → request.isPending = false →
    ∃ attempt ∈ desk.attempts, attempt.ruling.requestId = id ∧ attempt.stored? = some request ∧
      attempt.ruling.Settles request
  foreign : ∀ id request, desk.approvals.get? id = some request →
    request.resolver ≠ some request.requester
  /-- No two attempts finalize one request at a time. -/
  alone : ∀ (i j : Nat) (first second : Ruling) (resolved other : ApprovalRequest),
    desk.attempts[i]? = some ⟨first, .finalizing resolved⟩ →
    desk.attempts[j]? = some ⟨second, .finalizing other⟩ →
    first.requestId = second.requestId → i = j
  /-- Only an open request is finalized. -/
  open_ : ∀ (ruling : Ruling) (resolved : ApprovalRequest),
    ⟨ruling, .finalizing resolved⟩ ∈ desk.attempts →
    ∃ request, desk.approvals.get? ruling.requestId = some request ∧ request.isPending = true
  /-- When all attempts are over, nothing is claimed. -/
  free : (∀ attempt ∈ desk.attempts, attempt.IsOver) → desk.approvals.claims = []
  /-- A request that nobody has claimed can be resolved by anybody but its author. -/
  retry : ∀ (now : Instant) (ruling : Ruling) (request : ApprovalRequest),
    desk.approvals.resolvable ruling = .ok request →
    (∀ attempt ∈ desk.attempts, attempt.held? ≠ some ruling.requestId) →
    ∃ later, desk.approvals.claim now ruling = .ok (request.resolve now ruling, later)
  /-- A request changes once at most. -/
  lasting : ∀ later, Run desk later → ∀ id request, desk.approvals.get? id = some request →
    ∃ stored, later.approvals.get? id = some stored ∧ Becomes request stored

theorem Sound.once {desk : Desk α} (sound : desk.Sound) {i j : Nat} {first second : Attempt α}
    (atFirst : desk.attempts[i]? = some first) (atSecond : desk.attempts[j]? = some second)
    (same : first.ruling.requestId = second.ruling.requestId)
    (ofFirst : first.stored?.isSome = true) (ofSecond : second.stored?.isSome = true) : i = j := by
  obtain ⟨resolved, stored⟩ := Option.isSome_iff_exists.mp ofFirst
  obtain ⟨other, kept⟩ := Option.isSome_iff_exists.mp ofSecond
  have firstWon : first.won? = some first.ruling.requestId := by
    rw [Attempt.won?, stored, Option.map_some]
  have secondWon : second.won? = some first.ruling.requestId := by
    rw [Attempt.won?, kept, Option.map_some, same]
  exact eq_of_nodup_filterMap sound.winners atFirst atSecond firstWon secondWon

theorem Sound.alone_finalizing {desk : Desk α} (sound : desk.Sound) {i j : Nat}
    {first second : Ruling} {resolved other : ApprovalRequest}
    (atFirst : desk.attempts[i]? = some ⟨first, .finalizing resolved⟩)
    (atSecond : desk.attempts[j]? = some ⟨second, .finalizing other⟩)
    (same : first.requestId = second.requestId) : i = j := by
  have distinct := sound.claims.nodup_iff.mp sound.exclusive
  have secondHolds : Attempt.held? (⟨second, .finalizing other⟩ : Attempt α) =
      some first.requestId := congrArg some same.symm
  exact eq_of_nodup_filterMap distinct atFirst atSecond rfl secondHolds

theorem Sound.not_own {desk : Desk α} (sound : desk.Sound) {id : String}
    {request : ApprovalRequest} (found : desk.approvals.get? id = some request) :
    request.resolver ≠ some request.requester := by
  cases pending : request.isPending with
  | true =>
      rw [sound.open_ id request found pending]
      nofun
  | false =>
      obtain ⟨attempt, membership, -, stored⟩ := sound.decided id request found pending
      obtain ⟨-, first, now, -, foreign, rfl⟩ := (sound.knows attempt membership).of_stored? stored
      intro own
      exact foreign (Option.some.inj own).symm

theorem Sound.claims_eq_nil {desk : Desk α} (sound : desk.Sound)
    (ended : ∀ attempt ∈ desk.attempts, attempt.IsOver) : desk.approvals.claims = [] := by
  have unheld : desk.attempts.filterMap Attempt.held? = [] := by
    rw [List.filterMap_eq_nil_iff]
    intro attempt membership
    exact Attempt.held?_of_isOver (ended attempt membership)
  have claims := sound.claims
  rw [unheld] at claims
  exact claims.eq_nil

theorem Sound.claim_of_unheld {desk : Desk α} (sound : desk.Sound) {ruling : Ruling}
    {request : ApprovalRequest} (open_ : desk.approvals.resolvable ruling = .ok request)
    (unheld : ∀ attempt ∈ desk.attempts, attempt.held? ≠ some ruling.requestId) (now : Instant) :
    ∃ later, desk.approvals.claim now ruling = .ok (request.resolve now ruling, later) := by
  have unclaimed : ruling.requestId ∉ desk.approvals.claims := by
    intro claimed
    obtain ⟨attempt, membership, held⟩ :=
      List.mem_filterMap.mp (sound.claims.mem_iff.mp claimed)
    exact unheld attempt membership held
  rw [ApprovalGate.claim_eq, open_]
  simp [ApprovalGate.takeClaim, unclaimed, bind, Except.bind, pure, Except.pure]

theorem Sound.orderly {desk : Desk α} (sound : desk.Sound) : desk.Orderly where
  once _ _ _ _ := sound.once
  succeeded ruling resolved output membership := sound.knows _ membership
  decided id request found resolved := by
    obtain ⟨attempt, membership, named, stored⟩ := sound.decided id request found resolved
    exact ⟨attempt, membership, named, stored,
      ((sound.knows attempt membership).of_stored? stored).2⟩
  foreign _ _ := sound.not_own
  alone _ _ _ _ _ _ := sound.alone_finalizing
  open_ ruling resolved membership := by
    obtain ⟨request, now, looked, -⟩ := sound.knows _ membership
    obtain ⟨-, found, pending, -⟩ := ApprovalGate.resolvable_eq_ok_iff.mp looked
    exact ⟨request, found, pending⟩
  free := sound.claims_eq_nil
  retry now _ _ open_ unheld := sound.claim_of_unheld open_ unheld now
  lasting _ run _ _ := sound.becomes_of_run run

/-- However resolvers are interleaved, and whichever of them fail or are dropped, every request is
resolved once at most, by one who is not its author, and nothing stays claimed. -/
theorem orderly_of_run {desk : Desk α} (run : Run .empty desk) : desk.Orderly :=
  (sound_empty.run run).orderly

theorem Run.step {start : Desk α} {approvals later : ApprovalGate} {before after : List (Attempt α)}
    {ruling : Ruling} {course next : Attempt.Course α}
    (run : Run start ⟨approvals, before ++ ⟨ruling, course⟩ :: after⟩)
    (stepped : Attempt.Step approvals ruling course next later)
    (unread : (∃ resolved output, course = .storing resolved output ∧
      next = .closing resolved output) → Unread ⟨approvals, before ++ ⟨ruling, course⟩ :: after⟩) :
    Run start ⟨later, before ++ ⟨ruling, next⟩ :: after⟩ :=
  run.tail (.step stepped unread)

/-- A resolver is dropped while it finalizes, and another one rejects the request. -/
theorem orderly_contested : ∃ (desk : Desk Unit) (resolved : ApprovalRequest),
    Run .empty desk ∧ desk.approvals.get? "held" = some resolved ∧ resolved.status = .rejected ∧
      desk.Orderly := by
  let now : Instant := ⟨0, 0⟩
  let verdict : Verdict := ⟨"verdict", "unit", "ann", .held, .deep, "", [], [], none, now⟩
  let request : ApprovalRequest := .ofVerdict "held" now verdict true []
  let bob : Ruling := ⟨"held", "bob", .approve, ""⟩
  let eve : Ruling := ⟨"held", "eve", .reject, "unsafe"⟩
  let opened : ApprovalGate := ApprovalGate.empty.insert request
  let claimed : ApprovalGate := { opened with claims := ["held"] }
  let gone : Attempt Unit := ⟨bob, .dropped⟩
  have found : opened.get? "held" = some request := Table.get?_insert_self ..
  have bobMay : opened.resolvable bob = .ok request :=
    ApprovalGate.resolvable_eq_ok_iff.mpr ⟨by decide, found, rfl, by decide⟩
  have eveMay : opened.resolvable eve = .ok request :=
    ApprovalGate.resolvable_eq_ok_iff.mpr ⟨by decide, found, rfl, by decide⟩
  have released : claimed.unclaim "held" = opened := by
    simp [claimed, opened, ApprovalGate.unclaim, ApprovalGate.insert, ApprovalGate.empty]
  have taken : opened.takeClaim "held" = .ok claimed := rfl
  have received : Run (empty : Desk Unit) ⟨opened, []⟩ :=
    .single (.receive (by simp [Unread, empty]) rfl now verdict true [])
  have submitted : Run empty ⟨opened, [⟨bob, .submitted⟩]⟩ := received.tail (.submit bob)
  have looks : Run empty ⟨opened, [⟨bob, .looking request⟩]⟩ :=
    @Run.step Unit _ _ _ [] [] _ _ _ submitted (.look bobMay) (by simp)
  have finalizes : Run empty ⟨claimed, [⟨bob, .finalizing (request.resolve now bob)⟩]⟩ :=
    @Run.step Unit _ _ _ [] [] _ _ _ looks (.claim now taken) (by simp)
  have joined : Run empty ⟨claimed, [⟨bob, .finalizing (request.resolve now bob)⟩,
      ⟨eve, .submitted⟩]⟩ := finalizes.tail (.submit eve)
  have watched : Run empty ⟨claimed, [⟨bob, .finalizing (request.resolve now bob)⟩,
      ⟨eve, .looking request⟩]⟩ :=
    @Run.step Unit _ _ _ [_] [] _ _ _ joined (.look eveMay) (by simp)
  have dropped : Run empty ⟨opened, [gone, ⟨eve, .looking request⟩]⟩ := by
    rw [← released]
    exact @Run.step Unit _ _ _ [] [_] _ _ _ watched .dropFinalizing (by simp)
  have claims : Run empty ⟨claimed, [gone, ⟨eve, .finalizing (request.resolve now eve)⟩]⟩ :=
    @Run.step Unit _ _ _ [_] [] _ _ _ dropped (.claim now taken) (by simp)
  have waits : Run empty ⟨claimed, [gone, ⟨eve, .storing (request.resolve now eve) ()⟩]⟩ :=
    @Run.step Unit _ _ _ [_] [] _ _ _ claims (.finalize ()) (by simp)
  have stores := @Run.step Unit _ _ _ [_] [] _ _ _ waits .store (by simp [Unread, gone])
  have closes := @Run.step Unit _ _ _ [_] [] _ _ _ stores .close (by simp)
  exact ⟨_, request.resolve now eve, closes, Table.get?_insert_self .., rfl,
    orderly_of_run closes⟩

end Desk

/-! ## Resolutions of a gate -/

variable {K : Type}

namespace Resolution

/-- A resolution is an attempt; committing finalizes the request and yields a score. -/
inductive Follows (ruling : Ruling) : Resolution → Attempt.Course Float → Prop where
  | submitted : Follows ruling (.submitted ruling) .submitted
  | committing {settlement : Settlement} {commit : Commit Float} :
      Follows ruling (.committing settlement commit) (.finalizing settlement.resolved)
  | writing {settlement : Settlement} {prepared : PreparedCommit Float} :
      Follows ruling (.writing settlement prepared) (.finalizing settlement.resolved)
  | settling {settlement : Settlement} {prepared : PreparedCommit Float} {hashes : List String} :
      Follows ruling (.settling settlement prepared hashes) (.finalizing settlement.resolved)
  | storing {settlement : Settlement} {score : Float} :
      Follows ruling (.storing settlement score) (.storing settlement.resolved score)
  | failed {cause : GateError} :
      Follows ruling (.finished (.error cause)) (.finished (.error cause))
  | succeeded {settlement : Settlement} {score : Float} :
      Follows ruling (.finished (.ok (settlement.outcome score)))
        (.finished (.ok (settlement.resolved, score)))

section Step

variable {now : Instant} {gate later : Gate K} {before after : List (Attempt Float)}
  {ruling : Ruling}

/-- What finalizing a claimed request comes to at once: it goes on, or it fails and gives up. -/
theorem finalize_follows {resolved : ApprovalRequest} (named : resolved.id = ruling.requestId)
    {next : Resolution} (finalized : gate.finalize now resolved = (next, later)) :
    ∃ following, next.Follows ruling following ∧
      Desk.Run ⟨gate.approvals, before ++ ⟨ruling, .finalizing resolved⟩ :: after⟩
        ⟨later.approvals, before ++ ⟨ruling, following⟩ :: after⟩ := by
  unfold Gate.finalize Gate.giveUp at finalized
  rw [named] at finalized
  split at finalized
  · rename_i cause _
    cases finalized
    exact ⟨_, .failed, .single (.step (.fail cause) (by simp))⟩
  · dsimp only at finalized
    split at finalized
    · rename_i cause _
      cases finalized
      exact ⟨_, .failed, .single (.step (.fail (.trust cause)) (by simp))⟩
    · cases finalized
      exact ⟨_, .committing, .refl⟩

theorem submitted_follows
    (keyed : gate.approvals.Keyed) {next : Resolution}
    (stepped : step? now gate (.submitted ruling) = some (next, later)) :
    ∃ following, next.Follows ruling following ∧
      Desk.Run ⟨gate.approvals, before ++ ⟨ruling, .submitted⟩ :: after⟩
        ⟨later.approvals, before ++ ⟨ruling, following⟩ :: after⟩ := by
  have begun : Desk.Run ⟨gate.approvals, before ++ ⟨ruling, .submitted⟩ :: after⟩
      ⟨gate.approvals, before ++ ⟨ruling, (.submitted : Attempt.Course Float)⟩ :: after⟩ := .refl
  simp only [step?, ApprovalGate.claim_eq] at stepped
  cases looked : gate.approvals.resolvable ruling with
  | error cause =>
      simp only [looked, bind, Except.bind, Option.some.injEq, Prod.mk.injEq] at stepped
      obtain ⟨rfl, rfl⟩ := stepped
      exact ⟨_, .failed, begun.step (.refuse looked) (by simp)⟩
  | ok request =>
      have looking := begun.step (.look looked) (by simp)
      obtain ⟨-, found, -, -⟩ := ApprovalGate.resolvable_eq_ok_iff.mp looked
      have owned : request.id = ruling.requestId := keyed _ _ found
      cases taken : gate.approvals.takeClaim ruling.requestId with
      | error cause =>
          simp only [looked, taken, bind, Except.bind, Option.some.injEq, Prod.mk.injEq] at stepped
          obtain ⟨rfl, rfl⟩ := stepped
          exact ⟨_, .failed, looking.step (.lose taken) (by simp)⟩
      | ok approvals =>
          simp only [looked, taken, bind, Except.bind, pure, Except.pure, Option.some.injEq]
            at stepped
          have claimed := looking.step (.claim now taken) (by simp)
          have named : (request.resolve now ruling).id = ruling.requestId := owned
          obtain ⟨following, follows, run⟩ := finalize_follows named stepped
          exact ⟨following, follows, claimed.trans run⟩

/-- Every step of a resolution is a number of steps of its attempt, while nobody else looks. -/
theorem run_of_step? {resolution next : Resolution} {course : Attempt.Course Float}
    (follows : resolution.Follows ruling course)
    (sound : Desk.Sound ⟨gate.approvals, before ++ ⟨ruling, course⟩ :: after⟩)
    (unread : ∀ attempt ∈ before ++ after, ∀ request, attempt.course ≠ .looking request)
    (stepped : step? now gate resolution = some (next, later)) :
    ∃ following, next.Follows ruling following ∧
      Desk.Run ⟨gate.approvals, before ++ ⟨ruling, course⟩ :: after⟩
        ⟨later.approvals, before ++ ⟨ruling, following⟩ :: after⟩ := by
  have knows := sound.knows ⟨ruling, course⟩ (by simp)
  cases follows with
  | submitted => exact submitted_follows sound.keyed stepped
  | committing =>
      have named := ApprovalGate.Resolves.id_eq knows sound.keyed
      cases step_of_step? stepped with
      | unready =>
          rw [named]
          exact ⟨_, .failed, .single (.step (.fail _) (by simp))⟩
      | prepare => exact ⟨_, .writing, .refl⟩
  | writing =>
      have named := ApprovalGate.Resolves.id_eq knows sound.keyed
      cases step_of_step? stepped with
      | unwritten =>
          rw [named]
          exact ⟨_, .failed, .single (.step (.fail _) (by simp))⟩
      | write => exact ⟨_, .settling, .refl⟩
  | settling =>
      have named := ApprovalGate.Resolves.id_eq knows sound.keyed
      cases step_of_step? stepped with
      | unsettled =>
          rw [named]
          exact ⟨_, .failed, .single (.step (.fail _) (by simp))⟩
      | settle => exact ⟨_, .storing, .single (.step (.finalize _) (by simp))⟩
  | @storing settlement score =>
      have named := ApprovalGate.Resolves.id_eq knows sound.keyed
      cases step_of_step? stepped
      rw [ApprovalGate.settle, named]
      have away : Desk.Unread
          ⟨gate.approvals, before ++ ⟨ruling, .storing settlement.resolved score⟩ :: after⟩ := by
        intro attempt membership request
        rw [List.mem_append, List.mem_cons] at membership
        rcases membership with old | rfl | old
        · exact unread attempt (List.mem_append_left after old) request
        · simp
        · exact unread attempt (List.mem_append_right before old) request
      have stores := Desk.Move.step .store fun _ => away
      exact ⟨_, .succeeded, Desk.Run.step (.single stores) .close (by simp)⟩
  | failed => contradiction
  | succeeded => contradiction

end Step

end Resolution

end ReviewGate
