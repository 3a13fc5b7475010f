import ReviewGate.Proofs.Gate.Records
import ReviewGate.Proofs.Gate.Tiers
import ReviewGate.Proofs.Pattern.Lasting

/-!
# Activations in the ledger

A rule that a review has learned is written down as active before it is published.  It was proposed
because no active rule had its matcher; if one has it when the rule is to be published, the rule is
left out.
-/

namespace ReviewGate

variable {K : Type}

/-! ## What an entry announces -/

/-- An entry that announces a learned rule as active. -/
structure LedgerRecord.Announces (record : LedgerRecord) (rule : Rule) : Prop where
  named : record.payload.field? "rule_id" = some (.string rule.id)
  matcher : record.payload.field? "matcher" = some rule.matcher.toJson
  learned : record.payload.field? "review_id" = none

/-- An entry names a rule of the library, whether that is active or not. -/
def Library.Names (library : Library) (record : LedgerRecord) : Prop :=
  ∃ entry ∈ library.rules, record.payload.field? "rule_id" = some (.string entry.rule.id)

theorem Library.Names.later {library later : Library} {record : LedgerRecord}
    (names : library.Names record) (keeps : library.Keeps later) : later.Names record := by
  obtain ⟨entry, present, named⟩ := names
  obtain ⟨place, found⟩ := List.mem_iff_getElem?.mp present
  obtain ⟨kept, there, ages⟩ := keeps place entry found
  refine ⟨kept, List.mem_of_getElem? there, ?_⟩
  rw [named, ages.same]

theorem LedgerRecord.Announces.names {record : LedgerRecord} {rule : Rule}
    (announces : record.Announces rule) {library : Library}
    (present : ∃ entry ∈ library.rules, entry.rule.id = rule.id) : library.Names record := by
  obtain ⟨entry, membership, same⟩ := present
  exact ⟨entry, membership, same ▸ announces.named⟩

/-- The activations among some records announce rules that are proposed. -/
def Announced (proposals : List Proposal) (records : List LedgerRecord) : Prop :=
  ∀ record ∈ records, record.eventType = .ruleActivated →
    ∃ rule, .activate rule ∈ proposals ∧ record.Announces rule

theorem announced_of_types {records : List LedgerRecord} (proposals : List Proposal)
    (types : ∀ record ∈ records, record.eventType ≠ .ruleActivated) :
    Announced proposals records := by
  intro record membership activated
  exact absurd activated (types record membership)

theorem Announced.append {proposals : List Proposal} {first second : List LedgerRecord}
    (announced : Announced proposals first) (others : Announced proposals second) :
    Announced proposals (first ++ second) := by
  intro record membership
  rcases List.mem_append.mp membership with left | right
  · exact announced record left
  · exact others record right

namespace Gate

theorem announces_of_proposalEvent? {gate : Gate K} {proposal : Proposal} {sourceVerdict : String}
    {now : Instant} {record : LedgerRecord}
    (event : gate.proposalEvent? proposal sourceVerdict now = some record)
    (activated : record.eventType = .ruleActivated) :
    ∃ rule, proposal = .activate rule ∧ record.Announces rule := by
  cases proposal with
  | activate rule =>
      cases event
      refine ⟨rule, rfl, ?_, ?_, ?_⟩ <;> simp [libraryEvent, Json.field?_ofFields]
  | queue item =>
      cases event
      simp [libraryEvent] at activated
  | duplicate ruleId => contradiction

theorem announced_proposalEvents (gate : Gate K) (proposals : List Proposal)
    (sourceVerdict : String) (now : Instant) :
    Announced proposals
      (proposals.filterMap fun proposal => gate.proposalEvent? proposal sourceVerdict now) := by
  intro record membership activated
  obtain ⟨proposal, present, event⟩ := List.mem_filterMap.mp membership
  obtain ⟨rule, rfl, announces⟩ := announces_of_proposalEvent? event activated
  exact ⟨rule, present, announces⟩

theorem announced_verdictCommit (gate : Gate K) (now : Instant) (emission : Emission) :
    Announced emission.dossier.proposals (gate.verdictCommit now emission).events := by
  have verdict : Announced emission.dossier.proposals
      [⟨emission.verdict.identity, .verdictEmitted, emission.verdict.toJson,
        emission.verdict.timestamp⟩] := announced_of_types _ (by simp)
  have request : Announced emission.dossier.proposals
      (emission.request.map (requestEvent now)).toList := by
    apply announced_of_types
    simp [requestEvent]
  exact (verdict.append (gate.announced_proposalEvents _ _ now)).append request

end Gate

/-! ## What a call plans -/

/-- The records that a call is about to write. -/
def Phase.batch : Phase → List LedgerRecord
  | .asking commit => commit.events
  | .writing prepared => prepared.records
  | _ => []

namespace Review

/-- The rules that a review has proposed and not yet published. -/
def proposals : Review → List Proposal
  | .checking dossier _ _ | .deepening dossier _ _ | .learning dossier _ _ => dossier.proposals
  | .committing emission _ | .writing emission _ | .settling emission _ _ | .filing emission _ =>
      emission.dossier.proposals
  | .publishing _ _ left => left
  | _ => []

/-- The rules that a review has written down and not yet published. -/
def unpublished : Review → List Proposal
  | .settling emission _ _ | .filing emission _ => emission.dossier.proposals
  | .publishing _ _ left => left
  | _ => []

/-- A review on the way to its commit, with no other proposals than these. -/
structure Proposes (proposals : List Proposal) (review : Review) : Prop where
  proposals : review.proposals ⊆ proposals
  phase : review.phase = .before

end Review

theorem Review.Considers.proposes {dossier : Dossier} {review : Review}
    (considers : review.Considers dossier) : review.Proposes dossier.proposals := by
  cases considers with
  | refused cause => exact ⟨List.nil_subset _, rfl⟩
  | checking notes | deepening notes | concluded notes =>
      rw [← notes.proposals]
      exact ⟨List.Subset.refl _, rfl⟩

namespace Gate

theorem proposals_emit (gate : Gate K) (now : Instant) (dossier : Dossier) (verdict : Verdict) :
    (gate.emit now dossier verdict).1.proposals ⊆ dossier.proposals ∧
      Announced (gate.emit now dossier verdict).1.proposals
        (gate.emit now dossier verdict).1.phase.batch := by
  unfold emit
  split
  · exact ⟨List.nil_subset _, announced_of_types _ (by simp [refuse, Review.phase, Phase.batch])⟩
  · rename_i passed advanced
    dsimp only
    split
    · exact ⟨List.nil_subset _, announced_of_types _ (by simp [refuse, Review.phase, Phase.batch])⟩
    · refine ⟨?_, announced_verdictCommit _ now _⟩
      rw [← (Dossier.annotates_pass advanced).proposals]
      exact List.Subset.refl _

end Gate

namespace Review

/-- A step in which a review learns a rule from a violation: it proposes the rule, for no active rule
has its matcher. -/
structure Learns (rule : Rule) (gate : Gate K) (review next : Review) : Prop where
  lesson : ∃ now dossier verdict violation left,
    review = .learning dossier verdict (violation :: left) ∧
    next = .learning { dossier with proposals := dossier.proposals ++ [.activate rule] } verdict
      left ∧
    (gate.learner.propose now gate.ids (.ofViolation dossier.unit.source violation verdict.id
      .deepVerification)).1 = .ok (.activate rule)
  new : rule.matcher ∉ gate.library.liveMatchers

/-- A step in which a review leaves a rule out that it was to publish: another one is active and has
its matcher. -/
structure LeavesOut (rule faster : Rule) (gate : Gate K) (review next : Review) : Prop where
  turn : ∃ emission score left,
    review = .publishing emission score (.activate rule :: left) ∧
    next = .publishing { emission with dossier :=
      { emission.dossier with learned := emission.dossier.learned ++ [.duplicate faster.id] } }
      score left
  active : gate.library.findByMatcher? rule.matcher = some faster

theorem Learns.compiles {rule : Rule} {gate : Gate K} {review next : Review}
    (learns : Learns rule gate review next) : ∃ matcher, rule.matcher.compile = .ok matcher := by
  obtain ⟨now, dossier, verdict, violation, left, -, -, proposed⟩ := learns.lesson
  exact (Learner.new_of_propose proposed).1

variable {now : Instant} {gate later : Gate K} {review next : Review}

theorem Proposes.announced {proposals : List Proposal} (proposes : next.Proposes proposals) :
    Announced next.proposals next.phase.batch := by
  rw [proposes.phase]
  exact announced_of_types _ (by simp [Phase.batch])

/-- All that a review proposes it has learned. -/
theorem learns_of_step? (stepped : step? now gate review = some (next, later)) {rule : Rule}
    (proposed : .activate rule ∈ next.proposals) :
    .activate rule ∈ review.proposals ∨ Learns rule gate review next := by
  cases step_of_step? stepped with
  | invalid | unknown | stage | lost | queue | grant | unready | unwritten | unsettled | finish =>
      cases proposed
  | prepare | write | settle | file => exact .inl proposed
  | scan => exact .inl ((considers_of_admitted stepped).proposes.proposals proposed)
  | check => exact .inl ((considers_of_checking stepped).proposes.proposals proposed)
  | deepen => exact .inl ((considers_of_deepening stepped).proposes.proposals proposed)
  | @learn dossier learned verdict violation left later told =>
      unfold Gate.learnFrom at told
      dsimp only at told
      split at told
      · rename_i proposal made
        cases told
        rcases List.mem_append.mp proposed with old | new
        · exact .inl old
        · rw [← List.mem_singleton.mp new] at made
          refine .inr ⟨⟨now, dossier, verdict, violation, left, rfl, ?_, made⟩, ?_⟩
          · rw [List.mem_singleton.mp new]
          · exact Library.findByMatcher?_eq_none_iff.mp (Learner.new_of_propose made).2
      · cases told
        exact .inl proposed
  | @emit dossier verdict next later emitted =>
      have included := (gate.proposals_emit now dossier verdict).1
      rw [emitted] at included
      exact .inl (included proposed)
  | publish => exact .inl (List.mem_cons_of_mem _ proposed)

/-- Only publishing changes what has been learned. -/
theorem learner_of_step? (stepped : step? now gate review = some (next, later)) :
    later.learner = gate.learner ∨
      ∃ emission published proposal, gate.publish emission proposal = (published, later) := by
  have early : (∀ prepared, review.phase ≠ .settling prepared) → review.phase ≠ .after →
      later.learner = gate.learner := by
    intro unsettled unfinished
    have unfinished := (progress_of_step? stepped).ne_after unsettled unfinished
    exact ((frame_of_step? stepped).2 unfinished).1
  cases step_of_step? stepped with
  | publish applied => exact .inr ⟨_, _, _, applied⟩
  | unsettled | settle | file | finish => exact .inl rfl
  | _ => exact .inl (early (by simp [phase]) (by simp [phase]))

/-- A rule that has been written down is published in its turn, or left out. -/
theorem publishes_of_step?
    (compiles : ∀ rule, .activate rule ∈ review.proposals →
      ∃ matcher, rule.matcher.compile = .ok matcher)
    (known : ∀ identity, review.phase.held? = some identity →
      (gate.engine.record? identity).isSome = true)
    (stepped : step? now gate review = some (next, later)) {rule : Rule}
    (pending : .activate rule ∈ review.unpublished) :
    .activate rule ∈ next.unpublished ∨ (∃ entry ∈ later.library.rules, entry.rule.id = rule.id) ∨
      ∃ faster, LeavesOut rule faster gate review next := by
  cases step_of_step? stepped with
  | @unsettled emission prepared hashes cause failed =>
      have found := known prepared.identity rfl
      rw [Engine.missing_of_settle failed] at found
      contradiction
  | settle | file => exact .inl pending
  | @publish emission published score proposal left later applied =>
      rcases List.mem_cons.mp pending with rfl | remaining
      · right
        rw [Gate.publish_eq] at applied
        rcases gate.learner.apply_activate_cases (compiles rule List.mem_cons_self) with
          ⟨faster, active, left⟩ | ⟨-, ⟨learned, learner, done, there⟩ | ⟨cause, failed, there⟩⟩
        · rw [left] at applied
          cases applied
          exact .inr ⟨faster, ⟨emission, score, _, rfl, rfl⟩, active⟩
        · rw [done] at applied
          cases applied
          exact .inl there
        · rw [failed] at applied
          cases applied
          exact .inl there
      · exact .inl remaining
  | _ => contradiction

end Review

namespace Resolution

end Resolution

namespace Call

def proposals : Call → List Proposal
  | .review _ course => course.proposals
  | .resolution .. => []

def unpublished : Call → List Proposal
  | .review _ course => course.unpublished
  | .resolution .. => []

variable {now : Instant} {gate later : Gate K} {call next : Call}

end Call

/-! ## Other uses of the library -/

namespace Gate

end Gate

/-! ## Small failures -/

namespace Small

def unsafeCall : Violation := ⟨some 1, .injection, "unsafe call"⟩

def payload : CodeUnit := ⟨"payload", "ann", "", "run(payload)", [], none⟩

/-- Every unit fails with this violation, told so many times. -/
def failing (times : Nat) : DeepVerifier := fun _ _ =>
  .after 0 (.ok ⟨.fail, List.replicate times unsafeCall⟩)

end Small

end ReviewGate
