import ReviewGate.Proofs.Gate.Audit
import ReviewGate.Proofs.Gate.Lessons

/-!
# Rules that are overtaken

Between the step in which a review proposes a rule and the one in which it would publish it, another
rule with the same matcher may become active.  Then the rule is left out, and what the review has
written about it stays in the ledger.  That is the only way in which an entry can come to announce a
rule that is not in the library.
-/

namespace ReviewGate

variable {K : Type}

namespace Library

/-- An active rule has been added since its matcher was new. -/
theorem added_of_new {library later : Library} (keeps : library.Keeps later) {matcher : Matcher}
    (new : matcher ∉ library.liveMatchers) {place : Nat} {faster : CompiledRule}
    (found : later.rules[place]? = some faster) (active : faster.rule.active = true)
    (same : faster.rule.matcher = matcher) : library.rules.length ≤ place := by
  by_contra below
  rw [Nat.not_le] at below
  have there : library.rules[place]? = some library.rules[place] := List.getElem?_eq_getElem below
  obtain ⟨kept, still, ages⟩ := keeps place _ there
  cases found.symm.trans still
  apply new
  have on : library.rules[place].rule.active = true := by
    rw [← Bool.not_eq_false]
    intro off
    rw [ages.off off] at active
    cases active
  have alike : library.rules[place].rule.matcher = matcher := by
    rw [← same, ages.same]
  rw [← alike]
  exact List.mem_map_of_mem (List.mem_filter.mpr ⟨List.getElem_mem below, on⟩)

end Library

namespace Review

/-- What a review tells of the rules that it has published so far. -/
def reported : Review → List Learned
  | .publishing emission _ _ => emission.dossier.learned
  | .finished (.ok outcome) => outcome.learned
  | _ => []

theorem reported_of_step? {now : Instant} {gate later : Gate K} {review next : Review}
    (stepped : review.step? now gate = some (next, later)) : review.reported ⊆ next.reported := by
  cases step_of_step? stepped with
  | publish applied =>
      rw [Gate.publish_eq] at applied
      split at applied <;> cases applied
      · exact List.subset_append_left _ _
      · exact List.Subset.refl _
  | finish => exact List.Subset.refl _
  | _ => exact List.nil_subset _

theorem LeavesOut.reported {rule faster : Rule} {gate : Gate K} {review next : Review}
    (leavesOut : LeavesOut rule faster gate review next) :
    .duplicate faster.id ∈ next.reported := by
  obtain ⟨emission, score, left, -, rfl⟩ := leavesOut.turn
  exact List.mem_append_right _ (List.mem_singleton_self _)

end Review

/-- The ids of rules that activations name. -/
def Ledger.activatedIds (ledger : Ledger) : List String :=
  (ledger.filter fun entry => entry.eventType = .ruleActivated).filterMap fun entry =>
    entry.payload.field? "rule_id" >>= Json.text?

namespace System

variable [KeyProvider K] {permitted : Gate.Operation → Prop} {system later : System K}

/-! ## What moves keep -/

/-- A review stays as it is, or it takes a step. -/
theorem Move.review_later (moves : Move permitted system later) {index : Nat} {unit : CodeUnit}
    {review : Review} (present : system.calls[index]? = some (.review unit review)) :
    ∃ next, later.calls[index]? = some (.review unit next) ∧
      (next = review ∨ ∃ now, review.step? now system.gate = some (next, later.gate)) := by
  cases moves with
  | @submit call fresh =>
      have below := (List.getElem?_eq_some_iff.mp present).1
      exact ⟨review, by rw [List.getElem?_append_left below, present], .inl rfl⟩
  | @step other call next now gate found stepped =>
      by_cases here : other = index
      · subst here
        cases found.symm.trans present
        rcases Call.step?_cases stepped with
          ⟨asked, before, following, same, rfl, taken⟩ | ⟨ruling, before, following, same, -, -⟩
        · cases same
          have below := (List.getElem?_eq_some_iff.mp found).1
          exact ⟨following, List.getElem?_set_self below, .inr ⟨now, taken⟩⟩
        · cases same
      · exact ⟨review, by rw [List.getElem?_set_ne here, present], .inl rfl⟩
  | operate | refuse | serve | wait => exact ⟨review, present, .inl rfl⟩

theorem Move.mem_written (moves : Move permitted system later) {writer : Option Nat}
    {record : LedgerRecord} (written : record ∈ system.written writer) :
    record ∈ later.written writer := by
  have moved : ∀ (other : Option Nat) (gate : Gate K),
      record ∈ (system.moved other gate).written writer := by
    intro other gate
    simp only [System.written, System.moved, List.filter_append, List.map_append]
    exact List.mem_append_left _ written
  cases moves with
  | submit | refuse | serve | wait => exact written
  | step | operate => exact moved _ _

/-- The rules of a library keep their places and what they say in every move. -/
theorem keeps_of_moves (moves : Relation.ReflTransGen (Move permitted) system later) :
    system.gate.library.Keeps later.gate.library := by
  induction moves with
  | refl => exact .refl _
  | tail before move keeps => exact keeps.trans move.evolves.library.keeps

/-! ## The way of a rule -/

/-- In one move the review at a place takes a step of a kind. -/
structure Steps (permitted : Gate.Operation → Prop) (index : Nat) (unit : CodeUnit)
    (kind : Gate K → Review → Review → Prop) (system later : System K) : Prop where
  moves : Move permitted system later
  takes : ∃ review next, system.calls[index]? = some (.review unit review) ∧
    later.calls[index]? = some (.review unit next) ∧ kind system.gate review next

/-- In an earlier move the review at a place has learned a rule. -/
def HasLearned (permitted : Gate.Operation → Prop) (index : Nat) (unit : CodeUnit) (rule : Rule)
    (system : System K) : Prop :=
  ∃ proposing proposed : System K, proposing.Reachable permitted ∧
    Steps permitted index unit (Review.Learns rule) proposing proposed ∧
    Relation.ReflTransGen (Move permitted) proposed system

theorem HasLearned.move {index : Nat} {unit : CodeUnit} {rule : Rule}
    (learned : system.HasLearned permitted index unit rule) (moves : Move permitted system later) :
    later.HasLearned permitted index unit rule := by
  obtain ⟨proposing, proposed, reached, learns, meanwhile⟩ := learned
  exact ⟨proposing, proposed, reached, learns, meanwhile.tail moves⟩

/-- Whatever a review proposes it has learned. -/
theorem hasLearned_of_reachable (reached : system.Reachable permitted) {index : Nat}
    {unit : CodeUnit} {review : Review} {rule : Rule}
    (present : system.calls[index]? = some (.review unit review))
    (proposed : .activate rule ∈ review.proposals) :
    system.HasLearned permitted index unit rule := by
  induction reached generalizing review with
  | start engineStarted gateStarted => simp at present
  | @move system later before moves learned =>
      rcases moves.review_cases present with rfl | stayed | ⟨earlier, now, found, taken⟩
      · cases proposed
      · exact (learned stayed proposed).move moves
      · rcases Review.learns_of_step? taken proposed with old | learns
        · exact (learned found old).move moves
        · exact ⟨system, later, before, ⟨moves, earlier, review, found, present, learns⟩, .refl⟩

/-- How the rule that an entry announces was overtaken. -/
structure Overtaking (permitted : Gate.Operation → Prop) (record : LedgerRecord)
    (system : System K) where
  rule : Rule
  announces : record.Announces rule
  /-- The review that has written the entry, by its place among the calls. -/
  index : Nat
  unit : CodeUnit
  written : record ∈ system.written (some index)
  /-- The review proposes the rule, for no active rule has its matcher. -/
  proposing : System K
  proposed : System K
  reached : proposing.Reachable permitted
  learns : Steps permitted index unit (Review.Learns rule) proposing proposed
  /-- The review leaves the rule out, for another one is active and has its matcher. -/
  publishing : System K
  passed : System K
  meanwhile : Relation.ReflTransGen (Move permitted) proposed publishing
  faster : CompiledRule
  leavesOut : Steps permitted index unit (Review.LeavesOut rule faster.rule) publishing passed
  since : Relation.ReflTransGen (Move permitted) passed system
  /-- The other rule has come in between. -/
  place : Nat
  added : proposing.gate.library.rules.length ≤ place
  found : publishing.gate.library.rules[place]? = some faster
  active : faster.rule.active = true
  same : faster.rule.matcher = rule.matcher
  /-- The review tells that the rule was left out for the other one. -/
  tells : ∃ review, system.calls[index]? = some (.review unit review) ∧
    .duplicate faster.rule.id ∈ review.reported

namespace Overtaking

variable {record : LedgerRecord}

/-- What has been overtaken stays so. -/
def move (overtaking : system.Overtaking permitted record) (moves : Move permitted system later) :
    later.Overtaking permitted record :=
  { overtaking with
    written := moves.mem_written overtaking.written
    since := overtaking.since.tail moves
    tells := by
      obtain ⟨review, present, told⟩ := overtaking.tells
      obtain ⟨next, there, rfl | ⟨now, taken⟩⟩ := moves.review_later present
      · exact ⟨_, there, told⟩
      · exact ⟨next, there, Review.reported_of_step? taken told⟩ }

end Overtaking

/-- Whoever leaves a rule out that it has learned was overtaken. -/
theorem HasLearned.overtaken {index : Nat} {unit : CodeUnit} {rule faster : Rule}
    {record : LedgerRecord} (learned : system.HasLearned permitted index unit rule)
    (leavesOut : Steps permitted index unit (Review.LeavesOut rule faster) system later)
    (announces : record.Announces rule) (written : record ∈ system.written (some index)) :
    Nonempty (later.Overtaking permitted record) := by
  obtain ⟨proposing, proposed, reached, learns, meanwhile⟩ := learned
  obtain ⟨review, next, before, after, left⟩ := leavesOut.takes
  obtain ⟨entry, present, rfl, active, same⟩ := Library.mem_of_findByMatcher? left.active
  obtain ⟨place, found⟩ := List.mem_iff_getElem?.mp present
  have keeps := keeps_of_moves ((Relation.ReflTransGen.single learns.moves).trans meanwhile)
  obtain ⟨earlier, middle, -, -, lesson⟩ := learns.takes
  exact ⟨{
    rule, announces, index, unit, proposing, proposed, reached, learns, meanwhile, leavesOut, place
    found, active, same
    publishing := system
    passed := later
    faster := entry
    written := leavesOut.moves.mem_written written
    since := .refl
    added := Library.added_of_new keeps lesson.new found active same
    tells := ⟨next, after, left.reported⟩ }⟩

/-! ## All activations -/

/-- An entry about a rule that the call which has written it is going to publish. -/
structure Pends (system : System K) (record : LedgerRecord) (index : Nat) (call : Call)
    (rule : Rule) : Prop where
  announces : record.Announces rule
  written : record ∈ system.written (some index)
  present : system.calls[index]? = some call
  pending : .activate rule ∈ call.unpublished

/-- An activation names a rule of the library, or the rule was overtaken, or it is still to be
published. -/
inductive Answers (permitted : Gate.Operation → Prop) (system : System K) (record : LedgerRecord) :
    Prop where
  | names (named : system.gate.library.Names record)
  | overtaken (overtaking : system.Overtaking permitted record)
  | pends {index : Nat} {call : Call} {rule : Rule} (pending : system.Pends record index call rule)

/-- Where its call stays as it is, what holds of an entry goes on to hold. -/
theorem Answers.move {record : LedgerRecord} (answers : system.Answers permitted record)
    (moves : Move permitted system later)
    (stays : ∀ (index : Nat) (call : Call) (rule : Rule), system.Pends record index call rule →
      later.calls[index]? = some call ∨ later.Answers permitted record) :
    later.Answers permitted record := by
  cases answers with
  | names named => exact .names (named.later moves.evolves.library.keeps)
  | overtaken overtaking => exact .overtaken (overtaking.move moves)
  | @pends index call rule pending =>
      rcases stays index call rule pending with there | answers
      · exact .pends ⟨pending.announces, moves.mem_written pending.written, there, pending.pending⟩
      · exact answers

theorem HasLearned.compiles {index : Nat} {unit : CodeUnit} {rule : Rule}
    (learned : system.HasLearned permitted index unit rule) :
    ∃ matcher, rule.matcher.compile = .ok matcher := by
  obtain ⟨proposing, proposed, -, learns, -⟩ := learned
  obtain ⟨review, next, -, -, lesson⟩ := learns.takes
  exact lesson.compiles

/-- A step of the call that is to publish a rule keeps it pending, publishes it, or leaves it out. -/
theorem Pends.step (reached : system.Reachable permitted) {index : Nat} {call next : Call}
    {now : Instant} {later : Gate K} {record : LedgerRecord} {rule : Rule}
    (pending : system.Pends record index call rule)
    (stepped : call.step? now system.gate = some (next, later)) :
    Answers permitted { system.moved (some index) later with calls := system.calls.set index next }
      record := by
  have moves : Move permitted system
      { system.moved (some index) later with calls := system.calls.set index next } :=
    .step pending.present stepped
  have below := (List.getElem?_eq_some_iff.mp pending.present).1
  have placed : (system.calls.set index next)[index]? = some next := List.getElem?_set_self below
  obtain ⟨announces, written, present, unpublished⟩ := pending
  have known := (recorded_of_reachable reached).held call (List.mem_of_getElem? present)
  rcases Call.step?_cases stepped with
    ⟨unit, course, following, rfl, rfl, taken⟩ | ⟨ruling, course, following, rfl, rfl, taken⟩
  · have compiles : ∀ rule, .activate rule ∈ course.proposals →
        ∃ matcher, rule.matcher.compile = .ok matcher := fun rule proposed =>
      (hasLearned_of_reachable reached present proposed).compiles
    rcases Review.publishes_of_step? compiles known taken unpublished with
      waits | there | ⟨faster, left⟩
    · exact .pends ⟨announces, moves.mem_written written, placed, waits⟩
    · exact .names (announces.names there)
    · obtain ⟨emission, score, remaining, rfl, -⟩ := left.turn
      have learned := hasLearned_of_reachable reached present unpublished
      obtain ⟨overtaking⟩ := learned.overtaken ⟨moves, _, _, present, placed, left⟩ announces written
      exact .overtaken overtaking
  · cases unpublished

end System

namespace Small

/-- How many violations the verdict of a review names, and whether an activation names no rule. -/
def told (call : Call) (gate : Gate LocalKeys) : Option (Nat × Bool) :=
  call.reviewed?.map fun reviewed =>
    (reviewed.2.verdict.violations.length,
      gate.engine.ledger.activatedIds.any fun id => (gate.library.get? id).isNone)

end Small

namespace System

open ReviewGate.Small

end System

end ReviewGate
