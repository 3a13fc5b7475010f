import ReviewGate.Gate.Approval
import ReviewGate.Gate.Config
import ReviewGate.Gate.Permits
import ReviewGate.Pattern.Defaults
import ReviewGate.Trust.Upkeep

/-!
# The gate

The trust engine, the learner with its library, the approval requests and the services that a review
needs, in one state.
-/

namespace ReviewGate

structure Gate (K : Type) where
  config : GateConfig
  engine : Engine Float K
  learner : Learner
  approvals : ApprovalGate
  checker : ContractChecker
  verifier : Option DeepVerifier
  /-- How often the deep verifier has been asked. -/
  verifierCalls : Nat
  permits : Permits
  ids : Ids
  /-- Milliseconds on the clock of timeouts and answers. -/
  timer : Nat

variable {K : Type}

namespace Gate

/-- More permits than this cannot be counted. -/
def maxCapacity : Nat := Nat.pow 2 61 - 1

/-- A gate over an engine and a library, with nothing under review. -/
def start (config : GateConfig) (engine : Engine Float K) (library : Library)
    (checker : ContractChecker) (verifier : Option DeepVerifier) (ids : Ids) :
    Except GateError (Gate K) := do
  config.validate
  if maxCapacity < config.pipeline.capacity then throw .capacity
  return {
    config
    engine
    learner := .start config.learning library
    approvals := .empty
    checker
    verifier
    verifierCalls := 0
    permits := .start config.pipeline.capacity
    ids
    timer := 0 }

/-- A gate of its own: an engine under its own policy, the default rules, the interval checker and
no deep verifier. -/
def alone (config : GateConfig) (keys : K) (now : Instant) (ids : Ids) :
    Except GateError (Gate K) := do
  config.validate
  let engine ← (Engine.start config.trust keys).mapError .trust
  let library ← (Library.withDefaultRules now).mapError .library
  start config engine library intervalChecker none ids

def library (gate : Gate K) : Library := gate.learner.library

/-- An id that has not been drawn before. -/
def freshId (gate : Gate K) : String × Gate K :=
  (gate.ids.next, { gate with ids := gate.ids.advance })

/-- An event that concerns the library. -/
def libraryEvent (gate : Gate K) (eventType : EventType) (payload : Json) (now : Instant) :
    LedgerRecord := ⟨gate.config.gateId, eventType, payload, now⟩

/-- The event of a proposal, if it changes anything. -/
def proposalEvent? (gate : Gate K) (proposal : Proposal) (sourceVerdict : String)
    (now : Instant) : Option LedgerRecord :=
  match proposal with
  | .activate rule => some (gate.libraryEvent .ruleActivated
      (Json.ofFields [("rule_id", .string rule.id), ("category", Named.toJson rule.weakness),
        ("matcher", rule.matcher.toJson), ("hard_block", .bool rule.hardBlock),
        ("source_verdict", .string sourceVerdict)]) now)
  | .queue item => some (gate.libraryEvent .ruleQueuedForReview
      (Json.ofFields [("review_id", .string item.id), ("rule_id", .string item.candidate.id),
        ("reason", .string item.reason),
        ("matched_samples", Json.ofList Json.ofNat item.matchedSamples),
        ("source_verdict", .string sourceVerdict)]) now)
  | .duplicate _ => none

/-- Writes events that concern the library. -/
def writeEvents (gate : Gate K) (records : List LedgerRecord) : Except GateError (Gate K) :=
  match gate.engine.write records with
  | .ok (_, engine) => .ok { gate with engine }
  | .error cause => .error (.ledger cause)

end Gate

end ReviewGate
