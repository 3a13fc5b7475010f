import ReviewGate.Gate.Basic

/-!
# Rules between reviews

Rules are also learned from failures in production, and a human activates, discards or switches off
rules.  What changes the library is written into the ledger.
-/

namespace ReviewGate

variable {K : Type}

namespace Gate

def addKnownGood (gate : Gate K) (sample : String) : Gate K :=
  { gate with learner := gate.learner.addKnownGood sample }

/-- Publishes a proposal that has been written down. -/
def applyProposal (gate : Gate K) (proposal : Proposal) : Except GateError Learned × Gate K :=
  let (result, learner) := gate.learner.applyInPlace proposal
  (result.mapError .library, { gate with learner })

/-- Learns from a failure in production. -/
def learnFromProduction (gate : Gate K) (now : Instant) (fragment : String)
    (violation : Violation) (sourceVerdict : String) : Except GateError Learned × Gate K :=
  let trace := Trace.ofViolation fragment violation sourceVerdict .production
  let (proposal, ids) := gate.learner.propose now gate.ids trace
  let gate := { gate with ids }
  match proposal with
  | .error cause => (.error (.library cause), gate)
  | .ok proposal =>
      match gate.proposalEvent? proposal sourceVerdict now with
      | none => gate.applyProposal proposal
      | some record =>
          match gate.writeEvents [record] with
          | .error cause => (.error cause, gate)
          | .ok gate => gate.applyProposal proposal

/-- Makes a queued candidate live, and then writes that down. -/
def activateReview (gate : Gate K) (now : Instant) (reviewId : String)
    (revised : Option Matcher) : Except GateError Rule × Gate K :=
  match gate.learner.activateReviewInPlace reviewId revised with
  | (.error cause, learner) => (.error (.library cause), { gate with learner })
  | (.ok rule, learner) =>
      let gate := { gate with learner }
      let record := gate.libraryEvent .ruleActivated
        (Json.ofFields [("rule_id", .string rule.id), ("version", Json.ofNat rule.version),
          ("category", Named.toJson rule.weakness), ("matcher", rule.matcher.toJson),
          ("review_id", .string reviewId)]) now
      match gate.writeEvents [record] with
      | .error cause => (.error cause, gate)
      | .ok gate => (.ok rule, gate)

def discardReviewInPlace (gate : Gate K) (reviewId : String) :
    Except GateError ReviewItem × Gate K :=
  let (result, learner) := gate.learner.discardReviewInPlace reviewId
  (result.mapError .library, { gate with learner })

def discardReview (gate : Gate K) (reviewId : String) :
    Except GateError (ReviewItem × Gate K) :=
  together (gate.discardReviewInPlace reviewId)

/-- Why a rule could not be switched off. -/
def deactivationError : LibraryError → GateError
  | .unknownRule ruleId => .notFound (.rule ruleId)
  | cause => .library cause

/-- Switches a rule off, and then writes that down. -/
def deactivateRule (gate : Gate K) (now : Instant) (ruleId : String)
    (successor : Option String) : Except GateError Rule × Gate K :=
  let (result, library) := gate.library.deactivateInPlace ruleId successor
  let gate := { gate with learner := { gate.learner with library } }
  match result with
  | .error cause => (.error (deactivationError cause), gate)
  | .ok rule =>
      let record := gate.libraryEvent .ruleDeactivated
        (Json.ofFields [("rule_id", .string rule.id),
          ("superseded_by", Json.ofOption .string rule.supersededBy)]) now
      match gate.writeEvents [record] with
      | .error cause => (.error cause, gate)
      | .ok gate => (.ok rule, gate)

end Gate

end ReviewGate
