import ReviewGate.Gate.Config
import ReviewGate.Gate.Verdict
import ReviewGate.Pattern.Scan
import ReviewGate.Trust.Basic

/-!
# Dossiers

What is known about a unit under review, and the opinion to which each tier comes.  A tier that
comes to none hands the dossier to the next one.
-/

namespace ReviewGate

structure Dossier where
  unit : CodeUnit
  /-- The stage of the author when the review began. -/
  stage : Stage
  /-- Whether the author was cooling off when the review began. -/
  coolingOff : Bool
  trail : Trail
  critical : Bool
  risk : Float
  libraryVersion : Nat
  warnings : List String
  /-- What the deep tier came to, a missing answer counted as the policy says. -/
  deepStatus : Option DeepStatus
  /-- The cooling-off that comes with the verdict. -/
  sanction : Option Honesty
  /-- Rules to be published after the verdict. -/
  proposals : List Proposal
  learned : List Learned

/-- What a verdict will say. -/
structure Opinion where
  status : VerdictStatus
  tier : Tier
  rationale : String
  violations : List Violation

/-- The state to which a status leads. -/
def VerdictStatus.state : VerdictStatus → ReviewState
  | .pass => .accepted
  | .fail => .rejected
  | .held => .pendingApproval

namespace Dossier

/-- The dossier of a unit that has been scanned. -/
def ofScan (config : GateConfig) (unit : CodeUnit) (stage : Stage) (coolingOff : Bool)
    (report : ScanReport Float) : Dossier where
  unit
  stage
  coolingOff
  trail := ⟨[.submitted, .tier1]⟩
  critical := config.criticality.isCritical unit report.findings
  risk := report.risk
  libraryVersion := report.libraryVersion
  warnings := []
  deepStatus := none
  sanction := none
  proposals := []
  learned := []

def warn (dossier : Dossier) (warning : String) : Dossier :=
  { dossier with warnings := dossier.warnings ++ [warning] }

def pass (dossier : Dossier) (next : ReviewState) : Except GateError Dossier := do
  let trail ← dossier.trail.advance next
  return { dossier with trail }

/-- Outcomes of critical and deeply verified units weigh more. -/
def context (dossier : Dossier) : RiskContext :=
  if dossier.critical || dossier.trail.contains .tier3 then .highRisk else .lowRisk

/-! ## The scan -/

def findingWarning (finding : Finding) : String :=
  finding.ruleId ++ " at line " ++ toString finding.line ++ ": " ++ finding.excerpt

def hardBlockOpinion (report : ScanReport Float) : Opinion where
  status := .fail
  tier := .scan
  rationale := "Hard-block rule matched: " ++
    ", ".intercalate (report.hardBlocks.map (·.ruleId))
  violations := report.findings.map Finding.toViolation

def bypassOpinion : Opinion :=
  ⟨.pass, .bypass, "Verification disabled; hard-block rules only", []⟩

def lowRiskOpinion (dossier : Dossier) (threshold : Float) : Opinion :=
  ⟨.pass, .scan, "Residual risk " ++ fixedPlaces dossier.risk 3 ++ " below " ++
    Named.name dossier.stage ++ " threshold " ++ fixedPlaces threshold 2, []⟩

/-- A hard block rejects.  Otherwise a low risk is accepted at once, unless the author is cooling
off. -/
def afterScan (dossier : Dossier) (config : GateConfig) (report : ScanReport Float) :
    Dossier × Option Opinion :=
  if report.isHardBlocked then
    ({ dossier with sanction := some .honest }, some (hardBlockOpinion report))
  else
    let dossier := report.findings.foldl (fun dossier finding =>
      dossier.warn (findingWarning finding)) dossier
    if config.mode = .disabled then
      (dossier.warn "Verification disabled; only hard-block rules enforced", some bypassOpinion)
    else
      let threshold := config.pipeline.acceptance.get dossier.stage
      if dossier.coolingOff then
        (dossier.warn "Author is cooling off; direct acceptance suspended", none)
      else if dossier.risk < threshold then (dossier, some (dossier.lowRiskOpinion threshold))
      else (dossier, none)

/-! ## Contracts -/

/-- Clauses that no service checks are told. -/
def warnUnmodelled (dossier : Dossier) (set : ConstraintSet) : Dossier :=
  set.unsupported.foldl (fun dossier clause =>
    dossier.warn ("Contract clause not modelled: " ++ clause)) dossier

def contradictionOpinion (contradiction : Option String) : Opinion :=
  let description := contradiction.getD "contracts are unsatisfiable"
  ⟨.fail, .contracts, "Contract contradiction: " ++ description,
    [⟨none, .logic, description⟩]⟩

/-- A checker without an answer rejects a critical unit and does not matter to others. -/
def withoutChecker (dossier : Dossier) (failure : GateError) : Dossier × Option Opinion :=
  if dossier.critical then
    (dossier, some ⟨.fail, .contracts,
      failure.message ++ "; failing closed for critical unit", []⟩)
  else (dossier.warn (failure.message ++ "; continuing without contract check"), none)

def afterContracts (dossier : Dossier) (config : GateConfig)
    (answer : Option (Except ServiceError ContractReport)) : Dossier × Option Opinion :=
  match answer with
  | some (.ok report) =>
      if report.satisfiable then (dossier, none)
      else (dossier, some (contradictionOpinion report.contradiction))
  | some (.error cause) => dossier.withoutChecker (.service cause)
  | none => dossier.withoutChecker (.timeout .contractCheck config.pipeline.contractTimeout)

/-- Whether contracts that hold are not enough. -/
def isElevated (dossier : Dossier) (config : GateConfig) : Bool :=
  decide (config.pipeline.elevatedRisk ≤ dossier.risk) || dossier.critical || dossier.coolingOff

def contractsHoldOpinion (dossier : Dossier) : Opinion :=
  ⟨.pass, .contracts, "Contracts hold; residual risk " ++ fixedPlaces dossier.risk 3 ++
    " not elevated", []⟩

/-! ## Deep verification -/

inductive DeepResult where
  | pass
  | fail (violations : List Violation)
  | unavailable (reason : String)

def deepResult (config : GateConfig) (answer : Option (Except ServiceError DeepReport)) :
    DeepResult :=
  let late := GateError.timeout .deepVerification config.pipeline.deepTimeout
  match answer with
  | some (.ok report) =>
      match report.status with
      | .pass => .pass
      | .fail => .fail report.violations
      | .timeout => .unavailable late.message
  | some (.error cause) => .unavailable (GateError.service cause).message
  | none => .unavailable late.message

def deepFailureOpinion (dossier : Dossier) (violations : List Violation) : Opinion :=
  if dossier.critical then
    ⟨.held, .deep, "Deep verification failed on critical unit; held for approval", violations⟩
  else ⟨.fail, .deep, "Deep verification failed", violations⟩

/-- Without an answer a critical unit is held and any other is accepted with a warning. -/
def withoutDeep (dossier : Dossier) (reason : String) : Dossier × Opinion :=
  if dossier.critical then
    ({ dossier with deepStatus := some .fail },
      ⟨.held, .deep, reason ++ "; treated as failure for critical unit, held for approval", []⟩)
  else
    ({ dossier with deepStatus := some .pass }.warn
        (reason ++ "; accepted without deep verification"),
      ⟨.pass, .deep, "Accepted with warnings; deep verification unavailable", []⟩)

/-- What the deep tier comes to, and the violations to learn from. -/
def afterDeep (dossier : Dossier) : DeepResult → Dossier × Opinion × List Violation
  | .pass =>
      ({ dossier with deepStatus := some .pass },
        ⟨.pass, .deep, "Deep verification passed (" ++ Named.name dossier.stage ++ " stage)", []⟩,
        [])
  | .fail violations =>
      ({ dossier with deepStatus := some .fail, sanction := some .honest },
        dossier.deepFailureOpinion violations, violations)
  | .unavailable reason =>
      let (dossier, opinion) := dossier.withoutDeep reason
      (dossier, opinion, [])

end Dossier

end ReviewGate
