import ReviewGate.Gate.Unit
import ReviewGate.Pattern.Learning
import ReviewGate.Trust.Config

/-!
# Configuration of the gate
-/

namespace ReviewGate

/-- How much of the pipeline runs. -/
inductive Mode where
  /-- Only the scan; hard blocks still reject. -/
  | disabled
  /-- Deep verification counts as unavailable. -/
  | lite
  | full
  deriving DecidableEq, Repr, Inhabited

namespace Mode

instance : Named Mode where
  all := [.disabled, .lite, .full]
  name
    | .disabled => "disabled"
    | .lite => "lite"
    | .full => "full"

/-- The mode of a name in any case. -/
def ofText (text : String) : Except GateError Mode :=
  match Named.ofName? (Text.lowerAscii text) with
  | some mode => .ok mode
  | none => .error (.configuration (.unknownMode (Text.lowerAscii text)))

end Mode

structure PipelineConfig where
  /-- Milliseconds given to the contract checker. -/
  contractTimeout : Nat
  /-- Milliseconds given to the deep verifier. -/
  deepTimeout : Nat
  /-- A unit whose risk is below the number of its author's stage is accepted at once. -/
  acceptance : PerStage Float
  /-- From this risk on deep verification is needed. -/
  elevatedRisk : Float
  /-- The outcome of a held unit that is approved. -/
  approvalCredit : Float
  capacity : Nat

namespace PipelineConfig

def default : PipelineConfig where
  contractTimeout := 5000
  deepTimeout := 30000
  acceptance := ⟨0.05, 0.2, 0.35⟩
  elevatedRisk := 0.5
  approvalCredit := 0.5
  capacity := 16

end PipelineConfig

/-- Which units are critical. -/
structure CriticalityPolicy where
  /-- Parts of a path, blind to case. -/
  pathMarkers : List String
  weaknesses : List Weakness
  deriving DecidableEq, Repr

namespace CriticalityPolicy

def default : CriticalityPolicy :=
  ⟨["auth", "crypto", "security", "payment", "migrations"], [.crypto]⟩

/-- What the unit says of itself decides; else its path and its findings do. -/
def isCritical (policy : CriticalityPolicy) (unit : CodeUnit) (findings : List Finding) : Bool :=
  match unit.critical with
  | some critical => critical
  | none =>
      (policy.pathMarkers.any fun marker =>
        Text.holds (Text.lowerAscii unit.path) (Text.lowerAscii marker)) ||
      findings.any fun finding => policy.weaknesses.contains finding.weakness

end CriticalityPolicy

structure GateConfig where
  /-- The identity of entries that concern the library. -/
  gateId : String
  mode : Mode
  trust : TrustConfig Float
  pipeline : PipelineConfig
  criticality : CriticalityPolicy
  learning : LearningConfig

namespace GateConfig

def default : GateConfig where
  gateId := "gatekeeper"
  mode := .full
  trust := .default
  pipeline := .default
  criticality := .default
  learning := .default

/-- Refuses a share that is not one. -/
def requireShare (name : String) (value : Float) : Except GateError Unit :=
  if Scalar.InUnit value then .ok ()
  else .error (.configuration (.outsideUnit name value))

/-- The first value the pipeline cannot run with decides. -/
def validate (config : GateConfig) : Except GateError Unit := do
  match config.trust.validate with
  | .error cause => throw (.configuration (.trust cause))
  | .ok () => pure ()
  let pipeline := config.pipeline
  requireShare "acceptance threshold (calculus-based)" pipeline.acceptance.calculusBased
  requireShare "acceptance threshold (knowledge-based)" pipeline.acceptance.knowledgeBased
  requireShare "acceptance threshold (identification-based)"
    pipeline.acceptance.identificationBased
  requireShare "elevated risk threshold" pipeline.elevatedRisk
  requireShare "approval partial credit" pipeline.approvalCredit
  if pipeline.contractTimeout = 0 ∨ pipeline.deepTimeout = 0 then
    throw (.configuration .zeroTimeout)
  if pipeline.capacity = 0 then throw (.configuration .zeroCapacity)

end GateConfig

/-! ## Records -/

namespace PipelineConfig

def toJson (config : PipelineConfig) : Json :=
  .object [("tier2_timeout_ms", Json.ofNat config.contractTimeout),
    ("tier3_timeout_ms", Json.ofNat config.deepTimeout),
    ("acceptance_thresholds", .object ((Named.all : List Stage).map fun stage =>
      (Named.name stage, .float (config.acceptance.get stage)))),
    ("elevated_risk_threshold", .float config.elevatedRisk),
    ("approval_partial_credit", .float config.approvalCredit),
    ("max_concurrent_reviews", Json.ofNat config.capacity)]

/-- Thresholds, each of which may be left out. -/
def thresholdsOfDocument? (document : Document) : Option (PerStage Float) := do
  let fields ←
    document.toRecord? ["calculus_based", "knowledge_based", "identification_based"]
  let thresholds := default.acceptance
  pure {
    calculusBased :=
      ← Document.withDefault fields "calculus_based" Document.toFloat? thresholds.calculusBased
    knowledgeBased :=
      ← Document.withDefault fields "knowledge_based" Document.toFloat? thresholds.knowledgeBased
    identificationBased :=
      ← Document.withDefault fields "identification_based" Document.toFloat?
        thresholds.identificationBased }

def ofDocument? (document : Document) : Option PipelineConfig := do
  let fields ← document.toRecord? ["tier2_timeout_ms", "tier3_timeout_ms",
    "acceptance_thresholds", "elevated_risk_threshold", "approval_partial_credit",
    "max_concurrent_reviews"]
  pure {
    contractTimeout :=
      ← Document.withDefault fields "tier2_timeout_ms" Document.toNat? default.contractTimeout
    deepTimeout :=
      ← Document.withDefault fields "tier3_timeout_ms" Document.toNat? default.deepTimeout
    acceptance :=
      ← Document.withDefault fields "acceptance_thresholds" thresholdsOfDocument?
        default.acceptance
    elevatedRisk :=
      ← Document.withDefault fields "elevated_risk_threshold" Document.toFloat?
        default.elevatedRisk
    approvalCredit :=
      ← Document.withDefault fields "approval_partial_credit" Document.toFloat?
        default.approvalCredit
    capacity :=
      ← Document.withDefault fields "max_concurrent_reviews" Document.toNat? default.capacity }

end PipelineConfig

namespace CriticalityPolicy

def toJson (policy : CriticalityPolicy) : Json :=
  .object [("path_markers", Json.ofStrings policy.pathMarkers),
    ("categories", Json.ofList Named.toJson policy.weaknesses)]

def ofDocument? (document : Document) : Option CriticalityPolicy := do
  let fields ← document.toRecord? ["path_markers", "categories"]
  pure {
    pathMarkers :=
      ← Document.withDefault fields "path_markers" (Document.toList? Document.toText?)
        default.pathMarkers
    weaknesses :=
      ← Document.withDefault fields "categories" (Document.toList? Document.toNamed?)
        default.weaknesses }

end CriticalityPolicy

namespace GateConfig

/-- The fields in the order in which a configuration file lists them. -/
def toJson (config : GateConfig) : Json :=
  .object [("gate_id", .string config.gateId), ("mode", Named.toJson config.mode),
    ("trust", config.trust.toJson), ("pipeline", config.pipeline.toJson),
    ("criticality", config.criticality.toJson), ("synthesis", config.learning.toJson)]

def ofDocument? (document : Document) : Option GateConfig := do
  let fields ←
    document.toRecord? ["gate_id", "mode", "trust", "pipeline", "criticality", "synthesis"]
  pure {
    gateId := ← Document.withDefault fields "gate_id" Document.toText? default.gateId
    mode := ← Document.withDefault fields "mode" Document.toNamed? default.mode
    trust := ← Document.withDefault fields "trust" TrustConfig.ofDocument? default.trust
    pipeline := ← Document.withDefault fields "pipeline" PipelineConfig.ofDocument? default.pipeline
    criticality :=
      ← Document.withDefault fields "criticality" CriticalityPolicy.ofDocument?
        default.criticality
    learning :=
      ← Document.withDefault fields "synthesis" LearningConfig.ofDocument? default.learning }

end GateConfig

end ReviewGate
