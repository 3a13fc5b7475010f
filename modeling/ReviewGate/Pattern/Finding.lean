import ReviewGate.Data.Document
import ReviewGate.Number.Scalar

/-!
# Findings

What a rule or a verifier reports about a piece of code, how severe it is and what risk remains when
several findings stand side by side.
-/

namespace ReviewGate

inductive Severity where
  | low
  | medium
  | high
  | critical
  deriving DecidableEq, Repr, Inhabited

namespace Severity

instance : Named Severity where
  all := [.low, .medium, .high, .critical]
  name
    | .low => "low"
    | .medium => "medium"
    | .high => "high"
    | .critical => "critical"

/-- Place in the order from least to most severe. -/
def rank : Severity → Nat
  | .low => 0
  | .medium => 1
  | .high => 2
  | .critical => 3

/-- The chance that a finding of this severity is a real defect. -/
def weight (R : Type) [Scalar R] : Severity → R
  | .low => 0.1
  | .medium => 0.3
  | .high => 0.6
  | .critical => 0.9

end Severity

/-- Kinds of defects. -/
inductive Weakness where
  | memory
  | arithmetic
  | injection
  | crypto
  | resource
  | logic
  deriving DecidableEq, Repr, Inhabited

namespace Weakness

instance : Named Weakness where
  all := [.memory, .arithmetic, .injection, .crypto, .resource, .logic]
  name
    | .memory => "memory"
    | .arithmetic => "arithmetic"
    | .injection => "injection"
    | .crypto => "crypto"
    | .resource => "resource"
    | .logic => "logic"

/-- How the ids of rules for this kind begin. -/
def ruleStem : Weakness → String
  | .memory => "MEM"
  | .arithmetic => "ARITH"
  | .injection => "INJ"
  | .crypto => "CRYPTO"
  | .resource => "RES"
  | .logic => "LOGIC"

end Weakness

/-- A defect as any tier reports it; the line counts from 1. -/
structure Violation where
  line : Option Nat
  weakness : Weakness
  description : String
  deriving DecidableEq, Repr, Inhabited

/-- A match of a rule on a line. -/
structure Finding where
  ruleId : String
  ruleName : String
  weakness : Weakness
  severity : Severity
  hardBlock : Bool
  line : Nat
  excerpt : String
  description : String
  deriving DecidableEq, Repr, Inhabited

namespace Finding

def toViolation (finding : Finding) : Violation :=
  ⟨some finding.line, finding.weakness,
    finding.ruleName ++ " (" ++ finding.ruleId ++ "): " ++ finding.description⟩

end Finding

/-- Each finding is an independent chance of a real defect: one minus the product of the chances
that it is none. -/
def residualRisk (R : Type) [Scalar R] (findings : List Finding) : R :=
  1.0 - Scalar.product (findings.map fun finding => 1.0 - finding.severity.weight R)

/-! ## Records -/

namespace Violation

def toJson (violation : Violation) : Json :=
  Json.ofFields [("line", Json.ofOption Json.ofNat violation.line),
    ("category", Named.toJson violation.weakness),
    ("description", .string violation.description)]

def ofDocument? (document : Document) : Option Violation := do
  let fields ← document.toRecord? ["line", "category", "description"]
  pure {
    line := ← Document.optional fields "line" Document.toNat?
    weakness := ← Document.required fields "category" Document.toNamed?
    description := ← Document.required fields "description" Document.toText? }

end Violation

namespace Finding

def toJson (finding : Finding) : Json :=
  Json.ofFields [("rule_id", .string finding.ruleId), ("rule_name", .string finding.ruleName),
    ("category", Named.toJson finding.weakness), ("severity", Named.toJson finding.severity),
    ("hard_block", .bool finding.hardBlock), ("line", Json.ofNat finding.line),
    ("excerpt", .string finding.excerpt), ("description", .string finding.description)]

def ofDocument? (document : Document) : Option Finding := do
  let fields ← document.toRecord? ["rule_id", "rule_name", "category", "severity", "hard_block",
    "line", "excerpt", "description"]
  pure {
    ruleId := ← Document.required fields "rule_id" Document.toText?
    ruleName := ← Document.required fields "rule_name" Document.toText?
    weakness := ← Document.required fields "category" Document.toNamed?
    severity := ← Document.required fields "severity" Document.toNamed?
    hardBlock := ← Document.required fields "hard_block" Document.toBool?
    line := ← Document.required fields "line" Document.toNat?
    excerpt := ← Document.required fields "excerpt" Document.toText?
    description := ← Document.required fields "description" Document.toText? }

end Finding

end ReviewGate
