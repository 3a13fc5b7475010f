import ReviewGate.Pattern.Library

/-!
# Scans

A scan tries every active rule of a library on every line of a source.
-/

namespace ReviewGate

structure ScanReport (R : Type) where
  findings : List Finding
  risk : R
  /-- The version of the library that was scanned with. -/
  libraryVersion : Nat

namespace ScanReport

variable {R : Type}

def hardBlocks (report : ScanReport R) : List Finding :=
  report.findings.filter fun finding => finding.hardBlock

def isHardBlocked (report : ScanReport R) : Bool := report.findings.any fun finding =>
  finding.hardBlock

def isClean (report : ScanReport R) : Bool := report.findings.isEmpty

end ScanReport

namespace Library

/-- Excerpts keep this many characters of a line. -/
def excerptLength : Nat := 100

/-- The findings of one rule, from the first line to the last. -/
def ruleFindings (entry : CompiledRule) (source : String) : List Finding :=
  (entry.matcher.find source).map fun (line, text) =>
    { ruleId := entry.rule.id
      ruleName := entry.rule.name
      weakness := entry.rule.weakness
      severity := entry.rule.severity
      hardBlock := entry.rule.hardBlock
      line := line
      excerpt := String.ofList (text.toList.take excerptLength)
      description := entry.rule.description }

/-- Findings are told by line, and on one line the more severe ones come first. -/
def comesBefore (first second : Finding) : Bool :=
  decide (first.line < second.line) ||
    (decide (first.line = second.line) && decide (second.severity.rank ≤ first.severity.rank))

/-- What the active rules of at least some severity find.  Where line and severity agree, the order
of the library decides. -/
def findings (library : Library) (threshold : Severity) (source : String) : List Finding :=
  ((library.active.filter fun entry => threshold.rank ≤ entry.rule.severity.rank).flatMap
    fun entry => ruleFindings entry source).mergeSort comesBefore

def scan (R : Type) [Scalar R] (library : Library) (threshold : Severity) (source : String) :
    ScanReport R :=
  let found := library.findings threshold source
  ⟨found, residualRisk R found, library.version⟩

end Library

/-! ## Records -/

/-- The findings, also as violations, and what they amount to. -/
def ScanReport.toJson {R : Type} [Scalar R] (report : ScanReport R) : Json :=
  Json.ofFields [("findings", Json.ofList Finding.toJson report.findings),
    ("violations", Json.ofList (fun finding => finding.toViolation.toJson) report.findings),
    ("risk", Json.ofNumber (Scalar.toFloat report.risk)),
    ("library_version", Json.ofNat report.libraryVersion),
    ("hard_blocked", .bool report.isHardBlocked),
    ("hard_blocks", Json.ofList (fun finding => .string finding.ruleId) report.hardBlocks),
    ("clean", .bool report.isClean)]

end ReviewGate
