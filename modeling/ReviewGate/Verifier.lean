import ReviewGate.Contract.Interval
import ReviewGate.Data.Cause
import ReviewGate.Pattern.Finding
import ReviewGate.Text.Lines

/-!
# Verification services

What the deep verifier and the contract checker answer, and when.  A service may take its time, fail
or never answer at all; whoever asks sets a bound.
-/

namespace ReviewGate

inductive ServiceError where
  | unavailable (reason : String)
  | failed (reason : String)
  | malformed (reason : String)
  deriving DecidableEq, Repr

namespace ServiceError

def code : ServiceError → String
  | .unavailable _ => "Unavailable"
  | .failed _ => "Failed"
  | .malformed _ => "Malformed"

def message : ServiceError → String
  | .unavailable reason => "Service unavailable: " ++ reason
  | .failed reason => "Service failed: " ++ reason
  | .malformed reason => "Malformed response: " ++ reason

instance : Cause ServiceError := ⟨code, message⟩

end ServiceError

inductive DeepStatus where
  | pass
  | fail
  /-- Nothing was found out within the bound. -/
  | timeout
  deriving DecidableEq, Repr, Inhabited

instance : Named DeepStatus where
  all := [.pass, .fail, .timeout]
  name
    | .pass => "pass"
    | .fail => "fail"
    | .timeout => "timeout"

structure DeepReport where
  status : DeepStatus
  violations : List Violation
  deriving DecidableEq, Repr

namespace DeepReport

def pass : DeepReport := ⟨.pass, []⟩

def timeout : DeepReport := ⟨.timeout, []⟩

end DeepReport

/-- A contradiction is described where there is one to describe. -/
structure ContractReport where
  satisfiable : Bool
  contradiction : Option String
  deriving DecidableEq, Repr

/-- An answer and the milliseconds it takes; a service without an answer never gives one. -/
inductive Reply (α : Type) where
  | after (millis : Nat) (answer : Except ServiceError α)
  | never

namespace Reply

variable {α : Type}

def now (answer : Except ServiceError α) : Reply α := .after 0 answer

/-- What comes of waiting under a bound.  This is the documented behaviour of a bounded wait: each
time it is woken it asks for the answer first and looks at the clock after that, so an answer that
is there at the bound itself wins, and where there is none the wait ends and the call is dropped.  A
call that does not give control back before it has its answer is not interrupted by any bound; such
calls are left out here. -/
def within (bound : Nat) : Reply α → Option (Except ServiceError α)
  | .after millis answer => if millis ≤ bound then some answer else none
  | .never => none

/-- The milliseconds after which either the answer or the bound has come. -/
def settledAfter (bound : Nat) : Reply α → Nat
  | .after millis _ => min millis bound
  | .never => bound

end Reply

/-- A deep verifier is asked about an artifact under a bound in milliseconds.  This is how it
answers at one time; after an outage another one may stand in its place. -/
abbrev DeepVerifier := String → Nat → Reply DeepReport

/-- A contract checker is asked about all constraints of a unit. -/
abbrev ContractChecker := ConstraintSet → Reply ContractReport

/-- The checker that compares intervals answers at once. -/
def intervalChecker : ContractChecker := fun set =>
  .now (.ok (match set.contradiction? with
    | some contradiction => ⟨false, some contradiction.message⟩
    | none => ⟨true, none⟩))

/-- A verifier whose reports are written down beforehand. -/
structure VerifierScript where
  id : String
  available : Bool
  /-- Milliseconds before every report. -/
  latency : Option Nat
  default : DeepReport
  /-- The report for artifacts that hold a marker. -/
  scripts : List (String × DeepReport)

namespace VerifierScript

/-- The first script whose marker occurs decides. -/
def report (script : VerifierScript) (artifact : String) : DeepReport :=
  ((script.scripts.find? fun entry => Text.holds artifact entry.1).map Prod.snd).getD
    script.default

/-- A report that takes longer than the bound is given up at the bound. -/
def verify (script : VerifierScript) : DeepVerifier := fun artifact bound =>
  if !script.available then .now (.error (.unavailable "Scripted verifier disabled"))
  else
    match script.latency with
    | none => .now (.ok (script.report artifact))
    | some latency =>
        if bound < latency then .after bound (.ok .timeout)
        else .after latency (.ok (script.report artifact))

end VerifierScript

/-! ## Records -/

/-- An error by its kind and its reason. -/
def ServiceError.ofDocument? (document : Document) : Option ServiceError := do
  let fields ← document.toRecord? ["error", "message"]
  let kind ← Document.required fields "error" Document.toText?
  let reason ← Document.required fields "message" Document.toText?
  match kind with
  | "unavailable" => pure (.unavailable reason)
  | "failed" => pure (.failed reason)
  | "malformed" => pure (.malformed reason)
  | _ => none

namespace DeepReport

def toJson (report : DeepReport) : Json :=
  Json.ofFields [("status", Named.toJson report.status),
    ("violations", Json.ofList Violation.toJson report.violations)]

def ofDocument? (document : Document) : Option DeepReport := do
  let fields ← document.toRecord? ["status", "violations"]
  pure {
    status := ← Document.required fields "status" Document.toNamed?
    violations :=
      ← Document.required fields "violations" (Document.toList? Violation.ofDocument?) }

/-- A report, or the word for one without violations. -/
def ofScript? (document : Document) : Option DeepReport :=
  match document with
  | .text "pass" => some .pass
  | .text "timeout" => some .timeout
  | _ => ofDocument? document

end DeepReport

namespace VerifierScript

/-- A marker and the report for artifacts that hold it. -/
def entry? (document : Document) : Option (String × DeepReport) :=
  match document with
  | .list [marker, report] => do pure (← marker.toText?, ← DeepReport.ofScript? report)
  | _ => none

def ofDocument? (document : Document) : Option VerifierScript := do
  let fields ← document.toRecord? ["id", "available", "latency_ms", "default", "scripts"]
  pure {
    id := ← Document.withDefault fields "id" Document.toText? "scripted"
    available := ← Document.withDefault fields "available" Document.toBool? true
    latency := ← Document.optional fields "latency_ms" Document.toNat?
    default := ← Document.withDefault fields "default" DeepReport.ofScript? .pass
    scripts := ← Document.withDefault fields "scripts" (Document.toList? entry?) [] }

end VerifierScript

namespace ContractReport

def ofDocument? (document : Document) : Option ContractReport := do
  let fields ← document.toRecord? ["satisfiable", "contradiction"]
  pure {
    satisfiable := ← Document.required fields "satisfiable" Document.toBool?
    contradiction := ← Document.optional fields "contradiction" Document.toText? }

end ContractReport

end ReviewGate
