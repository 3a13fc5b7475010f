import ReviewGate.CommandLine.Files
import ReviewGate.CommandLine.Help
import ReviewGate.Data.Yaml.Reader
import ReviewGate.Gate.Schedule

/-!
# Running a command

What a command prints and the status it ends with.  A scan ends with 0 where every unit is accepted,
with 1 where one is rejected and with 2 where one is held.
-/

namespace ReviewGate.CommandLine

/-- What a command leaves behind. -/
structure Report where
  lines : List String
  status : Nat
  /-- What is wrong. -/
  error : Option String

/-- All that a command needs to know of its surroundings. -/
structure Surroundings where
  environment : Environment
  fileText : String → Except FileError String
  now : Instant
  ids : Ids
  keys : LocalKeys

namespace Report

def success (lines : List String) : Report := ⟨lines, 0, none⟩

def failure (lines : List String) (message : String) : Report := ⟨lines, 1, some message⟩

/-- The program cannot go on at all. -/
def abort : Report := ⟨[], 101, none⟩

end Report

/-- Ends a command with an error, or at once where there is no way on. -/
def GateError.report (lines : List String) : GateError → Report
  | .capacity | .trust .beyondCalendar => .abort
  | cause => .failure lines cause.message

/-- The configuration in force. -/
def Invocation.config (invocation : Invocation) (surroundings : Surroundings) :
    Except String GateConfig := do
  let config ← match invocation.configPath with
    | none => pure GateConfig.default
    | some path =>
        match surroundings.fileText path with
        | .error cause => throw cause.message
        | .ok text =>
            match Yaml.parse? text >>= GateConfig.ofDocument? with
            | some config => pure config
            | none => throw "Invalid configuration"
  return { config with mode := invocation.mode.getD config.mode }

/-- One line for a rule. -/
def ruleLine (rule : Rule) : String :=
  Text.padRight rule.id 14 ++ " " ++ Text.padRight (Named.name rule.severity) 9 ++ " " ++
    Text.padRight (Named.name rule.weakness) 10 ++ " " ++ rule.name

def rulesReport (surroundings : Surroundings) (config : GateConfig) : Report :=
  match Gate.alone config surroundings.keys surroundings.now surroundings.ids with
  | .error cause => GateError.report [] cause
  | .ok gate => .success (gate.library.active.map fun entry => ruleLine entry.rule)

/-- What is told about one file. -/
def summary (path : String) (outcome : ReviewOutcome) : Json :=
  Json.ofFields [("path", .string path), ("state", Named.toJson outcome.state),
    ("verdict", outcome.verdict.toJson), ("critical", .bool outcome.critical),
    ("risk", Json.ofOption .float outcome.risk),
    ("approval_request", Json.ofOption (fun request : ApprovalRequest => .string request.id)
      outcome.approval),
    ("trust_score", Json.ofOption .float outcome.trustScore)]

def exitStatus (outcome : ReviewOutcome) : Nat :=
  match outcome.state with
  | .accepted => 0
  | .rejected => 1
  | _ => 2

/-- The lines of a text that ends without a line end. -/
private def splitText (text : String) : List String := text.splitOn "\n"

/-- Tells the outcomes in order; the first error ends it. -/
def outcomesReport (lines : List String) (status : Nat) :
    List (String × Review) → Report
  | [] => ⟨lines, status, none⟩
  | (path, review) :: rest =>
      match review.result? with
      | some (.ok outcome) =>
          outcomesReport (lines ++ splitText ((summary path outcome).pretty 0))
            (max status (exitStatus outcome)) rest
      | some (.error cause) => GateError.report lines cause
      | none => .abort

/-- Whether a review has ended where there is no way on. -/
private def isStuck (review : Review) : Bool :=
  match review.result? with
  | some (.error (.trust .beyondCalendar)) | none => true
  | _ => false

/-- A unit of each file, under fresh ids. -/
def unitsOf (surroundings : Surroundings) (arguments : ScanArguments) (gate : Gate LocalKeys) :
    List String → Except FileError (List CodeUnit × Gate LocalKeys)
  | [] => .ok ([], gate)
  | path :: rest => do
      let source ← surroundings.fileText path
      let (id, gate) := gate.freshId
      let unit : CodeUnit := {
        id := "unit-" ++ id
        author := arguments.author
        path
        source
        contracts := arguments.contracts
        critical := if arguments.critical then some true else none }
      let (units, gate) ← unitsOf surroundings arguments gate rest
      return (unit :: units, gate)

def scanReport (surroundings : Surroundings) (config : GateConfig)
    (arguments : ScanArguments) : Report :=
  match Gate.alone config surroundings.keys surroundings.now surroundings.ids with
  | .error cause => GateError.report [] cause
  | .ok gate =>
      let score := arguments.score.getD config.trust.initialScore
      let (registration, engine) :=
        gate.engine.register surroundings.now arguments.author .sentinel score
      match registration.result? with
      | none => .abort
      | some (.error cause) => .failure [] cause.message
      | some (.ok _) =>
          match unitsOf surroundings arguments { gate with engine } arguments.paths with
          | .error cause => .failure [] cause.message
          | .ok (units, gate) =>
              let (reviews, _) := gate.reviewAll surroundings.now units
              if reviews.any isStuck then .abort
              else outcomesReport [] 0 (arguments.paths.zip reviews)

def Invocation.report (surroundings : Surroundings) (invocation : Invocation) : Report :=
  match invocation.config surroundings with
  | .error message => .failure [] message
  | .ok config =>
      match invocation.command with
      | .config =>
          .success ((splitText (Yaml.write config.toJson)).dropLast)
      | .rules => rulesReport surroundings config
      | .scan arguments => scanReport surroundings config arguments

/-- Runs the program on its arguments. -/
def run (surroundings : Surroundings) (arguments : List String) : Report :=
  match Request.ofArguments surroundings.environment arguments with
  | .misuse => ⟨[], 2, none⟩
  | .help topic => .success (topic.lines surroundings.environment)
  | .run invocation => invocation.report surroundings

end ReviewGate.CommandLine
