import ReviewGate.Gate.Config

/-!
# Arguments of the command line

Options stand before the command they belong to or among its operands.  An option takes its value
from the same argument or from the next one; what follows two dashes is an operand.  Where an option
is missing, its environment variable counts.

A value from an argument of its own is looked at only when the next option or operand comes, or at
the end.  So help that a command is asked for comes before a complaint about the value right before
the command.
-/

namespace ReviewGate.CommandLine

structure ScanArguments where
  paths : List String
  author : String
  /-- The score at which the author is registered. -/
  score : Option Float
  /-- Every file is critical. -/
  critical : Bool
  contracts : List String

inductive Command where
  | scan (arguments : ScanArguments)
  | rules
  | config

structure Invocation where
  configPath : Option String
  mode : Option Mode
  command : Command

/-- Whose help is asked for. -/
inductive HelpTopic where
  | program
  | scan
  | rules
  | config
  | help

inductive Request where
  | run (invocation : Invocation)
  | help (topic : HelpTopic)
  | misuse

/-- The values of environment variables. -/
abbrev Environment := String → Option String

/-! ## Options -/

/-- An option with its short and its long name. -/
structure OptionSpec where
  short : Option Char
  long : String
  takesValue : Bool
  /-- May be given more than once. -/
  repeats : Bool
  /-- The values that it takes. -/
  accepts : String → Bool

/-- What the arguments of one command are. -/
structure Given where
  options : List (String × String)
  /-- An option whose value has not been looked at. -/
  pending : Option (OptionSpec × String)
  operands : List String

/-- The way on behind some arguments. -/
inductive Progress where
  | stop (given : Given) (command : String) (rest : List String)
  | done (given : Given)
  | help
  | misuse

private def isOptionLike (argument : String) : Bool :=
  match argument.toList with
  | '-' :: _ :: _ => true
  | _ => false

namespace Given

def none : Given := ⟨[], Option.none, []⟩

def value? (given : Given) (long : String) : Option String :=
  (given.options.find? fun option => option.1 == long).map Prod.snd

def values (given : Given) (long : String) : List String :=
  (given.options.filter fun option => option.1 == long).map Prod.snd

/-- Adds an option; most may not be repeated. -/
def addOption? (given : Given) (spec : OptionSpec) (value : String) : Option Given :=
  if !spec.repeats && (given.value? spec.long).isSome then Option.none
  else if spec.accepts value then
    some { given with options := given.options ++ [(spec.long, value)] }
  else Option.none

/-- Looks at what has not been looked at.  Operands may not be empty. -/
def settle? (given : Given) : Option Given :=
  if given.operands.any String.isEmpty then Option.none
  else
    match given.pending with
    | Option.none => some given
    | some (spec, value) => { given with pending := Option.none }.addOption? spec value

def addOperand (given : Given) (operand : String) : Given :=
  { given with operands := given.operands ++ [operand] }

end Given

/-- Text behind an equals sign, which may be missing. -/
private def dropEquals : List Char → List Char
  | '=' :: rest => rest
  | letters => letters

/-- How one argument that starts with a dash is understood. -/
inductive Dashed where
  /-- An option with its value. -/
  | complete (spec : OptionSpec) (value : String)
  /-- An option whose value is the next argument, with the flags before it. -/
  | open (spec : OptionSpec)
  | help
  | unknown

private def longOption (specs : List OptionSpec) (letters : List Char) : Dashed :=
  let name := String.ofList (letters.takeWhile (· != '='))
  let attached := letters.dropWhile (· != '=')
  if name == "help" then if attached.isEmpty then .help else .unknown
  else
    match specs.find? fun spec => spec.long == name with
    | none => .unknown
    | some spec =>
        match spec.takesValue, attached with
        | true, '=' :: value => .complete spec (String.ofList value)
        | true, _ => .open spec
        | false, [] => .complete spec ""
        | false, _ => .unknown

private def shortOption (specs : List OptionSpec) (letters : List Char) : Dashed :=
  match letters with
  | [] => .unknown
  | letter :: attached =>
      if letter == 'h' then .help
      else
        match specs.find? fun spec => spec.short == some letter with
        | none => .unknown
        | some spec =>
            if attached.isEmpty then .open spec
            else .complete spec (String.ofList (dropEquals attached))

private def dashed (specs : List OptionSpec) (argument : String) : Dashed :=
  match argument.toList with
  | '-' :: '-' :: letters => longOption specs letters
  | '-' :: letters => shortOption specs letters
  | _ => .unknown

/-- The end of the arguments. -/
private def Given.finish (given : Given) : Progress :=
  match given.settle? with
  | some given => .done given
  | .none => .misuse

/-- Takes arguments one by one.  Where operands are not allowed, the first one is a command. -/
def take (specs : List OptionSpec) (allowsOperands : Bool) (given : Given) :
    List String → Progress
  | [] => given.finish
  | argument :: rest =>
      if argument == "--" then
        if allowsOperands then (rest.foldl Given.addOperand given).finish
        else if rest.isEmpty then given.finish else .misuse
      else if isOptionLike argument then
        match given.settle?, dashed specs argument with
        | none, _ | _, .unknown => .misuse
        | _, .help => .help
        | some given, .complete spec value =>
            match given.addOption? spec value with
            | some given => take specs allowsOperands given rest
            | none => .misuse
        | some given, .open spec =>
            match rest with
            | [] => .misuse
            | value :: behind =>
                if isOptionLike value then .misuse
                else take specs allowsOperands { given with pending := some (spec, value) } behind
      else if allowsOperands then
        match given.settle? with
        | some given => take specs allowsOperands (given.addOperand argument) rest
        | none => .misuse
      else .stop given argument rest

/-! ## The program -/

private def mode? (text : String) : Option Mode :=
  match Mode.ofText text with
  | .ok mode => some mode
  | .error _ => none

private def score? (text : String) : Option Float := Number.read? text.toList

def programOptions : List OptionSpec :=
  [⟨some 'c', "config", true, false, fun path => !path.isEmpty⟩,
    ⟨some 'm', "mode", true, false, fun text => (mode? text).isSome⟩]

def scanOptions : List OptionSpec :=
  [⟨some 'a', "author", true, false, fun _ => true⟩,
    ⟨none, "score", true, false, fun text => (score? text).isSome⟩,
    ⟨none, "critical", false, false, fun _ => true⟩,
    ⟨none, "contract", true, true, fun _ => true⟩]

def configVariable : String := "GATEKEEPER_CONFIG"

def modeVariable : String := "GATEKEEPER_MODE"

def authorVariable : String := "GATEKEEPER_AUTHOR"

def defaultAuthor : String := "did:agent:cli"

/-- Reads a value that may be missing, but not be wrong. -/
private def readOptional {α : Type} (read : String → Option α) :
    Option String → Option (Option α)
  | none => some none
  | some text => (read text).map some

private def nonEmpty? (text : String) : Option String := if text.isEmpty then none else some text

private def scanArguments? (environment : Environment) (given : Given) : Option ScanArguments := do
  if given.operands.isEmpty then none
  let score ← readOptional score? (given.value? "score")
  pure {
    paths := given.operands
    author := ((given.value? "author").or (environment authorVariable)).getD defaultAuthor
    score
    critical := (given.value? "critical").isSome
    contracts := given.values "contract" }

private def helpTopic? : List String → Option HelpTopic
  | [] => some .program
  | ["scan"] => some .scan
  | ["rules"] => some .rules
  | ["config"] => some .config
  | ["help"] => some .help
  | _ => none

private def invocation? (environment : Environment) (given : Given) (command : Command) :
    Option Invocation := do
  let given ← given.settle?
  let configPath ←
    readOptional nonEmpty? ((given.value? "config").or (environment configVariable))
  let mode ← readOptional mode? ((given.value? "mode").or (environment modeVariable))
  pure ⟨configPath, mode, command⟩

private def orMisuse : Option Invocation → Request
  | some invocation => .run invocation
  | none => .misuse

/-- What is asked for. -/
def Request.ofArguments (environment : Environment) (arguments : List String) : Request :=
  match take programOptions false .none arguments with
  | .help => .help .program
  | .misuse | .done _ => .misuse
  | .stop given "scan" rest =>
      match take scanOptions true .none rest with
      | .help => .help .scan
      | .misuse | .stop .. => .misuse
      | .done scanGiven => orMisuse (do
          let scan ← scanArguments? environment scanGiven
          invocation? environment given (.scan scan))
  | .stop given "rules" rest =>
      match take [] false .none rest with
      | .help => .help .rules
      | .misuse | .stop .. => .misuse
      | .done _ => orMisuse (invocation? environment given .rules)
  | .stop given "config" rest =>
      match take [] false .none rest with
      | .help => .help .config
      | .misuse | .stop .. => .misuse
      | .done _ => orMisuse (invocation? environment given .config)
  | .stop _ "help" rest =>
      match helpTopic? rest with
      | some topic => .help topic
      | none => .misuse
  | .stop .. => .misuse

/-- The files that are read. -/
def Request.files : Request → List String
  | .run invocation =>
      invocation.configPath.toList ++
        match invocation.command with
        | .scan arguments => arguments.paths
        | _ => []
  | _ => []

end ReviewGate.CommandLine
