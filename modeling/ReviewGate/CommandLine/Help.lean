import ReviewGate.CommandLine.Arguments

/-!
# Help texts
-/

namespace ReviewGate.CommandLine

/-- The name of a variable and its present value. -/
private def variableNote (environment : Environment) (name : String) : String :=
  "[env: " ++ name ++ "=" ++ (environment name).getD "" ++ "]"

private def programHelp (environment : Environment) : List String :=
  ["Tiered verification gate for agent-authored code",
    "",
    "Usage: gatekeeper [OPTIONS] <COMMAND>",
    "",
    "Commands:",
    "  scan    Review one or more source files",
    "  rules   List active pattern rules",
    "  config  Print the effective configuration as YAML",
    "  help    Print this message or the help of the given subcommand(s)",
    "",
    "Options:",
    "  -c, --config <CONFIG>  Path to a YAML configuration file " ++
      variableNote environment configVariable,
    "  -m, --mode <MODE>      Pipeline mode (overrides config file) " ++
      variableNote environment modeVariable,
    "  -h, --help             Print help"]

private def scanHelp (environment : Environment) : List String :=
  ["Review one or more source files",
    "",
    "Usage: gatekeeper scan [OPTIONS] <PATHS>...",
    "",
    "Arguments:",
    "  <PATHS>...  Files to review",
    "",
    "Options:",
    "  -a, --author <AUTHOR>       Submitting identity " ++
      variableNote environment authorVariable ++ " [default: " ++ defaultAuthor ++ "]",
    "      --score <SCORE>         Starting trust score for the author",
    "      --critical              Treat every file as critical",
    "      --contract <CONTRACTS>  Declared precondition, repeatable",
    "  -h, --help                  Print help"]

private def plainHelp (about name : String) : List String :=
  [about, "", "Usage: gatekeeper " ++ name, "", "Options:", "  -h, --help  Print help"]

/-- The lines of a help text. -/
def HelpTopic.lines (environment : Environment) : HelpTopic → List String
  | .program => programHelp environment
  | .scan => scanHelp environment
  | .rules => plainHelp "List active pattern rules" "rules"
  | .config => plainHelp "Print the effective configuration as YAML" "config"
  | .help =>
      ["Print this message or the help of the given subcommand(s)", "",
        "Usage: gatekeeper help [COMMAND]..."]

end ReviewGate.CommandLine
