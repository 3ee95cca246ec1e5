import GrammarRules.Command.Arguments
import GrammarRules.Report.Renderer

/-!
# Help

The texts that explain the program and its commands.
-/

namespace GrammarRules

/-- The name and the version of the program. -/
def programVersion : String := "rulec 0.1.0"

namespace Help

/-- A heading and items under it, each explained in a column of its own. -/
def table (heading : String) (items : List (String × String)) : String :=
  let width := (items.map (·.1.length)).foldl max 0
  let rows := items.map fun (item, text) => s!"  {alignLeft width item}  {text}\n"
  s!"{heading}:\n" ++ String.join rows

/-- The commands. -/
def commands : String :=
  table "Commands"
    [("compile", "Compile rule files and print the compiled rules"),
      ("check", "Validate rule files without printing the compiled rules"),
      ("help", "Print this message or the help of the given subcommand(s)")]

/-- The paths that a command takes. -/
def paths : String :=
  table "Arguments" [("<PATH>...", "Rule files or directories containing `*.xml` rule files")]

/-- The options at a level. -/
def options (level : CommandLevel) : String :=
  let output := ("-o, --output <FILE>", "Write output to a file instead of stdout")
  let version := ("-V, --version", "Print version")
  let shared :=
    [("-v, --verbose", "Enable verbose output"),
      ("    --config <FILE>",
        "Configuration file (default: ./rulec.toml, then the user config)"),
      ("    --format <FORMAT>", "Output format: json, ron or summary"),
      ("    --validate-regex",
        "Reject regular expressions the `regex` crate cannot compile"),
      ("-h, --help", "Print help")]
  table "Options"
    ((if level = .compile then [output] else []) ++ shared ++
      if level = .program then [version] else [])

/-- The help at a level. -/
def text : CommandLevel → String
  | .program =>
    "Compile XML grammar rule files\n\nUsage: rulec [OPTIONS] <COMMAND>\n\n" ++ commands ++ "\n" ++
      options .program
  | .compile =>
    "Compile rule files and print the compiled rules\n\n" ++
      "Usage: rulec compile [OPTIONS] <PATH>...\n\n" ++ paths ++ "\n" ++ options .compile
  | .check =>
    "Validate rule files without printing the compiled rules\n\n" ++
      "Usage: rulec check [OPTIONS] <PATH>...\n\n" ++ paths ++ "\n" ++ options .check

/-- The help for the command that prints help. -/
def commandText : String :=
  "Print this message or the help of the given subcommand(s)\n\n" ++
    "Usage: rulec help [COMMAND]...\n\n" ++
    table "Arguments" [("[COMMAND]...", "Print help for the subcommand(s)")]

end Help

end GrammarRules
