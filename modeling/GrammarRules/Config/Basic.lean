import GrammarRules.Output.Datum
import GrammarRules.Rule.Options

/-!
# Configuration

A `Config` says how to compile, in what form to print the result and how much to tell on the way.
Words for its choices are exact in files; on the command line they may be in any case.
-/

namespace GrammarRules

/-! ## Output formats -/

/-- The form in which compiled rules are printed. -/
inductive OutputFormat where
  | json
  | ron
  /-- One line per rule. -/
  | summary
deriving DecidableEq, Inhabited

namespace OutputFormat

/-- The word for the format. -/
def name : OutputFormat → String
  | json => "json"
  | ron => "ron"
  | summary => "summary"

/-- All formats. -/
def all : List OutputFormat := [json, ron, summary]

/-- The format with this word for it. -/
def ofName? (name : String) : Option OutputFormat := all.find? (·.name == name)

/-- The format with this word for it in any case. -/
def parse (word : String) : Except String OutputFormat :=
  let word := Text.lowerAscii word
  match ofName? word with
  | some format => .ok format
  | none => .error s!"unknown output format '{word}'"

end OutputFormat

/-! ## Log levels -/

/-- How much to tell, from everything to errors only. -/
inductive LogLevel where
  | debug
  | info
  | warn
  | error
deriving DecidableEq, Inhabited

namespace LogLevel

/-- The word for the level. -/
def name : LogLevel → String
  | debug => "debug"
  | info => "info"
  | warn => "warn"
  | error => "error"

/-- All levels, most talkative first. -/
def all : List LogLevel := [debug, info, warn, error]

/-- The level with this word for it. -/
def ofName? (name : String) : Option LogLevel := all.find? (·.name == name)

/-- The level with this word for it in any case; `warning` is another word for `warn`. -/
def parse (word : String) : Except String LogLevel :=
  let word := Text.lowerAscii word
  match (if word = "warning" then some warn else ofName? word) with
  | some level => .ok level
  | none => .error s!"unknown log level '{word}'"

/-- How serious a message of the level is. -/
def rank : LogLevel → Nat
  | debug => 0
  | info => 1
  | warn => 2
  | error => 3

end LogLevel

/-! ## The configuration -/

/-- What can be configured. -/
structure Config where
  validateRegex : Bool := false
  format : OutputFormat := .json
  /-- Whether to spread the output over several lines. -/
  pretty : Bool := true
  logLevel : LogLevel := .info
deriving DecidableEq, Inhabited

namespace Config

/-- How to compile. -/
def compileOptions (config : Config) : CompileOptions :=
  { validateRegex := config.validateRegex }

/-- How to lay out the output. -/
def layout (config : Config) : Layout := if config.pretty then .pretty else .compact

/-- The configuration on one line, for the log. -/
def text (config : Config) : String :=
  let format :=
    match config.format with
    | .json => "Json"
    | .ron => "Ron"
    | .summary => "Summary"
  let level :=
    match config.logLevel with
    | .debug => "Debug"
    | .info => "Info"
    | .warn => "Warn"
    | .error => "Error"
  s!"CompilerConfig \x7b compiler: CompilerSection \x7b validate_regex: " ++
    s!"{config.validateRegex} \x7d, " ++
    s!"output: OutputConfig \x7b format: {format}, pretty: {config.pretty} \x7d, " ++
    s!"log: LogConfig \x7b level: {level} \x7d \x7d"

end Config

end GrammarRules
