import GrammarRules.Command.Help
import GrammarRules.Command.Log
import GrammarRules.Config.Load
import GrammarRules.Output.Json
import GrammarRules.Output.Ron
import GrammarRules.Output.Summary
import GrammarRules.Rule.Datum

/-!
# Running the program

`runCommand` does what a command line asks for and returns what to print and the exit code.  Every
file is compiled on its own, so one that fails does not stop the others; the reports on all that
failed come before the verdict.
-/

namespace GrammarRules

/-- What the program prints, and its exit code. -/
structure CommandOutcome where
  exitCode : Nat := 0
  stdout : String := ""
  stderr : String := ""
deriving DecidableEq, Inhabited

namespace CommandOutcome

/-- The outcome with an error at its end, and what caused the error if that is known. -/
def failed (outcome : CommandOutcome) (message : String) (cause : Option String := none) :
    CommandOutcome :=
  let reason := (cause.map fun text => s!"\n\nCaused by:\n    {text}").getD ""
  { outcome with
    exitCode := 1
    stderr := outcome.stderr ++ s!"Error: {message}{reason}\n" }

/-- The outcome with more on the second channel. -/
def report (outcome : CommandOutcome) (text : String) : CommandOutcome :=
  { outcome with stderr := outcome.stderr ++ text }

end CommandOutcome

/-- The outcome when the arguments are not read to their end. -/
def ParserStop.outcome : ParserStop → CommandOutcome
  | help level => { stdout := Help.text level }
  | commandHelp => { stdout := Help.commandText }
  | version => { stdout := programVersion ++ "\n" }
  | usage error =>
    { exitCode := 2
      stderr := s!"error: {error.message}\n\nFor more information, try '--help'.\n" }

/-! ## Files -/

/-- What became of a file. -/
inductive FileResult where
  | compiled (rules : CompiledRules)
  | unreadable (error : FileError)
  | rejected (source : SourceFile) (error : RuleError)
deriving Inhabited

/-- What there is to report on a file. -/
def FileResult.report (colors : Bool) (path : String) : FileResult → String
  | compiled _ => ""
  | unreadable error => s!"error: failed to read {path}: {error.message}\n"
  | rejected source error => (Diagnostic.ofError error).render { colors } (some source)

/-- The rules of a file, if it has been compiled. -/
def FileResult.rules? : FileResult → Option CompiledRules
  | compiled rules => some rules
  | _ => none

section

variable {m : Type → Type} [Monad m]

/-- The rule files that paths stand for: a file for itself, a directory for all rule files in it. -/
def collectRuleFiles (files : FileAccess m) : List String → m (Except String (List String))
  | [] => return .ok []
  | path :: rest => do
    let found? :=
      match ← files.look path with
      | some .file => some [path]
      | some (.directory children) => some (FileTree.ruleFiles path (.directory children))
      | _ => none
    match found? with
    | none => return .error s!"No such file or directory: {path}"
    | some found => return (← collectRuleFiles files rest).map (found ++ ·)

/-- Read and compile a file, and note what happened. -/
def compilePath (files : FileAccess m) (options : CompileOptions) (path : String) :
    m (FileResult × List LogEntry) := do
  match ← files.read path with
  | .error error => return (.unreadable error, [])
  | .ok content =>
    let source := SourceFile.ofContent path content
    match compileLogged source options with
    | (.ok rules, entries) =>
      return (.compiled rules, entries ++ [.info s!"{path}: {rules.rules.length} rule(s)"])
    | (.error error, entries) => return (.rejected source error, entries)

end

/-! ## Output -/

/-- The rules of the files that have been compiled.  A file that comes twice has one entry. -/
def compiledTable (results : List (String × FileResult)) : Table CompiledRules :=
  Table.ofList
    (results.filterMap fun (path, result) => result.rules?.map fun rules => (path, rules))

/-- Compiled files in the form that the configuration asks for. -/
def Config.render (config : Config) (compiled : Table CompiledRules) : String :=
  let datum : Datum := .map (compiled.entries.map fun (path, rules) => (path, rules.datum))
  match config.format with
  | .json => Json.write config.layout datum
  | .ron => Ron.write config.layout datum
  | .summary => summarize compiled

/-- The line for a file that has been compiled. -/
def checkLine (path : String) (result : FileResult) : String :=
  match result.rules? with
  | some rules => s!"ok    {path} ({rules.rules.length} rules)\n"
  | none => ""

/-- The outcome with the verdict on all files. -/
def CommandOutcome.verdict (outcome : CommandOutcome) (results : List (String × FileResult)) :
    CommandOutcome :=
  let failures := (results.filter fun (_, result) => result.rules?.isNone).length
  if failures = 0 then outcome
  else outcome.failed s!"{failures} of {results.length} rule file(s) failed to compile"

/-! ## The program -/

/-- The configuration with what the command line says. -/
def CommandLine.configure (line : CommandLine) (config : Config) : Config :=
  { config with
    format := line.format.getD config.format
    validateRegex := line.validateRegex || config.validateRegex }

/-- The level of the log. -/
def CommandLine.logLevel (line : CommandLine) (config : Config) : LogLevel :=
  if line.verbose then .debug else config.logLevel

section

variable {m : Type → Type} [Monad m]

/-- Print or write what a command has to show. -/
def conclude (files : FileAccess m) (line : CommandLine) (config : Config)
    (results : List (String × FileResult)) (outcome : CommandOutcome) : m CommandOutcome := do
  match line.action with
  | .check =>
    let lines := String.join (results.map fun (path, result) => checkLine path result)
    return { outcome with stdout := lines }.verdict results
  | .compile none =>
    let rendered := config.render (compiledTable results)
    return { outcome with stdout := rendered ++ "\n" }.verdict results
  | .compile (some path) =>
    match ← files.write path (config.render (compiledTable results)) with
    | .ok _ => return outcome.verdict results
    | .error error =>
      return outcome.failed s!"Failed to write output: {path}" (some error.message)

/-- Do what a command line asks for, under a configuration. -/
def runConfigured (files : FileAccess m) (colors : Bool) (line : CommandLine) (config : Config) :
    m CommandOutcome := do
  let level := line.logLevel config
  let log (entries : List LogEntry) : String := LogEntry.lines level entries
  let started : CommandOutcome :=
    { stderr := log [.debug s!"{programVersion} ({config.text})"] }
  match ← collectRuleFiles files line.paths with
  | .error message => return started.failed message
  | .ok paths =>
    let results ← paths.mapM fun path => do
      return (path, ← compilePath files config.compileOptions path)
    let entries := .info s!"Compiling {paths.length} rule file(s)" ::
      results.flatMap fun (_, _, entries) => entries
    let results := results.map fun (path, result, _) => (path, result)
    let reports := String.join (results.map fun (path, result) => result.report colors path)
    conclude files line config results ((started.report (log entries)).report reports)

/-- Run the program.  `colors` tells whether reports may be colored. -/
def runCommand (files : FileAccess m) (environment : Environment) (colors : Bool)
    (arguments : List String) : m CommandOutcome := do
  match CommandLine.parse arguments with
  | .error stop => return stop.outcome
  | .ok line =>
    match ← loadConfig files environment line.config with
    | .error error => return ({} : CommandOutcome).failed error.message (some error.reason)
    | .ok config => runConfigured files colors line (line.configure config)

end

end GrammarRules
