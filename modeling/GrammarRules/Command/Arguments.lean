import GrammarRules.Config.Basic

/-!
# Command lines

`CommandLine.parse` reads the arguments of the program.  Each argument takes `ParserState` one step
further.  The value of an option is checked when the next option begins or the arguments end; since
the options before a command end only after those of the command, a request for help there comes
first.  An option that stands before and after the command counts as it stands after it.
-/

namespace GrammarRules

/-- What the arguments belong to. -/
inductive CommandLevel where
  | program
  | compile
  | check
deriving DecidableEq, Inhabited

/-- The options that take a value. -/
inductive ValueOption where
  | config
  | format
  | output
deriving DecidableEq, Inhabited

/-- The options that take none. -/
inductive SwitchOption where
  | verbose
  | validateRegex
deriving DecidableEq, Inhabited

/-- What is wrong with the arguments. -/
inductive UsageError where
  | unexpectedArgument (argument : String)
  | unknownCommand (name : String)
  | missingCommand
  | missingPaths
  | missingValue (option : ValueOption)
  | badValue (option : ValueOption) (value reason : String)
  | repeatedValue (option : ValueOption)
  | repeatedSwitch (option : SwitchOption)
deriving DecidableEq, Inhabited

/-- Why the arguments are not read to their end. -/
inductive ParserStop where
  | help (level : CommandLevel)
  | commandHelp
  | version
  | usage (error : UsageError)
deriving DecidableEq, Inhabited

/-- An option as it is described to users. -/
def ValueOption.text : ValueOption → String
  | config => "--config <FILE>"
  | format => "--format <FORMAT>"
  | output => "--output <FILE>"

/-- An option as it is described to users. -/
def SwitchOption.text : SwitchOption → String
  | verbose => "--verbose"
  | validateRegex => "--validate-regex"

/-- The fault in words. -/
def UsageError.message : UsageError → String
  | unexpectedArgument argument => s!"unexpected argument '{argument}' found"
  | unknownCommand name => s!"unrecognized subcommand '{name}'"
  | missingCommand => "'rulec' requires a subcommand but one was not provided"
  | missingPaths => "the following required arguments were not provided:\n  <PATH>..."
  | missingValue option => s!"a value is required for '{option.text}' but none was supplied"
  | badValue option value reason => s!"invalid value '{value}' for '{option.text}': {reason}"
  | repeatedValue option => s!"the argument '{option.text}' cannot be used multiple times"
  | repeatedSwitch option => s!"the argument '{option.text}' cannot be used multiple times"

/-! ## Parsing -/

/-- The options that have been given at one level. -/
structure GivenOptions where
  verbose : Bool := false
  validateRegex : Bool := false
  config : Option String := none
  format : Option OutputFormat := none
  output : Option String := none
deriving DecidableEq, Inhabited

/-- How far the arguments of one level have been read. -/
structure ParserState where
  options : GivenOptions := {}
  /-- The option whose value comes next. -/
  awaiting : Option ValueOption := none
  /-- A value that has not been checked yet. -/
  pending : Option (ValueOption × String) := none
  /-- Whether all that follows are paths. -/
  pathsOnly : Bool := false
  paths : List String := []
deriving Inhabited

/-- An argument that begins like an option. -/
def looksLikeOption (argument : String) : Bool :=
  match argument.toList with
  | '-' :: _ :: _ => true
  | _ => false

namespace ParserState

/-- Take the value of an option. -/
def give (state : ParserState) (option : ValueOption) (value : String) :
    Except ParserStop ParserState :=
  let given := state.options
  match option with
  | .config =>
    if given.config.isSome then .error (.usage (.repeatedValue option))
    else if value = "" then .error (.usage (.missingValue option))
    else .ok { state with options := { given with config := some value } }
  | .output =>
    if given.output.isSome then .error (.usage (.repeatedValue option))
    else if value = "" then .error (.usage (.missingValue option))
    else .ok { state with options := { given with output := some value } }
  | .format =>
    if given.format.isSome then .error (.usage (.repeatedValue option))
    else
      match OutputFormat.parse value with
      | .ok format => .ok { state with options := { given with format := some format } }
      | .error reason => .error (.usage (.badValue option value reason))

/-- Check the value that has not been checked yet. -/
def settle (state : ParserState) : Except ParserStop ParserState :=
  match state.awaiting, state.pending with
  | some option, _ => .error (.usage (.missingValue option))
  | none, some (option, value) => { state with pending := none }.give option value
  | none, none => .ok state

/-- Take an option without a value. -/
def switch (state : ParserState) (option : SwitchOption) : Except ParserStop ParserState := do
  let state ← state.settle
  match option with
  | .verbose =>
    if state.options.verbose then .error (.usage (.repeatedSwitch option))
    else return { state with options := { state.options with verbose := true } }
  | .validateRegex =>
    if state.options.validateRegex then .error (.usage (.repeatedSwitch option))
    else return { state with options := { state.options with validateRegex := true } }

/-- Take an option whose value is attached to it or comes next. -/
def valued (state : ParserState) (option : ValueOption) (attached : Option String) :
    Except ParserStop ParserState := do
  let state ← state.settle
  match attached with
  | some value => state.give option value
  | none => return { state with awaiting := some option }

/-- Take a path. -/
def addPath (state : ParserState) (path : String) : Except ParserStop ParserState := do
  let state ← state.settle
  if path = "" then .error (.usage (.unexpectedArgument path))
  else return { state with paths := state.paths ++ [path] }

/-- Take an option by its long name. -/
def long (level : CommandLevel) (state : ParserState) (argument name : String)
    (attached : Option String) : Except ParserStop ParserState :=
  let unexpected : Except ParserStop ParserState := .error (.usage (.unexpectedArgument argument))
  if name = "config" then state.valued .config attached
  else if name = "format" then state.valued .format attached
  else if name = "output" ∧ level = .compile then state.valued .output attached
  else if attached.isSome then unexpected
  else if name = "verbose" then state.switch .verbose
  else if name = "validate-regex" then state.switch .validateRegex
  else if name = "help" then do
    let _ ← state.settle
    .error (.help level)
  else if name = "version" ∧ level = .program then do
    let _ ← state.settle
    .error .version
  else unexpected

/-- Take options by their letters, which may stand together. -/
def short (level : CommandLevel) (argument : String) (state : ParserState) :
    List Char → Except ParserStop ParserState
  | [] => .ok state
  | letter :: rest =>
    if letter = 'v' then do short level argument (← state.switch .verbose) rest
    else if letter = 'h' then do
      let _ ← state.settle
      .error (.help level)
    else if letter = 'V' ∧ level = .program then do
      let _ ← state.settle
      .error .version
    else if letter = 'o' ∧ level = .compile then
      match rest with
      | [] => state.valued .output none
      | '=' :: value => state.valued .output (some (String.ofList value))
      | value => state.valued .output (some (String.ofList value))
    else .error (.usage (.unexpectedArgument argument))

/-- Take an argument that begins like an option. -/
def option (level : CommandLevel) (state : ParserState) (argument : String) :
    Except ParserStop ParserState :=
  match argument.toList with
  | '-' :: '-' :: rest =>
    let name := String.ofList (rest.takeWhile (· ≠ '='))
    let attached :=
      match rest.dropWhile (· ≠ '=') with
      | _ :: value => some (String.ofList value)
      | [] => none
    state.long level argument name attached
  | '-' :: letters => state.short level argument letters
  | _ => .error (.usage (.unexpectedArgument argument))

/-- Take an argument. -/
def step (level : CommandLevel) (state : ParserState) (argument : String) :
    Except ParserStop ParserState :=
  if state.pathsOnly then
    if level = .program then .error (.usage (.unexpectedArgument argument))
    else state.addPath argument
  else
    match state.awaiting with
    | some option =>
      if looksLikeOption argument then .error (.usage (.missingValue option))
      else .ok { state with awaiting := none, pending := some (option, argument) }
    | none =>
      if argument = "--" then .ok { state with pathsOnly := true }
      else if looksLikeOption argument then state.option level argument
      else state.addPath argument

/-- Take all arguments of a command. -/
def readAll (level : CommandLevel) (state : ParserState) :
    List String → Except ParserStop ParserState
  | [] => state.settle
  | argument :: rest => do readAll level (← state.step level argument) rest

/-- Take arguments up to the name of a command. -/
def readToCommand (state : ParserState) :
    List String → Except ParserStop (ParserState × String × List String)
  | [] => do
    let _ ← state.settle
    .error (.usage .missingCommand)
  | argument :: rest =>
    if state.pathsOnly || state.awaiting.isSome || looksLikeOption argument then do
      readToCommand (← state.step .program argument) rest
    else .ok (state, argument, rest)

end ParserState

/-! ## Command lines -/

/-- What the program is asked to do. -/
inductive CommandAction where
  | compile (output : Option String)
  | check
deriving DecidableEq, Inhabited

/-- A command line. -/
structure CommandLine where
  verbose : Bool := false
  validateRegex : Bool := false
  config : Option String := none
  format : Option OutputFormat := none
  action : CommandAction
  paths : List String
deriving DecidableEq, Inhabited

namespace CommandLine

/-- The help that is asked for by the names of commands. -/
def helpFor : List String → ParserStop
  | [] => .help .program
  | ["compile"] => .help .compile
  | ["check"] => .help .check
  | ["help"] => .commandHelp
  | "compile" :: name :: _ | "check" :: name :: _ | "help" :: name :: _ | name :: _ =>
    .usage (.unknownCommand name)

/-- The command line with the options of the program and those of a command. -/
def ofOptions (outer inner : GivenOptions) (action : CommandAction) (paths : List String) :
    CommandLine where
  verbose := outer.verbose || inner.verbose
  validateRegex := outer.validateRegex || inner.validateRegex
  config := inner.config <|> outer.config
  format := inner.format <|> outer.format
  action
  paths

/-- Read the arguments of a command and end those of the program. -/
def parseCommand (outer : ParserState) (level : CommandLevel) (arguments : List String) :
    Except ParserStop CommandLine := do
  let inner ← ParserState.readAll level {} arguments
  if inner.paths.isEmpty then .error (.usage .missingPaths)
  else
    let outer ← outer.settle
    let action := if level = .compile then .compile inner.options.output else .check
    return ofOptions outer.options inner.options action inner.paths

/-- Read the arguments of the program. -/
def parse (arguments : List String) : Except ParserStop CommandLine := do
  let (outer, name, rest) ← ParserState.readToCommand {} arguments
  if name = "compile" then parseCommand outer .compile rest
  else if name = "check" then parseCommand outer .check rest
  else if name = "help" then .error (helpFor rest)
  else .error (.usage (.unknownCommand name))

end CommandLine

end GrammarRules
