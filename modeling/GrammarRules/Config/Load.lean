import GrammarRules.Config.Reader
import GrammarRules.Files.Access

/-!
# Finding the configuration

A file that is asked for by name must be there.  Otherwise the project file is taken if there is
one, else the file of the user, else the defaults.
-/

namespace GrammarRules

/-- The environment variables that say where configuration files of a user are. -/
structure Environment where
  xdgConfigHome : Option String := none
  home : Option String := none
  appData : Option String := none
deriving Inhabited

namespace Environment

/-- The directory with the configuration of a user. -/
def configDirectory? (environment : Environment) : Option String :=
  (environment.xdgConfigHome.map fun base => joinPath base "rulec") <|>
  (environment.home.map fun base => joinPath (joinPath base ".config") "rulec") <|>
  (environment.appData.map fun base => joinPath base "rulec")

/-- The configuration file of a user. -/
def configPath? (environment : Environment) : Option String :=
  environment.configDirectory?.map fun directory => joinPath directory "config.toml"

end Environment

/-- Why a configuration cannot be loaded. -/
inductive ConfigError where
  | unreadable (path : String) (error : FileError)
  | invalid (path : String) (fault : ConfigFault)
deriving DecidableEq, Inhabited

namespace ConfigError

/-- The path of the file. -/
def path : ConfigError → String
  | unreadable path _ | invalid path _ => path

/-- What happened, without the file. -/
def reason : ConfigError → String
  | unreadable _ error => error.message
  | invalid _ fault => fault.message

/-- The error in words. -/
def message (error : ConfigError) : String :=
  match error with
  | unreadable path _ => s!"IO error reading {path}: {error.reason}"
  | invalid path _ => s!"Config parse error in {path}: {error.reason}"

end ConfigError

section

variable {m : Type → Type} [Monad m]

/-- Load a configuration file. -/
def loadConfigFile (files : FileAccess m) (path : String) : m (Except ConfigError Config) := do
  match ← files.read path with
  | .error error => return .error (.unreadable path error)
  | .ok content =>
    match Config.parse content with
    | .ok config => return .ok config
    | .error fault => return .error (.invalid path fault)

/-- Load the first of several files that is there, or else the defaults. -/
def loadFirst (files : FileAccess m) : List String → m (Except ConfigError Config)
  | [] => return .ok {}
  | path :: rest => do
    if (← files.look path).any FileTree.isFile then loadConfigFile files path
    else loadFirst files rest

/-- The configuration of a project. -/
def projectConfigPath : String := "rulec.toml"

/-- Load the configuration, from a file that is asked for or else from the usual places. -/
def loadConfig (files : FileAccess m) (environment : Environment) (explicit : Option String) :
    m (Except ConfigError Config) :=
  match explicit with
  | some path => loadConfigFile files path
  | none => loadFirst files (projectConfigPath :: environment.configPath?.toList)

end

end GrammarRules
