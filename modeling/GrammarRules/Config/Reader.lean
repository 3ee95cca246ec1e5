import GrammarRules.Config.Basic
import GrammarRules.Toml.Reader

/-!
# Configuration files

A configuration file is a TOML document with three sections, `compiler`, `output` and `log`.  What
it does not say has its default, and what it says beyond that is passed over.  A section may also be
written as an array of its values in their order.
-/

namespace GrammarRules

/-- Why a document is no configuration. -/
inductive ConfigFault where
  | document (error : TomlError)
  | wrongType (expected : String)
  | unknownWord (word : String)
deriving DecidableEq, Inhabited

/-- The fault in words. -/
def ConfigFault.message : ConfigFault → String
  | document error => error.message
  | wrongType expected => s!"invalid type, expected {expected}"
  | unknownWord word => s!"unknown variant `{word}`"

namespace ConfigReader

/-- The values of a section by the names of its fields.  A date is a section that says nothing. -/
def fields (names : List String) : TomlValue → Except ConfigFault (List (String × TomlValue))
  | .table _ entries => .ok entries
  | .array items => .ok (names.zip items)
  | .tables items => .ok (names.zip items)
  | .datetime => .ok []
  | _ => .error (.wrongType "a section")

/-- The value of a field, or its default. -/
def field {α : Type} (entries : List (String × TomlValue)) (name : String) (default : α)
    (read : TomlValue → Except ConfigFault α) : Except ConfigFault α :=
  match entries.lookup name with
  | some value => read value
  | none => .ok default

/-- A Boolean. -/
def readBool : TomlValue → Except ConfigFault Bool
  | .boolean value => .ok value
  | _ => .error (.wrongType "a boolean")

/-- Whether a value has nothing in it. -/
def isEmpty : TomlValue → Bool
  | .array [] | .tables [] | .table _ [] => true
  | _ => false

/-- A choice by its word, which may also be the only key of a table with an empty value. -/
def readChoice {α : Type} (ofName? : String → Option α) : TomlValue → Except ConfigFault α
  | .text word => (ofName? word).elim (.error (.unknownWord word)) .ok
  | .table _ [(word, value)] =>
    if isEmpty value then (ofName? word).elim (.error (.unknownWord word)) .ok
    else .error (.wrongType "an empty table")
  | _ => .error (.wrongType "a word")

/-- The configuration with what the section on compiling says. -/
def readCompiler (config : Config) (part : TomlValue) : Except ConfigFault Config := do
  let entries ← fields ["validate_regex"] part
  let validateRegex ← field entries "validate_regex" config.validateRegex readBool
  return { config with validateRegex }

/-- The configuration with what the section on output says. -/
def readOutput (config : Config) (part : TomlValue) : Except ConfigFault Config := do
  let entries ← fields ["format", "pretty"] part
  let format ← field entries "format" config.format (readChoice OutputFormat.ofName?)
  let pretty ← field entries "pretty" config.pretty readBool
  return { config with format, pretty }

/-- The configuration with what the section on the log says. -/
def readLog (config : Config) (part : TomlValue) : Except ConfigFault Config := do
  let entries ← fields ["level"] part
  let logLevel ← field entries "level" config.logLevel (readChoice LogLevel.ofName?)
  return { config with logLevel }

end ConfigReader

/-- The configuration that a TOML value describes. -/
def Config.ofToml (value : TomlValue) : Except ConfigFault Config := do
  let sections ← ConfigReader.fields ["compiler", "output", "log"] value
  let config ← ConfigReader.field sections "compiler" {} (ConfigReader.readCompiler {})
  let config ← ConfigReader.field sections "output" config (ConfigReader.readOutput config)
  ConfigReader.field sections "log" config (ConfigReader.readLog config)

/-- The configuration that a document describes. -/
def Config.parse (content : String) : Except ConfigFault Config :=
  match readToml content with
  | .ok value => Config.ofToml value
  | .error error => .error (.document error)

end GrammarRules
