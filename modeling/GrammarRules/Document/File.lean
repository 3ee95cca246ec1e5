import GrammarRules.Document.Compiler
import GrammarRules.Files.Access

/-!
# Compiling files

`compileFile` reads a rule file and compiles it.
-/

namespace GrammarRules

/-- Why a file has not been compiled. -/
inductive CompileFileError where
  | unreadable (path : String) (error : FileError)
  | rejected (path : String) (error : RuleError)
deriving DecidableEq, Inhabited

/-- The error in words, without its cause. -/
def CompileFileError.message : CompileFileError → String
  | unreadable path _ => s!"Failed to read file: {path}"
  | rejected path _ => s!"Failed to compile: {path}"

/-- Read and compile a file. -/
def compileFile {m : Type → Type} [Monad m] (files : FileAccess m) (path : String)
    (options : CompileOptions) : m (Except CompileFileError CompiledRules) := do
  match ← files.read path with
  | .error error => return .error (.unreadable path error)
  | .ok content =>
    match compileSource (SourceFile.ofContent path content) options with
    | .ok compiled => return .ok compiled
    | .error error => return .error (.rejected path error)

end GrammarRules
