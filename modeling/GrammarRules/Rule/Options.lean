import GrammarRules.Regex.Validity
import GrammarRules.Rule.Error

/-!
# Compile options

Regular expressions are taken as they are unless `CompileOptions.validateRegex` asks for a check,
because rule files may be written for a matcher that knows more than the check does.
-/

namespace GrammarRules

/-- How to compile a rule file. -/
structure CompileOptions where
  /-- Whether to refuse regular expressions that have a fault. -/
  validateRegex : Bool := false
  /-- What is wrong with a regular expression, if anything is. -/
  regexFault? : String → Option String := Regex.fault?

instance : Inhabited CompileOptions := ⟨{}⟩

/-- Refuse a regular expression if the options ask for a check and it does not pass. -/
def CompileOptions.checkRegex (options : CompileOptions) (pattern : String)
    (position : Position) : Except RuleError Unit :=
  if options.validateRegex then
    match options.regexFault? pattern with
    | some message => fail (.invalidRegex pattern message) position
    | none => .ok ()
  else .ok ()

end GrammarRules
