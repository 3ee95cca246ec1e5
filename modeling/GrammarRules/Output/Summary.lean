import GrammarRules.Report.Renderer
import GrammarRules.Rule.Basic
import GrammarRules.Table
import GrammarRules.Text.Blank

/-!
# Summaries

The summary of compiled files has a line for each file and, after it, a line for each of its rules.
-/

namespace GrammarRules

/-- The width of the column with the names of rules. -/
def summaryWidth : Nat := 32

/-- The line of a rule. -/
def Rule.summaryLine (rule : Rule) : String :=
  s!"  {alignLeft summaryWidth rule.displayName} {rule.message}\n"

/-- The lines of a file. -/
def CompiledRules.summary (file : String) (compiled : CompiledRules) : String :=
  s!"{file}: {compiled.rules.length} rule(s)\n" ++ String.join (compiled.rules.map Rule.summaryLine)

/-- The summary of files, without blanks at its end. -/
def summarize (files : Table CompiledRules) : String :=
  Text.trimEnd (String.join (files.entries.map fun (file, compiled) => compiled.summary file))

end GrammarRules
