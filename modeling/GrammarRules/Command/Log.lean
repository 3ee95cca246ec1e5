import GrammarRules.Config.Basic
import GrammarRules.Document.Compiler
import GrammarRules.Report.Renderer

/-!
# The log

`compileLogged` compiles a source like `compileSource` and notes what happened on the way: the
phrases and rules as they are completed, and the beginning and the end.  The notes are read off from
the states of the compiler before and after each event, so the compiler itself knows nothing of
them.
-/

namespace GrammarRules

/-- A message and how serious it is. -/
structure LogEntry where
  level : LogLevel
  message : String
deriving DecidableEq, Inhabited

namespace LogEntry

/-- A message for those who look closely. -/
def debug (message : String) : LogEntry := ⟨.debug, message⟩

/-- A message for everybody. -/
def info (message : String) : LogEntry := ⟨.info, message⟩

/-- The line that is printed. -/
def line (entry : LogEntry) : String :=
  let level := String.ofList (entry.level.name.toList.map Char.toUpper)
  s!"{alignRight 5 level} {entry.message}\n"

/-- The lines of the entries that are at least as serious as `level`. -/
def lines (level : LogLevel) (entries : List LogEntry) : String :=
  String.join ((entries.filter fun entry => level.rank ≤ entry.level.rank).map line)

end LogEntry

/-- The note on a phrase. -/
def phraseEntry (name : String) (alternatives : Nat) : LogEntry :=
  .debug s!"Defined phrase '{name}' with {alternatives} alternative(s)"

/-- The note on a rule. -/
def ruleEntry (rule : Rule) : LogEntry :=
  let elements := rule.elements.length
  let count := rule.placeholders.length
  .debug s!"Compiled rule {rule.displayName} ({elements} elements, {count} matches)"

/-- What an event completed that took the compiler from one state to another. -/
def completedBy (event : Event) (before after : Compiler) : List LogEntry :=
  let phrases :=
    match event, before.stack with
    | .stop _ _, .phrase draft :: _ =>
      ((after.phrases.find? draft.id).map fun alternatives =>
        phraseEntry draft.id alternatives.length).toList
    | _, _ => []
  phrases ++ (after.rules.drop before.rules.length).map ruleEntry

/-- A compiler with what it has completed. -/
def loggedStep : Consumer (Compiler × List LogEntry) := fun (before, entries) event =>
  match before.step event with
  | .accepted after => .accepted (after, entries ++ completedBy event before after)
  | .refused error after => .refused error (after, entries)

/-- Compile a source and note what happened. -/
def compileLogged (source : SourceFile) (options : CompileOptions) :
    Except RuleError CompiledRules × List LogEntry :=
  let outcome := source.drive loggedStep (Compiler.new options, [])
  let (compiler, entries) := outcome.state
  let result :=
    match outcome.error? with
    | some error => .error error
    | none => compiler.finish
  let first := LogEntry.debug s!"Compiling {source.name} ({source.byteSize} bytes)"
  let last :=
    match result with
    | .ok compiled =>
      [LogEntry.debug s!"Compiled {compiled.rules.length} rule(s) from {source.name}"]
    | .error _ => []
  (result, first :: entries ++ last)

theorem map_fst_loggedStep (state : Compiler × List LogEntry) (event : Event) :
    (loggedStep state event).map Prod.fst = state.1.step event := by
  simp only [loggedStep]
  cases state.1.step event <;> rfl

/-- Taking notes does not change the result. -/
theorem fst_compileLogged (source : SourceFile) (options : CompileOptions) :
    (compileLogged source options).1 = compileSource source options := by
  have h := Markup.drivePieces_map map_fst_loggedStep (·.event source)
    ((Markup.readMarkup source.content).fault.map (·.toError source)) (Compiler.new options, [])
    (Markup.readMarkup source.content).pieces
  simp only [compileLogged, compileSource, SourceFile.drive]
  rw [← h]
  cases Markup.drivePieces (·.event source)
    ((Markup.readMarkup source.content).fault.map (·.toError source)) loggedStep
    (Compiler.new options, []) (Markup.readMarkup source.content).pieces <;> rfl

end GrammarRules
