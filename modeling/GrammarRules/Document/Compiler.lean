import GrammarRules.Document.Scope
import GrammarRules.Markup.Stream

/-!
# Compiling a rule file

A `Compiler` is the state between two events: the open elements, the phrases and what has been
compiled.  `Compiler.step` takes one event.  A start tag is checked against the grammar and opens a
scope; an end tag closes the innermost scope and hands what it collected to the scope around it;
text goes to the scope that wants it.  `Compiler.finish` ends the document, and `compileSource` does
all of it for a source.

Rules are added to the output when their tag closes and are never touched again.  An event is
carried out in steps, and a check that fails ends it there: the state of a refused event is what the
steps before the check have made of it.
-/

namespace GrammarRules

/-- The state of the compiler between two events. -/
structure Compiler where
  options : CompileOptions := {}
  stack : ScopeStack := []
  phrases : PhraseTable := {}
  output : CompiledRules := {}
  lastPosition : Position := .unknown
deriving Inhabited

namespace Compiler

/-- The compiler before the first event. -/
def new (options : CompileOptions) : Compiler := { options }

/-- The rules that are complete. -/
def rules (c : Compiler) : List Rule := c.output.rules

/-- Open a scope. -/
def push (c : Compiler) (scope : Scope) : Compiler := { c with stack := scope :: c.stack }

/-- Change the stack of open elements. -/
def mapStack (c : Compiler) (change : ScopeStack → ScopeStack) : Compiler :=
  { c with stack := change c.stack }

/-- Refuse an event, with the state as it is now. -/
def refuse (c : Compiler) (cause : Cause) (position : Position) : Outcome Compiler :=
  .refused ⟨cause, position⟩ c

/-- Go on with the value of a check, or refuse the event with the state as it is now. -/
def check {α : Type} (c : Compiler) (result : Except RuleError α) (next : α → Outcome Compiler) :
    Outcome Compiler :=
  match result with
  | .ok value => next value
  | .error error => .refused error c

/-! ## Start tags -/

/-- How the parent of an element is called in an error. -/
def parentPhrase (stack : ScopeStack) : String :=
  match stack.head? with
  | some scope => s!"<{scope.name}>"
  | none => "the document root"

/-- Refuse a tag where it may not stand. -/
def requireParent (c : Compiler) (tag : Tag) (position : Position) : Except RuleError Unit :=
  let permitted :=
    match c.stack.head? with
    | none => tag.mayStandIn none
    | some scope => scope.tag?.any fun parent => tag.mayStandIn (some parent)
  if permitted then .ok () else fail (.misplaced tag.name (parentPhrase c.stack)) position

/-- The id of the group that a rule stands in. -/
def groupId? (c : Compiler) : Option String :=
  match c.stack with
  | .ruleGroup group :: _ => some group.id
  | _ => none

/-- Open a token.  In a group of constraints on one token it begins no slot of its own. -/
def startToken (c : Compiler) (attributes : Attributes) (position : Position) :
    Outcome Compiler :=
  let caseSensitive := (c.stack.pattern?.map PatternDraft.caseSensitive).getD false
  c.check (TokenDraft.ofAttributes attributes caseSensitive position) fun draft =>
    match c.stack with
    | .andGroup _ :: _ => .accepted (c.push (.token draft))
    | _ => .accepted ((c.mapStack (·.updatePattern PatternDraft.countToken)).push (.token draft))

/-- Open a match, which takes effect at once. -/
def startMatch (c : Compiler) (attributes : Attributes) (position : Position) :
    Outcome Compiler :=
  match c.stack with
  | .token _ :: _ =>
    c.check (resolveMatch attributes (.token c.stack.completed) position) fun reference =>
      .accepted ((c.mapStack (·.updateToken fun draft => draft.bind reference)).push .quote)
  | .suggestion :: _ =>
    c.check (resolveMatch attributes (.message true) position) fun declared =>
      .accepted ((c.mapStack (·.updateRule (·.addMatch declared))).push .quote)
  | _ =>
    c.check (resolveMatch attributes (.message false) position) fun declared =>
      .accepted ((c.mapStack (·.updateRule (·.addMatch declared))).push .quote)

/-- Open a reference to a phrase, which takes effect at once. -/
def startPhraseRef (c : Compiler) (attributes : Attributes) (position : Position) :
    Outcome Compiler :=
  c.check (attributes.required "phraseref" "idref" position) fun name =>
    match c.phrases.find? name with
    | none => c.refuse (.unknownPhrase name) position
    | some alternatives =>
      .accepted ((c.mapStack (·.addPhrase name alternatives)).push .phraseRef)

/-- Open a feature of a unification block; the file has to declare it. -/
def startFeature (c : Compiler) (attributes : Attributes) (position : Position) :
    Outcome Compiler :=
  c.check (attributes.required "feature" "id" position) fun id =>
    if c.output.unification.contains id then .accepted (c.push (.feature id []))
    else c.refuse (.unknownFeature id) position

/-- Open a type of a feature, which takes effect at once. -/
def startFeatureType (c : Compiler) (attributes : Attributes) (position : Position) :
    Outcome Compiler :=
  c.check (attributes.required "type" "id" position) fun id =>
    let listed := c.mapStack (·.updateTop fun
      | .feature feature types => some (.feature feature (types ++ [id]))
      | _ => none)
    .accepted (listed.push .featureType)

/-- Open a declaration of a unification feature, which takes effect at once. -/
def startUnification (c : Compiler) (attributes : Attributes) (position : Position) :
    Outcome Compiler :=
  c.check (attributes.required "unification" "feature" position) fun feature =>
    let unification := c.output.unification.insertIfNew feature {}
    .accepted ({ c with output := { c.output with unification } }.push (.unification feature))

/-- Open an element where it may stand. -/
def startTag (c : Compiler) (tag : Tag) (attributes : Attributes) (position : Position) :
    Outcome Compiler :=
  match tag with
  | .rules =>
    .accepted
      ({ c with output := { c.output with language := attributes.find? "lang" } }.push .rules)
  | .category => .accepted (c.push (.category (attributes.find? "name")))
  | .phrases => .accepted (c.push .phrases)
  | .phrase =>
    c.check (attributes.required "phrase" "id" position) fun id =>
      .accepted (c.push (.phrase { id }))
  | .includePhrases => .accepted (c.push .includePhrases)
  | .phraseRef => c.startPhraseRef attributes position
  | .unification => c.startUnification attributes position
  | .equivalence =>
    c.check (attributes.required "equivalence" "type" position) fun type =>
      .accepted (c.push (.equivalence type []))
  | .ruleGroup =>
    c.check (RuleGroup.ofAttributes attributes position) fun group =>
      .accepted (c.push (.ruleGroup group))
  | .rule =>
    c.check (RuleDraft.ofAttributes attributes c.groupId? position) fun draft =>
      .accepted (c.push (.rule draft))
  | .pattern =>
    c.check (PatternDraft.ofAttributes attributes position) fun draft =>
      .accepted (c.push (.pattern draft))
  | .andGroup =>
    .accepted ((c.mapStack (·.updatePattern PatternDraft.countToken)).push (.andGroup []))
  | .unify => .accepted (c.push (.unify {}))
  | .feature => c.startFeature attributes position
  | .featureType => c.startFeatureType attributes position
  | .token => c.startToken attributes position
  | .exception => .accepted (c.push (.exception (ExceptionDraft.ofAttributes attributes)))
  | .quote => c.startMatch attributes position
  | .message => .accepted (c.push .message)
  | .short => .accepted (c.push .short)
  | .suggestion =>
    .accepted ((c.mapStack (·.updateRule (·.addText "<suggestion>"))).push .suggestion)
  | .sample =>
    c.check (ExampleDraft.ofAttributes attributes position) fun draft =>
      .accepted (c.push (.sample draft))
  | .marker =>
    .accepted ((c.mapStack (·.updateTop fun
      | .sample draft => some (.sample (draft.addText "<marker>"))
      | _ => none)).push .marker)

/-- Whether the innermost element has no meaning, so that nothing in it has one. -/
def inIgnored (c : Compiler) : Bool :=
  match c.stack with
  | .ignored _ :: _ => true
  | _ => false

/-- Open an element. -/
def start (c : Compiler) (name : String) (attributes : Attributes) (position : Position) :
    Outcome Compiler :=
  if c.inIgnored then .accepted (c.push (.ignored name))
  else
    match Tag.ofName? name with
    | none => .accepted (c.push (.ignored name))
    | some tag => c.check (c.requireParent tag position) fun _ => c.startTag tag attributes position

/-! ## Text -/

/-- Add text to the message of the open rule.  It may not go on with a digit right after a
reference. -/
def messageText (c : Compiler) (text : String) (position : Position) : Outcome Compiler :=
  let trailing? := (c.stack.findSome? fun
    | .rule draft => some draft
    | _ => none).bind fun draft => draft.message.trailingReference?
  match trailing? with
  | some number =>
    if startsWithDigit text.toList then c.refuse (.ambiguousPlaceholder number) position
    else .accepted (c.mapStack (·.updateRule (·.addText text)))
  | none => .accepted (c.mapStack (·.updateRule (·.addText text)))

/-- Take character data. -/
def text (c : Compiler) (text : String) (position : Position) : Outcome Compiler :=
  match c.stack with
  | .token draft :: outer => .accepted { c with stack := .token (draft.addText text) :: outer }
  | .exception draft :: outer =>
    .accepted { c with stack := .exception (draft.addText text) :: outer }
  | .sample draft :: outer => .accepted { c with stack := .sample (draft.addText text) :: outer }
  | .message :: _ => c.messageText text position
  | .suggestion :: _ => c.messageText text position
  | .short :: _ => .accepted (c.mapStack (·.updateRule (·.addShortText text)))
  | .marker :: _ => .accepted (c.mapStack (·.updateSample (·.addText text)))
  | _ => .accepted c

/-! ## End tags -/

/-- Close a group of constraints on one token.  The first member stands for the token. -/
def closeAndGroup (c : Compiler) (members : List Element) (position : Position) :
    Outcome Compiler :=
  match members with
  | [] => c.refuse (.missingElement "token" "and") position
  | first :: others => .accepted (c.mapStack (·.attach { first with andGroup := others }))

/-- Close a rule and add its rules to the output.  A rule that is refused is counted all the
same. -/
def closeRule (c : Compiler) (draft : RuleDraft) (position : Position) : Outcome Compiler :=
  let counted := c.mapStack ScopeStack.countRule
  counted.check (draft.finish c.stack.ruleContext position) fun rules =>
    .accepted { counted with output := { c.output with rules := c.output.rules ++ rules } }

/-- Close the elements that stand for a type of a feature. -/
def closeEquivalence (c : Compiler) (type : String) (elements : List Element) : Compiler :=
  match c.stack with
  | .unification feature :: _ =>
    let types := ((c.output.unification.find? feature).getD {}).insert type elements
    { c with
      output := { c.output with unification := c.output.unification.insert feature types } }
  | _ => c

/-- Hand what a closed scope collected to the scopes around it. -/
def closeScope (c : Compiler) (scope : Scope) (position : Position) : Outcome Compiler :=
  match scope with
  | .token draft =>
    c.check (draft.finish c.options position) fun element =>
      .accepted (c.mapStack (·.attach element))
  | .exception draft =>
    c.check (draft.finish c.options position) fun exception =>
      .accepted (c.mapStack (·.updateToken (·.addException exception)))
  | .andGroup members => c.closeAndGroup members position
  | .feature id types =>
    .accepted (c.mapStack (·.updateTop fun
      | .unify features => some (.unify (features.insert id types))
      | _ => none))
  | .unify _ => .accepted (c.mapStack (·.updatePattern PatternDraft.closeUnification))
  | .pattern draft =>
    .accepted (c.mapStack (·.updateTop fun
      | .rule rule => some (.rule (rule.setPattern draft))
      | _ => none))
  | .suggestion => .accepted (c.mapStack (·.updateRule (·.addText "</suggestion>")))
  | .marker =>
    .accepted (c.mapStack (·.updateTop fun
      | .sample draft => some (.sample (draft.addText "</marker>"))
      | _ => none))
  | .sample draft => .accepted (c.mapStack (·.updateRule (·.addExample draft.finish)))
  | .rule draft => c.closeRule draft position
  | .phrase draft =>
    c.check (draft.finish position) fun alternatives =>
      .accepted { c with phrases := c.phrases.insert draft.id alternatives }
  | .equivalence type elements => .accepted (c.closeEquivalence type elements)
  | _ => .accepted c

/-! ## Events -/

/-- Take an end tag.  The scope it closes is gone even if it cannot be made use of. -/
def stop (c : Compiler) (name : String) (position : Position) : Outcome Compiler :=
  match c.stack with
  | [] => c.refuse (.malformed s!"unexpected </{name}>") position
  | scope :: outer =>
    let popped := { c with stack := outer }
    if scope.name = name then popped.closeScope scope position
    else popped.refuse (.malformed s!"expected </{scope.name}>, found </{name}>") position

/-- Take an event.  Its position is noted first. -/
def step : Consumer Compiler := fun c event =>
  let c := { c with lastPosition := event.position }
  match event with
  | .start name attributes position => c.start name attributes position
  | .text text position => c.text text position
  | .stop name position => c.stop name position

/-- End the document. -/
def finish (c : Compiler) : Except RuleError CompiledRules :=
  match c.stack with
  | [] => .ok c.output
  | scope :: _ =>
    fail (.malformed s!"unexpected end of input inside <{scope.name}>") c.lastPosition

end Compiler

/-- Compile a source. -/
def compileSource (source : SourceFile) (options : CompileOptions) :
    Except RuleError CompiledRules :=
  match source.drive Compiler.step (Compiler.new options) with
  | .accepted c => c.finish
  | .refused error _ => .error error

/-- Compile a text that has no name. -/
def compileText (content : String) (options : CompileOptions) : Except RuleError CompiledRules :=
  compileSource (SourceFile.ofContent "<string>" content) options

end GrammarRules
