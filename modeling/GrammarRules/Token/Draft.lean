import GrammarRules.Rule.Attribute
import GrammarRules.Rule.Options

/-!
# Tokens in the making

A `TokenDraft` is an element whose tag is open; its text is still as it was written.  Text, matches
and exceptions are added as they come, and `TokenDraft.finish` puts the blanks of the text in order
and checks the regular expressions.  An `ExceptionDraft` does the same for an exception.
-/

namespace GrammarRules

/-! ## Exceptions -/

/-- An exception whose tag is open, and the text it has so far. -/
structure ExceptionDraft where
  text : String
  spec : TokenException
deriving DecidableEq, Inhabited

namespace ExceptionDraft

/-- The token that the `scope` attribute points to. -/
def scopeOf (value : Option String) : ExceptionScope :=
  if value == some "next" then .next
  else if value == some "previous" then .previous
  else .current

/-- An exception with the given attributes and no text. -/
def ofAttributes (attributes : Attributes) : ExceptionDraft where
  text := ""
  spec :=
    { text := none
      regexp := attributes.isYes "regexp"
      inflected := attributes.isYes "inflected"
      negated := attributes.isYes "negate"
      pos := attributes.posTag?
      scope := scopeOf (attributes.find? "scope")
      spaceBefore := .ofAttribute (attributes.find? "spacebefore") }

/-- Add character data. -/
def addText (draft : ExceptionDraft) (text : String) : ExceptionDraft :=
  { draft with text := draft.text ++ text }

end ExceptionDraft

/-- Check the tag of a constraint on the part of speech if it is a regular expression. -/
def CompileOptions.checkPosTag (options : CompileOptions) (pos : Option PosTag)
    (position : Position) : Except RuleError Unit :=
  match pos with
  | some pos => if pos.regexp then options.checkRegex pos.tag position else .ok ()
  | none => .ok ()

/-- The exception that a closed tag amounts to.  Without text it looks at the part of speech
alone. -/
def ExceptionDraft.finish (options : CompileOptions) (draft : ExceptionDraft)
    (position : Position) : Except RuleError TokenException := do
  let text := Text.collapse draft.text
  if draft.spec.regexp && text != "" then options.checkRegex text position
  options.checkPosTag draft.spec.pos position
  return { draft.spec with text := if text == "" then none else some text }

/-! ## Tokens -/

/-- An element whose tag is open; its text is what has been written so far. -/
structure TokenDraft where
  element : Element
deriving Inhabited

namespace TokenDraft

/-- A token with the given attributes, in a pattern that is case sensitive if `caseSensitive`. -/
def ofAttributes (attributes : Attributes) (caseSensitive : Bool) (position : Position) :
    Except RuleError TokenDraft := do
  let skip ← attributes.int32 "token" "skip" position
  if skip < -1 then fail (.invalidAttribute "token" "skip" (toString skip)) position
  else
    return ⟨{
      caseSensitive := ((attributes.find? "case_sensitive").map (· == "yes")).getD caseSensitive
      regexp := attributes.isYes "regexp"
      negated := attributes.isYes "negate"
      inflected := attributes.isYes "inflected"
      pos := attributes.posTag?
      spaceBefore := .ofAttribute (attributes.find? "spacebefore")
      skip }⟩

/-- Add character data. -/
def addText (draft : TokenDraft) (text : String) : TokenDraft :=
  ⟨{ draft.element with text := draft.element.text ++ text }⟩

/-- Bind the token to an earlier one, whose number becomes part of the text. -/
def bind (draft : TokenDraft) (reference : Match) : TokenDraft :=
  let mark := (reference.tokenRef.map fun n => s!"\\{n}").getD ""
  ⟨{ draft.element with
      text := draft.element.text ++ mark
      reference := some reference }⟩

/-- Add an exception after those that are there. -/
def addException (draft : TokenDraft) (exception : TokenException) : TokenDraft :=
  ⟨{ draft.element with exceptions := draft.element.exceptions ++ [exception] }⟩

/-- The element that a closed tag amounts to.  The text of a token that is bound to another is no
regular expression for the check, since the matcher fills in the reference first. -/
def finish (options : CompileOptions) (draft : TokenDraft) (position : Position) :
    Except RuleError Element := do
  let text := Text.collapse draft.element.text
  if draft.element.regexp && draft.element.reference.isNone then
    options.checkRegex text position
  options.checkPosTag draft.element.pos position
  return { draft.element with text }

end TokenDraft

/-- Whether the element stands for an earlier token. -/
def Element.isReference (element : Element) : Bool := element.reference.isSome

end GrammarRules
