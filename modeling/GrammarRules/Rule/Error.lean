import GrammarRules.Source.Position

/-!
# Why a rule file is refused

Every error has a `Cause` and the position of the event at which it showed.  `Cause.message` words
the cause; `RuleError.text` adds the location in parentheses.
-/

namespace GrammarRules

/-- The end of a pattern that a marker attribute counts from. -/
inductive MarkerSide where
  | start
  | stop
deriving DecidableEq, Inhabited

/-- The attribute that counts from this end. -/
def MarkerSide.attributeName : MarkerSide → String
  | .start => "mark_from"
  | .stop => "mark_to"

/-- What is wrong with a rule file. -/
inductive Cause where
  /-- The markup itself is broken, or does not close what it opened. -/
  | malformed (message : String)
  /-- A match without a token number. -/
  | emptyReference
  /-- A token number that is no number from one on. -/
  | invalidReference (value : String)
  /-- A match in a token that quotes no earlier token. -/
  | forwardReference (reference available : Nat)
  /-- A digit right after a match in a message. -/
  | ambiguousPlaceholder (reference : Nat)
  /-- A marker that leaves no token of the pattern. -/
  | positionOutOfRange (side : MarkerSide) (value : Int) (tokenCount : Nat)
  | invalidAttribute (element name value : String)
  | missingAttribute (element name : String)
  | missingElement (element parent : String)
  | unknownPhrase (name : String)
  /-- A phrase without any token. -/
  | emptyPhrase (name : String)
  | unknownFeature (name : String)
  | invalidRegex (pattern message : String)
  /-- An element where it may not stand; `parent` is worded for the message. -/
  | misplaced (element parent : String)
deriving DecidableEq, Inhabited

namespace Cause

/-- The cause in words. -/
def message : Cause → String
  | malformed message => s!"Malformed rule source: {message}"
  | emptyReference => "References cannot be empty"
  | invalidReference value => s!"References must be integers larger than 0: {value}"
  | forwardReference reference available =>
    "Only backward references in match elements are possible, tried to specify token " ++
      s!"{reference} but only {available} token(s) precede it"
  | ambiguousPlaceholder reference =>
    s!"Placeholder \\{reference} is directly followed by a digit and would read as a " ++
      "different reference"
  | positionOutOfRange side value tokenCount =>
    s!"Attempt to mark a token no. ({value}) via {side.attributeName} that is outside the " ++
      s!"pattern ({tokenCount} elements); pattern elements are numbered starting from 0 and " ++
      "end positions are 0 or negative"
  | invalidAttribute element name value =>
    s!"Invalid value '{value}' for attribute '{name}' of <{element}>"
  | missingAttribute element name => s!"Missing attribute '{name}' on <{element}>"
  | missingElement element parent => s!"<{parent}> requires a <{element}> child"
  | unknownPhrase name => s!"Reference to undefined phrase '{name}'"
  | emptyPhrase name => s!"Phrase '{name}' does not define any token"
  | unknownFeature name => s!"Unification feature '{name}' is not declared"
  | invalidRegex pattern message => s!"Invalid regular expression '{pattern}': {message}"
  | misplaced element parent => s!"<{element}> is not allowed inside {parent}"

/-- A short name that does not change with the wording. -/
def code : Cause → String
  | malformed .. => "R0001"
  | emptyReference => "R0101"
  | invalidReference .. => "R0102"
  | forwardReference .. => "R0103"
  | ambiguousPlaceholder .. => "R0104"
  | positionOutOfRange .. => "R0201"
  | invalidAttribute .. => "R0301"
  | missingAttribute .. => "R0302"
  | misplaced .. => "R0303"
  | missingElement .. => "R0304"
  | unknownPhrase .. => "R0401"
  | emptyPhrase .. => "R0402"
  | unknownFeature .. => "R0501"
  | invalidRegex .. => "R0601"

/-- Whether a reference to an earlier token is at fault. -/
def isReference : Cause → Bool
  | emptyReference | invalidReference .. | forwardReference .. | ambiguousPlaceholder .. => true
  | _ => false

/-- Advice on how to mend the fault, where there is any. -/
def help? : Cause → Option String
  | forwardReference .. =>
    some "a <match no=\"N\"/> inside a token may only refer to tokens before it"
  | ambiguousPlaceholder .. => some "separate the <match/> element from the following digit"
  | positionOutOfRange .. =>
    some ("mark_from counts from the first token (0-based), " ++
      "mark_to counts back from the last (0 or negative)")
  | invalidRegex .. =>
    some ("regex validation is opt-in; leave out `validate_regex = true` and " ++
      "`--validate-regex` for patterns written in another regex dialect")
  | _ => none

end Cause

/-- A cause and where it showed. -/
structure RuleError where
  cause : Cause
  position : Position
deriving DecidableEq, Inhabited

namespace RuleError

/-- The clause that gives line and column at the end of a printed error. -/
def location (position : Position) : String :=
  s!" (line {position.line}, column {position.column})"

/-- The error as it is printed: the cause, then the location. -/
def text (error : RuleError) : String := error.cause.message ++ location error.position

end RuleError

/-- Fail with a cause at a position. -/
def fail {α : Type} (cause : Cause) (position : Position) : Except RuleError α :=
  .error ⟨cause, position⟩

end GrammarRules
