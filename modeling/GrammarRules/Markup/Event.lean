import GrammarRules.Source.Position
import GrammarRules.Table

/-!
# Markup events

A document reaches the compiler as a sequence of `Event`s: an element begins, an element ends, or
there is text between tags.  Each event knows the position at which it was complete.
-/

namespace GrammarRules

/-- The attributes of a tag, in the order in which they were first written. -/
abbrev Attributes := Table String

/-- Whether an attribute has the value `yes`, in exactly these letters. -/
def Attributes.isYes (attributes : Attributes) (name : String) : Bool :=
  attributes.find? name == some "yes"

/-- A step through a document. -/
inductive Event where
  | start (name : String) (attributes : Attributes) (position : Position)
  | text (text : String) (position : Position)
  | stop (name : String) (position : Position)
deriving Inhabited

/-- Where the event was complete. -/
def Event.position : Event → Position
  | start _ _ position | text _ position | stop _ position => position

end GrammarRules
