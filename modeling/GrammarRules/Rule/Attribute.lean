import GrammarRules.Markup.Event
import GrammarRules.Rule.Basic
import GrammarRules.Rule.Error
import GrammarRules.Text.Blank
import GrammarRules.Text.Numeral

/-!
# Reading attributes

What several elements of a rule file have in common: an attribute that has to be there, a whole
number, and the three attributes that constrain the part of speech.
-/

namespace GrammarRules.Attributes

/-- The value of an attribute that may not be missing or blank. -/
def required (attributes : Attributes) (element name : String) (position : Position) :
    Except RuleError String :=
  match attributes.find? name with
  | some value =>
    if Text.isAllBlank value then fail (.missingAttribute element name) position else .ok value
  | none => fail (.missingAttribute element name) position

/-- A 32-bit signed integer, zero if the attribute is missing.  Blanks around it do not matter. -/
def int32 (attributes : Attributes) (element name : String) (position : Position) :
    Except RuleError Int :=
  match attributes.find? name with
  | none => .ok 0
  | some value =>
    match Text.int32? (Text.trim value).toList with
    | some n => .ok n
    | none => fail (.invalidAttribute element name value) position

/-- The constraint on the part of speech.  Without a tag there is none, whatever the other two
attributes say. -/
def posTag? (attributes : Attributes) : Option PosTag :=
  (attributes.find? "postag").map fun tag =>
    { tag
      regexp := attributes.isYes "postag_regexp"
      negated := attributes.isYes "negate_pos" }

end GrammarRules.Attributes
