import GrammarRules.Table

/-!
# Grammar rules

The objects that a matching engine works with.  A `Rule` describes a sequence of tokens by a list
of `Element`s, says which of them a report should mark, and carries the message to show.  A message
and an element may quote an earlier token through a `Match`.  `CompiledRules` is what one rule file
amounts to: its rules in document order and its table of unification features.
-/

namespace GrammarRules

/-! ## Constraints on a token -/

/-- Whether white space has to precede a token. -/
inductive SpaceBefore where
  | unspecified
  | required
  | forbidden
deriving DecidableEq, Inhabited

namespace SpaceBefore

/-- The constraint an attribute value asks for; an unknown value forbids the space. -/
def ofAttribute : Option String → SpaceBefore
  | none => .unspecified
  | some value =>
    if value == "ignore" then .unspecified
    else if value == "yes" then .required
    else .forbidden

/-- Whether there is a constraint. -/
def isSet : SpaceBefore → Bool
  | .unspecified => false
  | _ => true

end SpaceBefore

/-- A constraint on the part of speech. -/
structure PosTag where
  tag : String
  regexp : Bool
  negated : Bool
deriving DecidableEq, Inhabited

/-- The token that an exception looks at, seen from the token that has it. -/
inductive ExceptionScope where
  | current
  | next
  | previous
deriving DecidableEq, Inhabited

/-- A reason for an element not to match. -/
structure TokenException where
  text : Option String
  regexp : Bool
  inflected : Bool
  negated : Bool
  pos : Option PosTag
  scope : ExceptionScope
  spaceBefore : SpaceBefore
deriving DecidableEq, Inhabited

/-- Agreement with the other tokens of a unification block. -/
structure Unification where
  /-- The types that count for a feature; all of them if the list is empty. -/
  features : Table (List String) := {}
  /-- Whether the block ends here. -/
  last : Bool := false
deriving Inhabited

/-! ## Quoting an earlier token -/

/-- How to change the letters of a quoted token. -/
inductive CaseConversion where
  | keep
  | startLower
  | startUpper
  | allLower
  | allUpper
deriving DecidableEq, Inhabited

/-- Which of the tokens that were skipped over to quote as well. -/
inductive SkippedTokens where
  | omitted
  | following
  | all
deriving DecidableEq, Inhabited

/-- A quotation of an earlier token. -/
structure Match where
  /-- The number of the token, counted from one, a number of 32 bits.  A placeholder that stands in
  the message text itself has none. -/
  tokenRef : Option Nat := none
  posTag : Option String := none
  posReplace : Option String := none
  posRegexp : Bool := false
  regexMatch : Option String := none
  regexReplace : Option String := none
  caseConversion : CaseConversion := .keep
  includeSkipped : SkippedTokens := .omitted
  /-- Whether to give the part of speech to the matched token as well. -/
  setPos : Bool := false
  /-- Whether the quotation belongs to the message and not to a suggestion. -/
  messageOnly : Bool := false
deriving DecidableEq, Inhabited

/-- What a placeholder amounts to that the author wrote out in the text of a message. -/
def Match.anonymous : Match := { messageOnly := true }

/-! ## Elements and rules -/

/-- A constraint on one token of a pattern. -/
structure Element where
  text : String := ""
  caseSensitive : Bool := false
  regexp : Bool := false
  negated : Bool := false
  inflected : Bool := false
  pos : Option PosTag := none
  exceptions : List TokenException := []
  spaceBefore : SpaceBefore := .unspecified
  /-- How many tokens may be skipped before the next element; minus one for any number. -/
  skip : Int := 0
  /-- The phrase that brought the element into its pattern. -/
  phrase : Option String := none
  /-- The earlier token that this one has to repeat. -/
  reference : Option Match := none
  /-- Further constraints on the same token. -/
  andGroup : List Element := []
  unification : Option Unification := none
deriving Inhabited

/-- The part of a match that a report marks. -/
structure MarkerRange where
  /-- How many tokens to leave out at the start. -/
  fromStart : Int := 0
  /-- Zero, or minus the number of tokens to leave out at the end. -/
  fromEnd : Int := 0
deriving DecidableEq, Inhabited

/-- A sentence with the error in it, and what it should be. -/
structure IncorrectExample where
  text : String
  corrections : List String
deriving DecidableEq, Inhabited

/-- A rule as the matching engine wants it. -/
structure Rule where
  id : String
  /-- The number of the rule in its group, counted from one. -/
  subId : Option Nat := none
  /-- Which choice of phrase alternatives this is, counted from one, if there is more than one. -/
  variant : Option Nat := none
  groupId : Option String := none
  name : Option String := none
  category : Option String := none
  defaultOff : Bool := false
  elements : List Element := []
  marker : MarkerRange := {}
  /-- The matches that the placeholders of the message stand for, in the order of the text. -/
  placeholders : List Match := []
  message : String := ""
  shortMessage : Option String := none
  correctExamples : List String := []
  incorrectExamples : List IncorrectExample := []
deriving Inhabited

/-- The name to show for a rule: the id, the number in the group and the choice of alternatives. -/
def Rule.displayName (rule : Rule) : String :=
  let subId := (rule.subId.map fun n => s!"[{n}]").getD ""
  let variant := (rule.variant.map fun n => s!"#{n}").getD ""
  rule.id ++ subId ++ variant

/-- The alternatives of a phrase, each a sequence of elements. -/
abbrev Alternatives := List (List Element)

/-- The phrases of a rule file under their names. -/
abbrev PhraseTable := Table Alternatives

/-- The elements that stand for each type of each unification feature. -/
abbrev UnificationTable := Table (Table (List Element))

/-- What one rule file amounts to. -/
structure CompiledRules where
  language : Option String := none
  rules : List Rule := []
  unification : UnificationTable := {}
deriving Inhabited

end GrammarRules
