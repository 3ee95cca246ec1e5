import GrammarRules.Message.Draft
import GrammarRules.Pattern.Draft

/-!
# Rules in the making

A `RuleDraft` collects what the children of a rule tag bring: a pattern, a message with its matches,
a short message and examples.  `RuleDraft.finish` makes one rule of each variant of the pattern.  A
`RuleGroup` hands out the numbers of its rules.
-/

namespace GrammarRules

/-! ## Groups -/

/-- What the rules of a group have in common. -/
structure RuleGroup where
  id : String
  name : Option String
  defaultOff : Bool
  /-- How many rules of the group are complete. -/
  rulesSeen : Nat := 0
deriving DecidableEq, Inhabited

namespace RuleGroup

/-- The group with the given attributes. -/
def ofAttributes (attributes : Attributes) (position : Position) : Except RuleError RuleGroup := do
  let id ← attributes.required "rulegroup" "id" position
  return { id
           name := attributes.find? "name"
           defaultOff := attributes.find? "default" == some "off" }

/-- The number of the next rule, counted from one. -/
def nextSubId (group : RuleGroup) : Nat := group.rulesSeen + 1

/-- The group with one more rule. -/
def count (group : RuleGroup) : RuleGroup := { group with rulesSeen := group.rulesSeen + 1 }

end RuleGroup

/-! ## Examples -/

/-- An example sentence. -/
inductive RuleExample where
  | correct (text : String)
  | incorrect (sentence : IncorrectExample)
deriving DecidableEq, Inhabited

/-- An example whose tag is open. -/
structure ExampleDraft where
  isCorrect : Bool
  text : String
  corrections : List String
deriving DecidableEq, Inhabited

namespace ExampleDraft

/-- The example with the given attributes and no text. -/
def ofAttributes (attributes : Attributes) (position : Position) :
    Except RuleError ExampleDraft := do
  let kind ← attributes.required "example" "type" position
  let corrections := ((attributes.find? "correction").map (·.splitOn "|")).getD []
  if kind == "correct" then return ⟨true, "", corrections⟩
  else if kind == "incorrect" then return ⟨false, "", corrections⟩
  else fail (.invalidAttribute "example" "type" kind) position

/-- Add character data, or a marker tag in its written form. -/
def addText (draft : ExampleDraft) (text : String) : ExampleDraft :=
  { draft with text := draft.text ++ text }

/-- The example that a closed tag amounts to. -/
def finish (draft : ExampleDraft) : RuleExample :=
  let text := Text.trim draft.text
  if draft.isCorrect then .correct text else .incorrect ⟨text, draft.corrections⟩

end ExampleDraft

/-! ## Rules -/

/-- What a rule takes over from the elements around it. -/
structure RuleContext where
  groupId : Option String := none
  groupName : Option String := none
  groupDefaultOff : Bool := false
  subId : Option Nat := none
  category : Option String := none
deriving DecidableEq, Inhabited

/-- A rule whose tag is open. -/
structure RuleDraft where
  id : String
  name : Option String := none
  defaultOff : Bool := false
  pattern : Option PatternDraft := none
  message : MessageDraft := {}
  /-- The matches of the message, in the order in which they were declared. -/
  declared : List Match := []
  shortMessage : Option String := none
  correctExamples : List String := []
  incorrectExamples : List IncorrectExample := []
deriving Inhabited

namespace RuleDraft

/-- The rule with the given attributes.  A rule without an id has that of its group. -/
def ofAttributes (attributes : Attributes) (groupId : Option String) (position : Position) :
    Except RuleError RuleDraft :=
  let draft (id : String) : RuleDraft :=
    { id
      name := attributes.find? "name"
      defaultOff := attributes.find? "default" == some "off" }
  match (attributes.find? "id").filter (!Text.isAllBlank ·), groupId with
  | some id, _ => .ok (draft id)
  | none, some id => .ok (draft id)
  | none, none => fail (.missingAttribute "rule" "id") position

/-- Give the rule its pattern; a later one replaces it. -/
def setPattern (draft : RuleDraft) (pattern : PatternDraft) : RuleDraft :=
  { draft with pattern := some pattern }

/-- Add text to the message. -/
def addText (draft : RuleDraft) (text : String) : RuleDraft :=
  { draft with message := draft.message.addText text }

/-- Add a match to the message, with its placeholder if it has a number. -/
def addMatch (draft : RuleDraft) (declared : Match) : RuleDraft :=
  { draft with
    message := (declared.tokenRef.map draft.message.addReference).getD draft.message
    declared := draft.declared ++ [declared] }

/-- Add text to the short message. -/
def addShortText (draft : RuleDraft) (text : String) : RuleDraft :=
  { draft with shortMessage := some (draft.shortMessage.getD "" ++ text) }

/-- Add an example. -/
def addExample (draft : RuleDraft) : RuleExample → RuleDraft
  | .correct text => { draft with correctExamples := draft.correctExamples ++ [text] }
  | .incorrect sentence =>
    { draft with incorrectExamples := draft.incorrectExamples ++ [sentence] }

/-- The short message, unless it is blank. -/
def finishedShortMessage (draft : RuleDraft) : Option String :=
  (draft.shortMessage.map Text.collapse).filter (· != "")

/-- The rule for one variant of the pattern. -/
def ruleOf (draft : RuleDraft) (context : RuleContext) (pattern : PatternDraft)
    (number : Option Nat) (variant : Variant) : Rule :=
  let resolved := resolveMessage draft.message.segments draft.declared
  { id := draft.id
    subId := context.subId
    variant := number
    groupId := context.groupId
    name := draft.name <|> context.groupName
    category := context.category
    defaultOff := draft.defaultOff || context.groupDefaultOff
    elements := correctReferences variant.elements variant.spans
    marker := pattern.marker
    placeholders := resolved.placeholders
    message := resolved.text
    shortMessage := draft.finishedShortMessage
    correctExamples := draft.correctExamples
    incorrectExamples := draft.incorrectExamples }

/-- The number of each of several variants; a single one has none. -/
def variantNumber (count index : Nat) : Option Nat :=
  if count > 1 then some (index + 1) else none

/-- The rules that a closed tag amounts to, one for each variant of the pattern.  The marker has to
fit every variant. -/
def finish (draft : RuleDraft) (context : RuleContext) (position : Position) :
    Except RuleError (List Rule) :=
  match draft.pattern with
  | none => fail (.missingElement "pattern" "rule") position
  | some pattern => do
    pattern.variants.forM fun variant =>
      checkMarker pattern.tokenCount variant.surplus pattern.marker position
    return pattern.variants.mapIdx fun index variant =>
      draft.ruleOf context pattern (variantNumber pattern.variants.length index) variant

end RuleDraft

end GrammarRules
