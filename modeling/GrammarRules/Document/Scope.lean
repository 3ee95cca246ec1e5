import GrammarRules.Document.Tag
import GrammarRules.Pattern.Phrase
import GrammarRules.Rule.Draft
import GrammarRules.Token.Draft
import GrammarRules.Token.Reference

/-!
# Open elements

A `Scope` is an element that is open, with what it has collected so far.  The open elements form a
stack, innermost first.  The functions of this module look through the stack from the inside for the
element that something belongs to; the pattern around a token, say, or the rule around a message.
-/

namespace GrammarRules

/-- An open element. -/
inductive Scope where
  | rules
  | category (name : Option String)
  | phrases
  | phrase (draft : PhraseDraft)
  | includePhrases
  | phraseRef
  | unification (feature : String)
  | equivalence (type : String) (elements : List Element)
  | ruleGroup (group : RuleGroup)
  | rule (draft : RuleDraft)
  | pattern (draft : PatternDraft)
  | andGroup (members : List Element)
  /-- A unification block, with the types of the features it has named so far. -/
  | unify (features : Table (List String))
  | feature (id : String) (types : List String)
  | featureType
  | token (draft : TokenDraft)
  | exception (draft : ExceptionDraft)
  | quote
  | message
  | short
  | suggestion
  | sample (draft : ExampleDraft)
  | marker
  /-- An element without a meaning, or one inside such an element. -/
  | ignored (name : String)
deriving Inhabited

namespace Scope

/-- The tag of an element with a meaning. -/
def tag? : Scope → Option Tag
  | rules => some .rules
  | category _ => some .category
  | phrases => some .phrases
  | phrase _ => some .phrase
  | includePhrases => some .includePhrases
  | phraseRef => some .phraseRef
  | unification _ => some .unification
  | equivalence _ _ => some .equivalence
  | ruleGroup _ => some .ruleGroup
  | rule _ => some .rule
  | pattern _ => some .pattern
  | andGroup _ => some .andGroup
  | unify _ => some .unify
  | feature _ _ => some .feature
  | featureType => some .featureType
  | token _ => some .token
  | exception _ => some .exception
  | quote => some .quote
  | message => some .message
  | short => some .short
  | suggestion => some .suggestion
  | sample _ => some .sample
  | marker => some .marker
  | ignored _ => none

/-- The name of the element. -/
def name : Scope → String
  | ignored name => name
  | rules => Tag.rules.name
  | category _ => Tag.category.name
  | phrases => Tag.phrases.name
  | phrase _ => Tag.phrase.name
  | includePhrases => Tag.includePhrases.name
  | phraseRef => Tag.phraseRef.name
  | unification _ => Tag.unification.name
  | equivalence _ _ => Tag.equivalence.name
  | ruleGroup _ => Tag.ruleGroup.name
  | rule _ => Tag.rule.name
  | pattern _ => Tag.pattern.name
  | andGroup _ => Tag.andGroup.name
  | unify _ => Tag.unify.name
  | feature _ _ => Tag.feature.name
  | featureType => Tag.featureType.name
  | token _ => Tag.token.name
  | exception _ => Tag.exception.name
  | quote => Tag.quote.name
  | message => Tag.message.name
  | short => Tag.short.name
  | suggestion => Tag.suggestion.name
  | sample _ => Tag.sample.name
  | marker => Tag.marker.name

theorem name_of_tag? {scope : Scope} {tag : Tag} (h : scope.tag? = some tag) :
    scope.name = tag.name := by
  cases scope <;> cases h <;> rfl

/-- The pattern, if the element is one. -/
def pattern? : Scope → Option PatternDraft
  | pattern draft => some draft
  | _ => none

/-- How many tokens of a sequence are complete, if the element is a sequence of tokens. -/
def completed? : Scope → Option Nat
  | pattern draft => some draft.completed
  | phrase draft => some draft.completed
  | equivalence _ elements => some elements.length
  | _ => none

end Scope

/-- The open elements, innermost first. -/
abbrev ScopeStack := List Scope

namespace ScopeStack

/-- Change the innermost element that `change` applies to. -/
def update (change : Scope → Option Scope) : ScopeStack → ScopeStack
  | [] => []
  | scope :: outer =>
    match change scope with
    | some changed => changed :: outer
    | none => scope :: update change outer

/-- Change the innermost element if `change` applies to it. -/
def updateTop (change : Scope → Option Scope) : ScopeStack → ScopeStack
  | [] => []
  | scope :: outer => (change scope).getD scope :: outer

/-- The innermost open pattern. -/
def pattern? (stack : ScopeStack) : Option PatternDraft := stack.findSome? Scope.pattern?

/-- Change the innermost open pattern. -/
def updatePattern (change : PatternDraft → PatternDraft) (stack : ScopeStack) : ScopeStack :=
  stack.update fun
    | .pattern draft => some (.pattern (change draft))
    | _ => none

/-- Change the innermost open rule. -/
def updateRule (change : RuleDraft → RuleDraft) (stack : ScopeStack) : ScopeStack :=
  stack.update fun
    | .rule draft => some (.rule (change draft))
    | _ => none

/-- Change the innermost open example. -/
def updateSample (change : ExampleDraft → ExampleDraft) (stack : ScopeStack) : ScopeStack :=
  stack.update fun
    | .sample draft => some (.sample (change draft))
    | _ => none

/-- Change the token that is the innermost element. -/
def updateToken (change : TokenDraft → TokenDraft) (stack : ScopeStack) : ScopeStack :=
  stack.updateTop fun
    | .token draft => some (.token (change draft))
    | _ => none

/-- How many tokens of the sequence that is open are complete. -/
def completed (stack : ScopeStack) : Nat := (stack.findSome? Scope.completed?).getD 0

/-- Give a phrase to the innermost pattern, or to the innermost phrase if that is further in. -/
def addPhrase (name : String) (alternatives : Alternatives) (stack : ScopeStack) : ScopeStack :=
  stack.update fun
    | .pattern draft => some (.pattern (draft.expandPhrase name alternatives))
    | .phrase draft => some (.phrase (draft.includeAll alternatives))
    | _ => none

/-- Hand an element to the scope that collects it.  On the way out of a unification block it picks
up the features of the block; there is no way past an element of another kind. -/
def attach (element : Element) : ScopeStack → ScopeStack
  | [] => []
  | .unify features :: outer =>
    .unify features :: attach { element with unification := some { features } } outer
  | .andGroup members :: outer => .andGroup (members ++ [element]) :: outer
  | .pattern draft :: outer => .pattern (draft.push element) :: outer
  | .phrase draft :: outer => .phrase (draft.push element) :: outer
  | .equivalence type elements :: outer => .equivalence type (elements ++ [element]) :: outer
  | scope :: outer => scope :: outer

/-- What a rule takes over from the open elements around it; of two groups or two categories the
outer one counts. -/
def ruleContext (stack : ScopeStack) : RuleContext :=
  stack.foldl (fun context scope =>
    match scope with
    | .ruleGroup group =>
      { context with
        groupId := some group.id
        groupName := group.name
        groupDefaultOff := group.defaultOff
        subId := some group.nextSubId }
    | .category name => { context with category := name }
    | _ => context) {}

/-- Count a rule in the open groups. -/
def countRule (stack : ScopeStack) : ScopeStack :=
  stack.map fun
    | .ruleGroup group => .ruleGroup group.count
    | scope => scope

end ScopeStack

end GrammarRules
