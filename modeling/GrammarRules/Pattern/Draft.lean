import GrammarRules.Pattern.Marker
import GrammarRules.Pattern.Numbering

/-!
# Patterns in the making

A pattern is kept as a list of variants, one for each choice of alternatives for the phrases so far.
A token is added to every variant; a phrase replaces each variant by one for each of its
alternatives, so the choice for the first phrase changes slowest.
-/

namespace GrammarRules

/-- The elements of a pattern for one choice of alternatives, and where phrases were expanded. -/
structure Variant where
  elements : List Element := []
  spans : List PhraseSpan := []
deriving Inhabited

namespace Variant

/-- How many elements there are more than slots. -/
def surplus (variant : Variant) : Nat := variant.spans.foldr (fun span n => span.surplus + n) 0

/-- Add an element. -/
def push (variant : Variant) (element : Element) : Variant :=
  { variant with elements := variant.elements ++ [element] }

/-- Add the elements of an alternative of a phrase. -/
def expand (variant : Variant) (name : String) (alternative : List Element) : Variant where
  elements := variant.elements ++ alternative
  spans := variant.spans ++ [⟨name, variant.elements.length, alternative.length⟩]

/-- Mark the last element as the last of its unification block, if it is in one. -/
def closeUnification (variant : Variant) : Variant :=
  match variant.elements.getLast? with
  | some element =>
    let closed := { element with
      unification := element.unification.map fun u => { u with last := true } }
    { variant with elements := variant.elements.dropLast ++ [closed] }
  | none => variant

end Variant

/-- A pattern whose tag is open, or one that is complete and waits for its rule. -/
structure PatternDraft where
  variants : List Variant
  /-- How many slots have been begun: tokens, groups of constraints on one token, and phrases. -/
  tokenCount : Nat
  /-- How many slots are complete. -/
  completed : Nat
  caseSensitive : Bool
  marker : MarkerRange
deriving Inhabited

namespace PatternDraft

/-- The pattern with the given attributes and no token. -/
def ofAttributes (attributes : Attributes) (position : Position) :
    Except RuleError PatternDraft := do
  let marker ← parseMarker attributes position
  return ⟨[{}], 0, 0, attributes.isYes "case_sensitive", marker⟩

/-- Begin a slot. -/
def countToken (draft : PatternDraft) : PatternDraft :=
  { draft with tokenCount := draft.tokenCount + 1 }

/-- Complete a slot with an element. -/
def push (draft : PatternDraft) (element : Element) : PatternDraft :=
  { draft with
    variants := draft.variants.map (·.push element)
    completed := draft.completed + 1 }

/-- Begin and complete the slot of a phrase. -/
def expandPhrase (draft : PatternDraft) (name : String) (alternatives : Alternatives) :
    PatternDraft :=
  { draft with
    variants := draft.variants.flatMap fun variant => alternatives.map (variant.expand name)
    tokenCount := draft.tokenCount + 1
    completed := draft.completed + 1 }

/-- End a unification block. -/
def closeUnification (draft : PatternDraft) : PatternDraft :=
  { draft with variants := draft.variants.map Variant.closeUnification }

end PatternDraft

end GrammarRules
