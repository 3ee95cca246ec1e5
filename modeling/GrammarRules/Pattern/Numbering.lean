import GrammarRules.Rule.Basic
import GrammarRules.Text.Reference

/-!
# Token numbers after phrase expansion

Authors number the slots of a pattern, and a phrase takes one slot.  Once it is expanded the tokens
have numbers of their own.  A reference to slot `n` comes to mean the last token of that slot, so it
grows by `length - 1` for every expansion at or before slot `n`.  A reference inside an expansion is
counted from the beginning of the phrase and grows by the number of tokens before it.

The number of a reference has 32 bits, and so has the sum: what does not fit in is lost (`word32`).
-/

namespace GrammarRules

/-- What 32 bits keep of a number. -/
def word32 (number : Nat) : Nat := number % (Text.natMax32 + 1)

theorem word32_of_le {number : Nat} (h : number ≤ Text.natMax32) : word32 number = number :=
  Nat.mod_eq_of_lt (Nat.lt_succ_of_le h)

/-- Where a phrase was expanded: the index of its first token and how many it has. -/
structure PhraseSpan where
  name : String
  start : Nat
  length : Nat
deriving DecidableEq, Inhabited

namespace PhraseSpan

/-- Whether the token with this index came from the expansion. -/
def covers (span : PhraseSpan) (index : Nat) : Bool :=
  span.start ≤ index && index < span.start + span.length

/-- How many tokens there are more than the one slot of the phrase. -/
def surplus (span : PhraseSpan) : Nat := span.length - 1

/-- The slot of each expansion, counted from zero, with its surplus.  `shift` is the surplus of the
expansions before. -/
def slots (shift : Nat) : List PhraseSpan → List (Nat × Nat)
  | [] => []
  | span :: spans => (span.start - shift, span.surplus) :: slots (shift + span.surplus) spans

end PhraseSpan

/-- The number of the last token of slot `number`, where `slots` are the slots of the expansions. -/
def physicalNumber (slots : List (Nat × Nat)) (number : Nat) : Nat :=
  word32
    (number + (slots.filter fun slot => slot.1 ≤ number - 1).foldr (fun slot n => slot.2 + n) 0)

/-- What the reference `number` of the token with this index comes to mean. -/
def correctedNumber (spans : List PhraseSpan) (index number : Nat) : Nat :=
  match spans.find? (·.covers index) with
  | some span => word32 (number + span.start)
  | none => physicalNumber (PhraseSpan.slots 0 spans) number

/-- Give the reference of an element its new number, in its match and in its text. -/
def Element.correctReference (spans : List PhraseSpan) (index : Nat) (element : Element) :
    Element :=
  match element.reference with
  | none => element
  | some reference =>
    match reference.tokenRef with
    | none => element
    | some old =>
      let new := correctedNumber spans index old
      if new = old then element
      else
        { element with
          reference := some { reference with tokenRef := some new }
          text := Text.renumberReference element.text old new }

/-- Correct the element with this index and the members of its group, which share its slot. -/
def Element.correct (spans : List PhraseSpan) (index : Nat) (element : Element) : Element :=
  let corrected := element.correctReference spans index
  { corrected with andGroup := element.andGroup.map (·.correctReference spans index) }

/-- Correct the references of all elements of a pattern. -/
def correctReferences (elements : List Element) (spans : List PhraseSpan) : List Element :=
  if spans.isEmpty then elements else elements.mapIdx fun index e => e.correct spans index

end GrammarRules
