import GrammarRules.Proofs.Pattern.Layout
import Mathlib.Data.List.Lex
import Mathlib.Algebra.BigOperators.Group.List.Basic

/-!
# The slots of a pattern

A `Slot` is what the author of a pattern wrote at one place: a token or a group of constraints on
one token, or a reference to a phrase with its alternatives.  `Slot.choices` are all the ways to
choose an alternative for every slot.  `choices_eq_map_pick` numbers them by the chosen
alternatives, where the vectors of numbers come in lexicographic order (`pairwise_indexChoices`,
`mem_indexChoices`), so that the choice for the first slot changes slowest.

A pattern in the making holds the layouts of the choices, `Slot.variants`; the three operations on
its variants are operations on its slots (`map_push_variants`, `flatMap_expand_variants`,
`map_closeUnification_variants`).
-/

namespace GrammarRules

/-- The element as the last of its unification block, if it is in one. -/
def Element.closeUnification (element : Element) : Element :=
  { element with unification := element.unification.map fun u => { u with last := true } }

theorem Element.closeUnification_of_eq_none {element : Element}
    (h : element.unification = none) : element.closeUnification = element := by
  cases element
  cases h
  rfl

theorem Variant.closeUnification_concat (init : List Element) (last : Element)
    (spans : List PhraseSpan) :
    (Variant.mk (init ++ [last]) spans).closeUnification =
      ⟨init ++ [last.closeUnification], spans⟩ := by
  simp [Variant.closeUnification, Element.closeUnification]

theorem Variant.closeUnification_push (variant : Variant) (element : Element) :
    (variant.push element).closeUnification = variant.push element.closeUnification :=
  closeUnification_concat _ _ _

theorem Variant.closeUnification_expand (variant : Variant) (name : String) {es : List Element}
    (filled : es ≠ []) (free : ∀ e ∈ es, e.unification = none) :
    (variant.expand name es).closeUnification = variant.expand name es := by
  obtain ⟨init, last, rfl⟩ := (List.eq_nil_or_concat' es).resolve_left filled
  have hlast : last.closeUnification = last :=
    Element.closeUnification_of_eq_none (free last (by simp))
  rw [Variant.expand, ← List.append_assoc, closeUnification_concat, hlast]

/-- A slot of a pattern as it was written. -/
inductive Slot where
  | single (element : Element)
  | phrase (name : String) (alternatives : Alternatives)

namespace Slot

/-- What may be chosen for the slot. -/
def pieces : Slot → List Piece
  | single element => [.single element]
  | phrase name alternatives => alternatives.map (.phrase name)

/-- How many choices there are for the slot. -/
def width (slot : Slot) : Nat := slot.pieces.length

/-- All ways to choose a piece for every slot.  The choice for the first slot changes slowest. -/
def choices : List Slot → List (List Piece)
  | [] => [[]]
  | slot :: slots => slot.pieces.flatMap fun piece => (choices slots).map (piece :: ·)

/-- The variants of a pattern with these slots. -/
def variants (slots : List Slot) : List Variant := (choices slots).map Piece.layout

@[simp] theorem choices_nil : choices [] = [[]] := rfl

/-! ## Adding a slot -/

theorem choices_concat (slots : List Slot) (slot : Slot) :
    choices (slots ++ [slot]) =
      (choices slots).flatMap fun pieces => slot.pieces.map fun piece => pieces ++ [piece] := by
  induction slots with
  | nil => simp [choices, List.map_eq_flatMap]
  | cons first slots ih =>
    simp only [List.cons_append, choices, ih, List.map_flatMap, List.map_map, List.flatMap_assoc,
      List.flatMap_map]
    rfl

theorem map_push_variants (slots : List Slot) (element : Element) :
    (variants slots).map (·.push element) = variants (slots ++ [single element]) := by
  simp [variants, choices_concat, pieces, Piece.layout_append_single, List.map_eq_flatMap,
    List.flatMap_assoc]

theorem flatMap_expand_variants (slots : List Slot) (name : String) (alternatives : Alternatives) :
    ((variants slots).flatMap fun variant => alternatives.map (variant.expand name)) =
      variants (slots ++ [phrase name alternatives]) := by
  simp only [variants, choices_concat, pieces, List.map_flatMap, List.map_map, List.flatMap_map]
  congr 1
  funext pieces
  congr 1
  funext es
  exact (Piece.layout_append_phrase pieces name es).symm

/-! ## Closing a unification block -/

/-- The slot at the end of a unification block. -/
def close : Slot → Slot
  | single element => single element.closeUnification
  | slot => slot

/-- The slots when a unification block ends with the last of them. -/
def closeLast (slots : List Slot) : List Slot := slots.dropLast ++ slots.getLast?.toList.map close

/-- No element of a phrase is in a unification block, and no alternative is empty. -/
def Free : Slot → Prop
  | single _ => True
  | phrase _ alternatives => ∀ es ∈ alternatives, es ≠ [] ∧ ∀ e ∈ es, e.unification = none

@[simp] theorem closeLast_concat (slots : List Slot) (slot : Slot) :
    closeLast (slots ++ [slot]) = slots ++ [slot.close] := by
  simp [closeLast]

theorem length_closeLast (slots : List Slot) : (closeLast slots).length = slots.length := by
  rcases List.eq_nil_or_concat' slots with rfl | ⟨init, last, rfl⟩
  · rfl
  · simp

theorem map_closeUnification_variants {slots : List Slot} (free : ∀ slot ∈ slots, slot.Free) :
    (variants slots).map Variant.closeUnification = variants (closeLast slots) := by
  rcases List.eq_nil_or_concat' slots with rfl | ⟨init, last, rfl⟩
  · rfl
  · rw [closeLast_concat]
    cases last with
    | single element =>
      rw [close, ← map_push_variants, ← map_push_variants, List.map_map]
      exact List.map_congr_left fun variant _ => variant.closeUnification_push element
    | phrase name alternatives =>
      have hfree : ∀ es ∈ alternatives, es ≠ [] ∧ ∀ e ∈ es, e.unification = none :=
        free (phrase name alternatives) (by simp)
      show _ = variants (init ++ [phrase name alternatives])
      rw [← flatMap_expand_variants, List.map_flatMap]
      congr 1
      funext variant
      rw [List.map_map]
      exact List.map_congr_left fun es hes =>
        variant.closeUnification_expand name (hfree es hes).1 (hfree es hes).2

/-! ## Numbering the choices -/

/-- The ways to choose a number below each of the bounds, in lexicographic order. -/
def indexChoices : List Nat → List (List Nat)
  | [] => [[]]
  | bound :: bounds =>
    (List.range bound).flatMap fun index => (indexChoices bounds).map (index :: ·)

/-- The pieces with the given numbers, slot by slot. -/
def pick : List Slot → List Nat → List Piece
  | slot :: slots, index :: indices => slot.pieces[index]?.toList ++ pick slots indices
  | _, _ => []

theorem length_indexChoices (bounds : List Nat) : (indexChoices bounds).length = bounds.prod := by
  induction bounds with
  | nil => rfl
  | cons bound bounds ih => simp [indexChoices, List.length_flatMap, ih]

theorem mem_indexChoices {indices bounds : List Nat} :
    indices ∈ indexChoices bounds ↔ List.Forall₂ (· < ·) indices bounds := by
  induction bounds generalizing indices with
  | nil => simp [indexChoices]
  | cons bound bounds ih =>
    simp only [indexChoices, List.mem_flatMap, List.mem_range, List.mem_map]
    constructor
    · rintro ⟨index, hindex, rest, hrest, rfl⟩
      exact .cons hindex (ih.1 hrest)
    · rintro (_ | ⟨hindex, hrest⟩)
      exact ⟨_, hindex, _, ih.2 hrest, rfl⟩

/-- The choices of numbers are in lexicographic order, the first number most significant. -/
theorem pairwise_indexChoices (bounds : List Nat) :
    (indexChoices bounds).Pairwise (List.Lex (· < ·)) := by
  induction bounds with
  | nil => exact List.pairwise_singleton _ _
  | cons bound bounds ih =>
    rw [indexChoices, List.pairwise_flatMap]
    refine ⟨fun index _ => ?_, ?_⟩
    · rw [List.pairwise_map]
      exact ih.imp .cons
    · refine List.pairwise_lt_range.imp fun {i j} hlt => ?_
      intro indices hi indices' hj
      obtain ⟨rest, -, rfl⟩ := List.mem_map.1 hi
      obtain ⟨rest', -, rfl⟩ := List.mem_map.1 hj
      exact .rel hlt

theorem flatMap_eq_flatMap_range {α β : Type} {xs : List α} {f : α → List β} {g : Nat → List β}
    (h : ∀ index x, xs[index]? = some x → g index = f x) :
    xs.flatMap f = (List.range xs.length).flatMap g := by
  induction xs generalizing g with
  | nil => rfl
  | cons x xs ih =>
    rw [List.length_cons, List.range_succ_eq_map, List.flatMap_cons, List.flatMap_cons,
      List.flatMap_map, h 0 x rfl, ih fun index x hx => h (index + 1) x hx]

/-- The choices are the picks of all vectors of numbers, in the order of the vectors. -/
theorem choices_eq_map_pick (slots : List Slot) :
    choices slots = (indexChoices (slots.map width)).map (pick slots) := by
  induction slots with
  | nil => rfl
  | cons slot slots ih =>
    rw [choices, List.map_cons, indexChoices, List.map_flatMap]
    refine flatMap_eq_flatMap_range fun index piece hpiece => ?_
    rw [ih, List.map_map, List.map_map]
    refine List.map_congr_left fun indices _ => ?_
    simp [pick, hpiece]

end Slot

end GrammarRules
