import GrammarRules.Proofs.Pattern.Slot

/-!
# Sound slots

An element that is bound to another one refers to it by number.  As long as a pattern is open the
numbers count slots, and those in a phrase count from the beginning of the phrase; `Slot.Sound` says
that they point backwards in this sense, and that the elements of phrases carry the name of the
phrase.  A choice among sound slots gives sound pieces (`SoundSlots.soundPieces`), and in a layout
of sound pieces the elements with a name are those in a span (`SoundPieces.phrase_eq`).
-/

namespace GrammarRules

namespace Element

/-- The number of the token that the element refers to. -/
def tokenRef? (element : Element) : Option Nat := element.reference.bind Match.tokenRef

/-- The element refers to one of the first `bound` tokens, if to any. -/
def RefersWithin (bound : Nat) (element : Element) : Prop :=
  ∀ number, element.tokenRef? = some number → 1 ≤ number ∧ number ≤ bound

/-- An element with one constraint, outside of all unification blocks, with at most `bound` tokens
to refer to. -/
structure Plain (bound : Nat) (element : Element) : Prop where
  andGroup : element.andGroup = []
  unification : element.unification = none
  refers : element.RefersWithin bound

end Element

/-! ## Sound slots -/

/-- The elements of a sequence are plain and refer to elements before them. -/
def Backward (es : List Element) : Prop :=
  ∀ (index : Nat) (e : Element), es[index]? = some e → e.Plain index

/-- The alternatives of a phrase: there is one, none is empty, all elements have the name of the
phrase, and they refer to elements before them. -/
structure IsPhrase (name : String) (alternatives : Alternatives) : Prop where
  ne_nil : alternatives ≠ []
  filled : ∀ es ∈ alternatives, es ≠ []
  named : ∀ es ∈ alternatives, ∀ e ∈ es, e.phrase = some name
  backward : ∀ es ∈ alternatives, Backward es

/-- The element refers to one of the first `bound` tokens, and so do the members of its group. -/
def Element.GroupRefersWithin (bound : Nat) (element : Element) : Prop :=
  ∀ e ∈ element :: element.andGroup, e.RefersWithin bound

theorem Element.GroupRefersWithin.setUnification {bound : Nat} {element : Element}
    (h : element.GroupRefersWithin bound) (unification : Option Unification) :
    ({ element with unification } : Element).GroupRefersWithin bound := by
  intro e he
  rcases List.mem_cons.1 he with rfl | he
  · exact h element List.mem_cons_self
  · exact h e (List.mem_cons_of_mem _ he)

/-- The slot with this index has references to earlier slots only; only phrases have a name. -/
def Slot.Sound (index : Nat) : Slot → Prop
  | single element => element.phrase = none ∧ element.GroupRefersWithin index
  | phrase name alternatives => IsPhrase name alternatives

/-- The same of a slot with the choice made. -/
def Piece.Sound (index : Nat) : Piece → Prop
  | single element => element.phrase = none ∧ element.GroupRefersWithin index
  | phrase name es => es ≠ [] ∧ (∀ e ∈ es, e.phrase = some name) ∧ Backward es

/-- All slots of a pattern are sound. -/
def SoundSlots (slots : List Slot) : Prop :=
  ∀ (index : Nat) (slot : Slot), slots[index]? = some slot → slot.Sound index

/-- All pieces of a pattern are sound. -/
def SoundPieces (pieces : List Piece) : Prop :=
  ∀ (index : Nat) (piece : Piece), pieces[index]? = some piece → piece.Sound index

theorem Slot.Sound.sound_of_mem_pieces {index : Nat} {slot : Slot} {piece : Piece}
    (h : slot.Sound index) (hpiece : piece ∈ slot.pieces) : piece.Sound index := by
  cases slot with
  | single element =>
    obtain rfl := List.mem_singleton.1 hpiece
    exact h
  | phrase name alternatives =>
    obtain ⟨es, hes, rfl⟩ := List.mem_map.1 hpiece
    exact ⟨h.filled es hes, h.named es hes, h.backward es hes⟩

theorem Slot.Sound.free {index : Nat} {slot : Slot} (h : slot.Sound index) : slot.Free := by
  cases slot with
  | single element => trivial
  | phrase name alternatives =>
    intro es hes
    refine ⟨h.filled es hes, fun e he => ?_⟩
    obtain ⟨offset, hoffset⟩ := List.mem_iff_getElem?.1 he
    exact (h.backward es hes offset e hoffset).unification

theorem Slot.Sound.close {index : Nat} {slot : Slot} (h : slot.Sound index) :
    slot.close.Sound index := by
  cases slot with
  | single element => exact ⟨h.1, h.2.setUnification _⟩
  | phrase name alternatives => exact h

theorem Slot.Sound.width_pos {index : Nat} {slot : Slot} (h : slot.Sound index) :
    0 < slot.width := by
  cases slot with
  | single element => exact Nat.one_pos
  | phrase name alternatives =>
    simpa [Slot.width, Slot.pieces, List.length_pos_iff] using h.ne_nil

/-- What holds of every place of a list and of one more place at the end. -/
theorem forall_getElem?_concat {α : Type} {P : Nat → α → Prop} {xs : List α} {last : α}
    (h : ∀ (index : Nat) (x : α), xs[index]? = some x → P index x) (hlast : P xs.length last) :
    ∀ (index : Nat) (x : α), (xs ++ [last])[index]? = some x → P index x := by
  intro index x hx
  rcases Nat.lt_trichotomy index xs.length with hlt | rfl | hgt
  · rw [List.getElem?_append_left hlt] at hx
    exact h index x hx
  · rw [List.getElem?_concat_length] at hx
    exact Option.some.inj hx ▸ hlast
  · rw [List.getElem?_eq_none (by simp; omega)] at hx
    cases hx

theorem backward_nil : Backward [] := fun _ _ h => by simp at h

theorem Backward.concat {es : List Element} {element : Element} (h : Backward es)
    (helement : element.Plain es.length) : Backward (es ++ [element]) :=
  forall_getElem?_concat h helement

namespace SoundSlots

theorem nil : SoundSlots [] := fun _ _ h => by simp at h

theorem concat {slots : List Slot} {slot : Slot} (h : SoundSlots slots)
    (hslot : slot.Sound slots.length) : SoundSlots (slots ++ [slot]) :=
  forall_getElem?_concat h hslot

theorem of_concat {slots : List Slot} {slot : Slot} (h : SoundSlots (slots ++ [slot])) :
    SoundSlots slots ∧ slot.Sound slots.length := by
  refine ⟨fun index found hfound => h index found ?_, h _ _ List.getElem?_concat_length⟩
  rw [List.getElem?_append_left (List.getElem?_eq_some_iff.1 hfound).1, hfound]

theorem free {slots : List Slot} (h : SoundSlots slots) : ∀ slot ∈ slots, slot.Free := by
  intro slot hslot
  obtain ⟨index, hindex⟩ := List.mem_iff_getElem?.1 hslot
  exact (h index slot hindex).free

theorem closeLast {slots : List Slot} (h : SoundSlots slots) :
    SoundSlots (Slot.closeLast slots) := by
  rcases List.eq_nil_or_concat' slots with rfl | ⟨init, last, rfl⟩
  · exact h
  · rw [Slot.closeLast_concat]
    exact h.of_concat.1.concat h.of_concat.2.close

/-- There is a way to choose. -/
theorem prod_width_pos {slots : List Slot} (h : SoundSlots slots) :
    0 < (slots.map Slot.width).prod := by
  rw [List.prod_pos_iff_forall_pos_nat, List.forall_mem_map]
  intro slot hslot
  obtain ⟨index, hindex⟩ := List.mem_iff_getElem?.1 hslot
  exact (h index slot hindex).width_pos

end SoundSlots

theorem Slot.mem_choices {slots : List Slot} {pieces : List Piece} :
    pieces ∈ Slot.choices slots ↔
      List.Forall₂ (fun piece slot => piece ∈ Slot.pieces slot) pieces slots := by
  induction slots generalizing pieces with
  | nil => simp
  | cons slot slots ih =>
    simp only [Slot.choices, List.mem_flatMap, List.mem_map]
    constructor
    · rintro ⟨piece, hpiece, rest, hrest, rfl⟩
      exact .cons hpiece (ih.1 hrest)
    · rintro (_ | ⟨hpiece, hrest⟩)
      exact ⟨_, hpiece, _, ih.2 hrest, rfl⟩

theorem SoundSlots.soundPieces {slots : List Slot} {pieces : List Piece} (h : SoundSlots slots)
    (hpieces : pieces ∈ Slot.choices slots) : SoundPieces pieces := by
  intro index piece hpiece
  obtain ⟨hlength, hmem⟩ := List.forall₂_iff_get.1 (Slot.mem_choices.1 hpieces)
  obtain ⟨hlt, rfl⟩ := List.getElem?_eq_some_iff.1 hpiece
  have hslot : slots[index]? = some slots[index] := List.getElem?_eq_getElem (hlength ▸ hlt)
  exact (h index _ hslot).sound_of_mem_pieces (hmem index hlt (hlength ▸ hlt))

theorem Slot.length_of_mem_choices {slots : List Slot} {pieces : List Piece}
    (h : pieces ∈ Slot.choices slots) : pieces.length = slots.length :=
  (Slot.mem_choices.1 h).length_eq

namespace SoundPieces

variable {pieces before after : List Piece} {piece : Piece}

theorem filled (h : SoundPieces pieces) : Piece.Filled pieces := by
  intro piece hpiece
  obtain ⟨index, hindex⟩ := List.mem_iff_getElem?.1 hpiece
  have hsound := h index piece hindex
  cases piece with
  | single element => exact List.cons_ne_nil _ _
  | phrase name es => exact hsound.1

theorem sound (h : SoundPieces (before ++ piece :: after)) : piece.Sound before.length :=
  h before.length piece (by simp)

/-- An element has the name of the span that covers it, and none if there is no such span. -/
theorem phrase_eq (h : SoundPieces pieces) {index : Nat} {element : Element}
    (helement : (Piece.layout pieces).elements[index]? = some element) :
    element.phrase =
      ((Piece.layout pieces).spans.find? (·.covers index)).map PhraseSpan.name := by
  obtain ⟨before, piece, after, offset, rfl, rfl, hfound⟩ := Piece.exists_piece helement
  have hlt : offset < piece.elements.length := (List.getElem?_eq_some_iff.1 hfound).1
  rw [Piece.layout, Piece.find?_covers_spans hlt]
  have hpiece := h.sound
  cases piece with
  | single e =>
    obtain rfl : e = element := List.mem_singleton.1 (List.mem_of_getElem? hfound) |>.symm
    exact hpiece.1
  | phrase name es => exact hpiece.2.1 element (List.mem_of_getElem? hfound)

end SoundPieces

end GrammarRules
