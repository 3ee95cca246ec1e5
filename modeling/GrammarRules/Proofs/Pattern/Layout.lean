import GrammarRules.Pattern.Draft
import Mathlib.Tactic.Linarith

/-!
# The layout of a pattern

A `Piece` is a slot of a pattern for which the choice has been made: one element, or the elements of
an alternative of a phrase.  `layout` lays pieces out one after another and gives the variant with
their elements and the spans of their phrases.  Everything about the spans of a variant is read off
from its pieces: how many elements there are more than slots (`extent_eq`), where the spans stand
(`pairwise_spans`, `bounds_of_mem_spans`), which of them covers an element (`find?_covers_spans`),
and that `physicalNumber` gives the last token of a slot (`physicalNumber_spans`).
-/

namespace GrammarRules

/-- A slot of a pattern with the choice made. -/
inductive Piece where
  | single (element : Element)
  | phrase (name : String) (elements : List Element)

namespace Piece

/-- The elements that take the slot. -/
def elements : Piece → List Element
  | single element => [element]
  | phrase _ elements => elements

/-- How many elements a sequence of pieces has. -/
def extent (pieces : List Piece) : Nat := (pieces.flatMap elements).length

/-- Where the phrases of the pieces stand if the first piece begins at index `start`. -/
def spans (start : Nat) : List Piece → List PhraseSpan
  | [] => []
  | single _ :: pieces => spans (start + 1) pieces
  | phrase name elements :: pieces =>
    ⟨name, start, elements.length⟩ :: spans (start + elements.length) pieces

/-- The variant with the given pieces. -/
def layout (pieces : List Piece) : Variant := ⟨pieces.flatMap elements, spans 0 pieces⟩

@[simp] theorem elements_single (element : Element) : (single element).elements = [element] := rfl

@[simp] theorem elements_phrase (name : String) (es : List Element) :
    (phrase name es).elements = es := rfl

@[simp] theorem extent_nil : extent [] = 0 := rfl

@[simp] theorem extent_cons (piece : Piece) (pieces : List Piece) :
    extent (piece :: pieces) = piece.elements.length + extent pieces := by
  simp [extent]

@[simp] theorem extent_append (before after : List Piece) :
    extent (before ++ after) = extent before + extent after := by
  simp [extent]

/-! ## Laying out piece by piece -/

theorem spans_append (start : Nat) (before after : List Piece) :
    spans start (before ++ after) = spans start before ++ spans (start + extent before) after := by
  induction before generalizing start with
  | nil => rfl
  | cons piece before ih =>
    cases piece with
    | single element => simp [spans, ih, Nat.add_assoc]
    | phrase name es => simp [spans, ih, Nat.add_assoc]

theorem layout_append_single (pieces : List Piece) (element : Element) :
    layout (pieces ++ [single element]) = (layout pieces).push element := by
  simp [layout, Variant.push, spans_append, spans]

theorem layout_append_phrase (pieces : List Piece) (name : String) (es : List Element) :
    layout (pieces ++ [phrase name es]) = (layout pieces).expand name es := by
  simp [layout, Variant.expand, spans_append, spans, extent]

/-! ## Where the spans stand -/

theorem bounds_of_mem_spans {start : Nat} {pieces : List Piece} {span : PhraseSpan}
    (h : span ∈ spans start pieces) :
    start ≤ span.start ∧ span.start + span.length ≤ start + extent pieces := by
  induction pieces generalizing start with
  | nil => cases h
  | cons piece pieces ih =>
    cases piece with
    | single element =>
      have := ih h
      simp only [extent_cons, elements_single, List.length_singleton]
      omega
    | phrase name es =>
      simp only [extent_cons, elements_phrase]
      rcases List.mem_cons.1 h with rfl | h
      · exact ⟨le_rfl, by dsimp only; omega⟩
      · have := ih h
        omega

/-- The spans come in order and do not overlap. -/
theorem pairwise_spans (start : Nat) (pieces : List Piece) :
    (spans start pieces).Pairwise fun s t => s.start + s.length ≤ t.start := by
  induction pieces generalizing start with
  | nil => exact .nil
  | cons piece pieces ih =>
    cases piece with
    | single element => exact ih _
    | phrase name es => exact .cons (fun span h => (bounds_of_mem_spans h).1) (ih _)

theorem exists_of_mem_spans {start : Nat} {pieces : List Piece} {span : PhraseSpan}
    (h : span ∈ spans start pieces) :
    ∃ es, phrase span.name es ∈ pieces ∧ span.length = es.length := by
  induction pieces generalizing start with
  | nil => cases h
  | cons piece pieces ih =>
    cases piece with
    | single element =>
      obtain ⟨es, hes, hlength⟩ := ih h
      exact ⟨es, List.mem_cons_of_mem _ hes, hlength⟩
    | phrase name es =>
      rcases List.mem_cons.1 h with rfl | h
      · exact ⟨es, List.mem_cons_self, rfl⟩
      · obtain ⟨es, hes, hlength⟩ := ih h
        exact ⟨es, List.mem_cons_of_mem _ hes, hlength⟩

/-! ## Counting elements -/

/-- The surplus of a sequence of spans. -/
def surplusOf (spans : List PhraseSpan) : Nat := (spans.map PhraseSpan.surplus).sum

theorem surplus_eq (variant : Variant) : variant.surplus = surplusOf variant.spans := by
  obtain ⟨elements, spans⟩ := variant
  induction spans with
  | nil => rfl
  | cons span spans ih =>
    simp only [Variant.surplus, surplusOf, List.foldr_cons, List.map_cons, List.sum_cons] at ih ⊢
    omega

/-- Every piece has an element. -/
def Filled (pieces : List Piece) : Prop := ∀ piece ∈ pieces, piece.elements ≠ []

theorem Filled.tail {piece : Piece} {pieces : List Piece} (h : Filled (piece :: pieces)) :
    Filled pieces := fun p hp => h p (List.mem_cons_of_mem _ hp)

theorem Filled.length_pos {name : String} {es : List Element} {pieces : List Piece}
    (h : Filled (phrase name es :: pieces)) : 0 < es.length :=
  List.length_pos_iff.2 (h _ List.mem_cons_self)

/-- There are as many elements as slots and surplus together. -/
theorem extent_eq {pieces : List Piece} (filled : Filled pieces) (start : Nat) :
    extent pieces = pieces.length + surplusOf (spans start pieces) := by
  induction pieces generalizing start with
  | nil => rfl
  | cons piece pieces ih =>
    cases piece with
    | single element =>
      have := ih filled.tail (start + 1)
      simp only [extent_cons, elements_single, List.length_cons, List.length_nil, spans]
      omega
    | phrase name es =>
      have := ih filled.tail (start + es.length)
      have := filled.length_pos
      simp only [extent_cons, elements_phrase, List.length_cons, spans, surplusOf, List.map_cons,
        List.sum_cons, PhraseSpan.surplus] at this ⊢
      simp only [surplusOf] at *
      omega

/-! ## Finding an element -/

/-- Every element of a layout belongs to a piece. -/
theorem exists_piece {pieces : List Piece} {index : Nat} {element : Element}
    (h : (pieces.flatMap elements)[index]? = some element) :
    ∃ before piece after offset, pieces = before ++ piece :: after ∧
      index = extent before + offset ∧ piece.elements[offset]? = some element := by
  induction pieces generalizing index with
  | nil => simp at h
  | cons piece pieces ih =>
    rw [List.flatMap_cons, List.getElem?_append] at h
    split_ifs at h with hlt
    · exact ⟨[], piece, pieces, index, rfl, by simp, h⟩
    · obtain ⟨before, found, after, offset, rfl, hindex, hfound⟩ := ih h
      refine ⟨piece :: before, found, after, offset, rfl, ?_, hfound⟩
      rw [extent_cons]
      omega

theorem covers_iff (span : PhraseSpan) (index : Nat) :
    span.covers index = true ↔ span.start ≤ index ∧ index < span.start + span.length := by
  simp [PhraseSpan.covers]

theorem find?_covers_eq_none {start index : Nat} {pieces : List Piece}
    (h : index < start ∨ start + extent pieces ≤ index) :
    (spans start pieces).find? (·.covers index) = none := by
  rw [List.find?_eq_none]
  intro span hspan
  have := bounds_of_mem_spans hspan
  rw [covers_iff]
  omega

/-- The span that covers an element is that of the phrase it came from. -/
theorem find?_covers_spans {before after : List Piece} {piece : Piece} {offset : Nat}
    (h : offset < piece.elements.length) :
    (spans 0 (before ++ piece :: after)).find? (·.covers (extent before + offset)) =
      match piece with
      | single _ => none
      | phrase name es => some ⟨name, extent before, es.length⟩ := by
  rw [spans_append, List.find?_append, Nat.zero_add,
    find?_covers_eq_none (.inr (by omega)), Option.none_or]
  cases piece with
  | single element =>
    simp only [elements_single, List.length_singleton] at h
    show (spans (extent before + 1) after).find? _ = none
    exact find?_covers_eq_none (.inl (by omega))
  | phrase name es =>
    refine List.find?_cons_of_pos ((covers_iff _ _).2 ?_)
    exact ⟨by simp, by simpa using h⟩

/-! ## The numbers of slots -/

/-- The phrases among the pieces: the index of the slot, where the first is `first`, and the surplus
of the phrase. -/
def expansions (first : Nat) : List Piece → List (Nat × Nat)
  | [] => []
  | single _ :: pieces => expansions (first + 1) pieces
  | phrase _ elements :: pieces => (first, elements.length - 1) :: expansions (first + 1) pieces

/-- The running subtraction of `PhraseSpan.slots` recovers the indices of the slots. -/
theorem slots_spans {pieces : List Piece} (filled : Filled pieces) (first shift : Nat) :
    PhraseSpan.slots shift (spans (first + shift) pieces) = expansions first pieces := by
  induction pieces generalizing first shift with
  | nil => rfl
  | cons piece pieces ih =>
    cases piece with
    | single element =>
      have := ih filled.tail (first + 1) shift
      rwa [Nat.add_right_comm] at this
    | phrase name es =>
      have hpos := filled.length_pos
      have hstart : first + shift + es.length = first + 1 + (shift + (es.length - 1)) := by omega
      have := ih filled.tail (first + 1) (shift + (es.length - 1))
      simp only [spans, PhraseSpan.slots, PhraseSpan.surplus, expansions, Nat.add_sub_cancel,
        hstart, this]

/-- No subtraction of `PhraseSpan.slots` is cut off at zero. -/
def SlotsExact (shift : Nat) : List PhraseSpan → Prop
  | [] => True
  | span :: spans =>
    shift ≤ span.start ∧ 1 ≤ span.length ∧ SlotsExact (shift + span.surplus) spans

theorem slotsExact_spans {pieces : List Piece} (filled : Filled pieces) (first shift : Nat) :
    SlotsExact shift (spans (first + shift) pieces) := by
  induction pieces generalizing first shift with
  | nil => trivial
  | cons piece pieces ih =>
    cases piece with
    | single element =>
      have := ih filled.tail (first + 1) shift
      rwa [Nat.add_right_comm] at this
    | phrase name es =>
      have hpos := filled.length_pos
      have hstart : first + 1 + (shift + (es.length - 1)) = first + shift + es.length := by omega
      have := ih filled.tail (first + 1) (shift + (es.length - 1))
      rw [hstart] at this
      exact ⟨Nat.le_add_left _ _, hpos, this⟩

theorem first_le_of_mem_expansions {first : Nat} {pieces : List Piece} {slot : Nat × Nat}
    (h : slot ∈ expansions first pieces) : first ≤ slot.1 := by
  induction pieces generalizing first with
  | nil => cases h
  | cons piece pieces ih =>
    cases piece with
    | single element => exact le_of_lt (ih h)
    | phrase name es =>
      rcases List.mem_cons.1 h with rfl | h
      · exact le_rfl
      · exact le_of_lt (ih h)

/-- The surplus of the phrases up to slot `last`. -/
def surplusUpTo (last : Nat) (slots : List (Nat × Nat)) : Nat :=
  (slots.filter fun slot => slot.1 ≤ last).foldr (fun slot n => slot.2 + n) 0

theorem surplusUpTo_eq_zero {last : Nat} {slots : List (Nat × Nat)}
    (h : ∀ slot ∈ slots, last < slot.1) : surplusUpTo last slots = 0 := by
  have : slots.filter (fun slot => slot.1 ≤ last) = [] := by
    rw [List.filter_eq_nil_iff]
    intro slot hslot
    simpa using h slot hslot
  rw [surplusUpTo, this]
  rfl

theorem surplusUpTo_cons (last : Nat) (slot : Nat × Nat) (slots : List (Nat × Nat)) :
    surplusUpTo last (slot :: slots) =
      (if slot.1 ≤ last then slot.2 else 0) + surplusUpTo last slots := by
  by_cases h : slot.1 ≤ last <;> simp [surplusUpTo, h]

/-- The slots from `first` to `last` with their surplus are the elements of so many pieces, where
slots beyond the last piece count as one each. -/
theorem add_surplusUpTo {pieces : List Piece} (filled : Filled pieces) {first last : Nat}
    (h : first ≤ last + 1) :
    last + 1 - first + surplusUpTo last (expansions first pieces) =
      extent (pieces.take (last + 1 - first)) + (last + 1 - first - pieces.length) := by
  induction pieces generalizing first with
  | nil => simp [expansions, surplusUpTo]
  | cons piece pieces ih =>
    -- Either all slots that count have been taken off already, or the next piece is one of them.
    rcases Nat.lt_or_ge last first with hlt | hge
    · have hzero : last + 1 - first = 0 := by omega
      have hnone : surplusUpTo last (expansions first (piece :: pieces)) = 0 :=
        surplusUpTo_eq_zero fun slot hslot =>
          Nat.lt_of_lt_of_le hlt (first_le_of_mem_expansions hslot)
      simp [hzero, hnone]
    · have hsucc : last + 1 - first = last + 1 - (first + 1) + 1 := by omega
      have step := ih filled.tail (show first + 1 ≤ last + 1 by omega)
      rw [hsucc, List.take_succ_cons, extent_cons, List.length_cons]
      cases piece with
      | single element =>
        simp only [expansions, elements_single, List.length_singleton]
        omega
      | phrase name es =>
        have := filled.length_pos
        simp only [expansions, surplusUpTo_cons, if_pos hge, elements_phrase]
        omega

/-- With the surplus of the phrases up to slot `number` its number becomes that of its last
token. -/
theorem add_surplusUpTo_pred {pieces : List Piece} (filled : Filled pieces) {number : Nat}
    (h : 1 ≤ number) :
    number + surplusUpTo (number - 1) (expansions 0 pieces) =
      extent (pieces.take number) + (number - pieces.length) := by
  have hcount := add_surplusUpTo filled (Nat.zero_le (number - 1 + 1))
  have hnumber : number - 1 + 1 - 0 = number := by omega
  rwa [hnumber] at hcount

/-- The number of slot `number` after the expansion is that of its last token, in 32 bits. -/
theorem physicalNumber_spans {pieces : List Piece} (filled : Filled pieces) {number : Nat}
    (h : 1 ≤ number) :
    physicalNumber (PhraseSpan.slots 0 (spans 0 pieces)) number =
      word32 (extent (pieces.take number) + (number - pieces.length)) := by
  have hslots := slots_spans filled 0 0
  rw [Nat.zero_add] at hslots
  rw [hslots, ← add_surplusUpTo_pred filled h]
  rfl

theorem extent_take_le (pieces : List Piece) {m n : Nat} (h : m ≤ n) :
    extent (pieces.take m) ≤ extent (pieces.take n) := by
  obtain ⟨k, rfl⟩ := Nat.exists_eq_add_of_le h
  rw [List.take_add, extent_append]
  exact Nat.le_add_right _ _

end Piece

end GrammarRules
