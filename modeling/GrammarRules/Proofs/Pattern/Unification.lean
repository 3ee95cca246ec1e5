import GrammarRules.Proofs.Pattern.Script
import GrammarRules.Proofs.Table
import Mathlib.Data.List.Induction

/-!
# Unification blocks as the author wrote them

A `PatternPart` is what stands at one place of a pattern as far as unification goes: a token outside
of all blocks, a phrase, or a whole block, with the features that were listed before each of its
tokens.  `PatternPart.marks` says what the elements of its slots carry.  Slots with these marks have
elements that carry them under every choice, and still do so after the correction of references
(`carries_pick`, `carries_correctReferences`).  The end of a block turns the marks of its tokens
into those of a whole block and changes nothing if there is no token in it (`closeLast_marks`).
-/

namespace GrammarRules

/-- The features of a block with the types that are listed for each, in the order of their tags. -/
abbrev Features := List (String × List String)

/-- What stands at one place of a pattern. -/
inductive PatternPart where
  /-- A token, or a group of constraints on one token, outside of all blocks. -/
  | single
  /-- A phrase, by the number of tokens in each of its alternatives. -/
  | phrase (lengths : List Nat)
  /-- A block, by the features that were listed before each of its tokens and groups. -/
  | block (members : List Features)

/-- What the elements of a slot carry. -/
inductive SlotMark where
  | single (unification : Option Unification)
  /-- The elements of a phrase carry nothing. -/
  | phrase (lengths : List Nat)

/-! ## Marks -/

namespace SlotMark

/-- What the elements of each alternative carry. -/
def rows : SlotMark → List (List (Option Unification))
  | single unification => [[unification]]
  | phrase lengths => lengths.map fun length => List.replicate length none

/-- How many alternatives there are. -/
def width (mark : SlotMark) : Nat := mark.rows.length

/-- What the elements of the alternatives with the given numbers carry, slot by slot. -/
def pick : List SlotMark → List Nat → List (Option Unification)
  | mark :: marks, index :: indices => mark.rows[index]?.getD [] ++ pick marks indices
  | _, _ => []

/-- The mark of a token in a block that has not ended. -/
def within (features : Features) : SlotMark :=
  single (some { features := Table.ofList features })

/-- The marks of the tokens of a block.  The block ends with the last of them. -/
def ofBlock : List Features → List SlotMark
  | [] => []
  | features :: rest =>
    single (some { features := Table.ofList features, last := rest.isEmpty }) :: ofBlock rest

/-- The mark when a block ends with the slot. -/
def close : SlotMark → SlotMark
  | single unification => single (unification.map fun u => { u with last := true })
  | mark => mark

/-- The marks when a block ends with the last of them. -/
def closeLast (marks : List SlotMark) : List SlotMark :=
  marks.dropLast ++ marks.getLast?.toList.map close

theorem closeLast_concat (marks : List SlotMark) (mark : SlotMark) :
    closeLast (marks ++ [mark]) = marks ++ [mark.close] := by
  simp [closeLast]

theorem ofBlock_concat (members : List Features) (features : Features) :
    ofBlock (members ++ [features]) = members.map within ++ [(within features).close] := by
  induction members with
  | nil => rfl
  | cons first members ih =>
    rw [List.cons_append, ofBlock, ih, List.isEmpty_eq_false_iff.2 (by simp)]
    rfl

theorem mem_ofBlock {members : List Features} {unification : Unification}
    (h : single (some unification) ∈ ofBlock members) :
    ∃ features ∈ members, unification.features = Table.ofList features := by
  induction members with
  | nil => cases h
  | cons first members ih =>
    rcases List.mem_cons.1 h with hfirst | hrest
    · cases hfirst
      exact ⟨first, List.mem_cons_self, rfl⟩
    · obtain ⟨features, hfeatures, heq⟩ := ih hrest
      exact ⟨features, List.mem_cons_of_mem _ hfeatures, heq⟩

end SlotMark

namespace PatternPart

open SlotMark

/-- The marks of the slots of the part. -/
def marks : PatternPart → List SlotMark
  | single => [.single none]
  | phrase lengths => [.phrase lengths]
  | block members => ofBlock members

/-- The names of the features that are listed in the part. -/
def names : PatternPart → List String
  | block members => members.flatMap fun features => features.map Prod.fst
  | _ => []

/-- A block that ends with a whole part changes no mark. -/
theorem closeLast_flatMap_marks (parts : List PatternPart) :
    closeLast (parts.flatMap marks) = parts.flatMap marks := by
  induction parts using List.reverseRecOn with
  | nil => rfl
  | append_singleton parts part ih =>
    rw [List.flatMap_append, List.flatMap_singleton]
    cases part with
    | single | phrase => exact closeLast_concat _ _
    | block members =>
      rcases List.eq_nil_or_concat' members with rfl | ⟨init, last, rfl⟩
      · rwa [marks, ofBlock, List.append_nil]
      · rw [marks, ofBlock_concat, ← List.append_assoc, closeLast_concat]
        rfl

/-- The end of a block makes a part of its tokens. -/
theorem closeLast_marks (parts : List PatternPart) (members : List Features) :
    closeLast (parts.flatMap marks ++ members.map within) =
      (parts ++ [block members]).flatMap marks := by
  rw [List.flatMap_append, List.flatMap_singleton, marks]
  rcases List.eq_nil_or_concat' members with rfl | ⟨init, last, rfl⟩
  · rw [List.map_nil, ofBlock, List.append_nil, closeLast_flatMap_marks]
  · rw [List.map_append, List.map_singleton, ← List.append_assoc, closeLast_concat, ofBlock_concat,
      List.append_assoc]

end PatternPart

/-! ## Marks and elements -/

/-- The element carries this, and the members of its group carry nothing. -/
structure Carries (unification : Option Unification) (element : Element) : Prop where
  unification_eq : element.unification = unification
  members : ∀ member ∈ element.andGroup, member.unification = none

/-- The elements of the slot carry its mark. -/
inductive SlotMark.Marks : SlotMark → Slot → Prop
  | single {unification : Option Unification} {element : Element}
      (h : Carries unification element) : Marks (.single unification) (.single element)
  | phrase {name : String} {alternatives : Alternatives}
      (h : ∀ es ∈ alternatives, ∀ e ∈ es, Carries none e) :
      Marks (.phrase (alternatives.map List.length)) (.phrase name alternatives)

namespace SlotMark

variable {marks : List SlotMark} {slots : List Slot}

theorem Marks.rows {mark : SlotMark} {slot : Slot} (h : mark.Marks slot) :
    List.Forall₂ (fun row piece => List.Forall₂ Carries row piece.elements) mark.rows
      slot.pieces := by
  cases h with
  | single h => exact .cons (.cons h .nil) .nil
  | @phrase name alternatives h =>
    rw [SlotMark.rows, Slot.pieces, List.map_map, List.forall₂_map_left_iff,
      List.forall₂_map_right_iff, List.forall₂_same]
    intro es hes
    refine List.forall₂_iff_get.2 ⟨List.length_replicate, fun index hindex hindex' => ?_⟩
    simpa using h es hes _ (List.getElem_mem hindex')

theorem Marks.row {mark : SlotMark} {slot : Slot} (h : mark.Marks slot) (index : Nat) :
    List.Forall₂ Carries (mark.rows[index]?.getD [])
      (slot.pieces[index]?.toList.flatMap Piece.elements) := by
  have hrow := forall₂_getElem? h.rows index
  revert hrow
  cases mark.rows[index]? <;> cases slot.pieces[index]? <;> simp

theorem map_width_eq (h : List.Forall₂ Marks marks slots) :
    marks.map width = slots.map Slot.width := by
  induction h with
  | nil => rfl
  | cons hslot hslots ih =>
    rw [List.map_cons, List.map_cons, ih, width, hslot.rows.length_eq, Slot.width]

/-- The elements of every choice carry the marks. -/
theorem carries_pick (h : List.Forall₂ Marks marks slots) (indices : List Nat) :
    List.Forall₂ Carries (pick marks indices)
      ((Slot.pick slots indices).flatMap Piece.elements) := by
  induction h generalizing indices with
  | nil => exact .nil
  | @cons mark slot marks slots hslot hslots ih =>
    cases indices with
    | nil => exact .nil
    | cons index indices =>
      rw [pick, Slot.pick, List.flatMap_append]
      exact List.rel_append (hslot.row index) (ih indices)

/-- Only the element of a token or a group carries something. -/
theorem eq_single_of_mem_rows {mark : SlotMark} {row : List (Option Unification)}
    (hrow : row ∈ mark.rows) {unification : Unification} (h : some unification ∈ row) :
    mark = single (some unification) := by
  cases mark with
  | single found =>
    obtain rfl := List.mem_singleton.1 hrow
    rw [List.mem_singleton.1 h]
  | phrase lengths =>
    obtain ⟨length, -, rfl⟩ := List.mem_map.1 hrow
    cases List.eq_of_mem_replicate h

/-- What elements carry is what they are marked with. -/
theorem mem_of_mem_pick {unification : Unification} {indices : List Nat}
    (h : some unification ∈ pick marks indices) : single (some unification) ∈ marks := by
  induction marks generalizing indices with
  | nil => cases h
  | cons mark marks ih =>
    cases indices with
    | nil => cases h
    | cons index indices =>
      rcases List.mem_append.1 h with hrow | hrest
      · cases hfound : mark.rows[index]? with
        | none =>
          rw [hfound] at hrow
          cases hrow
        | some row =>
          rw [hfound] at hrow
          rw [← eq_single_of_mem_rows (List.mem_of_getElem? hfound) hrow]
          exact List.mem_cons_self
      · exact List.mem_cons_of_mem _ (ih hrest)

/-! ### The end of a block -/

theorem Marks.close {mark : SlotMark} {slot : Slot} (h : mark.Marks slot) :
    mark.close.Marks slot.close := by
  cases h with
  | single h => exact .single ⟨by rw [← h.unification_eq]; rfl, h.members⟩
  | phrase h => exact .phrase h

theorem marks_closeLast (h : List.Forall₂ Marks marks slots) :
    List.Forall₂ Marks (closeLast marks) (Slot.closeLast slots) := by
  rcases List.eq_nil_or_concat' slots with rfl | ⟨init, last, rfl⟩
  · cases h
    exact .nil
  · obtain ⟨init', last', rfl, hinit, hlast⟩ := exists_of_forall₂_concat h
    rw [closeLast_concat, Slot.closeLast_concat]
    exact List.rel_append hinit (.cons hlast.close .nil)

/-- A slot changes at the end of a block only if its mark does. -/
theorem Marks.close_eq {mark : SlotMark} {slot : Slot} (h : mark.Marks slot)
    (hmark : mark.close = mark) : slot.close = slot := by
  cases h with
  | @single unification element h =>
    have hunification := SlotMark.single.inj hmark
    rw [← h.unification_eq] at hunification
    rw [Slot.close, Element.closeUnification, hunification, Element.eta]
  | phrase h => rfl

theorem closeLast_eq (h : List.Forall₂ Marks marks slots) (hmarks : closeLast marks = marks) :
    Slot.closeLast slots = slots := by
  rcases List.eq_nil_or_concat' slots with rfl | ⟨init, last, rfl⟩
  · rfl
  · obtain ⟨init', last', rfl, -, hlast⟩ := exists_of_forall₂_concat h
    rw [closeLast_concat, List.append_right_inj, List.singleton_inj] at hmarks
    rw [Slot.closeLast_concat, hlast.close_eq hmarks]

end SlotMark

/-! ## The correction of references -/

theorem carries_correct {unification : Option Unification} {element : Element}
    (h : Carries unification element) (spans : List PhraseSpan) (index : Nat) :
    Carries unification (element.correct spans index) := by
  refine ⟨?_, fun member hmember => ?_⟩
  · exact (element.unification_correctReference spans index).trans h.unification_eq
  · obtain ⟨original, horiginal, rfl⟩ := List.mem_map.1 hmember
    exact (original.unification_correctReference spans index).trans (h.members original horiginal)

theorem carries_correctReferences {unifications : List (Option Unification)}
    {elements : List Element} (h : List.Forall₂ Carries unifications elements)
    (spans : List PhraseSpan) :
    List.Forall₂ Carries unifications (correctReferences elements spans) := by
  unfold correctReferences
  split
  · exact h
  · exact forall₂_mapIdx h fun index _ _ _ hcarries => carries_correct hcarries spans index

end GrammarRules
