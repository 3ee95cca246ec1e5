import GrammarRules.Pattern.Marker
import GrammarRules.Pattern.Phrase
import GrammarRules.Proofs.Pattern.Correction
import GrammarRules.Proofs.Result

/-!
# Open patterns and open phrases

`PatternDraft.Holds` ties a pattern in the making to the slots that have been written into it: its
variants are the layouts of all choices, and it has counted the slots.  Each way in which a pattern
grows adds a slot or changes the last one.  Of its variants this says how long they are and where
their spans stand (`Holds.length_elements`, `Holds.regular`).  `PhraseDraft.Sound` says of a phrase
in the making what makes it a phrase when it is complete (`PhraseDraft.Sound.isPhrase`).
-/

namespace GrammarRules

/-! ## Patterns -/

/-- The pattern has these slots, all complete, has counted `pending` more that are not, and has a
marker with the right signs. -/
structure PatternDraft.Holds (draft : PatternDraft) (slots : List Slot) (pending : Nat) :
    Prop where
  variants : draft.variants = Slot.variants slots
  completed : draft.completed = slots.length
  tokenCount : draft.tokenCount = draft.completed + pending
  sound : SoundSlots slots
  fromStart : 0 ≤ draft.marker.fromStart
  fromEnd : draft.marker.fromEnd ≤ 0

theorem signs_of_parseMarker {attributes : Attributes} {position : Position} {marker : MarkerRange}
    (h : parseMarker attributes position = .ok marker) :
    0 ≤ marker.fromStart ∧ marker.fromEnd ≤ 0 := by
  obtain ⟨fromStart, -, h⟩ := exists_of_bind_eq_ok h
  obtain ⟨fromEnd, -, h⟩ := exists_of_bind_eq_ok h
  split_ifs at h with hstart hend
  · cases h
  · cases h
  · cases h
    exact ⟨not_lt.1 hstart, not_lt.1 hend⟩

namespace PatternDraft

variable {draft : PatternDraft} {slots : List Slot} {pending : Nat}

theorem holds_of_ofAttributes {attributes : Attributes} {position : Position}
    (h : PatternDraft.ofAttributes attributes position = .ok draft) : draft.Holds [] 0 := by
  obtain ⟨marker, hmarker, h⟩ := exists_of_bind_eq_ok h
  obtain ⟨hstart, hend⟩ := signs_of_parseMarker hmarker
  cases h
  exact ⟨rfl, rfl, rfl, .nil, hstart, hend⟩

theorem Holds.countToken (h : draft.Holds slots pending) :
    draft.countToken.Holds slots (pending + 1) where
  variants := h.variants
  completed := h.completed
  tokenCount := congrArg (· + 1) h.tokenCount
  sound := h.sound
  fromStart := h.fromStart
  fromEnd := h.fromEnd

theorem Holds.push {element : Element} (h : draft.Holds slots (pending + 1))
    (hslot : (Slot.single element).Sound slots.length) :
    (draft.push element).Holds (slots ++ [.single element]) pending where
  variants := by rw [PatternDraft.push, h.variants, Slot.map_push_variants]
  completed := by rw [PatternDraft.push, h.completed, List.length_append, List.length_singleton]
  tokenCount := h.tokenCount.trans (Nat.add_right_comm draft.completed pending 1)
  sound := h.sound.concat hslot
  fromStart := h.fromStart
  fromEnd := h.fromEnd

theorem Holds.expandPhrase {name : String} {alternatives : Alternatives}
    (h : draft.Holds slots pending) (hphrase : IsPhrase name alternatives) :
    (draft.expandPhrase name alternatives).Holds (slots ++ [.phrase name alternatives])
      pending where
  variants := by rw [PatternDraft.expandPhrase, h.variants, Slot.flatMap_expand_variants]
  completed := by
    rw [PatternDraft.expandPhrase, h.completed, List.length_append, List.length_singleton]
  tokenCount :=
    (congrArg (· + 1) h.tokenCount).trans (Nat.add_right_comm draft.completed pending 1)
  sound := h.sound.concat hphrase
  fromStart := h.fromStart
  fromEnd := h.fromEnd

theorem Holds.closeUnification (h : draft.Holds slots pending) :
    draft.closeUnification.Holds (Slot.closeLast slots) pending where
  variants := by
    rw [PatternDraft.closeUnification, h.variants, Slot.map_closeUnification_variants h.sound.free]
  completed := by rw [PatternDraft.closeUnification, h.completed, Slot.length_closeLast]
  tokenCount := h.tokenCount
  sound := h.sound.closeLast
  fromStart := h.fromStart
  fromEnd := h.fromEnd

end PatternDraft

/-! ## The variants of a pattern -/

/-- The spans of a variant are in order and apart, within its elements and not empty, and an element
has a name exactly if it is in the span of a phrase with this name. -/
structure Variant.Regular (variant : Variant) : Prop where
  ordered : variant.spans.Pairwise fun s t => s.start + s.length ≤ t.start
  inside : ∀ span ∈ variant.spans, span.start + span.length ≤ variant.elements.length
  filled : ∀ span ∈ variant.spans, 1 ≤ span.length
  named : ∀ (index : Nat) (element : Element), variant.elements[index]? = some element →
    ∀ name, element.phrase = some name ↔
      ∃ span ∈ variant.spans, span.covers index = true ∧ span.name = name

/-- No subtraction on the way to the new numbers of a variant is cut off at zero: not those for the
surplus and the slot of a span, and not that of one from a number. -/
structure Variant.Exact (variant : Variant) : Prop where
  slots : Piece.SlotsExact 0 variant.spans
  number_pos : ∀ element ∈ variant.elements, ∀ e ∈ element :: element.andGroup,
    ∀ number, e.tokenRef? = some number → 1 ≤ number

theorem find?_covers_of_mem {spans : List PhraseSpan} {span : PhraseSpan} {index : Nat}
    (ordered : spans.Pairwise fun s t => s.start + s.length ≤ t.start) (h : span ∈ spans)
    (hcovers : span.covers index = true) : spans.find? (·.covers index) = some span := by
  induction spans with
  | nil => cases h
  | cons first rest ih =>
    obtain ⟨hfirst, hrest⟩ := List.pairwise_cons.1 ordered
    rcases List.mem_cons.1 h with rfl | h
    · exact List.find?_cons_of_pos hcovers
    · have hbefore := hfirst span h
      have hindex := (Piece.covers_iff _ _).1 hcovers
      rw [List.find?_cons_of_neg, ih hrest h]
      rw [Piece.covers_iff]
      omega

namespace SoundPieces

variable {pieces : List Piece}

theorem length_pos_of_mem_spans (h : SoundPieces pieces) {span : PhraseSpan}
    (hspan : span ∈ (Piece.layout pieces).spans) : 1 ≤ span.length := by
  obtain ⟨es, hes, hlength⟩ := Piece.exists_of_mem_spans hspan
  rw [hlength]
  exact List.length_pos_iff.2 (h.filled _ hes)

theorem regular (h : SoundPieces pieces) : (Piece.layout pieces).Regular where
  ordered := Piece.pairwise_spans 0 pieces
  inside span hspan := by
    have := (Piece.bounds_of_mem_spans hspan).2
    rwa [Nat.zero_add] at this
  filled _ hspan := h.length_pos_of_mem_spans hspan
  named index element helement name := by
    rw [h.phrase_eq helement, Option.map_eq_some_iff]
    constructor
    · rintro ⟨span, hfind, hname⟩
      have hcovers := List.find?_some hfind
      exact ⟨span, List.mem_of_find?_eq_some hfind, hcovers, hname⟩
    · rintro ⟨span, hspan, hcovers, hname⟩
      exact ⟨span, find?_covers_of_mem (Piece.pairwise_spans 0 pieces) hspan hcovers, hname⟩

theorem exact (h : SoundPieces pieces) : (Piece.layout pieces).Exact where
  slots := Piece.slotsExact_spans h.filled 0 0
  number_pos element helement e he number hnumber := by
    obtain ⟨piece, hpiece, hmem⟩ := List.mem_flatMap.1 helement
    obtain ⟨index, hindex⟩ := List.mem_iff_getElem?.1 hpiece
    have hsound := h index piece hindex
    cases piece with
    | single single =>
      obtain rfl := List.mem_singleton.1 hmem
      exact (hsound.2 e he number hnumber).1
    | phrase name es =>
      obtain ⟨offset, hoffset⟩ := List.mem_iff_getElem?.1 hmem
      have hplain := hsound.2.2 offset element hoffset
      rw [hplain.andGroup, List.mem_singleton] at he
      exact (hplain.refers number (he ▸ hnumber)).1

end SoundPieces

namespace PatternDraft.Holds

variable {draft : PatternDraft} {slots : List Slot} {pending : Nat} {variant : Variant}

/-- A variant is the layout of a choice among the slots. -/
theorem exists_pieces (h : draft.Holds slots pending) (hvariant : variant ∈ draft.variants) :
    ∃ pieces, SoundPieces pieces ∧ pieces.length = draft.completed ∧
      variant = Piece.layout pieces := by
  rw [h.variants] at hvariant
  obtain ⟨pieces, hpieces, rfl⟩ := List.mem_map.1 hvariant
  have hlength := Slot.length_of_mem_choices hpieces
  exact ⟨pieces, h.sound.soundPieces hpieces, hlength.trans h.completed.symm, rfl⟩

/-- The two counters together say how many elements there are. -/
theorem length_elements (h : draft.Holds slots pending) (hvariant : variant ∈ draft.variants) :
    variant.elements.length = draft.completed + variant.surplus := by
  obtain ⟨pieces, hsound, hlength, rfl⟩ := h.exists_pieces hvariant
  rw [Piece.surplus_eq, ← hlength]
  exact Piece.extent_eq hsound.filled 0

theorem regular (h : draft.Holds slots pending) (hvariant : variant ∈ draft.variants) :
    variant.Regular := by
  obtain ⟨pieces, hsound, -, rfl⟩ := h.exists_pieces hvariant
  exact hsound.regular

theorem exact (h : draft.Holds slots pending) (hvariant : variant ∈ draft.variants) :
    variant.Exact := by
  obtain ⟨pieces, hsound, -, rfl⟩ := h.exists_pieces hvariant
  exact hsound.exact

/-- After the correction the elements that 32 bits can count refer to earlier ones only. -/
theorem groupRefersWithin (h : draft.Holds slots pending) (hvariant : variant ∈ draft.variants)
    {index : Nat} (hindex : index ≤ Text.natMax32) {element : Element}
    (helement : (correctReferences variant.elements variant.spans)[index]? = some element) :
    element.GroupRefersWithin index := by
  obtain ⟨pieces, hsound, -, rfl⟩ := h.exists_pieces hvariant
  exact hsound.groupRefersWithin_correctReferences hindex helement

end PatternDraft.Holds

/-! ## Phrases -/

/-- The phrase has no empty alternative, and all its tokens refer backwards. -/
structure PhraseDraft.Sound (draft : PhraseDraft) : Prop where
  included : ∀ es ∈ draft.included, es ≠ [] ∧ Backward es
  written : Backward draft.written

namespace PhraseDraft

variable {draft : PhraseDraft}

theorem Sound.push {element : Element} (h : draft.Sound)
    (helement : element.Plain draft.completed) : (draft.push element).Sound :=
  ⟨h.included, h.written.concat helement⟩

theorem Sound.includeAll {name : String} {alternatives : Alternatives} (h : draft.Sound)
    (hphrase : IsPhrase name alternatives) : (draft.includeAll alternatives).Sound := by
  refine ⟨fun es hes => ?_, h.written⟩
  rcases List.mem_append.1 hes with hes | hes
  · exact h.included es hes
  · exact ⟨hphrase.filled es hes, hphrase.backward es hes⟩

/-- The tokens of a phrase that is complete are those it had, under its name. -/
theorem Sound.isPhrase {position : Position} {alternatives : Alternatives} (h : draft.Sound)
    (halternatives : draft.finish position = .ok alternatives) :
    IsPhrase draft.id alternatives := by
  unfold finish at halternatives
  split_ifs at halternatives with hempty
  · cases halternatives
  · cases halternatives
    have hsource : ∀ es ∈ draft.alternatives, ∃ source, source ≠ [] ∧ Backward source ∧
        es = source.map fun e => { e with phrase := some draft.id } := by
      intro es hes
      obtain ⟨source, hsource, rfl⟩ := List.mem_map.1 hes
      obtain ⟨hmem, hfilled⟩ := List.mem_filter.1 hsource
      refine ⟨source, by simpa using hfilled, ?_, rfl⟩
      rcases List.mem_append.1 hmem with hmem | hmem
      · exact (h.included source hmem).2
      · rw [List.mem_singleton.1 hmem]
        exact h.written
    refine ⟨by simpa using hempty, fun es hes => ?_, fun es hes e he => ?_, fun es hes => ?_⟩
    all_goals obtain ⟨source, hfilled, hbackward, rfl⟩ := hsource es hes
    · simpa using hfilled
    · obtain ⟨original, -, rfl⟩ := List.mem_map.1 he
      rfl
    · intro index e he
      rw [List.getElem?_map] at he
      obtain ⟨original, horiginal, rfl⟩ := Option.map_eq_some_iff.1 he
      have hplain := hbackward index original horiginal
      exact ⟨hplain.andGroup, hplain.unification, hplain.refers⟩

end PhraseDraft

end GrammarRules
