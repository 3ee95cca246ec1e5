import GrammarRules.Proofs.Pattern.Sound

/-!
# The correction of references

`correctReferences` gives the elements of a variant new numbers.  It changes nothing but the number
and the text that follows it (`map_withoutNumbers_correctReferences`).  In a layout of sound pieces
a reference between slots becomes the number of the last token of its slot, in 32 bits
(`correctedNumber_single`), and one in a phrase is counted from where the phrase was expanded
(`correctedNumber_phrase`).  So the new numbers are those of earlier tokens wherever 32 bits are
enough to count the tokens (`groupRefersWithin_correctReferences`).
-/

namespace GrammarRules

/-- An element is made up of its fields. -/
theorem Element.eta (e : Element) :
    Element.mk e.text e.caseSensitive e.regexp e.negated e.inflected e.pos e.exceptions
      e.spaceBefore e.skip e.phrase e.reference e.andGroup e.unification = e := by
  cases e
  rfl

theorem Element.correctReference_eq (spans : List PhraseSpan) (index : Nat) {element : Element}
    {reference : Match} {old : Nat} (h : element.reference = some reference)
    (hold : reference.tokenRef = some old) :
    element.correctReference spans index =
      { element with
        reference := some { reference with tokenRef := some (correctedNumber spans index old) }
        text :=
          if correctedNumber spans index old = old then element.text
          else Text.renumberReference element.text old (correctedNumber spans index old) } := by
  unfold correctReference
  rw [h]
  dsimp only
  rw [hold]
  dsimp only
  by_cases heq : correctedNumber spans index old = old
  · rw [if_pos heq, if_pos heq, heq, ← hold, ← h, eta]
  · rw [if_neg heq, if_neg heq]

theorem Element.correctReference_of_eq_none (spans : List PhraseSpan) (index : Nat)
    {element : Element} (h : element.tokenRef? = none) :
    element.correctReference spans index = element := by
  unfold correctReference
  unfold tokenRef? at h
  cases hreference : element.reference with
  | none => rfl
  | some reference =>
    rw [hreference, Option.bind_some] at h
    simp only [h]

/-- The correction sets nothing but the reference and the text. -/
theorem Element.exists_correctReference_eq (spans : List PhraseSpan) (index : Nat)
    (element : Element) :
    ∃ reference text, element.correctReference spans index = { element with reference, text } := by
  cases hnumber : element.tokenRef? with
  | none =>
    refine ⟨element.reference, element.text, ?_⟩
    rw [correctReference_of_eq_none _ _ hnumber, eta]
  | some old =>
    obtain ⟨reference, hreference, hold⟩ := Option.bind_eq_some_iff.1 hnumber
    exact ⟨_, _, correctReference_eq _ _ hreference hold⟩

theorem Element.unification_correctReference (spans : List PhraseSpan) (index : Nat)
    (element : Element) :
    (element.correctReference spans index).unification = element.unification := by
  obtain ⟨reference, text, h⟩ := element.exists_correctReference_eq spans index
  rw [h]

theorem Element.tokenRef?_correctReference (spans : List PhraseSpan) (index : Nat)
    (element : Element) :
    (element.correctReference spans index).tokenRef? =
      element.tokenRef?.map (correctedNumber spans index) := by
  cases hnumber : element.tokenRef? with
  | none => rw [correctReference_of_eq_none _ _ hnumber, hnumber, Option.map_none]
  | some old =>
    obtain ⟨reference, hreference, hold⟩ := Option.bind_eq_some_iff.1 hnumber
    rw [correctReference_eq _ _ hreference hold]
    rfl

/-- The numbers of the element and of the members of its group have 32 bits. -/
def Element.GroupFits (element : Element) : Prop :=
  ∀ e ∈ element :: element.andGroup, ∀ number, e.tokenRef? = some number → number ≤ Text.natMax32

theorem Element.correctReference_nil (index : Nat) {element : Element}
    (h : ∀ number, element.tokenRef? = some number → number ≤ Text.natMax32) :
    element.correctReference [] index = element := by
  cases hnumber : element.tokenRef? with
  | none => exact correctReference_of_eq_none _ _ hnumber
  | some old =>
    obtain ⟨reference, hreference, hold⟩ := Option.bind_eq_some_iff.1 hnumber
    have hsame : correctedNumber [] index old = old := word32_of_le (h old hnumber)
    rw [correctReference_eq _ _ hreference hold, if_pos hsame, hsame, ← hold, ← hreference, eta]

theorem Element.correct_nil (index : Nat) {element : Element} (h : element.GroupFits) :
    element.correct [] index = element := by
  have hmember : ∀ e ∈ element.andGroup, e.correctReference [] index = e := fun e he =>
    correctReference_nil index (h e (List.mem_cons_of_mem _ he))
  have hgroup : element.andGroup.map (·.correctReference [] index) = element.andGroup := by
    rw [List.map_congr_left hmember, List.map_id']
  rw [correct, correctReference_nil index (h element List.mem_cons_self), hgroup, eta]

theorem length_correctReferences (elements : List Element) (spans : List PhraseSpan) :
    (correctReferences elements spans).length = elements.length := by
  unfold correctReferences
  split
  · rfl
  · exact List.length_mapIdx

/-- The correction changes elements one by one, also if there is no phrase. -/
theorem getElem?_correctReferences {elements : List Element} {index : Nat} {element : Element}
    (helement : elements[index]? = some element) (h : element.GroupFits)
    (spans : List PhraseSpan) :
    (correctReferences elements spans)[index]? = some (element.correct spans index) := by
  unfold correctReferences
  split_ifs with hempty
  · obtain rfl := List.isEmpty_iff.1 hempty
    rw [helement, Element.correct_nil index h]
  · rw [List.getElem?_mapIdx, helement, Option.map_some]

theorem correctReferences_eq_mapIdx {elements : List Element} (h : ∀ e ∈ elements, e.GroupFits)
    (spans : List PhraseSpan) :
    correctReferences elements spans = elements.mapIdx fun index e => e.correct spans index := by
  refine List.ext_getElem? fun index => ?_
  rw [List.getElem?_mapIdx]
  cases helement : elements[index]? with
  | none =>
    rw [Option.map_none, List.getElem?_eq_none_iff, length_correctReferences]
    exact List.getElem?_eq_none_iff.1 helement
  | some element =>
    exact getElem?_correctReferences helement (h element (List.mem_of_getElem? helement)) spans

namespace Element

/-- The element without what the correction may change, its number and the text that follows it. -/
def withoutNumber (element : Element) : Element :=
  match element.tokenRef? with
  | none => element
  | some _ =>
    { element with
      text := ""
      reference := element.reference.map fun reference => { reference with tokenRef := none } }

/-- The element and the members of its group without their numbers. -/
def withoutNumbers (element : Element) : Element :=
  { element.withoutNumber with andGroup := element.andGroup.map withoutNumber }

theorem withoutNumber_correctReference (spans : List PhraseSpan) (index : Nat)
    (element : Element) :
    (element.correctReference spans index).withoutNumber = element.withoutNumber := by
  cases hnumber : element.tokenRef? with
  | none => rw [correctReference_of_eq_none _ _ hnumber]
  | some old =>
    have hnew := tokenRef?_correctReference spans index element
    obtain ⟨reference, hreference, hold⟩ := Option.bind_eq_some_iff.1 hnumber
    rw [withoutNumber, hnew, withoutNumber, hnumber, correctReference_eq _ _ hreference hold,
      hreference]
    rfl

theorem withoutNumber_setGroup (element : Element) (group : List Element) :
    ({ element with andGroup := group } : Element).withoutNumber =
      { element.withoutNumber with andGroup := group } := by
  have hsame : ({ element with andGroup := group } : Element).tokenRef? = element.tokenRef? := rfl
  unfold withoutNumber
  rw [hsame]
  cases element.tokenRef? <;> rfl

theorem withoutNumbers_correct (spans : List PhraseSpan) (index : Nat) (element : Element) :
    (element.correct spans index).withoutNumbers = element.withoutNumbers := by
  unfold withoutNumbers correct
  have hgroup : (element.andGroup.map (·.correctReference spans index)).map withoutNumber =
      element.andGroup.map withoutNumber := by
    rw [List.map_map]
    exact List.map_congr_left fun e _ => withoutNumber_correctReference spans index e
  rw [withoutNumber_setGroup, withoutNumber_correctReference, hgroup]

end Element

theorem map_withoutNumbers_correctReferences (elements : List Element) (spans : List PhraseSpan) :
    (correctReferences elements spans).map Element.withoutNumbers =
      elements.map Element.withoutNumbers := by
  unfold correctReferences
  split
  · rfl
  · refine List.ext_getElem? fun index => ?_
    rw [List.getElem?_map, List.getElem?_mapIdx, List.getElem?_map, Option.map_map]
    congr 1
    funext element
    exact element.withoutNumbers_correct spans index

theorem Element.groupRefersWithin_correct {spans : List PhraseSpan} {index : Nat}
    {element : Element}
    (h : ∀ e ∈ element :: element.andGroup, ∀ number, e.tokenRef? = some number →
      1 ≤ correctedNumber spans index number ∧ correctedNumber spans index number ≤ index) :
    (element.correct spans index).GroupRefersWithin index := by
  have hcorrected : ∀ e ∈ element :: element.andGroup,
      (e.correctReference spans index).RefersWithin index := by
    intro e he number hnumber
    rw [tokenRef?_correctReference] at hnumber
    obtain ⟨old, hold, rfl⟩ := Option.map_eq_some_iff.1 hnumber
    exact h e he old hold
  intro e he
  rcases List.mem_cons.1 he with rfl | he
  · exact hcorrected element List.mem_cons_self
  · obtain ⟨member, hmember, rfl⟩ := List.mem_map.1 he
    exact hcorrected member (List.mem_cons_of_mem _ hmember)

/-- Outside of the spans a reference means the last token of its slot. -/
theorem correctedNumber_of_not_covers {spans : List PhraseSpan} {index : Nat}
    (h : ∀ span ∈ spans, span.covers index = false) (number : Nat) :
    correctedNumber spans index number = physicalNumber (PhraseSpan.slots 0 spans) number := by
  have hfind : spans.find? (·.covers index) = none :=
    List.find?_eq_none.2 fun span hspan => Bool.not_eq_true _ ▸ h span hspan
  rw [correctedNumber, hfind]

namespace SoundPieces

variable {before after : List Piece}

/-- A reference between slots becomes the number of the last token of the slot, in 32 bits. -/
theorem correctedNumber_single {element : Element}
    (h : SoundPieces (before ++ .single element :: after)) {number : Nat} (hpos : 1 ≤ number)
    (hle : number ≤ before.length) :
    correctedNumber (Piece.spans 0 (before ++ .single element :: after)) (Piece.extent before)
      number = word32 (Piece.extent (before.take number)) := by
  have hfind : (Piece.spans 0 (before ++ .single element :: after)).find?
      (·.covers (Piece.extent before + 0)) = none := Piece.find?_covers_spans Nat.one_pos
  rw [Nat.add_zero] at hfind
  unfold correctedNumber
  rw [hfind]
  dsimp only
  rw [Piece.physicalNumber_spans h.filled hpos, List.take_append_of_le_length hle,
    List.length_append]
  congr 1
  omega

/-- A reference in a phrase is counted from where the phrase was expanded. -/
theorem correctedNumber_phrase {name : String} {es : List Element} {offset : Nat}
    (hoffset : offset < es.length) (number : Nat) :
    correctedNumber (Piece.spans 0 (before ++ .phrase name es :: after))
      (Piece.extent before + offset) number = word32 (number + Piece.extent before) := by
  unfold correctedNumber
  rw [Piece.find?_covers_spans hoffset]

/-- There is an element for every slot. -/
theorem length_le_extent {pieces : List Piece} (h : Piece.Filled pieces) :
    pieces.length ≤ Piece.extent pieces := by
  rw [Piece.extent_eq h 0]
  exact Nat.le_add_right _ _

/-- What a reference comes to mean is a token before the one that has it. -/
theorem exists_target {piece : Piece} (h : SoundPieces (before ++ piece :: after)) {offset : Nat}
    {original e : Element} (hfound : piece.elements[offset]? = some original)
    (he : e ∈ original :: original.andGroup) {number : Nat} (hnumber : e.tokenRef? = some number) :
    number ≤ Piece.extent before + offset ∧
    ∃ target, 1 ≤ target ∧ target ≤ Piece.extent before + offset ∧
      correctedNumber (Piece.layout (before ++ piece :: after)).spans
        (Piece.extent before + offset) number = word32 target := by
  have hpiece := h.sound
  cases piece with
  | single single =>
    obtain ⟨rfl, rfl⟩ : offset = 0 ∧ single = original := by
      simpa [List.getElem?_singleton] using hfound
    obtain ⟨hpos, hle⟩ := hpiece.2 e he number hnumber
    have hcorrected := h.correctedNumber_single hpos hle
    have hbefore : Piece.Filled before := fun p hp => h.filled p (List.mem_append_left _ hp)
    have htake : (before.take number).length = number := by simpa using hle
    rw [Nat.add_zero, Piece.layout, hcorrected]
    refine ⟨hle.trans (length_le_extent hbefore), _, ?_, ?_, rfl⟩
    · calc 1 ≤ number := hpos
        _ = (before.take number).length := htake.symm
        _ ≤ Piece.extent (before.take number) :=
          length_le_extent fun p hp => hbefore p (List.mem_of_mem_take hp)
    · simpa using Piece.extent_take_le before hle
  | phrase name es =>
    have hlt : offset < es.length := (List.getElem?_eq_some_iff.1 hfound).1
    have hplain := hpiece.2.2 offset original hfound
    rw [hplain.andGroup, List.mem_singleton] at he
    subst he
    obtain ⟨hpos, hle⟩ := hplain.refers number hnumber
    rw [Piece.layout, correctedNumber_phrase hlt]
    exact ⟨by omega, _, by omega, by omega, rfl⟩

/-- After the correction every reference is to a token before the one that has it, as far as 32 bits
are enough to count the tokens. -/
theorem groupRefersWithin_correctReferences {pieces : List Piece} (h : SoundPieces pieces)
    {index : Nat} (hindex : index ≤ Text.natMax32) {element : Element}
    (helement : (correctReferences (Piece.layout pieces).elements
      (Piece.layout pieces).spans)[index]? = some element) :
    element.GroupRefersWithin index := by
  have hlt := (List.getElem?_eq_some_iff.1 helement).1
  rw [length_correctReferences] at hlt
  have horiginal := List.getElem?_eq_getElem hlt
  generalize (Piece.layout pieces).elements[index] = original at horiginal
  obtain ⟨before, piece, after, offset, rfl, rfl, hfound⟩ := Piece.exists_piece horiginal
  have hfits : original.GroupFits := fun e he number hnumber =>
    (h.exists_target hfound he hnumber).1.trans hindex
  rw [getElem?_correctReferences horiginal hfits] at helement
  obtain rfl := Option.some.inj helement
  refine Element.groupRefersWithin_correct fun e he number hnumber => ?_
  obtain ⟨-, target, hpos, hle, hcorrected⟩ := h.exists_target hfound he hnumber
  rw [hcorrected, word32_of_le (hle.trans hindex)]
  exact ⟨hpos, hle⟩

end SoundPieces

end GrammarRules
