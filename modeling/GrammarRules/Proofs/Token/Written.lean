import GrammarRules.Proofs.Pattern.Sound
import GrammarRules.Proofs.Result
import GrammarRules.Token.Draft
import GrammarRules.Token.Reference

/-!
# Tokens as they are written

While the tag of a token is open its element has no phrase, no group and no unification block, and
it refers to a token that is complete, if to any (`Element.Written`).  So it is when the tag begins;
text and exceptions do not change it, and `resolveMatch` refuses every other reference.  When a tag
ends that is accepted, what is left of it is `TokenDraft.written` or `ExceptionDraft.written`.
-/

namespace GrammarRules

/-- A plain element that no phrase has brought along. -/
structure Element.Written (bound : Nat) (element : Element) : Prop
    extends Element.Plain bound element where
  phrase : element.phrase = none

theorem Element.Written.congr {bound : Nat} {element element' : Element}
    (h : element.Written bound) (hphrase : element'.phrase = element.phrase)
    (hgroup : element'.andGroup = element.andGroup)
    (hunification : element'.unification = element.unification)
    (hnumber : element'.tokenRef? = element.tokenRef?) : element'.Written bound where
  phrase := hphrase.trans h.phrase
  andGroup := hgroup.trans h.andGroup
  unification := hunification.trans h.unification
  refers number h' := h.refers number (hnumber ▸ h')

theorem Element.Written.sound_single {bound : Nat} {element : Element}
    (h : element.Written bound) : (Slot.single element).Sound bound := by
  refine ⟨h.phrase, fun e he => ?_⟩
  rw [h.andGroup, List.mem_singleton] at he
  exact he ▸ h.refers

/-- The slot of a group of constraints on one token. -/
theorem Slot.sound_group {bound : Nat} {first : Element} {others : List Element}
    (h : ∀ e ∈ first :: others, e.Written bound) :
    (Slot.single { first with andGroup := others }).Sound bound := by
  refine ⟨(h first List.mem_cons_self).phrase, fun e he => ?_⟩
  rcases List.mem_cons.1 he with rfl | he
  · exact (h first List.mem_cons_self).refers
  · exact (h e (List.mem_cons_of_mem _ he)).refers

/-- A number that is accepted is at least one and has at most 32 bits. -/
theorem bounds_of_referenceNumber {attributes : Attributes} {position : Position} {number : Nat}
    (h : referenceNumber attributes position = .ok number) :
    1 ≤ number ∧ number ≤ Text.natMax32 := by
  unfold referenceNumber at h
  split at h
  · cases h
  · split at h
    · cases h
    · split at h
      · split at h
        · next hbounds =>
          cases h
          exact ⟨Int.toNat_le_toNat hbounds.1, Int.toNat_le_toNat hbounds.2⟩
        · cases h
      · cases h

theorem pos_of_referenceNumber {attributes : Attributes} {position : Position} {number : Nat}
    (h : referenceNumber attributes position = .ok number) : 1 ≤ number :=
  (bounds_of_referenceNumber h).1

/-- A match has the number in its attributes, wherever it stands. -/
theorem tokenRef_of_resolveMatch {attributes : Attributes} {place : MatchPlace}
    {position : Position} {reference : Match}
    (h : resolveMatch attributes place position = .ok reference) :
    ∃ number, referenceNumber attributes position = .ok number ∧
      reference.tokenRef = some number := by
  obtain ⟨number, hnumber, h⟩ := exists_of_bind_eq_ok h
  obtain ⟨_, -, h⟩ := exists_of_bind_eq_ok h
  obtain ⟨caseConversion, -, h⟩ := exists_of_bind_eq_ok h
  obtain ⟨includeSkipped, -, h⟩ := exists_of_bind_eq_ok h
  cases h
  exact ⟨number, hnumber, rfl⟩

/-- A match that a token accepts is one with an earlier token. -/
theorem exists_of_resolveMatch {attributes : Attributes} {completed : Nat} {position : Position}
    {reference : Match}
    (h : resolveMatch attributes (.token completed) position = .ok reference) :
    ∃ number, reference.tokenRef = some number ∧ 1 ≤ number ∧ number ≤ completed := by
  obtain ⟨number, hnumber, h⟩ := exists_of_bind_eq_ok h
  obtain ⟨_, hcheck, h⟩ := exists_of_bind_eq_ok h
  obtain ⟨caseConversion, -, h⟩ := exists_of_bind_eq_ok h
  obtain ⟨includeSkipped, -, h⟩ := exists_of_bind_eq_ok h
  cases h
  refine ⟨number, rfl, pos_of_referenceNumber hnumber, ?_⟩
  unfold MatchPlace.check at hcheck
  dsimp only at hcheck
  split at hcheck
  · cases hcheck
  · omega

namespace TokenDraft

variable {draft : TokenDraft} {bound : Nat}

theorem written_of_ofAttributes {attributes : Attributes} {caseSensitive : Bool}
    {position : Position}
    (h : TokenDraft.ofAttributes attributes caseSensitive position = .ok draft) (bound : Nat) :
    draft.element.Written bound := by
  obtain ⟨skip, -, h⟩ := exists_of_bind_eq_ok h
  split at h
  · cases h
  · cases h
    exact ⟨⟨rfl, rfl, nofun⟩, rfl⟩

theorem written_addText (h : draft.element.Written bound) (text : String) :
    (draft.addText text).element.Written bound := h.congr rfl rfl rfl rfl

theorem written_addException (h : draft.element.Written bound) (exception : TokenException) :
    (draft.addException exception).element.Written bound := h.congr rfl rfl rfl rfl

theorem written_bind (h : draft.element.Written bound) {attributes : Attributes}
    {position : Position} {reference : Match}
    (hreference : resolveMatch attributes (.token bound) position = .ok reference) :
    (draft.bind reference).element.Written bound := by
  obtain ⟨number, hnumber, hpos, hle⟩ := exists_of_resolveMatch hreference
  refine ⟨⟨h.andGroup, h.unification, fun other hother => ?_⟩, h.phrase⟩
  have hsame : (draft.bind reference).element.tokenRef? = some number := hnumber
  obtain rfl := Option.some.inj (hsame.symm.trans hother)
  exact ⟨hpos, hle⟩

/-- The element of a token whose tag ends. -/
def written (draft : TokenDraft) : Element :=
  { draft.element with text := Text.collapse draft.element.text }

theorem written_written (h : draft.element.Written bound) : draft.written.Written bound :=
  h.congr rfl rfl rfl rfl

theorem eq_written_of_finish {options : CompileOptions} {position : Position} {element : Element}
    (h : draft.finish options position = .ok element) : element = draft.written := by
  unfold finish at h
  dsimp only at h
  split at h
  · obtain ⟨_, -, h⟩ := exists_of_bind_eq_ok h
    obtain ⟨_, -, h⟩ := exists_of_bind_eq_ok h
    cases h
    rfl
  · obtain ⟨_, -, h⟩ := exists_of_bind_eq_ok h
    cases h
    rfl

end TokenDraft

/-! ## The end of an exception -/

namespace ExceptionDraft

/-- The exception whose tag ends.  Without text it looks at the part of speech alone. -/
def written (draft : ExceptionDraft) : TokenException :=
  { draft.spec with
    text := if Text.collapse draft.text = "" then none else some (Text.collapse draft.text) }

theorem eq_written_of_finish {options : CompileOptions} {draft : ExceptionDraft}
    {position : Position} {exception : TokenException}
    (h : draft.finish options position = .ok exception) : exception = draft.written := by
  unfold finish at h
  dsimp only at h
  split at h
  · obtain ⟨_, -, h⟩ := exists_of_bind_eq_ok h
    obtain ⟨_, -, h⟩ := exists_of_bind_eq_ok h
    cases h
    simp only [written, beq_iff_eq]
  · obtain ⟨_, -, h⟩ := exists_of_bind_eq_ok h
    cases h
    simp only [written, beq_iff_eq]

end ExceptionDraft

end GrammarRules
