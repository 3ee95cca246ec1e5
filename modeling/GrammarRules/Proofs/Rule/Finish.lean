import GrammarRules.Proofs.Pattern.Open
import GrammarRules.Rule.Draft

/-!
# What a complete rule amounts to

`RuleDraft.finish_eq` says what becomes of a rule whose pattern holds its slots: if the marker fits
the elements of every variant there is one rule for each, and otherwise the first variant that it
does not fit is to blame.  The number of elements is never looked at by `checkMarker`, which goes by
the counters of the pattern.  All rules that come of it are sound (`sound_of_mem_rulesOf`).
-/

namespace GrammarRules

/-! ## Markers -/

/-- The marker begins at one of `length` elements, and leaves out no more than these at the end. -/
structure MarkerRange.Fits (marker : MarkerRange) (length : Nat) : Prop where
  start_lt : marker.fromStart < length
  stop_nonneg : 0 ≤ (length : Int) + marker.fromEnd

instance (marker : MarkerRange) (length : Nat) : Decidable (marker.Fits length) :=
  decidable_of_iff (marker.fromStart < length ∧ 0 ≤ (length : Int) + marker.fromEnd)
    ⟨fun h => ⟨h.1, h.2⟩, fun h => ⟨h.1, h.2⟩⟩

/-- Why a marker does not fit; if it fits at neither end, the start is named. -/
def MarkerRange.fault (marker : MarkerRange) (tokenCount length : Nat) : Cause :=
  if marker.fromStart < length then .positionOutOfRange .stop marker.fromEnd tokenCount
  else .positionOutOfRange .start marker.fromStart tokenCount

theorem checkMarker_eq {tokenCount surplus length : Nat} (h : length = tokenCount + surplus)
    (marker : MarkerRange) (position : Position) :
    checkMarker tokenCount surplus marker position =
      if marker.Fits length then .ok () else .error ⟨marker.fault tokenCount length, position⟩ := by
  have htotal : ((tokenCount : Int) + surplus) = length := by omega
  unfold checkMarker MarkerRange.fault
  rw [htotal]
  dsimp only
  by_cases hstart : marker.fromStart < length
  · rw [if_neg (not_le.2 hstart), if_pos hstart]
    by_cases hstop : (length : Int) + marker.fromEnd < 0
    · rw [if_pos hstop, if_neg fun fits => not_lt.2 fits.stop_nonneg hstop]
      rfl
    · rw [if_neg hstop, if_pos ⟨hstart, not_lt.1 hstop⟩]
  · rw [if_pos (not_lt.1 hstart), if_neg hstart, if_neg fun fits => hstart fits.start_lt]
    rfl

/-! ## Rules -/

/-- The rule refers backwards, and its marker lies within its elements. -/
structure Rule.Sound (rule : Rule) : Prop where
  backward : ∀ (index : Nat) (element : Element), rule.elements[index]? = some element →
    index ≤ Text.natMax32 → element.GroupRefersWithin index
  fromStart_nonneg : 0 ≤ rule.marker.fromStart
  fromEnd_nonpos : rule.marker.fromEnd ≤ 0
  fits : rule.marker.Fits rule.elements.length

namespace RuleDraft

/-- The rules for the variants of a pattern, numbered if there are several. -/
def rulesOf (draft : RuleDraft) (context : RuleContext) (pattern : PatternDraft) : List Rule :=
  pattern.variants.mapIdx fun index variant =>
    draft.ruleOf context pattern (variantNumber pattern.variants.length index) variant

variable {draft : RuleDraft} {pattern : PatternDraft} {slots : List Slot}

theorem finish_eq (hpattern : draft.pattern = some pattern) (holds : pattern.Holds slots 0)
    (context : RuleContext) (position : Position) :
    draft.finish context position =
      match pattern.variants.find? fun v => !decide (pattern.marker.Fits v.elements.length) with
      | none => .ok (draft.rulesOf context pattern)
      | some variant =>
        .error ⟨pattern.marker.fault pattern.tokenCount variant.elements.length, position⟩ := by
  have hcheck : ∀ v ∈ pattern.variants,
      checkMarker pattern.tokenCount v.surplus pattern.marker position =
        if decide (pattern.marker.Fits v.elements.length) then .ok ()
        else .error ⟨pattern.marker.fault pattern.tokenCount v.elements.length, position⟩ := by
    intro v hv
    have hlength : v.elements.length = pattern.tokenCount + v.surplus := by
      rw [holds.tokenCount, Nat.add_zero, holds.length_elements hv]
    simp only [checkMarker_eq hlength, decide_eq_true_eq]
  unfold finish
  rw [hpattern]
  dsimp only
  rw [forM_eq_find? _ hcheck]
  cases pattern.variants.find? fun v => !decide (pattern.marker.Fits v.elements.length) <;> rfl

/-- The rules are complete if the marker fits every variant, and only then. -/
theorem finish_eq_ok_iff (hpattern : draft.pattern = some pattern)
    (holds : pattern.Holds slots 0) {context : RuleContext} {position : Position}
    {rules : List Rule} :
    draft.finish context position = .ok rules ↔
      (∀ v ∈ pattern.variants, pattern.marker.Fits v.elements.length) ∧
        rules = draft.rulesOf context pattern := by
  rw [finish_eq hpattern holds]
  cases hfind : pattern.variants.find? fun v =>
      !decide (pattern.marker.Fits v.elements.length) with
  | none =>
    have hfits : ∀ v ∈ pattern.variants, pattern.marker.Fits v.elements.length := by
      simpa using List.find?_eq_none.1 hfind
    constructor
    · intro h
      exact ⟨hfits, (Except.ok.inj h).symm⟩
    · rintro ⟨-, rfl⟩
      rfl
  | some variant =>
    have hfault := List.find?_some hfind
    constructor
    · intro h
      cases h
    · rintro ⟨hfits, -⟩
      have := hfits variant (List.mem_of_find?_eq_some hfind)
      simp [this] at hfault

/-- The first variant that the marker does not fit is to blame. -/
theorem finish_eq_error (hpattern : draft.pattern = some pattern)
    (holds : pattern.Holds slots 0) {before after : List Variant} {variant : Variant}
    (hvariants : pattern.variants = before ++ variant :: after)
    (hbefore : ∀ v ∈ before, pattern.marker.Fits v.elements.length)
    (hvariant : ¬ pattern.marker.Fits variant.elements.length) (context : RuleContext)
    (position : Position) :
    draft.finish context position =
      .error ⟨pattern.marker.fault pattern.tokenCount variant.elements.length, position⟩ := by
  have hfind : pattern.variants.find? (fun v =>
      !decide (pattern.marker.Fits v.elements.length)) = some variant := by
    rw [List.find?_eq_some_iff_append]
    exact ⟨by simpa using hvariant, before, after, hvariants, by simpa using hbefore⟩
  rw [finish_eq hpattern holds, hfind]

theorem sound_of_mem_rulesOf (holds : pattern.Holds slots 0)
    (hfits : ∀ v ∈ pattern.variants, pattern.marker.Fits v.elements.length)
    {context : RuleContext} {rule : Rule} (h : rule ∈ draft.rulesOf context pattern) :
    rule.Sound := by
  obtain ⟨index, hindex, rfl⟩ := List.mem_mapIdx.1 h
  have hmem : pattern.variants[index] ∈ pattern.variants := List.getElem_mem hindex
  refine ⟨fun i element helement hi => holds.groupRefersWithin hmem hi helement, holds.fromStart,
    holds.fromEnd, ?_⟩
  show pattern.marker.Fits (correctReferences _ _).length
  rw [length_correctReferences]
  exact hfits _ hmem

/-- A rule that is complete had a pattern. -/
theorem exists_pattern_of_finish {context : RuleContext} {position : Position} {rules : List Rule}
    (h : draft.finish context position = .ok rules) : ∃ pattern, draft.pattern = some pattern := by
  unfold finish at h
  cases hpattern : draft.pattern with
  | none =>
    rw [hpattern] at h
    cases h
  | some pattern => exact ⟨pattern, rfl⟩

end RuleDraft

end GrammarRules
