import GrammarRules.Proofs.Document.Sound

/-!
# The bookkeeping of an open pattern

A pattern keeps two counters, one moved by start tags and one by end tags, and every variant keeps
spans beside its elements.  `pattern_bookkeeping` says that after every run they agree with each
other and with the elements, so that nothing is cut off at zero when the references are corrected.
-/

namespace GrammarRules

open ScopeStack

/-- Whether the element stands for a slot that is not complete. -/
def Scope.isSlot : Scope → Bool
  | .token _ | .andGroup _ => true
  | _ => false

namespace ScopeStack

variable {inner outer : ScopeStack} {draft : PatternDraft}

theorem not_mem_of_rulePlace {stack : ScopeStack} (h : RulePlace stack) (draft : PatternDraft) :
    .pattern draft ∉ stack := by
  cases h <;> simp

/-- There is no pattern in a pattern. -/
theorem IsPath.no_pattern_within (path : IsPath (inner ++ .pattern draft :: outer)) :
    ∀ scope ∈ inner, scope.tag? ≠ some .pattern := by
  induction inner with
  | nil => exact List.forall_mem_nil _
  | cons scope inner ih =>
    intro other hother
    rcases List.mem_cons.1 hother with rfl | hother
    · intro htag
      -- A pattern stands in a rule, and there is no pattern around a rule.
      have hmem : Scope.pattern draft ∈ inner ++ .pattern draft :: outer := by simp
      obtain ⟨rule, rest, hrest⟩ := exists_of_fits_in_rule rfl (path.1 .pattern htag)
      have hstack : inner ++ .pattern draft :: outer = .rule rule :: rest := hrest
      have hpath : IsPath (.rule rule :: rest) := hstack ▸ path.tail
      have hplace := rulePlace_of_fits hpath.tail (hpath.1 .rule rfl)
      rw [hstack] at hmem
      rcases List.mem_cons.1 hmem with hmem | hmem
      · cases hmem
      · exact not_mem_of_rulePlace hplace draft hmem
    · exact ih path.tail other hother

/-- An open pattern has counted the slots that are complete and the one that is open, if any. -/
theorem Sound.holds_pattern {slots : List Slot} {pending : Nat}
    (h : Sound (some slots) pending (inner ++ .pattern draft :: outer))
    (hinner : ∀ scope ∈ inner, scope.tag? ≠ some .pattern) :
    draft.Holds slots (if inner.any Scope.isSlot then 1 else pending) := by
  induction inner generalizing pending with
  | nil => exact h.1 slots rfl
  | cons scope inner ih =>
    have hscope := hinner scope List.mem_cons_self
    have hrest := fun s hs => hinner s (List.mem_cons_of_mem _ hs)
    obtain ⟨-, h⟩ := h
    cases scope with
    | pattern => exact absurd rfl hscope
    | token | andGroup =>
      have holds := ih h hrest
      rwa [Scope.pendingBelow, ite_self] at holds
    | _ => exact ih h hrest

end ScopeStack

section Run

variable {options : CompileOptions} {events : List Event} {c : Compiler}

/-- After every run the counters of an open pattern agree with the elements of its variants, and the
spans of the variants with the names of the elements; and for the pattern of a rule that may be
completed all subtractions are exact. -/
theorem pattern_bookkeeping
    (run : replay Compiler.step (Compiler.new options) events = .accepted c) :
    (∀ (inner : ScopeStack) (draft : PatternDraft) (outer : ScopeStack),
      c.stack = inner ++ .pattern draft :: outer →
      draft.tokenCount = draft.completed + (if inner.any Scope.isSlot then 1 else 0) ∧
      ∀ variant ∈ draft.variants,
        variant.elements.length = draft.completed + variant.surplus ∧ variant.Regular ∧
          variant.Exact) ∧
    ∀ (draft : RuleDraft) (outer : ScopeStack) (pattern : PatternDraft),
      c.stack = .rule draft :: outer → draft.pattern = some pattern →
      ∀ variant ∈ pattern.variants, variant.Exact := by
  obtain ⟨path, sound⟩ := sound_of_run run
  refine ⟨fun inner draft outer hstack => ?_, fun draft outer pattern hstack hpattern => ?_⟩
  · have hsound := sound.stack
    rw [hstack] at path hsound
    have holds := hsound.holds_pattern path.no_pattern_within
    exact ⟨holds.tokenCount, fun variant hvariant =>
      ⟨holds.length_elements hvariant, holds.regular hvariant, holds.exact hvariant⟩⟩
  · have holds := sound.holds_rule hstack hpattern
    exact fun variant hvariant => holds.exact hvariant

end Run

/-- The sample with a group open in which a token is open. -/
theorem pattern_bookkeeping_sample :
    ∃ c, replay Compiler.step (Compiler.new {}) (sampleEvents.take 34) = .accepted c ∧
      ∃ inner draft outer, c.stack = inner ++ .pattern draft :: outer ∧
        draft.tokenCount = draft.completed + 1 ∧ draft.variants.length = 2 ∧
        ∀ variant ∈ draft.variants,
          variant.elements.length = draft.completed + variant.surplus ∧ variant.Regular ∧
            variant.Exact := by
  have run : replay Compiler.step (Compiler.new {}) (sampleEvents.take 34) = .accepted _ := rfl
  obtain ⟨hcount, hvariants⟩ := (pattern_bookkeeping run).1 [_, _] _ _ rfl
  exact ⟨_, run, [_, _], _, _, rfl, hcount, rfl, hvariants⟩

end GrammarRules
