import GrammarRules.Proofs.Document.Sound

/-!
# The rules of a document

The end tag of a rule is the only event that adds rules, and it adds one for every choice among the
slots of the pattern, in lexicographic order (`rules_of_step`).  It does so if the marker fits the
elements of every choice, and otherwise the first that it does not fit is to blame
(`marker_of_run`).  In all rules the references are to earlier tokens (`references_of_run`).
-/

namespace GrammarRules

open ScopeStack

/-! ## Which events add rules -/

section Step

variable {c next : Compiler} {event : Event} {attributes : Attributes} {position : Position}

theorem Opens.rules_eq {tag : Tag} (h : Opens c attributes position tag next) :
    next.rules = c.rules := by
  cases h <;> rfl

theorem Reads.rules_eq {text : String} (h : Reads c text next) : next.rules = c.rules := by
  cases h <;> rfl

theorem Closes.rules_eq (h : Closes c position next)
    (hrule : ∀ draft outer, c.stack ≠ .rule draft :: outer) : next.rules = c.rules := by
  cases h with
  | rule hstack => exact absurd hstack (hrule _ _)
  | _ => rfl

theorem Transition.rules_eq (h : Transition c event next)
    (hrule : ¬ ∃ draft outer name position,
      c.stack = .rule draft :: outer ∧ event = .stop name position) :
    next.rules = c.rules := by
  cases h with
  | ignore => rfl
  | start _ _ _ opens => exact opens.rules_eq
  | text reads => exact reads.rules_eq
  | stop _ _ closes =>
    exact closes.rules_eq fun draft outer hstack => hrule ⟨draft, outer, _, _, hstack, rfl⟩

/-- The end tag of a rule. -/
theorem Compiler.step_stop_rule {draft : RuleDraft} {outer : ScopeStack}
    (h : c.stack = .rule draft :: outer) (position : Position) :
    c.step (.stop Tag.rule.name position) =
      match draft.finish outer.ruleContext position with
      | .ok rules =>
        .accepted { c with
          stack := outer.countRule
          output := { c.output with rules := c.rules ++ rules }
          lastPosition := position }
      | .error error =>
        .refused error { c with stack := outer.countRule, lastPosition := position } := by
  refine (step_stop h position).trans ?_
  unfold Compiler.closeScope Compiler.closeRule Compiler.check
  dsimp only
  cases draft.finish outer.ruleContext position <;> rfl

theorem Compiler.exists_of_stop_rule {draft : RuleDraft} {outer : ScopeStack}
    (h : c.stack = .rule draft :: outer)
    (step : c.step (.stop Tag.rule.name position) = .accepted next) :
    ∃ added, draft.finish (ruleContext outer) position = .ok added ∧
      next.rules = c.rules ++ added := by
  rw [step_stop_rule h] at step
  cases hfinish : draft.finish (ruleContext outer) position with
  | ok added =>
    rw [hfinish] at step
    cases step
    exact ⟨added, rfl, rfl⟩
  | error error =>
    rw [hfinish] at step
    cases step

end Step

/-! ## The rules for the choices -/

/-- The elements are those of the chosen alternatives, slot by slot, with their references
corrected. -/
structure IsChoice (slots : List Slot) (indices : List Nat) (elements : List Element) : Prop where
  length_pick : (Slot.pick slots indices).length = slots.length
  corrected : elements = correctReferences (Piece.layout (Slot.pick slots indices)).elements
    (Piece.layout (Slot.pick slots indices)).spans
  withoutNumbers : elements.map Element.withoutNumbers =
    ((Slot.pick slots indices).flatMap Piece.elements).map Element.withoutNumbers

/-- There is a rule for every way to choose an alternative for each slot, in lexicographic order of
the chosen numbers, and the rules are numbered if there are several. -/
structure IsExpansion (slots : List Slot) (choices : List (List Nat)) (rules : List Rule) :
    Prop where
  ordered : choices.Pairwise (List.Lex (· < ·))
  complete : ∀ indices, indices ∈ choices ↔ List.Forall₂ (· < ·) indices (slots.map Slot.width)
  length_choices : choices.length = (slots.map Slot.width).prod
  length_rules : rules.length = choices.length
  ne_nil : rules ≠ []
  elements : ∀ (index : Nat) (indices : List Nat) (rule : Rule), choices[index]? = some indices →
    rules[index]? = some rule → IsChoice slots indices rule.elements
  variant : ∀ (index : Nat) (rule : Rule), rules[index]? = some rule →
    rule.variant = if (slots.map Slot.width).prod = 1 then none else some (index + 1)

namespace Slot

theorem length_pick {slots : List Slot} {indices : List Nat}
    (h : List.Forall₂ (· < ·) indices (slots.map width)) :
    (pick slots indices).length = slots.length := by
  induction slots generalizing indices with
  | nil => rfl
  | cons slot slots ih =>
    obtain ⟨index, rest, hindex, hrest, rfl⟩ := List.forall₂_cons_right_iff.1 h
    obtain ⟨piece, hpiece⟩ : ∃ piece, slot.pieces[index]? = some piece :=
      ⟨_, List.getElem?_eq_getElem hindex⟩
    rw [pick, hpiece, List.length_append, ih hrest, Option.toList_some, List.length_singleton,
      List.length_cons, Nat.add_comm]

theorem variants_eq (slots : List Slot) :
    variants slots =
      (indexChoices (slots.map width)).map fun indices => Piece.layout (pick slots indices) := by
  rw [variants, choices_eq_map_pick, List.map_map]
  rfl

end Slot

theorem variantNumber_eq {count : Nat} (h : 0 < count) (index : Nat) :
    RuleDraft.variantNumber count index = if count = 1 then none else some (index + 1) := by
  unfold RuleDraft.variantNumber
  by_cases hone : count = 1
  · rw [if_pos hone, if_neg (by omega)]
  · rw [if_neg hone, if_pos (by omega)]

theorem PatternDraft.Holds.length_variants {pattern : PatternDraft} {slots : List Slot}
    {pending : Nat} (holds : pattern.Holds slots pending) :
    pattern.variants.length = (slots.map Slot.width).prod := by
  rw [holds.variants, Slot.variants_eq, List.length_map, Slot.length_indexChoices]

theorem RuleDraft.isExpansion_rulesOf {pattern : PatternDraft} {slots : List Slot}
    (holds : pattern.Holds slots 0) (draft : RuleDraft) (context : RuleContext) :
    IsExpansion slots (Slot.indexChoices (slots.map Slot.width))
      (draft.rulesOf context pattern) := by
  have hpos := holds.sound.prod_width_pos
  have hvariants := holds.variants.trans (Slot.variants_eq slots)
  have hcount := holds.length_variants
  have hlength : (draft.rulesOf context pattern).length = (slots.map Slot.width).prod := by
    rw [rulesOf, List.length_mapIdx, hcount]
  refine ⟨Slot.pairwise_indexChoices _, fun _ => Slot.mem_indexChoices,
    Slot.length_indexChoices _, ?_, ?_, ?_, ?_⟩
  · rw [hlength, Slot.length_indexChoices]
  · exact List.ne_nil_of_length_pos (hlength ▸ hpos)
  · intro index indices rule hindices hrule
    have hvalid := Slot.mem_indexChoices.1 (List.mem_of_getElem? hindices)
    rw [rulesOf, List.getElem?_mapIdx, hvariants, List.getElem?_map, hindices] at hrule
    cases hrule
    exact ⟨Slot.length_pick hvalid, rfl, map_withoutNumbers_correctReferences _ _⟩
  · intro index rule hrule
    rw [rulesOf, List.getElem?_mapIdx] at hrule
    obtain ⟨variant, -, rfl⟩ := Option.map_eq_some_iff.1 hrule
    exact hcount ▸ variantNumber_eq (hcount ▸ hpos) index

/-! ## Runs -/

section Run

variable {options : CompileOptions} {events : List Event} {c : Compiler}

/-- In the rules of a run every reference is to a token before the one that has it, as far as 32
bits are enough to count the tokens. -/
theorem references_of_run
    (run : replay Compiler.step (Compiler.new options) events = .accepted c) :
    ∀ rule ∈ c.rules, ∀ (index : Nat) (element : Element), rule.elements[index]? = some element →
      index ≤ Text.natMax32 →
      ∀ e ∈ element :: element.andGroup, ∀ reference number, e.reference = some reference →
        reference.tokenRef = some number → 1 ≤ number ∧ number ≤ index := by
  intro rule hrule index element helement hindex e he reference number hreference hnumber
  have hsound := (sound_of_run run).2.rules rule hrule
  have htokenRef : e.tokenRef? = some number := by
    rw [Element.tokenRef?, hreference, Option.bind_some, hnumber]
  exact hsound.backward index element helement hindex e he number htokenRef

/-- In the second rule of the sample a member of the group refers to the end of the phrase. -/
theorem references_of_run_sample :
    ∃ c, replay Compiler.step (Compiler.new {}) (sampleEvents ++ [.stop "rule" .unknown]) =
        .accepted c ∧
      ∃ rule ∈ c.rules, ∃ element, rule.elements[3]? = some element ∧
        ∃ e ∈ element :: element.andGroup, ∃ reference number, e.reference = some reference ∧
          reference.tokenRef = some number ∧ 1 ≤ number ∧ number ≤ 3 := by
  have run : replay Compiler.step (Compiler.new {}) (sampleEvents ++ [.stop "rule" .unknown]) =
      .accepted _ := rfl
  have backward := references_of_run run
  exact ⟨_, run, _, .tail _ (.head _), _, rfl, _, .tail _ (.head _), _, _, rfl, rfl,
    backward _ (.tail _ (.head _)) 3 _ rfl (by decide) _ (.tail _ (.head _)) _ _ rfl rfl⟩

/-- The end tag of a rule adds the rules for all choices among the slots of its last pattern, and
no other event adds or changes a rule. -/
theorem rules_of_step {event : Event} {next : Compiler}
    (run : replay Compiler.step (Compiler.new options) events = .accepted c)
    (step : c.step event = .accepted next) :
    (∀ draft outer name position, c.stack = .rule draft :: outer →
      event = .stop name position →
      ∃ choices added, next.rules = c.rules ++ added ∧
        IsExpansion (writtenSlots options events) choices added) ∧
    ((¬ ∃ draft outer name position,
      c.stack = .rule draft :: outer ∧ event = .stop name position) → next.rules = c.rules) := by
  obtain ⟨path, sound⟩ := sound_of_run run
  have htransition := transition_of_step path step
  refine ⟨fun draft outer name position hstack hevent => ?_, htransition.rules_eq⟩
  subst hevent
  cases htransition with
  | stop hscope hname closes =>
    -- A tag is only accepted if it has the name of the innermost element.
    obtain rfl : name = Tag.rule.name := by
      obtain ⟨rfl, -⟩ := List.cons.inj (hstack.symm.trans hscope)
      exact hname.symm
    obtain ⟨added, hfinish, hrules⟩ := Compiler.exists_of_stop_rule hstack step
    obtain ⟨pattern, hpattern⟩ := RuleDraft.exists_pattern_of_finish hfinish
    have holds := sound.holds_rule hstack hpattern
    obtain ⟨-, rfl⟩ := (RuleDraft.finish_eq_ok_iff hpattern holds).1 hfinish
    exact ⟨_, _, hrules, RuleDraft.isExpansion_rulesOf holds draft _⟩

/-- The end tag of the sample adds two rules. -/
theorem rules_of_step_sample :
    ∃ c next, replay Compiler.step (Compiler.new {}) sampleEvents = .accepted c ∧
      c.step (.stop "rule" .unknown) = .accepted next ∧
      ∃ choices added, next.rules = c.rules ++ added ∧ added.length = 2 ∧
        IsExpansion (writtenSlots {} sampleEvents) choices added := by
  have run : replay Compiler.step (Compiler.new {}) sampleEvents = .accepted _ := rfl
  obtain ⟨choices, added, hrules, expansion⟩ :=
    (@rules_of_step _ _ _ (.stop "rule" .unknown) _ run rfl).1 _ _ _ _ rfl rfl
  have hlength : added.length = 2 := expansion.length_rules.trans expansion.length_choices
  exact ⟨_, _, run, rfl, choices, added, hrules, hlength, expansion⟩

/-- The end tag of a rule with a pattern is accepted if the marker fits the elements of every
variant.  Otherwise the first that it does not fit is to blame, and no rule is added.  So the marker
of every rule lies within its elements. -/
theorem marker_of_run
    (run : replay Compiler.step (Compiler.new options) events = .accepted c) :
    (∀ draft outer pattern position, c.stack = .rule draft :: outer →
      draft.pattern = some pattern →
      ((∃ next, c.step (.stop Tag.rule.name position) = .accepted next) ↔
        ∀ variant ∈ pattern.variants, pattern.marker.Fits variant.elements.length) ∧
      ∀ before variant after, pattern.variants = before ++ variant :: after →
        (∀ v ∈ before, pattern.marker.Fits v.elements.length) →
        ¬ pattern.marker.Fits variant.elements.length →
        ∃ refused, c.step (.stop Tag.rule.name position) = .refused
            ⟨pattern.marker.fault pattern.tokenCount variant.elements.length, position⟩ refused ∧
          refused.rules = c.rules) ∧
    ∀ rule ∈ c.rules, rule.elements ≠ [] ∧
      0 ≤ rule.marker.fromStart ∧ rule.marker.fromStart < rule.elements.length ∧
      0 ≤ (rule.elements.length : Int) + rule.marker.fromEnd ∧
      (rule.elements.length : Int) + rule.marker.fromEnd ≤ rule.elements.length := by
  have sound := (sound_of_run run).2
  refine ⟨fun draft outer pattern position hstack hpattern => ?_, fun rule hrule => ?_⟩
  · have holds := sound.holds_rule hstack hpattern
    refine ⟨⟨?_, fun hfits => ?_⟩, fun before variant after hvariants hbefore hvariant => ?_⟩
    · rintro ⟨next, hnext⟩
      obtain ⟨added, hfinish, -⟩ := Compiler.exists_of_stop_rule hstack hnext
      exact ((RuleDraft.finish_eq_ok_iff hpattern holds).1 hfinish).1
    · rw [Compiler.step_stop_rule hstack,
        (RuleDraft.finish_eq_ok_iff hpattern holds).2 ⟨hfits, rfl⟩]
      exact ⟨_, rfl⟩
    · rw [Compiler.step_stop_rule hstack,
        RuleDraft.finish_eq_error hpattern holds hvariants hbefore hvariant]
      exact ⟨_, rfl, rfl⟩
  · have hsound := sound.rules rule hrule
    have hstart := hsound.fromStart_nonneg
    have hlength := hsound.fits.start_lt
    have hpos : 0 < rule.elements.length := by omega
    have hend := hsound.fromEnd_nonpos
    exact ⟨List.ne_nil_of_length_pos hpos, hstart, hlength, hsound.fits.stop_nonneg, by omega⟩

end Run

/-- A second rule, with a marker that fits the longer variant only, is refused as a whole. -/
theorem marker_of_run_sample :
    ∃ c refused, replay Compiler.step (Compiler.new {}) (sampleEvents ++
        .stop "rule" .unknown :: .start "rule" ⟨[("id", "S")]⟩ .unknown :: samplePattern "3") =
        .accepted c ∧
      c.step (.stop "rule" .unknown) =
        .refused ⟨.positionOutOfRange .start 3 3, .unknown⟩ refused ∧
      refused.rules = c.rules ∧ c.rules.length = 2 ∧
      ∀ rule ∈ c.rules, rule.marker.fromStart < rule.elements.length := by
  have run : replay Compiler.step (Compiler.new {}) (sampleEvents ++
      .stop "rule" .unknown :: .start "rule" ⟨[("id", "S")]⟩ .unknown :: samplePattern "3") =
      .accepted _ := rfl
  obtain ⟨hstop, hrules⟩ := marker_of_run run
  obtain ⟨refused, hrefused, hkept⟩ :=
    (hstop _ _ _ .unknown rfl rfl).2 [] _ _ rfl nofun (by decide)
  exact ⟨_, refused, run, hrefused, hkept, rfl, fun rule hrule => (hrules rule hrule).2.2.1⟩

end GrammarRules
