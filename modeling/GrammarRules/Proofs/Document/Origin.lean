import GrammarRules.Proofs.Document.Emission
import Mathlib.Data.List.Induction

/-!
# Where a rule comes from

A rule of a document was added by the end tag of some rule and has been there ever since.
`exists_origin` finds this tag, the state before it and the variant that the rule was made of, so
that what holds of every rule can be shown at the tag that adds it.
-/

namespace GrammarRules

open ScopeStack

/-! ## Runs that go on -/

theorem replay_append {σ : Type} (consume : Consumer σ) (state : σ) (before after : List Event) :
    replay consume state (before ++ after) =
      (replay consume state before).andThen fun state => replay consume state after := by
  induction before generalizing state with
  | nil => rfl
  | cons event before ih =>
    rw [List.cons_append, replay, replay]
    cases consume state event with
    | accepted next => exact ih next
    | refused error next => rfl

theorem exists_of_replay_append {σ : Type} {consume : Consumer σ} {state final : σ}
    {before after : List Event} (run : replay consume state (before ++ after) = .accepted final) :
    ∃ middle, replay consume state before = .accepted middle ∧
      replay consume middle after = .accepted final := by
  rw [replay_append] at run
  cases hbefore : replay consume state before with
  | accepted middle =>
    rw [hbefore] at run
    exact ⟨middle, rfl, run⟩
  | refused error middle =>
    rw [hbefore] at run
    cases run

/-- A run that is refused is refused at one event, and the events before it are accepted. -/
theorem exists_of_replay_eq_refused {σ : Type} {consume : Consumer σ} {state refused : σ}
    {error : RuleError} {events : List Event}
    (run : replay consume state events = .refused error refused) :
    ∃ before event after middle, events = before ++ event :: after ∧
      replay consume state before = .accepted middle ∧
      consume middle event = .refused error refused := by
  induction events generalizing state with
  | nil => cases run
  | cons first events ih =>
    rw [replay] at run
    cases hfirst : consume state first with
    | refused other next =>
      rw [hfirst] at run
      cases run
      exact ⟨[], first, events, state, rfl, rfl, hfirst⟩
    | accepted next =>
      rw [hfirst] at run
      obtain ⟨before, event, after, middle, rfl, hbefore, hevent⟩ := ih run
      refine ⟨first :: before, event, after, middle, rfl, ?_, hevent⟩
      rw [replay, hfirst]
      exact hbefore

/-- A record takes down the events one by one. -/
theorem historyAfter_concat {γ : Type} {note : Compiler → γ → Event → γ}
    {c middle next : Compiler} {events : List Event} {event : Event} (history : γ)
    (run : replay Compiler.step c events = .accepted middle)
    (step : middle.step event = .accepted next) :
    historyAfter note c history (events ++ [event]) =
      note middle (historyAfter note c history events) event := by
  induction events generalizing c history with
  | nil =>
    cases run
    rw [List.nil_append, historyAfter, historyAfter, step]
    rfl
  | cons first events ih =>
    obtain ⟨second, hsecond, run⟩ := replay_cons_eq_accepted run
    rw [List.cons_append, historyAfter, historyAfter, hsecond]
    exact ih _ run

/-- How many rules have been compiled after the events. -/
def ruleCount (options : CompileOptions) (events : List Event) : Nat :=
  (replay Compiler.step (Compiler.new options) events).state.rules.length

theorem ruleCount_eq {options : CompileOptions} {events : List Event} {c : Compiler}
    (run : replay Compiler.step (Compiler.new options) events = .accepted c) :
    ruleCount options events = c.rules.length := by
  rw [ruleCount, run, Outcome.state]

/-- The rule with this index in the document is one of those that the end tag of a rule after the
events `before` adds. -/
structure AddedAfter (options : CompileOptions) (events : List Event) (index : Nat)
    (before : List Event) : Prop where
  count_le : ruleCount options before ≤ index
  exists_stop : ∃ position after, events = before ++ .stop Tag.rule.name position :: after ∧
    index < ruleCount options (before ++ [.stop Tag.rule.name position])

/-! ## Rules and their end tags -/

/-- The end tag that adds a rule, and the rule as one of those for the variants of a pattern. -/
structure RuleOrigin (options : CompileOptions) (events : List Event) (index : Nat)
    (rule : Rule) where
  before : List Event
  compiler : Compiler
  draft : RuleDraft
  outer : ScopeStack
  pattern : PatternDraft
  added : AddedAfter options events index before
  run : replay Compiler.step (Compiler.new options) before = .accepted compiler
  stack : compiler.stack = .rule draft :: outer
  draft_pattern : draft.pattern = some pattern
  holds : pattern.Holds (writtenSlots options before) 0
  getElem? : (draft.rulesOf outer.ruleContext pattern)[index - ruleCount options before]? =
    some rule

section Run

variable {options : CompileOptions} {events : List Event} {c : Compiler}

/-- Rules that are there stay where they are. -/
theorem AddedAfter.concat {index : Nat} {before : List Event}
    (h : AddedAfter options events index before) (event : Event) :
    AddedAfter options (events ++ [event]) index before := by
  obtain ⟨hle, position, after, rfl, hlt⟩ := h
  exact ⟨hle, position, after ++ [event], by simp, hlt⟩

/-- An event adds no rule, or it is the end tag of one and adds the rules for its variants. -/
theorem rules_of_event {event : Event} {next : Compiler}
    (run : replay Compiler.step (Compiler.new options) events = .accepted c)
    (step : c.step event = .accepted next) :
    next.rules = c.rules ∨ ∃ draft outer pattern position, c.stack = .rule draft :: outer ∧
      event = .stop Tag.rule.name position ∧ draft.pattern = some pattern ∧
      pattern.Holds (writtenSlots options events) 0 ∧
      next.rules = c.rules ++ draft.rulesOf (ruleContext outer) pattern := by
  obtain ⟨path, sound⟩ := sound_of_run run
  have transition := transition_of_step path step
  by_cases hstop : ∃ draft outer name position,
      c.stack = .rule draft :: outer ∧ event = .stop name position
  · obtain ⟨draft, outer, name, position, hstack, rfl⟩ := hstop
    cases transition with
    | stop hscope hname closes =>
      obtain rfl : name = Tag.rule.name := by
        obtain ⟨rfl, -⟩ := List.cons.inj (hstack.symm.trans hscope)
        exact hname.symm
      obtain ⟨added, hfinish, hrules⟩ := Compiler.exists_of_stop_rule hstack step
      obtain ⟨pattern, hpattern⟩ := RuleDraft.exists_pattern_of_finish hfinish
      have holds := sound.holds_rule hstack hpattern
      obtain ⟨-, rfl⟩ := (RuleDraft.finish_eq_ok_iff hpattern holds).1 hfinish
      exact .inr ⟨draft, outer, pattern, position, hstack, rfl, hpattern, holds, hrules⟩
  · exact .inl (transition.rules_eq hstop)

/-- Every rule of a document has an origin. -/
theorem exists_origin (run : replay Compiler.step (Compiler.new options) events = .accepted c)
    {index : Nat} {rule : Rule} (hrule : c.rules[index]? = some rule) :
    Nonempty (RuleOrigin options events index rule) := by
  induction events using List.reverseRecOn generalizing c with
  | nil =>
    cases run
    cases hrule
  | append_singleton events event ih =>
    obtain ⟨middle, hmiddle, hlast⟩ := exists_of_replay_append run
    obtain ⟨next, hnext, hend⟩ := replay_cons_eq_accepted hlast
    obtain rfl : next = c := by cases hend; rfl
    have hearlier (hkept : middle.rules[index]? = some rule) :
        Nonempty (RuleOrigin options (events ++ [event]) index rule) := by
      obtain ⟨origin⟩ := ih hmiddle hkept
      exact ⟨{ origin with added := origin.added.concat event }⟩
    rcases rules_of_event hmiddle hnext with
      hrules | ⟨draft, outer, pattern, position, hstack, rfl, hpattern, holds, hrules⟩
    · exact hearlier (hrules ▸ hrule)
    · have hcount := ruleCount_eq hmiddle
      rw [hrules] at hrule
      rcases Nat.lt_or_ge index middle.rules.length with hlt | hge
      · exact hearlier ((List.getElem?_append_left hlt).symm.trans hrule)
      · have hlength : index < ruleCount options (events ++ [.stop Tag.rule.name position]) := by
          rw [ruleCount_eq run, hrules]
          exact (List.getElem?_eq_some_iff.1 hrule).1
        rw [List.getElem?_append_right hge, ← hcount] at hrule
        exact ⟨events, middle, draft, outer, pattern,
          ⟨hcount.le.trans hge, position, [], rfl, hlength⟩, hmiddle, hstack, hpattern, holds,
          hrule⟩

/-- The rule is made of one of the variants of the pattern. -/
theorem RuleOrigin.exists_variant {index : Nat} {rule : Rule}
    (origin : RuleOrigin options events index rule) :
    ∃ variant, origin.pattern.variants[index - ruleCount options origin.before]? = some variant ∧
      rule = origin.draft.ruleOf (ruleContext origin.outer) origin.pattern
        (RuleDraft.variantNumber origin.pattern.variants.length
          (index - ruleCount options origin.before)) variant := by
  have hrule := origin.getElem?
  rw [RuleDraft.rulesOf, List.getElem?_mapIdx] at hrule
  obtain ⟨variant, hvariant, hmade⟩ := Option.map_eq_some_iff.1 hrule
  exact ⟨variant, hvariant, hmade.symm⟩

/-- The elements of the rule are those of one choice among the slots of the pattern. -/
theorem RuleOrigin.exists_choice {index : Nat} {rule : Rule}
    (origin : RuleOrigin options events index rule) :
    ∃ indices, (Slot.indexChoices ((writtenSlots options origin.before).map Slot.width))[index -
        ruleCount options origin.before]? = some indices ∧
      SoundPieces (Slot.pick (writtenSlots options origin.before) indices) ∧
      IsChoice (writtenSlots options origin.before) indices rule.elements := by
  obtain ⟨variant, hvariant, hrule⟩ := origin.exists_variant
  have holds := origin.holds
  rw [holds.variants, Slot.variants_eq, List.getElem?_map] at hvariant
  obtain ⟨indices, hindices, rfl⟩ := Option.map_eq_some_iff.1 hvariant
  have hmem := List.mem_of_getElem? hindices
  have hpieces : Slot.pick (writtenSlots options origin.before) indices ∈
      Slot.choices (writtenSlots options origin.before) := by
    rw [Slot.choices_eq_map_pick]
    exact List.mem_map_of_mem hmem
  have helements := congrArg Rule.elements hrule
  exact ⟨indices, hindices, holds.sound.soundPieces hpieces,
    Slot.length_pick (Slot.mem_indexChoices.1 hmem), helements,
    helements ▸ map_withoutNumbers_correctReferences _ _⟩

end Run

end GrammarRules
