import GrammarRules.Proofs.Document.Refusal

/-!
# The states that can be reached

`Compiler.Reachable` are the states that any events lead to, refused ones included.  In all of them
the open elements are a path of the grammar, since a refused event takes off the innermost element
at most (`leaves_of_step`), and every pattern has a variant, since every phrase has an alternative
(`Compiler.Yields`).  So a rule that is complete adds at least one rule.
-/

namespace GrammarRules

open ScopeStack

/-! ## Refused events -/

/-- What a refused event leaves of a state, after its position has been noted. -/
inductive Leaves (c : Compiler) : Compiler → Prop
  | same : Leaves c c
  | popped {scope : Scope} {outer : ScopeStack} (h : c.stack = scope :: outer) :
      Leaves c { c with stack := outer }
  /-- A rule is counted in its group. -/
  | counted {scope : Scope} {outer : ScopeStack} (h : c.stack = scope :: outer) :
      Leaves c { c with stack := outer.countRule }

theorem leaves_of_step {c refused : Compiler} {event : Event} {error : RuleError}
    (h : c.step event = .refused error refused) : Leaves (c.moved event.position) refused := by
  cases event with
  | start name attributes position =>
    obtain ⟨-, -, rfl⟩ :=
      (c.moved position).refusesAt_start attributes position name error refused h
    exact .same
  | text text position =>
    obtain ⟨-, -, rfl⟩ := (c.moved position).refusesAt_text position text error refused h
    exact .same
  | stop name position =>
    cases hstack : c.stack with
    | nil =>
      rw [Compiler.step_stop_nil hstack] at h
      cases h
      exact .same
    | cons scope outer =>
      by_cases hname : scope.name = name
      · subst hname
        rw [Compiler.step_stop hstack] at h
        obtain ⟨-, -, rfl⟩ := Compiler.refusesAt_closeScope _ scope position error refused h
        cases scope with
        | rule draft => exact .counted hstack
        | _ => exact .popped hstack
      · rw [Compiler.step_stop_of_ne hstack hname] at h
        cases h
        exact .popped hstack

theorem Leaves.isPath {c left : Compiler} (path : c.stack.IsPath) (h : Leaves c left) :
    left.stack.IsPath := by
  cases h with
  | same => exact path
  | popped hstack =>
    rw [hstack] at path
    exact path.tail
  | counted hstack =>
    rw [hstack] at path
    exact path.tail.congr (kinds_countRule _)

/-! ## Reachable states -/

/-- The states that events lead to. -/
inductive Compiler.Reachable (options : CompileOptions) : Compiler → Prop
  | new : Reachable options (Compiler.new options)
  | step {c : Compiler} (h : Reachable options c) (event : Event) :
      Reachable options (c.step event).state

/-- What holds at first, is kept by every transition and is left by every refused event holds of all
states that can be reached. -/
theorem Compiler.Reachable.induction {options : CompileOptions} {P : Compiler → Prop}
    (new : P (Compiler.new options))
    (keep : ∀ {c : Compiler} {event : Event} {next : Compiler}, c.stack.IsPath → P c →
      Transition (c.moved event.position) event next → P next)
    (leave : ∀ {c : Compiler} {position : Position} {left : Compiler}, P c →
      Leaves (c.moved position) left → P left)
    {c : Compiler} (h : c.Reachable options) : c.stack.IsPath ∧ P c := by
  induction h with
  | new => exact ⟨trivial, new⟩
  | @step c _ event ih =>
    obtain ⟨path, hc⟩ := ih
    cases hstep : c.step event with
    | accepted next =>
      exact ⟨isPath_of_step path hstep, keep path hc (transition_of_step path hstep)⟩
    | refused error left =>
      have leaves := leaves_of_step hstep
      have moved : (c.moved event.position).stack.IsPath := path
      exact ⟨leaves.isPath moved, leave hc leaves⟩

/-! ## Every pattern has a variant -/

/-- A pattern has a variant, whether it is open or waits for its rule. -/
def Scope.Yields : Scope → Prop
  | .pattern draft => draft.variants ≠ []
  | .rule draft => ∀ pattern ∈ draft.pattern, pattern.variants ≠ []
  | _ => True

/-- Every pattern has a variant, and every phrase an alternative. -/
structure Compiler.Yields (c : Compiler) : Prop where
  scopes : ∀ scope ∈ c.stack, scope.Yields
  phrases : ∀ entry ∈ c.phrases.entries, entry.2 ≠ []

namespace ScopeStack

theorem yields_seat {block : Option (Table (List String))} {pattern : PatternDraft}
    {outer : ScopeStack} :
    (∀ scope ∈ seat block pattern outer, scope.Yields) ↔
      pattern.variants ≠ [] ∧ ∀ scope ∈ outer, scope.Yields := by
  cases block <;> simp [seat, Scope.Yields]

theorem yields_messageStack (inSuggestion : Bool) {rule : RuleDraft} {outer : ScopeStack} :
    (∀ scope ∈ messageStack inSuggestion rule outer, scope.Yields) ↔
      (Scope.rule rule).Yields ∧ ∀ scope ∈ outer, scope.Yields := by
  cases inSuggestion <;> simp [messageStack, Scope.Yields]

theorem yields_countRule {outer : ScopeStack} (h : ∀ scope ∈ outer, scope.Yields) :
    ∀ scope ∈ outer.countRule, scope.Yields := by
  rw [countRule, List.forall_mem_map]
  intro scope hscope
  have := h scope hscope
  cases scope <;> exact this

end ScopeStack

namespace PatternDraft

variable {draft : PatternDraft} (h : draft.variants ≠ [])
include h

theorem variants_push_ne_nil (element : Element) : (draft.push element).variants ≠ [] :=
  mt List.map_eq_nil_iff.1 h

theorem variants_closeUnification_ne_nil : draft.closeUnification.variants ≠ [] :=
  mt List.map_eq_nil_iff.1 h

theorem variants_expandPhrase_ne_nil (name : String) {alternatives : Alternatives}
    (halternatives : alternatives ≠ []) : (draft.expandPhrase name alternatives).variants ≠ [] := by
  obtain ⟨variant, variants, hvariants⟩ := List.exists_cons_of_ne_nil h
  obtain ⟨first, others, rfl⟩ := List.exists_cons_of_ne_nil halternatives
  simp [expandPhrase, hvariants]

end PatternDraft

theorem PhraseDraft.ne_nil_of_finish {draft : PhraseDraft} {position : Position}
    {alternatives : Alternatives} (h : draft.finish position = .ok alternatives) :
    alternatives ≠ [] := by
  unfold finish at h
  split at h
  · cases h
  · next hempty =>
    cases h
    exact mt List.isEmpty_iff.2 hempty

namespace Compiler.Yields

variable {c next : Compiler} {attributes : Attributes} {position : Position} {tag : Tag}

theorem of_fresh {scope : Scope} (fresh : Fresh c attributes position tag scope) :
    scope.Yields := by
  cases fresh with
  | rule hdraft =>
    intro pattern hpattern
    rw [RuleDraft.pattern_of_ofAttributes hdraft] at hpattern
    cases hpattern
  | @pattern draft hdraft =>
    obtain ⟨marker, -, hmarker⟩ := exists_of_bind_eq_ok hdraft
    cases hmarker
    exact List.cons_ne_nil _ _
  | _ => trivial

/-- A start tag keeps the invariant. -/
theorem opens (h : c.Yields) (opens : Opens c attributes position tag next) : next.Yields := by
  have hscopes := h.scopes
  cases opens with
  | fresh fresh => exact ⟨List.forall_mem_cons.2 ⟨of_fresh fresh, hscopes⟩, h.phrases⟩
  | rules | unification => exact ⟨by simp [Scope.Yields], h.phrases⟩
  | token hstack | andGroup hstack =>
    rw [hstack, yields_seat] at hscopes
    exact ⟨List.forall_mem_cons.2 ⟨trivial, yields_seat.2 hscopes⟩, h.phrases⟩
  | @expansion pattern outer name alternatives hstack hname hfind =>
    rw [hstack, List.forall_mem_cons] at hscopes
    obtain ⟨hpattern, houter⟩ := hscopes
    have halternatives : alternatives ≠ [] := h.phrases _ (Table.mem_of_find? hfind)
    have hexpanded := PatternDraft.variants_expandPhrase_ne_nil hpattern name halternatives
    exact ⟨List.forall_mem_cons.2 ⟨trivial, List.forall_mem_cons.2 ⟨hexpanded, houter⟩⟩, h.phrases⟩
  | inclusion hstack => exact ⟨by simp [Scope.Yields], h.phrases⟩
  | featureType hstack | binding hstack | marker hstack =>
    rw [hstack, List.forall_mem_cons] at hscopes
    exact ⟨List.forall_mem_cons.2 ⟨trivial, List.forall_mem_cons.2 ⟨trivial, hscopes.2⟩⟩, h.phrases⟩
  | declaration hstack =>
    rw [hstack, yields_messageStack] at hscopes
    exact ⟨List.forall_mem_cons.2 ⟨trivial, (yields_messageStack _).2 hscopes⟩, h.phrases⟩
  | suggestion hstack =>
    rw [hstack, yields_messageStack] at hscopes
    exact ⟨(yields_messageStack true).2 hscopes, h.phrases⟩

/-- Text keeps the invariant. -/
theorem reads {text : String} (h : c.Yields) (reads : Reads c text next) : next.Yields := by
  have hscopes := h.scopes
  cases reads with
  | token hstack | exception hstack | sample hstack =>
    rw [hstack, List.forall_mem_cons] at hscopes
    exact ⟨List.forall_mem_cons.2 ⟨trivial, hscopes.2⟩, h.phrases⟩
  | message hstack =>
    rw [hstack, yields_messageStack] at hscopes
    exact ⟨(yields_messageStack _).2 hscopes, h.phrases⟩
  | short hstack | marker hstack =>
    rw [hstack, List.forall_mem_cons, List.forall_mem_cons] at hscopes
    obtain ⟨-, hinner, houter⟩ := hscopes
    exact ⟨List.forall_mem_cons.2 ⟨trivial, List.forall_mem_cons.2 ⟨hinner, houter⟩⟩, h.phrases⟩
  | nothing => exact h

/-- An end tag keeps the invariant. -/
theorem closes (h : c.Yields) (closes : Closes c position next) : next.Yields := by
  have hscopes := h.scopes
  cases closes with
  | silent hstack =>
    rw [hstack, List.forall_mem_cons] at hscopes
    exact ⟨hscopes.2, h.phrases⟩
  | token hstack | andGroup hstack =>
    rw [hstack, List.forall_mem_cons, yields_seat] at hscopes
    obtain ⟨-, hpattern, houter⟩ := hscopes
    exact ⟨yields_seat.2 ⟨PatternDraft.variants_push_ne_nil hpattern _, houter⟩, h.phrases⟩
  | member hstack | exception hstack =>
    rw [hstack, List.forall_mem_cons, List.forall_mem_cons] at hscopes
    exact ⟨List.forall_mem_cons.2 ⟨trivial, hscopes.2.2⟩, h.phrases⟩
  | phraseToken | typeToken | equivalence => exact ⟨by simp [Scope.Yields], h.phrases⟩
  | feature hstack =>
    rw [hstack, List.forall_mem_cons, List.forall_mem_cons] at hscopes
    exact ⟨List.forall_mem_cons.2 ⟨trivial, hscopes.2.2⟩, h.phrases⟩
  | unify hstack =>
    rw [hstack, List.forall_mem_cons, List.forall_mem_cons] at hscopes
    obtain ⟨-, hpattern, houter⟩ := hscopes
    exact ⟨List.forall_mem_cons.2
      ⟨PatternDraft.variants_closeUnification_ne_nil hpattern, houter⟩, h.phrases⟩
  | pattern hstack =>
    rw [hstack, List.forall_mem_cons, List.forall_mem_cons] at hscopes
    obtain ⟨hpattern, -, houter⟩ := hscopes
    refine ⟨List.forall_mem_cons.2 ⟨fun last hlast => ?_, houter⟩, h.phrases⟩
    obtain rfl := Option.some.inj hlast
    exact hpattern
  | suggestion hstack =>
    rw [hstack, yields_messageStack] at hscopes
    exact ⟨(yields_messageStack false).2 hscopes, h.phrases⟩
  | marker hstack =>
    rw [hstack, List.forall_mem_cons, List.forall_mem_cons] at hscopes
    exact ⟨List.forall_mem_cons.2 ⟨trivial, hscopes.2.2⟩, h.phrases⟩
  | @sample draft rule outer hstack =>
    rw [hstack, List.forall_mem_cons, List.forall_mem_cons] at hscopes
    obtain ⟨-, hrule, houter⟩ := hscopes
    refine ⟨List.forall_mem_cons.2 ⟨?_, houter⟩, h.phrases⟩
    rw [Scope.Yields, RuleDraft.pattern_addExample]
    exact hrule
  | rule hstack =>
    rw [hstack, List.forall_mem_cons] at hscopes
    exact ⟨yields_countRule hscopes.2, h.phrases⟩
  | phrase hstack halternatives =>
    refine ⟨by simp [Scope.Yields], fun entry hentry => ?_⟩
    rcases Table.mem_insert hentry with hentry | rfl
    · exact h.phrases entry hentry
    · exact PhraseDraft.ne_nil_of_finish halternatives

/-- Every event that is accepted keeps the invariant. -/
theorem transition {event : Event} (h : c.Yields) (transition : Transition c event next) :
    next.Yields := by
  cases transition with
  | ignore => exact ⟨List.forall_mem_cons.2 ⟨trivial, h.scopes⟩, h.phrases⟩
  | start _ _ _ opens => exact h.opens opens
  | text reads => exact h.reads reads
  | stop _ _ closes => exact h.closes closes

/-- A refused event keeps the invariant. -/
theorem leaves (h : c.Yields) (leaves : Leaves c next) : next.Yields := by
  have hscopes := h.scopes
  cases leaves with
  | same => exact h
  | popped hstack =>
    rw [hstack, List.forall_mem_cons] at hscopes
    exact ⟨hscopes.2, h.phrases⟩
  | counted hstack =>
    rw [hstack, List.forall_mem_cons] at hscopes
    exact ⟨yields_countRule hscopes.2, h.phrases⟩

end Compiler.Yields

namespace Compiler

theorem yields_new (options : CompileOptions) : (new options).Yields :=
  ⟨List.forall_mem_nil _, List.forall_mem_nil _⟩

/-- In every state that can be reached the open elements are a path of the grammar, and every
pattern has a variant. -/
theorem Reachable.sound {options : CompileOptions} {c : Compiler} (h : c.Reachable options) :
    c.stack.IsPath ∧ c.Yields :=
  h.induction (yields_new options) (fun _ h => Yields.transition ⟨h.scopes, h.phrases⟩)
    fun h => Yields.leaves ⟨h.scopes, h.phrases⟩

theorem Reachable.replay {options : CompileOptions} {c final : Compiler} {events : List Event}
    (h : c.Reachable options) (run : replay Compiler.step c events = .accepted final) :
    final.Reachable options := by
  induction events generalizing c with
  | nil =>
    cases run
    exact h
  | cons event events ih =>
    obtain ⟨next, hnext, run⟩ := replay_cons_eq_accepted run
    have hstep := h.step event
    rw [hnext] at hstep
    exact ih hstep run

/-- Events that are accepted keep the invariant. -/
theorem Yields.replay {c final : Compiler} {events : List Event} (h : c.Yields)
    (path : c.stack.IsPath) (run : replay step c events = .accepted final) : final.Yields := by
  refine run_invariant ?_ path h run
  intro c event next _ h transition
  have moved : (c.moved event.position).Yields := ⟨h.scopes, h.phrases⟩
  exact moved.transition transition

end Compiler

/-! ## A complete rule -/

/-- A rule that is complete adds a rule for every variant of its pattern. -/
theorem RuleDraft.exists_rulesOf_of_finish {draft : RuleDraft} {context : RuleContext}
    {position : Position} {rules : List Rule} (h : draft.finish context position = .ok rules) :
    ∃ pattern, draft.pattern = some pattern ∧ rules = draft.rulesOf context pattern := by
  obtain ⟨pattern, hpattern⟩ := exists_pattern_of_finish h
  unfold finish at h
  rw [hpattern] at h
  obtain ⟨_, -, hrules⟩ := exists_of_bind_eq_ok h
  exact ⟨pattern, hpattern, (Except.ok.inj hrules).symm⟩

end GrammarRules
