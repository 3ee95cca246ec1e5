import GrammarRules.Proofs.Document.Refusal
import GrammarRules.Proofs.Markup.Nesting

/-!
# Only nested documents are compiled

Every element of the stack has the name of the tag that opened it, so the names on the stack are the
names of the elements that are open (`openAfter_of_replay`).  Hence a document that is compiled to
its end is nested, and the markup of a nested document is never blamed (`nesting_of_run`).
-/

namespace GrammarRules

open ScopeStack

/-- The names of the open elements, innermost first. -/
def ScopeStack.names (stack : ScopeStack) : List String := stack.map Scope.name

@[simp] theorem ScopeStack.names_cons (scope : Scope) (outer : ScopeStack) :
    names (scope :: outer) = scope.name :: outer.names := rfl

theorem ScopeStack.names_congr {stack stack' : ScopeStack} (h : kinds stack' = kinds stack) :
    stack'.names = stack.names := by
  have hnames := congrArg (List.map Prod.snd) h
  rwa [kinds, kinds, List.map_map, List.map_map] at hnames

theorem ScopeStack.head?_names (stack : ScopeStack) :
    stack.names.head? = stack.head?.map Scope.name := List.head?_map

theorem Transition.openAfter_names {c next : Compiler} {event : Event}
    (h : Transition c event next) (after : List Event) :
    openAfter c.stack.names (event :: after) = openAfter next.stack.names after := by
  cases h with
  | ignore => rfl
  | @start name tag attributes position next _ htag _ opens =>
    obtain ⟨scope, outer, hstack, hscope, houter⟩ := List.map_eq_cons_iff.1 opens.kinds_eq
    have hname : scope.name = name :=
      (congrArg Prod.snd hscope).trans (Tag.name_of_ofName? htag)
    rw [openAfter, hstack, names_cons, hname, names_congr houter]
  | text reads => rw [openAfter, names_congr reads.kinds_eq]
  | @stop name position scope outer next hstack hname closes =>
    rw [hstack, names_cons, openAfter, if_pos hname, names_congr (closes.kinds_eq hstack)]

section Run

variable {c : Compiler} {events : List Event}

/-- An event that is accepted opens or closes an element with its name. -/
theorem openAfter_of_step {event : Event} {next : Compiler} (path : c.stack.IsPath)
    (step : c.step event = .accepted next) (after : List Event) :
    openAfter c.stack.names (event :: after) = openAfter next.stack.names after :=
  (transition_of_step path step).openAfter_names after

/-- The names on the stack are those of the elements that the events have left open. -/
theorem openAfter_of_replay {final : Compiler} (path : c.stack.IsPath)
    (run : replay Compiler.step c events = .accepted final) :
    openAfter c.stack.names events = some final.stack.names := by
  induction events generalizing c with
  | nil =>
    cases run
    rfl
  | cons event events ih =>
    obtain ⟨next, hnext, run⟩ := replay_cons_eq_accepted run
    rw [openAfter_of_step path hnext]
    exact ih (isPath_of_step path hnext) run

/-- While every end tag closes the innermost element, the markup is not blamed. -/
theorem not_malformed_of_replay {refused : Compiler} {error : RuleError} (path : c.stack.IsPath)
    (run : replay Compiler.step c events = .refused error refused)
    (closes : openAfter c.stack.names events ≠ none) : error.cause.isMalformed = false := by
  induction events generalizing c with
  | nil => cases run
  | cons event events ih =>
    rw [replay] at run
    cases hnext : c.step event with
    | accepted next =>
      rw [hnext] at run
      rw [openAfter_of_step path hnext] at closes
      exact ih (isPath_of_step path hnext) run closes
    | refused other state =>
      rw [hnext] at run
      cases run
      by_contra hmalformed
      obtain ⟨name, position, rfl, hname⟩ :=
        Compiler.exists_stop_of_malformed hnext (by simpa using hmalformed)
      rw [← head?_names] at hname
      apply closes
      cases hnames : c.stack.names with
      | nil => rfl
      | cons innermost names =>
        rw [hnames, List.head?_cons] at hname
        exact if_neg fun heq => hname (congrArg some heq)

end Run

theorem Compiler.exists_finish_iff {c : Compiler} :
    (∃ compiled, c.finish = .ok compiled) ↔ c.stack = [] := by
  unfold Compiler.finish
  cases c.stack with
  | nil => exact ⟨fun _ => rfl, fun _ => ⟨_, rfl⟩⟩
  | cons scope outer => exact ⟨nofun, nofun⟩

/-- A document that is compiled to its end is nested.  If a document is nested, then no event is
refused because of the markup, and if none is refused, the document can be finished. -/
theorem nesting_of_run (options : CompileOptions) (events : List Event) :
    (∀ c compiled, replay Compiler.step (Compiler.new options) events = .accepted c →
      c.finish = .ok compiled → Nested events) ∧
    (Nested events →
      (∀ error refused, replay Compiler.step (Compiler.new options) events =
        .refused error refused → ∀ message, error.cause ≠ .malformed message) ∧
      ∀ c, replay Compiler.step (Compiler.new options) events = .accepted c →
        ∃ compiled, c.finish = .ok compiled) := by
  have path : (Compiler.new options).stack.IsPath := trivial
  refine ⟨fun c compiled run hfinish => ?_, fun nested => ⟨fun error refused run message => ?_,
    fun c run => ?_⟩⟩
  · have hopen := openAfter_of_replay path run
    rw [Compiler.exists_finish_iff.1 ⟨compiled, hfinish⟩] at hopen
    exact nested_iff.2 hopen
  · have hopen : openAfter (Compiler.new options).stack.names events = some [] :=
      nested_iff.1 nested
    have hcause := not_malformed_of_replay path run (by rw [hopen]; nofun)
    rintro hmalformed
    rw [hmalformed] at hcause
    cases hcause
  · have hopen := (openAfter_of_replay path run).symm.trans (nested_iff.1 nested)
    exact Compiler.exists_finish_iff.2 (List.map_eq_nil_iff.1 (Option.some.inj hopen))

/-- The sample to its end. -/
def completeEvents : List Event :=
  sampleEvents ++ [.stop "rule" .unknown, .stop "rules" .unknown]

/-- The sample is nested, and so is a document that is refused because of what stands in it. -/
theorem nesting_of_run_sample :
    (∃ c compiled, replay Compiler.step (Compiler.new {}) completeEvents = .accepted c ∧
      c.finish = .ok compiled ∧ Nested completeEvents) ∧
    ∃ error refused, replay Compiler.step (Compiler.new {})
        (tagged "rules" [] (tagged "pattern" [] [])) = .refused error refused ∧
      error.cause = .misplaced "pattern" "<rules>" ∧
      ∀ message, error.cause ≠ .malformed message := by
  let c := (replay Compiler.step (Compiler.new {}) completeEvents).state
  have run : replay Compiler.step (Compiler.new {}) completeEvents = .accepted c :=
    Outcome.eq_accepted (by decide +kernel)
  have hstack : c.stack = [] := List.isEmpty_iff.1 (by decide +kernel)
  obtain ⟨compiled, hfinish⟩ := Compiler.exists_finish_iff.2 hstack
  have misplaced : replay Compiler.step (Compiler.new {})
      (tagged "rules" [] (tagged "pattern" [] [])) =
        .refused ⟨.misplaced "pattern" "<rules>", .unknown⟩ _ :=
    Outcome.eq_refused (by decide +kernel)
  have nested : Nested (tagged "rules" [] (tagged "pattern" [] [])) := nested_iff.2 (by decide)
  exact ⟨⟨c, compiled, run, hfinish, (nesting_of_run _ _).1 c compiled run hfinish⟩,
    _, _, misplaced, rfl, ((nesting_of_run _ _).2 nested).1 _ _ misplaced⟩

end GrammarRules
