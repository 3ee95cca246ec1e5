import GrammarRules.Proofs.Document.Emission
import GrammarRules.Proofs.Rule.Fault

/-!
# What a refused event leaves behind

An event is carried out in steps, and what the steps before a failing check have changed stays
changed.  `RefusesAt position P outcome` says of a refused event that its error is at the position
and does not blame the markup, and that `P` holds of the state that is left.  A start tag and text
leave the state they found; an end tag has taken its element off the stack and counted it in its
group, but has touched nothing of what has been compiled.  So no refused event changes the rules,
the language, the phrases or the unification table (`kept_of_refused`).
-/

namespace GrammarRules

open ScopeStack

/-- If the event is refused, then at the position and without blame for the markup, and `P` holds of
the state that is left. -/
def RefusesAt (position : Position) (P : Compiler → Prop) (outcome : Outcome Compiler) : Prop :=
  ∀ error state, outcome = .refused error state →
    error.position = position ∧ error.cause.isMalformed = false ∧ P state

section Rules

variable {c : Compiler} {position : Position} {P : Compiler → Prop}

theorem refusesAt_accepted (state : Compiler) : RefusesAt position P (.accepted state) := nofun

theorem refusesAt_refuse {cause : Cause} (h : cause.isMalformed = false) (hP : P c) :
    RefusesAt position P (c.refuse cause position) := by
  intro error state hrefused
  cases hrefused
  exact ⟨rfl, h, hP⟩

theorem refusesAt_check {α : Type} {result : Except RuleError α} {next : α → Outcome Compiler}
    (h : FailsAt position result) (hP : P c) (hnext : ∀ a, RefusesAt position P (next a)) :
    RefusesAt position P (c.check result next) := by
  cases result with
  | ok a => exact hnext a
  | error error =>
    intro other state hrefused
    cases hrefused
    obtain ⟨hposition, hcause⟩ := h error rfl
    exact ⟨hposition, hcause, hP⟩

/-- A check after which the event is accepted. -/
theorem refusesAt_check_accepted {α : Type} {result : Except RuleError α} {next : α → Compiler}
    (h : FailsAt position result) (hP : P c) :
    RefusesAt position P (c.check result fun a => .accepted (next a)) :=
  refusesAt_check h hP fun a => refusesAt_accepted (next a)

end Rules

/-! ## Start tags and text -/

section Start

variable (c : Compiler) (attributes : Attributes) (position : Position)

theorem Compiler.failsAt_requireParent (tag : Tag) :
    FailsAt position (c.requireParent tag position) :=
  failsAt_ite (failsAt_ok ()) (failsAt_fail rfl)

theorem Compiler.refusesAt_startToken :
    RefusesAt position (· = c) (c.startToken attributes position) := by
  refine refusesAt_check (TokenDraft.failsAt_ofAttributes _ _ _) rfl fun draft => ?_
  split
  · exact refusesAt_accepted _
  · exact refusesAt_accepted _

theorem Compiler.refusesAt_startMatch :
    RefusesAt position (· = c) (c.startMatch attributes position) := by
  unfold Compiler.startMatch
  split
  · exact refusesAt_check_accepted (failsAt_resolveMatch _ _ _) rfl
  · exact refusesAt_check_accepted (failsAt_resolveMatch _ _ _) rfl
  · exact refusesAt_check_accepted (failsAt_resolveMatch _ _ _) rfl

theorem Compiler.refusesAt_startPhraseRef :
    RefusesAt position (· = c) (c.startPhraseRef attributes position) := by
  refine refusesAt_check (failsAt_required _ _ _ _) rfl fun name => ?_
  cases c.phrases.find? name with
  | none => exact refusesAt_refuse rfl rfl
  | some alternatives => exact refusesAt_accepted _

theorem Compiler.refusesAt_startFeature :
    RefusesAt position (· = c) (c.startFeature attributes position) := by
  refine refusesAt_check (failsAt_required _ _ _ _) rfl fun id => ?_
  split
  · exact refusesAt_accepted _
  · exact refusesAt_refuse rfl rfl

/-- A tag that is refused where it may stand leaves the state as it was. -/
theorem Compiler.refusesAt_startTag (tag : Tag) :
    RefusesAt position (· = c) (c.startTag tag attributes position) := by
  cases tag with
  | phraseRef => exact c.refusesAt_startPhraseRef attributes position
  | feature => exact c.refusesAt_startFeature attributes position
  | token => exact c.refusesAt_startToken attributes position
  | quote => exact c.refusesAt_startMatch attributes position
  | phrase | unification | equivalence | featureType =>
    exact refusesAt_check_accepted (failsAt_required _ _ _ _) rfl
  | ruleGroup => exact refusesAt_check_accepted (RuleGroup.failsAt_ofAttributes _ _) rfl
  | rule => exact refusesAt_check_accepted (RuleDraft.failsAt_ofAttributes _ _ _) rfl
  | pattern => exact refusesAt_check_accepted (PatternDraft.failsAt_ofAttributes _ _) rfl
  | sample => exact refusesAt_check_accepted (ExampleDraft.failsAt_ofAttributes _ _) rfl
  | rules | category | phrases | includePhrases | andGroup | unify | exception | message | short
  | suggestion | marker => exact refusesAt_accepted _

theorem Compiler.refusesAt_start (name : String) :
    RefusesAt position (· = c) (c.start name attributes position) := by
  unfold Compiler.start
  split
  · exact refusesAt_accepted _
  · split
    · exact refusesAt_accepted _
    · next tag _ =>
      refine refusesAt_check (c.failsAt_requireParent position tag) rfl fun _ => ?_
      exact c.refusesAt_startTag attributes position tag

theorem Compiler.refusesAt_messageText (text : String) :
    RefusesAt position (· = c) (c.messageText text position) := by
  unfold Compiler.messageText
  dsimp only
  split
  · split
    · exact refusesAt_refuse rfl rfl
    · exact refusesAt_accepted _
  · exact refusesAt_accepted _

theorem Compiler.refusesAt_text (text : String) :
    RefusesAt position (· = c) (c.text text position) := by
  unfold Compiler.text
  split
  all_goals first | exact refusesAt_accepted _ | exact c.refusesAt_messageText position text

end Start

/-! ## End tags -/

/-- What a scope that cannot be made use of leaves behind, where the state is that without it.  A
rule has been counted in its group. -/
def Compiler.abandon (c : Compiler) : Scope → Compiler
  | .rule _ => c.mapStack countRule
  | _ => c

theorem Compiler.refusesAt_closeScope (c : Compiler) (scope : Scope) (position : Position) :
    RefusesAt position (· = c.abandon scope) (c.closeScope scope position) := by
  cases scope with
  | token draft => exact refusesAt_check_accepted (draft.failsAt_finish _ _) rfl
  | exception draft => exact refusesAt_check_accepted (draft.failsAt_finish _ _) rfl
  | phrase draft => exact refusesAt_check_accepted (draft.failsAt_finish _) rfl
  | rule draft => exact refusesAt_check_accepted (draft.failsAt_finish _ _) rfl
  | andGroup members =>
    cases members with
    | nil => exact refusesAt_refuse rfl rfl
    | cons first others => exact refusesAt_accepted _
  | _ => exact refusesAt_accepted _

/-! ## Events -/

/-- Only an end tag blames the markup, and only if it is not that of the innermost element. -/
theorem Compiler.exists_stop_of_malformed {c refused : Compiler} {event : Event}
    {error : RuleError} (h : c.step event = .refused error refused)
    (malformed : error.cause.isMalformed = true) :
    ∃ name position, event = .stop name position ∧ c.stack.head?.map Scope.name ≠ some name := by
  cases event with
  | start name attributes position =>
    have hrefuses := (c.moved position).refusesAt_start attributes position name error refused h
    rw [malformed] at hrefuses
    nomatch hrefuses.2.1
  | text text position =>
    have hrefuses := (c.moved position).refusesAt_text position text error refused h
    rw [malformed] at hrefuses
    nomatch hrefuses.2.1
  | stop name position =>
    refine ⟨name, position, rfl, fun hname => ?_⟩
    cases hstack : c.stack with
    | nil =>
      rw [hstack] at hname
      nomatch hname
    | cons scope outer =>
      rw [hstack] at hname
      obtain rfl := Option.some.inj hname
      rw [step_stop hstack] at h
      have hrefuses := Compiler.refusesAt_closeScope _ scope position error refused h
      rw [malformed] at hrefuses
      nomatch hrefuses.2.1

/-- An event that is refused has an error with its position, and leaves alone what has been compiled
so far; a start tag and text leave the open elements alone as well. -/
theorem kept_of_refused {c refused : Compiler} {event : Event} {error : RuleError}
    (h : c.step event = .refused error refused) :
    error.position = event.position ∧ refused.output = c.output ∧ refused.phrases = c.phrases ∧
      refused.options = c.options ∧ refused.lastPosition = event.position ∧
      ((∀ name position, event ≠ .stop name position) → refused.stack = c.stack) := by
  cases event with
  | start name attributes position =>
    obtain ⟨hposition, -, rfl⟩ :=
      (c.moved position).refusesAt_start attributes position name error refused h
    exact ⟨hposition, rfl, rfl, rfl, rfl, fun _ => rfl⟩
  | text text position =>
    obtain ⟨hposition, -, rfl⟩ := (c.moved position).refusesAt_text position text error refused h
    exact ⟨hposition, rfl, rfl, rfl, rfl, fun _ => rfl⟩
  | stop name position =>
    have hstop : ¬ ∀ other place, Event.stop name position ≠ .stop other place :=
      fun hall => hall name position rfl
    cases hstack : c.stack with
    | nil =>
      rw [Compiler.step_stop_nil hstack] at h
      cases h
      exact ⟨rfl, rfl, rfl, rfl, rfl, fun hall => absurd hall hstop⟩
    | cons scope outer =>
      by_cases hname : scope.name = name
      · subst hname
        rw [Compiler.step_stop hstack] at h
        obtain ⟨hposition, -, rfl⟩ := Compiler.refusesAt_closeScope _ scope position error refused h
        refine ⟨hposition, ?_⟩
        cases scope <;> exact ⟨rfl, rfl, rfl, rfl, fun hall => absurd hall hstop⟩
      · rw [Compiler.step_stop_of_ne hstack hname] at h
        cases h
        exact ⟨rfl, rfl, rfl, rfl, rfl, fun hall => absurd hall hstop⟩

/-- The sample with a second rule up to its end tag, whose marker fits one of its two variants. -/
def overmarkedEvents : List Event :=
  sampleEvents ++ .stop "rule" .unknown :: .start "rule" ⟨[("id", "S")]⟩ .unknown ::
    samplePattern "3"

/-- The second rule adds none of its variants, and a token in its place leaves it open. -/
theorem kept_of_refused_sample :
    ∃ c, replay Compiler.step (Compiler.new {}) overmarkedEvents = .accepted c ∧
      c.rules.length = 2 ∧
      (∃ refused, c.step (.stop "rule" ⟨9, 8, 120⟩) =
          .refused ⟨.positionOutOfRange .start 3 3, ⟨9, 8, 120⟩⟩ refused ∧
        refused.output = c.output ∧ refused.phrases = c.phrases) ∧
      ∃ refused, c.step (.start "token" {} ⟨9, 4, 116⟩) =
          .refused ⟨.misplaced "token" "<rule>", ⟨9, 4, 116⟩⟩ refused ∧
        refused.output = c.output ∧ refused.stack = c.stack := by
  let c := (replay Compiler.step (Compiler.new {}) overmarkedEvents).state
  have hstop : c.step (.stop "rule" ⟨9, 8, 120⟩) =
      .refused ⟨.positionOutOfRange .start 3 3, ⟨9, 8, 120⟩⟩ _ :=
    Outcome.eq_refused (by decide +kernel)
  have hstart : c.step (.start "token" {} ⟨9, 4, 116⟩) =
      .refused ⟨.misplaced "token" "<rule>", ⟨9, 4, 116⟩⟩ _ :=
    Outcome.eq_refused (by decide +kernel)
  refine ⟨c, Outcome.eq_accepted (by decide +kernel), by decide +kernel, ⟨_, hstop, ?_⟩, _, hstart,
    ?_⟩
  · obtain ⟨-, houtput, hphrases, -⟩ := kept_of_refused hstop
    exact ⟨houtput, hphrases⟩
  · obtain ⟨-, houtput, -, -, -, hstack⟩ := kept_of_refused hstart
    exact ⟨houtput, hstack nofun⟩

end GrammarRules
