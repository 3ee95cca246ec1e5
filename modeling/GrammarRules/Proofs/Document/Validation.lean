import GrammarRules.Proofs.Document.Origin

/-!
# Checking regular expressions only refuses more

`Compiler.under` puts a compiler under other options.  Start tags and text do not look at them.  An
end tag does so only if it is that of a token or of an exception, and there the check stands before
a result that does not depend on it (`Relaxes`).  So a run that checks the regular expressions and
one that does not are in lock step up to the first expression that is refused (`lockstep_of_run`).
-/

namespace GrammarRules

/-! ## Results with and without the check -/

/-- The second result is that of the first, or the first is the refusal of a regular expression and
the second is not refused. -/
inductive Relaxes {α : Type} : Except RuleError α → Except RuleError α → Prop
  | same (a : α) : Relaxes (.ok a) (.ok a)
  | rejected (pattern message : String) (position : Position) (a : α) :
      Relaxes (.error ⟨.invalidRegex pattern message, position⟩) (.ok a)

namespace Relaxes

variable {α β : Type} {result result' : Except RuleError α}

theorem exists_ok (h : Relaxes result result') : ∃ a, result' = .ok a := by
  cases h with
  | same a => exact ⟨a, rfl⟩
  | rejected pattern message position a => exact ⟨a, rfl⟩

theorem bind {next next' : α → Except RuleError β} (h : Relaxes result result')
    (hnext : ∀ a, Relaxes (next a) (next' a)) : Relaxes (result >>= next) (result' >>= next') := by
  cases h with
  | same a => exact hnext a
  | rejected pattern message position a =>
    obtain ⟨b, hb⟩ := (hnext a).exists_ok
    have hresult : Except.ok a >>= next' = .ok b := hb
    rw [hresult]
    exact .rejected pattern message position b

theorem ite {condition : Prop} [Decidable condition] {other other' : Except RuleError α}
    (h : Relaxes result result') (hother : Relaxes other other') :
    Relaxes (if condition then result else other) (if condition then result' else other') := by
  split
  · exact h
  · exact hother

end Relaxes

section Checks

variable {unchecked : CompileOptions} (h : unchecked.validateRegex = false)
  (checked : CompileOptions) (position : Position)
include h

theorem relaxes_checkRegex (pattern : String) :
    Relaxes (checked.checkRegex pattern position) (unchecked.checkRegex pattern position) := by
  have hpasses : unchecked.checkRegex pattern position = .ok () := by
    rw [CompileOptions.checkRegex, h]
    rfl
  rw [hpasses]
  unfold CompileOptions.checkRegex
  split
  · cases checked.regexFault? pattern with
    | some message => exact .rejected pattern message position ()
    | none => exact .same ()
  · exact .same ()

theorem relaxes_checkPosTag (pos : Option PosTag) :
    Relaxes (checked.checkPosTag pos position) (unchecked.checkPosTag pos position) := by
  cases pos with
  | none => exact .same ()
  | some pos => exact (relaxes_checkRegex h checked position pos.tag).ite (.same ())

theorem ExceptionDraft.relaxes_finish (draft : ExceptionDraft) :
    Relaxes (draft.finish checked position) (draft.finish unchecked position) := by
  have hpos := (relaxes_checkPosTag h checked position draft.spec.pos).bind fun _ =>
    Relaxes.same (α := TokenException)
      { draft.spec with
        text := if Text.collapse draft.text == "" then none else some (Text.collapse draft.text) }
  exact ((relaxes_checkRegex h checked position _).bind fun _ => hpos).ite hpos

theorem TokenDraft.relaxes_finish (draft : TokenDraft) :
    Relaxes (draft.finish checked position) (draft.finish unchecked position) := by
  have hpos := (relaxes_checkPosTag h checked position draft.element.pos).bind fun _ =>
    Relaxes.same (α := Element) { draft.element with text := Text.collapse draft.element.text }
  exact ((relaxes_checkRegex h checked position _).bind fun _ => hpos).ite hpos

end Checks

/-! ## One compiler under two options -/

namespace Compiler

/-- The compiler under other options. -/
def under (c : Compiler) (options : CompileOptions) : Compiler := { c with options }

section Under

variable (c : Compiler) (options : CompileOptions) (attributes : Attributes) (position : Position)

/-- A check that does not look at the options. -/
theorem check_under {α : Type} {result : Except RuleError α} {next next' : α → Outcome Compiler}
    (h : ∀ value, next' value = (next value).map (·.under options)) :
    (c.under options).check result next' = (c.check result next).map (·.under options) := by
  cases result with
  | ok value => exact h value
  | error error => rfl

theorem startToken_under :
    (c.under options).startToken attributes position =
      (c.startToken attributes position).map (·.under options) := by
  obtain ⟨own, stack, phrases, output, last⟩ := c
  refine check_under _ _ fun draft => ?_
  cases stack with
  | nil => rfl
  | cons scope outer => cases scope <;> rfl

theorem startMatch_under :
    (c.under options).startMatch attributes position =
      (c.startMatch attributes position).map (·.under options) := by
  obtain ⟨own, stack, phrases, output, last⟩ := c
  cases stack with
  | nil => exact check_under _ _ fun _ => rfl
  | cons scope outer => cases scope <;> exact check_under _ _ fun _ => rfl

theorem startPhraseRef_under :
    (c.under options).startPhraseRef attributes position =
      (c.startPhraseRef attributes position).map (·.under options) := by
  refine check_under _ _ fun name => ?_
  have hphrases : (c.under options).phrases = c.phrases := rfl
  rw [hphrases]
  cases c.phrases.find? name <;> rfl

theorem startFeature_under :
    (c.under options).startFeature attributes position =
      (c.startFeature attributes position).map (·.under options) := by
  refine check_under _ _ fun id => ?_
  show (if c.output.unification.contains id then _ else _) = _
  split <;> rfl

/-- A start tag where it may stand. -/
theorem startTag_under (tag : Tag) :
    (c.under options).startTag tag attributes position =
      (c.startTag tag attributes position).map (·.under options) := by
  cases tag with
  | token => exact c.startToken_under options attributes position
  | quote => exact c.startMatch_under options attributes position
  | phraseRef => exact c.startPhraseRef_under options attributes position
  | feature => exact c.startFeature_under options attributes position
  | phrase | unification | equivalence | ruleGroup | rule | pattern | featureType | sample =>
    exact check_under _ _ fun _ => rfl
  | rules | category | phrases | includePhrases | andGroup | unify | exception | message | short
  | suggestion | marker => rfl

theorem start_under (name : String) :
    (c.under options).start name attributes position =
      (c.start name attributes position).map (·.under options) := by
  unfold start
  show (if c.inIgnored then _ else _) = _
  split
  · rfl
  · cases Tag.ofName? name with
    | none => rfl
    | some tag => exact check_under _ _ fun _ => c.startTag_under options attributes position tag

theorem text_under (text : String) :
    (c.under options).text text position = (c.text text position).map (·.under options) := by
  have hmessage : (c.under options).messageText text position =
      (c.messageText text position).map (·.under options) := by
    unfold messageText
    dsimp only [under]
    split
    · split <;> rfl
    · rfl
  unfold Compiler.text
  dsimp only [under]
  split <;> first | rfl | exact hmessage

theorem closeEquivalence_under (type : String) (elements : List Element) :
    (c.under options).closeEquivalence type elements =
      (c.closeEquivalence type elements).under options := by
  obtain ⟨own, stack, phrases, output, last⟩ := c
  cases stack with
  | nil => rfl
  | cons scope outer => cases scope <;> rfl

end Under

end Compiler

/-! ## Two runs -/

/-- What becomes of an event under the options `checked` and under `unchecked`: the same, or it is
refused for a regular expression under the first and accepted under the second. -/
inductive Lockstep (checked unchecked : CompileOptions) : Outcome Compiler → Outcome Compiler → Prop
  | accepted (next : Compiler) :
      Lockstep checked unchecked (.accepted (next.under checked)) (.accepted (next.under unchecked))
  | refused (error : RuleError) (state : Compiler) :
      Lockstep checked unchecked (.refused error (state.under checked))
        (.refused error (state.under unchecked))
  | rejected (pattern message : String) (position : Position) (state next : Compiler) :
      Lockstep checked unchecked (.refused ⟨.invalidRegex pattern message, position⟩ state)
        (.accepted next)

section Lockstep

variable {checked unchecked : CompileOptions}

/-- An event that does not look at the options. -/
theorem Lockstep.of_map (outcome : Outcome Compiler) :
    Lockstep checked unchecked (outcome.map (·.under checked))
      (outcome.map (·.under unchecked)) := by
  cases outcome with
  | accepted next => exact .accepted next
  | refused error state => exact .refused error state

/-- A check after which the event is accepted. -/
theorem Relaxes.lockstep {α : Type} {result result' : Except RuleError α}
    (h : Relaxes result result') (c : Compiler) (next : α → Compiler) :
    Lockstep checked unchecked
      ((c.under checked).check result fun a => .accepted ((next a).under checked))
      ((c.under unchecked).check result' fun a => .accepted ((next a).under unchecked)) := by
  cases h with
  | same value => exact .accepted (next value)
  | rejected pattern message position value => exact .rejected pattern message position _ _

/-- A check that is the same for both. -/
theorem lockstep_check {α : Type} (result : Except RuleError α) (c : Compiler)
    (next : α → Compiler) :
    Lockstep checked unchecked
      ((c.under checked).check result fun a => .accepted ((next a).under checked))
      ((c.under unchecked).check result fun a => .accepted ((next a).under unchecked)) := by
  cases result with
  | ok value => exact .accepted (next value)
  | error error => exact .refused error c

/-- A change of the open elements. -/
theorem lockstep_mapStack (c : Compiler) (change : ScopeStack → ScopeStack) :
    Lockstep checked unchecked (.accepted ((c.under checked).mapStack change))
      (.accepted ((c.under unchecked).mapStack change)) :=
  .accepted (c.mapStack change)

variable (h : unchecked.validateRegex = false) (checked)
include h

theorem lockstep_closeScope (c : Compiler) (scope : Scope) (position : Position) :
    Lockstep checked unchecked ((c.under checked).closeScope scope position)
      ((c.under unchecked).closeScope scope position) := by
  cases scope with
  | token draft =>
    exact (draft.relaxes_finish h checked position).lockstep c fun element =>
      c.mapStack (·.attach element)
  | exception draft =>
    exact (draft.relaxes_finish h checked position).lockstep c fun exception =>
      c.mapStack (·.updateToken (·.addException exception))
  | rule draft =>
    exact lockstep_check _ (c.mapStack ScopeStack.countRule) fun rules =>
      { c.mapStack ScopeStack.countRule with
        output := { c.output with rules := c.output.rules ++ rules } }
  | phrase draft =>
    exact lockstep_check _ c fun alternatives =>
      { c with phrases := c.phrases.insert draft.id alternatives }
  | andGroup members =>
    cases members with
    | nil => exact .refused _ c
    | cons first others => exact lockstep_mapStack c _
  | equivalence type elements =>
    show Lockstep checked unchecked
      (.accepted ((c.under checked).closeEquivalence type elements))
      (.accepted ((c.under unchecked).closeEquivalence type elements))
    rw [c.closeEquivalence_under, c.closeEquivalence_under]
    exact .accepted (c.closeEquivalence type elements)
  | feature | unify | pattern | suggestion | marker | sample => exact lockstep_mapStack c _
  | rules | category | phrases | includePhrases | phraseRef | unification | ruleGroup | featureType
  | quote | message | short | ignored => exact .accepted c

/-- Up to the first regular expression that is refused an event does the same with and without the
check. -/
theorem lockstep_step (c : Compiler) (event : Event) :
    Lockstep checked unchecked ((c.under checked).step event) ((c.under unchecked).step event) := by
  cases event with
  | start name attributes position =>
    have hstart (options : CompileOptions) :
        (c.under options).step (.start name attributes position) =
          ((c.moved position).start name attributes position).map (·.under options) :=
      (c.moved position).start_under options attributes position name
    rw [hstart, hstart]
    exact .of_map _
  | text text position =>
    have htext (options : CompileOptions) :
        (c.under options).step (.text text position) =
          ((c.moved position).text text position).map (·.under options) :=
      (c.moved position).text_under options position text
    rw [htext, htext]
    exact .of_map _
  | stop name position =>
    obtain ⟨own, stack, phrases, output, last⟩ := c
    cases stack with
    | nil => exact .refused _ ⟨own, [], phrases, output, position⟩
    | cons scope outer =>
      by_cases hname : scope.name = name
      · subst hname
        rw [Compiler.step_stop rfl, Compiler.step_stop rfl]
        exact lockstep_closeScope checked h ⟨own, outer, phrases, output, position⟩ scope position
      · rw [Compiler.step_stop_of_ne rfl hname, Compiler.step_stop_of_ne rfl hname]
        exact .refused _ ⟨own, outer, phrases, output, position⟩

/-- A run that is accepted under the check is accepted without it, and ends in the same state. -/
theorem replay_lockstep {c final : Compiler} {events : List Event}
    (run : replay Compiler.step (c.under checked) events = .accepted final) :
    ∃ next : Compiler, final = next.under checked ∧
      replay Compiler.step (c.under unchecked) events = .accepted (next.under unchecked) := by
  induction events generalizing c with
  | nil =>
    cases run
    exact ⟨c, rfl, rfl⟩
  | cons event events ih =>
    obtain ⟨middle, hmiddle, run⟩ := replay_cons_eq_accepted run
    have hstep := lockstep_step checked h c event
    rw [hmiddle] at hstep
    rw [replay]
    generalize (c.under unchecked).step event = other at hstep ⊢
    cases hstep with
    | accepted next => exact ih run

end Lockstep

/-- A run that checks the regular expressions and one that does not are in lock step.  If the first
is accepted, then so is the second, and they end in the same state.  If the first is refused, then
the second accepts the events up to there, and unless it is a regular expression that was refused,
it is refused as well, at the same event with the same error.  Without the check no token and no
exception is refused when its tag ends. -/
theorem lockstep_of_run (regexFault? : String → Option String) (events : List Event) :
    (∀ c, replay Compiler.step (Compiler.new ⟨true, regexFault?⟩) events = .accepted c →
      replay Compiler.step (Compiler.new ⟨false, regexFault?⟩) events =
        .accepted (c.under ⟨false, regexFault?⟩) ∧
      (c.under ⟨false, regexFault?⟩).finish = c.finish) ∧
    (∀ error refused,
      replay Compiler.step (Compiler.new ⟨true, regexFault?⟩) events = .refused error refused →
      ∃ before event after c, events = before ++ event :: after ∧
        replay Compiler.step (Compiler.new ⟨true, regexFault?⟩) before = .accepted c ∧
        c.step event = .refused error refused ∧
        replay Compiler.step (Compiler.new ⟨false, regexFault?⟩) before =
          .accepted (c.under ⟨false, regexFault?⟩) ∧
        ((∀ pattern message, error.cause ≠ .invalidRegex pattern message) →
          (c.under ⟨false, regexFault?⟩).step event =
            .refused error (refused.under ⟨false, regexFault?⟩) ∧
          replay Compiler.step (Compiler.new ⟨false, regexFault?⟩) events =
            .refused error (refused.under ⟨false, regexFault?⟩))) ∧
    ∀ (c : Compiler) scope outer position, c.options.validateRegex = false →
      c.stack = scope :: outer → scope.tag? = some .token ∨ scope.tag? = some .exception →
      ∃ next, c.step (.stop scope.name position) = .accepted next := by
  have hunchecked : CompileOptions.validateRegex ⟨false, regexFault?⟩ = false := rfl
  refine ⟨fun c run => ?_, fun error refused run => ?_,
    fun c scope outer position hoptions hstack htag => ?_⟩
  · obtain ⟨next, rfl, hnext⟩ := replay_lockstep _ hunchecked (c := Compiler.new {}) run
    exact ⟨hnext, rfl⟩
  · obtain ⟨before, event, after, c, rfl, hbefore, hevent⟩ := exists_of_replay_eq_refused run
    obtain ⟨next, rfl, hnext⟩ := replay_lockstep _ hunchecked (c := Compiler.new {}) hbefore
    have hnext : replay Compiler.step (Compiler.new ⟨false, regexFault?⟩) before =
        .accepted (next.under ⟨false, regexFault?⟩) := hnext
    refine ⟨before, event, after, _, rfl, hbefore, hevent, hnext, fun hcause => ?_⟩
    have hother : (next.under ⟨false, regexFault?⟩).step event =
        .refused error (refused.under ⟨false, regexFault?⟩) := by
      have hstep := lockstep_step ⟨true, regexFault?⟩ hunchecked next event
      rw [hevent] at hstep
      generalize (next.under ⟨false, regexFault?⟩).step event = other at hstep ⊢
      cases hstep with
      | refused error state => rfl
      | rejected pattern message position state next => exact absurd rfl (hcause pattern message)
    refine ⟨hother, ?_⟩
    rw [replay_append, hnext, Outcome.andThen, replay, hother, Outcome.andThen]
  · rw [Compiler.step_stop hstack]
    cases scope with
    | token draft =>
      obtain ⟨element, helement⟩ := (draft.relaxes_finish hoptions c.options position).exists_ok
      dsimp only [Compiler.closeScope]
      rw [helement]
      exact ⟨_, rfl⟩
    | exception draft =>
      obtain ⟨exception, hexception⟩ := (draft.relaxes_finish hoptions c.options position).exists_ok
      dsimp only [Compiler.closeScope]
      rw [hexception]
      exact ⟨_, rfl⟩
    | _ => simp [Scope.tag?] at htag

/-- A document up to the end tag of a token that is an unclosed group. -/
def unclosedEvents : List Event :=
  [.start "rules" ⟨[]⟩ .unknown, .start "rule" ⟨[("id", "R")]⟩ .unknown,
    .start "pattern" ⟨[]⟩ .unknown, .start "token" ⟨[("regexp", "yes")]⟩ .unknown,
    .text "(" .unknown]

/-- Under a check that refuses an unclosed group, a document without one is compiled, one with a
misplaced element has the same error without the check, and the end tag of a token that is one is
accepted without the check only. -/
theorem lockstep_of_run_sample :
    ∃ regexFault? : String → Option String,
      (∃ c, replay Compiler.step (Compiler.new ⟨true, regexFault?⟩) sampleEvents = .accepted c ∧
        replay Compiler.step (Compiler.new ⟨false, regexFault?⟩) sampleEvents =
          .accepted (c.under ⟨false, regexFault?⟩)) ∧
      (∃ error refused,
        replay Compiler.step (Compiler.new ⟨true, regexFault?⟩)
            (tagged "rules" [] (tagged "pattern" [] [])) = .refused error refused ∧
          replay Compiler.step (Compiler.new ⟨false, regexFault?⟩)
            (tagged "rules" [] (tagged "pattern" [] [])) =
              .refused error (refused.under ⟨false, regexFault?⟩)) ∧
      ∃ c refused next,
        replay Compiler.step (Compiler.new ⟨true, regexFault?⟩) unclosedEvents = .accepted c ∧
          c.step (.stop "token" .unknown) =
            .refused ⟨.invalidRegex "(" "unclosed", .unknown⟩ refused ∧
          replay Compiler.step (Compiler.new ⟨false, regexFault?⟩) unclosedEvents =
            .accepted (c.under ⟨false, regexFault?⟩) ∧
          (c.under ⟨false, regexFault?⟩).step (.stop "token" .unknown) = .accepted next := by
  let regexFault? : String → Option String := fun pattern =>
    if pattern = "(" then some "unclosed" else none
  refine ⟨regexFault?, ?_, ?_, ?_⟩
  · have run : replay Compiler.step (Compiler.new ⟨true, regexFault?⟩) sampleEvents =
        .accepted _ := Outcome.eq_accepted (by decide +kernel)
    exact ⟨_, run, ((lockstep_of_run regexFault? _).1 _ run).1⟩
  · have run : replay Compiler.step (Compiler.new ⟨true, regexFault?⟩)
        (tagged "rules" [] (tagged "pattern" [] [])) =
          .refused ⟨.misplaced "pattern" "<rules>", .unknown⟩ _ :=
      Outcome.eq_refused (by decide +kernel)
    obtain ⟨_, _, _, _, -, -, -, -, hother⟩ := (lockstep_of_run regexFault? _).2.1 _ _ run
    exact ⟨_, _, run, (hother nofun).2⟩
  · let c := (replay Compiler.step (Compiler.new ⟨true, regexFault?⟩) unclosedEvents).state
    have run : replay Compiler.step (Compiler.new ⟨true, regexFault?⟩) unclosedEvents =
        .accepted c := Outcome.eq_accepted (by decide +kernel)
    have hstop : c.step (.stop "token" .unknown) =
        .refused ⟨.invalidRegex "(" "unclosed", .unknown⟩ _ :=
      Outcome.eq_refused (by decide +kernel)
    obtain ⟨hboth, -, haccepts⟩ := lockstep_of_run regexFault? unclosedEvents
    obtain ⟨next, hnext⟩ :=
      haccepts (c.under ⟨false, regexFault?⟩) _ _ .unknown rfl rfl (.inl rfl)
    exact ⟨c, _, next, run, hstop, (hboth c run).1, hnext⟩

end GrammarRules
