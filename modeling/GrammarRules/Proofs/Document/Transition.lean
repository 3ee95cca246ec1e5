import GrammarRules.Proofs.Document.Closing

/-!
# What an event does

A `Transition` is an event that the compiler accepts, with everything that it changes; `Opens`,
`Reads` and `Closes` say so for start tags, text and end tags.  `transition_of_step` derives the
transitions from `Compiler.step` on a stack that is a path, and `Transition.isPath` keeps the stack
a path.  What every transition keeps holds after every run (`run_induction`, `run_invariant`), so
later proofs go by cases on the rules and never look into `step`.
-/

namespace GrammarRules

open ScopeStack

/-! ## Text -/

/-- Whether the element takes the text in it. -/
def Scope.takesText : Scope → Bool
  | .token _ | .exception _ | .sample _ | .message | .suggestion | .short | .marker => true
  | _ => false

/-- Character data. -/
inductive Reads (c : Compiler) (text : String) : Compiler → Prop
  | token {draft : TokenDraft} {outer : ScopeStack} (h : c.stack = .token draft :: outer) :
      Reads c text { c with stack := .token (draft.addText text) :: outer }
  | exception {draft : ExceptionDraft} {outer : ScopeStack}
      (h : c.stack = .exception draft :: outer) :
      Reads c text { c with stack := .exception (draft.addText text) :: outer }
  | sample {draft : ExampleDraft} {outer : ScopeStack} (h : c.stack = .sample draft :: outer) :
      Reads c text { c with stack := .sample (draft.addText text) :: outer }
  | message {inSuggestion : Bool} {rule : RuleDraft} {outer : ScopeStack}
      (h : c.stack = messageStack inSuggestion rule outer)
      (apart : rule.message.trailingReference? = none ∨ startsWithDigit text.toList = false) :
      Reads c text { c with stack := messageStack inSuggestion (rule.addText text) outer }
  | short {rule : RuleDraft} {outer : ScopeStack} (h : c.stack = .short :: .rule rule :: outer) :
      Reads c text { c with stack := .short :: .rule (rule.addShortText text) :: outer }
  | marker {draft : ExampleDraft} {outer : ScopeStack}
      (h : c.stack = .marker :: .sample draft :: outer) :
      Reads c text { c with stack := .marker :: .sample (draft.addText text) :: outer }
  | nothing (h : ∀ scope outer, c.stack = scope :: outer → scope.takesText = false) : Reads c text c

section Text

variable {options : CompileOptions} {stack : ScopeStack} {phrases : PhraseTable}
  {output : CompiledRules} {last : Position} {next : Compiler} {text : String}
  {position : Position}

theorem messageText_messageStack (inSuggestion : Bool) (rule : RuleDraft) (outer : ScopeStack) :
    (Compiler.mk options (messageStack inSuggestion rule outer) phrases output last).messageText
        text position =
      match rule.message.trailingReference? with
      | some number =>
        if startsWithDigit text.toList then
          .refused ⟨.ambiguousPlaceholder number, position⟩
            ⟨options, messageStack inSuggestion rule outer, phrases, output, last⟩
        else
          .accepted ⟨options, messageStack inSuggestion (rule.addText text) outer, phrases, output,
            last⟩
      | none =>
        .accepted ⟨options, messageStack inSuggestion (rule.addText text) outer, phrases, output,
          last⟩ := by
  cases inSuggestion <;> rfl

theorem Reads.of_messageText {inSuggestion : Bool} {rule : RuleDraft} {outer : ScopeStack}
    (h : (Compiler.mk options (messageStack inSuggestion rule outer) phrases output
      last).messageText text position = .accepted next) :
    Reads ⟨options, messageStack inSuggestion rule outer, phrases, output, last⟩ text next := by
  rw [messageText_messageStack] at h
  split at h
  · split at h
    · cases h
    · next hdigit =>
      cases h
      exact .message rfl (.inr (by simpa using hdigit))
  · next hnone =>
    cases h
    exact .message rfl (.inl hnone)

theorem Reads.of_text (path : stack.IsPath)
    (h : (Compiler.mk options stack phrases output last).text text position = .accepted next) :
    Reads ⟨options, stack, phrases, output, last⟩ text next := by
  cases stack with
  | nil =>
    cases h
    exact .nothing nofun
  | cons scope outer =>
    cases scope with
    | token draft =>
      cases h
      exact .token rfl
    | exception draft =>
      cases h
      exact .exception rfl
    | sample draft =>
      cases h
      exact .sample rfl
    | message =>
      obtain ⟨rule, rest, rfl⟩ := exists_of_fits_in_rule rfl (path.1 .message rfl)
      have htext : (Compiler.mk options (messageStack false rule rest) phrases output
        last).messageText text position = .accepted next := h
      exact .of_messageText htext
    | suggestion =>
      obtain ⟨rule, rest, rfl⟩ := exists_of_fits_suggestion path.tail (path.1 .suggestion rfl)
      have htext : (Compiler.mk options (messageStack true rule rest) phrases output
        last).messageText text position = .accepted next := h
      exact .of_messageText htext
    | short =>
      obtain ⟨rule, rest, rfl⟩ := exists_of_fits_in_rule rfl (path.1 .short rfl)
      cases h
      exact .short rfl
    | marker =>
      obtain ⟨sample, rule, rest, rfl⟩ := exists_of_fits_marker path.tail (path.1 .marker rfl)
      cases h
      exact .marker rfl
    | _ =>
      cases h
      exact .nothing fun _ _ heq => by cases heq; rfl

end Text

/-! ## Events -/

/-- An event that is accepted, after its position has been noted. -/
inductive Transition (c : Compiler) : Event → Compiler → Prop
  /-- An element without a meaning begins. -/
  | ignore {name : String} {attributes : Attributes} {position : Position}
      (h : c.inIgnored = true ∨ Tag.ofName? name = none) :
      Transition c (.start name attributes position) { c with stack := .ignored name :: c.stack }
  | start {name : String} {tag : Tag} {attributes : Attributes} {position : Position}
      {next : Compiler} (h : c.inIgnored = false) (htag : Tag.ofName? name = some tag)
      (fits : tag.fitsOn c.stack = true) (opens : Opens c attributes position tag next) :
      Transition c (.start name attributes position) next
  | text {text : String} {position : Position} {next : Compiler} (reads : Reads c text next) :
      Transition c (.text text position) next
  | stop {name : String} {position : Position} {scope : Scope} {outer : ScopeStack}
      {next : Compiler} (h : c.stack = scope :: outer) (hname : scope.name = name)
      (closes : Closes c position next) : Transition c (.stop name position) next

/-- The compiler with the last position moved. -/
def Compiler.moved (c : Compiler) (position : Position) : Compiler :=
  { c with lastPosition := position }

/-- The end tag of the innermost element. -/
theorem Compiler.step_stop {c : Compiler} {scope : Scope} {outer : ScopeStack}
    (h : c.stack = scope :: outer) (position : Position) :
    c.step (.stop scope.name position) =
      Compiler.closeScope { c with stack := outer, lastPosition := position } scope position := by
  obtain ⟨options, stack, phrases, output, last⟩ := c
  cases h
  exact if_pos rfl

/-- An end tag where no element is open. -/
theorem Compiler.step_stop_nil {c : Compiler} (h : c.stack = []) (name : String)
    (position : Position) :
    c.step (.stop name position) =
      (c.moved position).refuse (.malformed s!"unexpected </{name}>") position := by
  obtain ⟨options, stack, phrases, output, last⟩ := c
  cases h
  rfl

/-- An end tag that is not that of the innermost element. -/
theorem Compiler.step_stop_of_ne {c : Compiler} {scope : Scope} {outer : ScopeStack}
    (h : c.stack = scope :: outer) {name : String} (hname : scope.name ≠ name)
    (position : Position) :
    c.step (.stop name position) =
      Compiler.refuse { c with stack := outer, lastPosition := position }
        (.malformed s!"expected </{scope.name}>, found </{name}>") position := by
  obtain ⟨options, stack, phrases, output, last⟩ := c
  cases h
  exact if_neg hname

theorem Transition.of_start {c next : Compiler} {name : String} {attributes : Attributes}
    {position : Position} (path : c.stack.IsPath)
    (h : c.start name attributes position = .accepted next) :
    Transition c (.start name attributes position) next := by
  unfold Compiler.start at h
  split at h
  · next hignored =>
    cases h
    exact .ignore (.inl hignored)
  · next hignored =>
    rw [Bool.not_eq_true] at hignored
    split at h
    · next hname =>
      cases h
      exact .ignore (.inr hname)
    · next tag htag =>
      obtain ⟨_, hparent, hnext⟩ := Compiler.exists_of_check h
      have fits := Compiler.fitsOn_of_requireParent hparent
      exact .start hignored htag fits (.of_startTag path fits hnext)

theorem Transition.of_stop {c next : Compiler} {name : String} {position : Position}
    (path : c.stack.IsPath) (h : c.stop name position = .accepted next) :
    Transition c (.stop name position) next := by
  obtain ⟨options, stack, phrases, output, last⟩ := c
  cases stack with
  | nil => cases h
  | cons scope outer =>
    simp only [Compiler.stop] at h
    split at h
    · next hname => exact .stop rfl hname (.of_closeScope path h)
    · cases h

/-- An event that is accepted while the open elements are a path makes a transition. -/
theorem transition_of_step {c next : Compiler} {event : Event} (path : c.stack.IsPath)
    (h : c.step event = .accepted next) : Transition (c.moved event.position) event next := by
  cases event with
  | start name attributes position => exact .of_start path h
  | text text position => exact .text (.of_text path h)
  | stop name position => exact .of_stop path h

/-- The start tag of an element with a meaning, where it has one. -/
theorem opens_of_start {c next : Compiler} {tag : Tag} {attributes : Attributes}
    {position : Position} (path : c.stack.IsPath) (hignored : c.inIgnored = false)
    (step : c.step (.start tag.name attributes position) = .accepted next) :
    tag.fitsOn c.stack = true ∧ Opens (c.moved position) attributes position tag next := by
  cases transition_of_step path step with
  | ignore h =>
    rcases h with h | h
    · cases hignored.symm.trans h
    · cases h.symm.trans tag.ofName?_name
  | start _ htag fits opens =>
    obtain rfl := Option.some.inj (tag.ofName?_name.symm.trans htag)
    exact ⟨fits, opens⟩

/-! ## The path is kept -/

theorem Fresh.tag?_eq {c : Compiler} {attributes : Attributes} {position : Position} {tag : Tag}
    {scope : Scope} (h : Fresh c attributes position tag scope) : scope.tag? = some tag := by
  cases h <;> rfl

theorem kinds_countRule (stack : ScopeStack) : kinds stack.countRule = kinds stack := by
  rw [kinds, countRule, List.map_map]
  exact List.map_congr_left fun scope _ => by cases scope <;> rfl

/-- A start tag puts an element on the stack, and nothing else changes its kind. -/
theorem Opens.kinds_eq {c next : Compiler} {attributes : Attributes} {position : Position}
    {tag : Tag} (h : Opens c attributes position tag next) :
    kinds next.stack = (some tag, tag.name) :: kinds c.stack := by
  cases h with
  | @fresh _ scope fresh =>
    have htag := fresh.tag?_eq
    simp only [kinds_cons, htag, Scope.name_of_tag? htag]
  | @token _ pattern _ _ h _ =>
    rw [h, kinds_cons, kinds_seat _ pattern.countToken pattern]
    rfl
  | @andGroup _ pattern _ h =>
    rw [h, kinds_cons, kinds_seat _ pattern.countToken pattern]
    rfl
  | @declaration _ rule _ declared h _ =>
    rw [h, kinds_cons, kinds_messageStack _ (rule.addMatch declared) rule]
    rfl
  | rules h | unification h | expansion h | inclusion h | featureType h | binding h | suggestion h
  | marker h => rw [h]; rfl

/-- Text changes the kind of no element. -/
theorem Reads.kinds_eq {c next : Compiler} {text : String} (h : Reads c text next) :
    kinds next.stack = kinds c.stack := by
  cases h with
  | @message _ rule _ h _ => rw [h, kinds_messageStack _ (rule.addText text) rule]
  | nothing => rfl
  | token h | exception h | sample h | short h | marker h => rw [h]; rfl

/-- An end tag takes the innermost element off the stack, and nothing else changes its kind. -/
theorem Closes.kinds_eq {c next : Compiler} {position : Position} {scope : Scope}
    {outer : ScopeStack} (h : Closes c position next) (hstack : c.stack = scope :: outer) :
    kinds next.stack = kinds outer := by
  suffices h : kinds next.stack = kinds c.stack.tail by rw [h, hstack, List.tail_cons]
  cases h with
  | @token _ _ pattern _ element h _ =>
    rw [h, List.tail_cons, kinds_seat _ _ pattern]
  | @andGroup _ _ _ pattern _ h =>
    rw [h, List.tail_cons, kinds_seat _ _ pattern]
  | rule h _ => rw [h, List.tail_cons, kinds_countRule]
  | silent h _ | member h _ | phraseToken h _ | typeToken h _ | exception h _ | feature h | unify h
  | pattern h | suggestion h | marker h | sample h | phrase h _ | equivalence h => rw [h]; rfl

/-- Every event that is accepted keeps the open elements a path of the grammar. -/
theorem Transition.isPath {c next : Compiler} {event : Event} (path : c.stack.IsPath)
    (h : Transition c event next) : next.stack.IsPath := by
  cases h with
  | ignore h => exact ⟨nofun, path⟩
  | @start _ tag attributes position _ _ _ fits opens =>
    obtain ⟨scope, outer, hstack, hscope, houter⟩ := List.map_eq_cons_iff.1 opens.kinds_eq
    rw [hstack]
    refine ⟨fun other hother => ?_, path.congr houter⟩
    have htag : scope.tag? = some tag := congrArg Prod.fst hscope
    obtain rfl : tag = other := Option.some.inj (htag.symm.trans hother)
    rw [fitsOn_congr houter, fits]
  | text reads => exact path.congr reads.kinds_eq
  | stop h _ closes =>
    rw [h] at path
    exact path.tail.congr (closes.kinds_eq h)

theorem isPath_of_step {c next : Compiler} {event : Event} (path : c.stack.IsPath)
    (h : c.step event = .accepted next) : next.stack.IsPath := by
  have moved : (c.moved event.position).stack.IsPath := path
  exact (transition_of_step path h).isPath moved

/-! ## Runs -/

theorem replay_cons_eq_accepted {σ : Type} {consume : Consumer σ} {state final : σ} {event : Event}
    {events : List Event} (h : replay consume state (event :: events) = .accepted final) :
    ∃ next, consume state event = .accepted next ∧
      replay consume next events = .accepted final := by
  rw [replay] at h
  cases hnext : consume state event with
  | accepted next =>
    rw [hnext] at h
    exact ⟨next, rfl, h⟩
  | refused error next =>
    rw [hnext] at h
    cases h

/-- A record of the events of a run up to the first that is refused.  `note` adds an event, given
the state before it. -/
def historyAfter {γ : Type} (note : Compiler → γ → Event → γ) (c : Compiler) (history : γ) :
    List Event → γ
  | [] => history
  | event :: events =>
    match c.step event with
    | .accepted next => historyAfter note next (note c history event) events
    | .refused _ _ => history

/-- What holds at first and is kept by every transition holds after every run that is accepted. -/
theorem run_induction {γ : Type} {note : Compiler → γ → Event → γ} {P : Compiler → γ → Prop}
    (keep : ∀ {c : Compiler} {history : γ} {event : Event} {next : Compiler}, c.stack.IsPath →
      P c history → Transition (c.moved event.position) event next → P next (note c history event))
    {c final : Compiler} {history : γ} {events : List Event} (path : c.stack.IsPath)
    (h : P c history) (run : replay Compiler.step c events = .accepted final) :
    final.stack.IsPath ∧ P final (historyAfter note c history events) := by
  induction events generalizing c history with
  | nil =>
    cases run
    exact ⟨path, h⟩
  | cons event events ih =>
    obtain ⟨next, hnext, run⟩ := replay_cons_eq_accepted run
    rw [historyAfter, hnext]
    exact ih (isPath_of_step path hnext) (keep path h (transition_of_step path hnext)) run

/-- The same where nothing has to be recorded of the events. -/
theorem run_invariant {P : Compiler → Prop}
    (keep : ∀ {c : Compiler} {event : Event} {next : Compiler}, c.stack.IsPath → P c →
      Transition (c.moved event.position) event next → P next)
    {c final : Compiler} {events : List Event} (path : c.stack.IsPath) (h : P c)
    (run : replay Compiler.step c events = .accepted final) : P final :=
  (@run_induction Unit (fun _ history _ => history) (fun c _ => P c) keep c final () events path h
    run).2

end GrammarRules
