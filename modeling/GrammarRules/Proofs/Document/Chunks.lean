import GrammarRules.Proofs.Document.Origin

/-!
# Text that comes in pieces

A reader may hand over the text of an element in one event or in several.  Everything that collects
text puts it after the text that is there, so that two pieces are as good as one
(`Compiler.step_text_append`).  A message has to look at how a piece begins, since no digit may come
right after a reference, and at nothing else, which is why no piece may be empty.  Cutting texts
into pieces anywhere in a document changes nothing at all (`chunks_of_run`).
-/

namespace GrammarRules

/-! ## What collects text -/

theorem TokenDraft.addText_addText (draft : TokenDraft) (s t : String) :
    (draft.addText s).addText t = draft.addText (s ++ t) := by
  simp only [addText, String.append_assoc]

theorem ExceptionDraft.addText_addText (draft : ExceptionDraft) (s t : String) :
    (draft.addText s).addText t = draft.addText (s ++ t) := by
  simp only [addText, String.append_assoc]

theorem ExampleDraft.addText_addText (draft : ExampleDraft) (s t : String) :
    (draft.addText s).addText t = draft.addText (s ++ t) := by
  simp only [addText, String.append_assoc]

namespace MessageDraft

theorem addText_addText (draft : MessageDraft) (s t : String) :
    (draft.addText s).addText t = draft.addText (s ++ t) := by
  obtain ⟨reversed⟩ := draft
  obtain _ | ⟨_ | _, _⟩ := reversed
  · rfl
  · simp only [addText, String.append_assoc]
  · rfl

theorem trailingReference?_addText (draft : MessageDraft) (s : String) :
    (draft.addText s).trailingReference? = none := by
  unfold addText
  split <;> rfl

end MessageDraft

namespace RuleDraft

theorem addText_addText (draft : RuleDraft) (s t : String) :
    (draft.addText s).addText t = draft.addText (s ++ t) := by
  simp only [addText, MessageDraft.addText_addText]

theorem addShortText_addShortText (draft : RuleDraft) (s t : String) :
    (draft.addShortText s).addShortText t = draft.addShortText (s ++ t) := by
  simp only [addShortText, Option.getD_some, String.append_assoc]

end RuleDraft

theorem startsWithDigit_append_of_ne {s : String} (hs : s ≠ "") (t : String) :
    startsWithDigit (s ++ t).toList = startsWithDigit s.toList := by
  obtain ⟨c, cs, hcs⟩ := List.exists_cons_of_ne_nil (mt String.toList_eq_nil_iff.1 hs)
  rw [String.toList_append, hcs]
  rfl

namespace ScopeStack

/-- Two changes of the innermost element of a kind. -/
theorem update_update {first second both : Scope → Option Scope}
    (hnone : ∀ scope, first scope = none → second scope = none ∧ both scope = none)
    (hsome : ∀ scope changed, first scope = some changed →
      ∃ twice, second changed = some twice ∧ both scope = some twice) (stack : ScopeStack) :
    (stack.update first).update second = stack.update both := by
  induction stack with
  | nil => rfl
  | cons scope outer ih =>
    cases hfirst : first scope with
    | none =>
      obtain ⟨hsecond, hboth⟩ := hnone scope hfirst
      simp only [update, hfirst, hsecond, hboth, ih]
    | some changed =>
      obtain ⟨twice, hsecond, hboth⟩ := hsome scope changed hfirst
      simp only [update, hfirst, hsecond, hboth]

theorem updateRule_updateRule (first second : RuleDraft → RuleDraft) (stack : ScopeStack) :
    (stack.updateRule first).updateRule second =
      stack.updateRule fun draft => second (first draft) := by
  refine update_update (fun scope hscope => ?_) (fun scope changed hscope => ?_) stack
  · cases scope <;> first | exact ⟨rfl, rfl⟩ | cases hscope
  · cases scope <;> cases hscope
    exact ⟨_, rfl, rfl⟩

theorem updateSample_updateSample (first second : ExampleDraft → ExampleDraft)
    (stack : ScopeStack) :
    (stack.updateSample first).updateSample second =
      stack.updateSample fun draft => second (first draft) := by
  refine update_update (fun scope hscope => ?_) (fun scope changed hscope => ?_) stack
  · cases scope <;> first | exact ⟨rfl, rfl⟩ | cases hscope
  · cases scope <;> cases hscope
    exact ⟨_, rfl, rfl⟩

/-- The number of the reference that the message of the open rule ends with, if it does. -/
def trailingReference? (stack : ScopeStack) : Option Nat :=
  (stack.findSome? fun
    | .rule draft => some draft
    | _ => none).bind fun draft => draft.message.trailingReference?

theorem trailingReference?_addText (stack : ScopeStack) (s : String) :
    (stack.updateRule (·.addText s)).trailingReference? = none := by
  induction stack with
  | nil => rfl
  | cons scope outer ih =>
    cases scope with
    | rule draft => exact draft.message.trailingReference?_addText s
    | _ => exact ih

end ScopeStack

/-! ## One text in two pieces -/

namespace Compiler

theorem messageText_eq (c : Compiler) (text : String) (position : Position) :
    c.messageText text position =
      match c.stack.trailingReference? with
      | some number =>
        if startsWithDigit text.toList then c.refuse (.ambiguousPlaceholder number) position
        else .accepted (c.mapStack (·.updateRule (·.addText text)))
      | none => .accepted (c.mapStack (·.updateRule (·.addText text))) := rfl

/-- Text after text in a message is never refused. -/
theorem messageText_addText (c : Compiler) (s t : String) (position : Position) :
    (c.mapStack (·.updateRule (·.addText s))).messageText t position =
      .accepted (c.mapStack (·.updateRule (·.addText (s ++ t)))) := by
  rw [messageText_eq, mapStack, c.stack.trailingReference?_addText s]
  simp only [mapStack, ScopeStack.updateRule_updateRule, RuleDraft.addText_addText]

theorem messageText_append (c : Compiler) {s : String} (hs : s ≠ "") (t : String)
    (position : Position) {next : Compiler → Outcome Compiler}
    (hnext : next (c.mapStack (·.updateRule (·.addText s))) =
      (c.mapStack (·.updateRule (·.addText s))).messageText t position) :
    c.messageText (s ++ t) position = (c.messageText s position).andThen next := by
  rw [messageText_addText] at hnext
  rw [messageText_eq, messageText_eq, startsWithDigit_append_of_ne hs]
  cases c.stack.trailingReference? with
  | none => exact hnext.symm
  | some number =>
    dsimp only
    split
    · rfl
    · exact hnext.symm

/-- A text is as good as two pieces of it, if the first is not empty. -/
theorem step_text_append (c : Compiler) {s : String} (hs : s ≠ "") (t : String)
    (position : Position) :
    c.step (.text (s ++ t) position) =
      (c.step (.text s position)).andThen fun next => next.step (.text t position) := by
  obtain ⟨options, stack, phrases, output, last⟩ := c
  have hstack {stack stack' : ScopeStack} (h : stack = stack') :
      Outcome.accepted (Compiler.mk options stack' phrases output position) =
        .accepted ⟨options, stack, phrases, output, position⟩ := by
    rw [h]
  cases stack with
  | nil => rfl
  | cons scope outer =>
    cases scope with
    | token draft | exception draft | sample draft =>
      exact hstack (by rw [draft.addText_addText])
    | message | suggestion =>
      exact messageText_append ⟨options, _ :: outer, phrases, output, position⟩ hs t position rfl
    | short =>
      have htwice := ScopeStack.updateRule_updateRule (·.addShortText s) (·.addShortText t) outer
      simp only [RuleDraft.addShortText_addShortText] at htwice
      exact hstack (congrArg (Scope.short :: ·) htwice)
    | marker =>
      have htwice := ScopeStack.updateSample_updateSample (·.addText s) (·.addText t) outer
      simp only [ExampleDraft.addText_addText] at htwice
      exact hstack (congrArg (Scope.marker :: ·) htwice)
    | _ => rfl

/-- A text is as good as any number of pieces of it, if no piece is empty. -/
theorem replay_pieces (c : Compiler) {pieces : List String} (hne : pieces ≠ [])
    (hpieces : ∀ piece ∈ pieces, piece ≠ "") (position : Position) :
    replay step c (pieces.map (.text · position)) =
      c.step (.text (String.join pieces) position) := by
  induction pieces generalizing c with
  | nil => exact absurd rfl hne
  | cons piece pieces ih =>
    obtain ⟨hpiece, hpieces⟩ := List.forall_mem_cons.1 hpieces
    rw [List.map_cons, replay, String.join_cons]
    cases pieces with
    | nil =>
      rw [String.join_nil, String.append_empty]
      cases c.step (.text piece position) <;> rfl
    | cons second rest =>
      rw [step_text_append c hpiece]
      congr 1
      exact funext fun next => ih next (List.cons_ne_nil second rest) hpieces

end Compiler

/-! ## Documents -/

/-- The second list of events is the first with texts cut into pieces that are not empty. -/
inductive CutInto : List Event → List Event → Prop
  | nil : CutInto [] []
  | keep (event : Event) {events cut : List Event} (h : CutInto events cut) :
      CutInto (event :: events) (event :: cut)
  | text {pieces : List String} (position : Position) (hne : pieces ≠ [])
      (hpieces : ∀ piece ∈ pieces, piece ≠ "") {events cut : List Event}
      (h : CutInto events cut) :
      CutInto (.text (String.join pieces) position :: events)
        (pieces.map (.text · position) ++ cut)

theorem CutInto.replay_eq {events cut : List Event} (h : CutInto events cut) (c : Compiler) :
    replay Compiler.step c cut = replay Compiler.step c events := by
  induction h generalizing c with
  | nil => rfl
  | keep event h ih => simp only [replay, ih]
  | text position hne hpieces h ih =>
    rw [replay_append, c.replay_pieces hne hpieces, replay]
    simp only [ih]

section Run

variable (options : CompileOptions)

/-- A text that comes in two pieces has the same outcome as in one, and so have documents in which
texts are cut into pieces anywhere, whether they are compiled or refused. -/
theorem chunks_of_run :
    (∀ before after s t position, s ≠ "" →
      replay Compiler.step (Compiler.new options)
          (before ++ .text s position :: .text t position :: after) =
        replay Compiler.step (Compiler.new options)
          (before ++ .text (s ++ t) position :: after)) ∧
    ∀ events cut, CutInto events cut →
      replay Compiler.step (Compiler.new options) cut =
        replay Compiler.step (Compiler.new options) events := by
  refine ⟨fun before after s t position hs => ?_, fun events cut h => h.replay_eq _⟩
  rw [replay_append, replay_append]
  congr 1
  funext c
  rw [replay, replay, c.step_text_append hs t position]
  cases c.step (.text s position) <;> rfl

end Run

/-- The sample up to a reference in the message of its rule. -/
def spokenEvents : List Event :=
  sampleEvents ++ .start "message" ⟨[]⟩ .unknown :: tagged "match" [("no", "1")] []

/-- A placeholder that is written by hand counts once, even if it comes in two pieces. -/
theorem chunks_of_run_sample :
    ∃ c, replay Compiler.step (Compiler.new {}) (spokenEvents ++ .text " or \\" .unknown ::
        .text "2" .unknown :: [.stop "message" .unknown, .stop "rule" .unknown]) = .accepted c ∧
      replay Compiler.step (Compiler.new {}) (spokenEvents ++ .text " or \\2" .unknown ::
        [.stop "message" .unknown, .stop "rule" .unknown]) = .accepted c ∧
      c.rules.map Rule.message = ["\\1 or \\2", "\\1 or \\2"] ∧
      ∀ rule ∈ c.rules, rule.placeholders.length = 2 := by
  have hcut := (chunks_of_run {}).1 spokenEvents
    [.stop "message" .unknown, .stop "rule" .unknown] " or \\" "2" .unknown (by decide)
  have whole : replay Compiler.step (Compiler.new {}) (spokenEvents ++ .text " or \\2" .unknown ::
      [.stop "message" .unknown, .stop "rule" .unknown]) = .accepted _ :=
    Outcome.eq_accepted (by decide +kernel)
  exact ⟨_, hcut.trans whole, whole, by decide +kernel, by decide +kernel⟩

end GrammarRules
