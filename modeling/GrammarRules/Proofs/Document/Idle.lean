import GrammarRules.Proofs.Document.Origin
import GrammarRules.Proofs.Markup.Nesting

/-!
# Events without an effect

An element without a meaning, with everything in it, and text where no element takes it change
nothing but the last position (`Compiler.Idle`).  Every event notes its own position before it does
anything else, so such events may be put into a document wherever they are idle, and what comes
after them is none the wiser (`insertion_of_run`).
-/

namespace GrammarRules

/-- Events that have no effect on the compiler, up to the position of the last: an element that has
the name of no tag, with any content, or text that the innermost element does not take. -/
inductive Compiler.Idle (c : Compiler) (position : Position) : List Event → Prop
  | element {name : String} (attributes : Attributes) (opened : Position) {content : List Event}
      (hname : ∀ tag : Tag, tag.name ≠ name) (nested : Nested content) :
      Idle c position (.start name attributes opened :: content ++ [.stop name position])
  | text (text : String)
      (h : ∀ scope outer, c.stack = scope :: outer → scope.takesText = false) :
      Idle c position [.text text position]

namespace Compiler

variable {c : Compiler}

/-! ## The last position -/

/-- The last position is noted anew before it is looked at. -/
theorem step_moved (c : Compiler) (position : Position) (event : Event) :
    (c.moved position).step event = c.step event := by
  cases event <;> rfl

/-- The last position only shows in the error of a document that is not closed. -/
theorem finish_moved (c : Compiler) (position : Position) :
    (c.moved position).finish =
      (c.finish).mapError fun error => { error with position } := by
  obtain ⟨options, stack, phrases, output, last⟩ := c
  cases stack <;> rfl

/-! ## Elements without a meaning -/

theorem step_start_ignored (h : c.inIgnored = true) (name : String) (attributes : Attributes)
    (position : Position) :
    c.step (.start name attributes position) =
      .accepted ((c.moved position).push (.ignored name)) :=
  if_pos h

theorem step_start_unknown {name : String} (h : ∀ tag : Tag, tag.name ≠ name)
    (attributes : Attributes) (position : Position) :
    c.step (.start name attributes position) =
      .accepted ((c.moved position).push (.ignored name)) := by
  show (c.moved position).start name attributes position = _
  unfold start
  rw [Tag.ofName?_eq_none_iff.2 h]
  exact ite_self _

theorem step_stop_ignored (c : Compiler) (name : String) (position : Position) :
    (c.push (.ignored name)).step (.stop name position) = .accepted (c.moved position) :=
  @step_stop _ (.ignored name) _ rfl position

theorem step_text_idle (h : ∀ scope outer, c.stack = scope :: outer → scope.takesText = false)
    (text : String) (position : Position) :
    c.step (.text text position) = .accepted (c.moved position) := by
  obtain ⟨options, stack, phrases, output, last⟩ := c
  cases stack with
  | nil => rfl
  | cons scope outer =>
    have hscope := h scope outer rfl
    cases scope <;> first | rfl | cases hscope

/-- An element without a meaning, if its content has none. -/
theorem replay_element {name : String} {attributes : Attributes} {opened : Position}
    {content : List Event}
    (hstart : c.step (.start name attributes opened) =
      .accepted ((c.moved opened).push (.ignored name)))
    (hcontent : ∃ position, replay step ((c.moved opened).push (.ignored name)) content =
      .accepted (((c.moved opened).push (.ignored name)).moved position)) (closed : Position) :
    replay step c (.start name attributes opened :: content ++ [.stop name closed]) =
      .accepted (c.moved closed) := by
  obtain ⟨position, hcontent⟩ := hcontent
  have hstop : (((c.moved opened).push (.ignored name)).moved position).step (.stop name closed) =
      .accepted (c.moved closed) := by
    rw [step_moved]
    exact step_stop_ignored (c.moved opened) name closed
  rw [List.cons_append, replay, hstart]
  simp only [Outcome.andThen]
  rw [replay_append, hcontent, Outcome.andThen, replay, hstop]
  rfl

/-- Nested events in an element without a meaning have none themselves. -/
theorem replay_ignored {content : List Event} (nested : Nested content) (h : c.inIgnored = true) :
    ∃ position, replay step c content = .accepted (c.moved position) := by
  induction nested generalizing c with
  | nil => exact ⟨c.lastPosition, rfl⟩
  | text text position hrest ih =>
    have htext : c.step (.text text position) = .accepted (c.moved position) := by
      refine step_text_idle (fun scope outer hstack => ?_) text position
      rw [inIgnored, hstack] at h
      cases scope <;> first | rfl | cases h
    obtain ⟨last, hlast⟩ := ih (c := c.moved position) h
    refine ⟨last, ?_⟩
    rw [replay, htext]
    exact hlast
  | @element name attributes opened closed content rest hcontent hrest ihcontent ihrest =>
    have helement := replay_element (step_start_ignored h name attributes opened)
      (ihcontent (c := (c.moved opened).push (.ignored name)) rfl) closed
    obtain ⟨last, hlast⟩ := ihrest (c := c.moved closed) h
    refine ⟨last, ?_⟩
    rw [List.append_cons, replay_append, helement]
    exact hlast

/-- Idle events move the last position and do nothing else. -/
theorem Idle.replay_eq {position : Position} {extra : List Event} (h : c.Idle position extra) :
    replay step c extra = .accepted (c.moved position) := by
  cases h with
  | element attributes opened hname nested =>
    exact replay_element (step_start_unknown hname attributes opened)
      (replay_ignored nested rfl) position
  | text text h =>
    rw [replay, step_text_idle h]
    rfl

end Compiler

/-! ## Runs -/

section Run

variable {options : CompileOptions} {before extra : List Event} {c : Compiler}
  {position : Position}

/-- Where a document is accepted so far, idle events are accepted as well and only move the last
position, and whatever comes next goes on as it would without them: with the same states, up to the
same error at the same position.  The document may end there if it might have ended before them, and
if not, the error is the same but for its position. -/
theorem insertion_of_run
    (run : replay Compiler.step (Compiler.new options) before = .accepted c)
    (idle : c.Idle position extra) :
    replay Compiler.step (Compiler.new options) (before ++ extra) =
      .accepted (c.moved position) ∧
    (∀ event after,
      replay Compiler.step (Compiler.new options) (before ++ extra ++ event :: after) =
        replay Compiler.step (Compiler.new options) (before ++ event :: after)) ∧
    (c.moved position).finish = c.finish.mapError fun error => { error with position } := by
  have hextra : replay Compiler.step (Compiler.new options) (before ++ extra) =
      .accepted (c.moved position) := by
    rw [replay_append, run]
    exact idle.replay_eq
  refine ⟨hextra, fun event after => ?_, c.finish_moved position⟩
  rw [replay_append, hextra, replay_append, run]
  simp only [Outcome.andThen, replay, Compiler.step_moved]

end Run

/-- A document up to the reference in a message. -/
def referenceEvents : List Event :=
  [.start "rules" ⟨[]⟩ .unknown, .start "rule" ⟨[("id", "R")]⟩ .unknown,
    .start "message" ⟨[]⟩ .unknown] ++ tagged "match" [("no", "1")] []

/-- A digit after a reference is refused even if an element without a meaning stands between them
that has digits and a misplaced rule in it. -/
theorem insertion_of_run_sample :
    ∃ c refused, replay Compiler.step (Compiler.new {}) referenceEvents = .accepted c ∧
      replay Compiler.step (Compiler.new {}) (referenceEvents ++
        tagged "b" [] (.text "7" .unknown :: tagged "rule" [] [.text "8" .unknown])) =
          .accepted (c.moved .unknown) ∧
      replay Compiler.step (Compiler.new {}) (referenceEvents ++
        tagged "b" [] (.text "7" .unknown :: tagged "rule" [] [.text "8" .unknown]) ++
          [.text "0" ⟨4, 30, 99⟩]) = .refused ⟨.ambiguousPlaceholder 1, ⟨4, 30, 99⟩⟩ refused := by
  let c := (replay Compiler.step (Compiler.new {}) referenceEvents).state
  have run : replay Compiler.step (Compiler.new {}) referenceEvents = .accepted c :=
    Outcome.eq_accepted (by decide +kernel)
  have nested : Nested (.text "7" .unknown :: tagged "rule" [] [.text "8" .unknown]) :=
    nested_iff.2 (by simp [tagged, openAfter])
  have hname : ∀ tag : Tag, tag.name ≠ "b" := fun tag => by cases tag <;> decide
  obtain ⟨hextra, hafter, -⟩ := insertion_of_run run (.element ⟨[]⟩ .unknown hname nested)
  have hdigit : replay Compiler.step (Compiler.new {})
      (referenceEvents ++ [.text "0" ⟨4, 30, 99⟩]) =
        .refused ⟨.ambiguousPlaceholder 1, ⟨4, 30, 99⟩⟩ _ :=
    Outcome.eq_refused (by decide +kernel)
  exact ⟨c, _, run, hextra, (hafter _ _).trans hdigit⟩

end GrammarRules
