import GrammarRules.Markup.Reader
import GrammarRules.Rule.Error

/-!
# Driving a consumer through a document

A `Consumer` takes events one after another and may refuse one; it then has a state all the same.
`drive` hands the events of a source to a consumer until one of the two fails, `replay` does so with
events that are at hand, and `record` collects the events of a source.
-/

namespace GrammarRules

/-- What became of an event. -/
inductive Outcome (σ : Type) where
  | accepted (state : σ)
  | refused (error : RuleError) (state : σ)
deriving Inhabited

namespace Outcome

variable {σ : Type}

/-- The state in either case. -/
def state : Outcome σ → σ
  | accepted state | refused _ state => state

/-- Why the event was refused, if it was. -/
def error? : Outcome σ → Option RuleError
  | accepted _ => none
  | refused error _ => some error

theorem eq_accepted {outcome : Outcome σ} (h : outcome.error? = none) :
    outcome = accepted outcome.state := by
  cases outcome with
  | accepted state => rfl
  | refused error state => cases h

theorem eq_refused {outcome : Outcome σ} {error : RuleError} (h : outcome.error? = some error) :
    outcome = refused error outcome.state := by
  cases outcome with
  | accepted state => cases h
  | refused other state =>
    obtain rfl := Option.some.inj h
    rfl

/-- Go on from an accepted event. -/
def andThen (outcome : Outcome σ) (next : σ → Outcome σ) : Outcome σ :=
  match outcome with
  | accepted state => next state
  | refused error state => refused error state

/-- Look at the state through a function. -/
def map {τ : Type} (f : σ → τ) : Outcome σ → Outcome τ
  | accepted state => accepted (f state)
  | refused error state => refused error (f state)

end Outcome

/-- Something that takes events one after another. -/
abbrev Consumer (σ : Type) := σ → Event → Outcome σ

/-- Feed events to a consumer up to the first that it refuses. -/
def replay {σ : Type} (consume : Consumer σ) (state : σ) : List Event → Outcome σ
  | [] => .accepted state
  | event :: events => (consume state event).andThen fun state => replay consume state events

namespace Markup

/-- The event that a piece of markup gives rise to. -/
def PlacedPiece.event (source : SourceFile) (placed : PlacedPiece) : Except RuleError Event :=
  let position := source.position placed.stop
  match placed.piece with
  | .startTag tag =>
    match tag.attributes with
    | .ok attributes => .ok (.start (String.ofList tag.name) attributes position)
    | .error error => fail (.malformed error.message) position
  | .endTag name => .ok (.stop (String.ofList name) position)
  | .text raw =>
    match expand raw with
    | .ok text => .ok (.text (String.ofList text) position)
    | .error error => fail (.malformed error.message) position
  | .characterData content => .ok (.text (String.ofList content) position)

/-- The error for a fault in the markup of a source. -/
def MarkupFault.toError (source : SourceFile) (fault : MarkupFault) : RuleError :=
  ⟨.malformed fault.error.message, source.position fault.place⟩

/-- Feed the events of pieces to a consumer, then the error that ended the pieces, if one did.
`event` says what event a piece gives rise to. -/
def drivePieces {σ : Type} (event : PlacedPiece → Except RuleError Event)
    (final? : Option RuleError) (consume : Consumer σ) (state : σ) : List PlacedPiece → Outcome σ
  | [] =>
    match final? with
    | none => .accepted state
    | some error => .refused error state
  | placed :: rest =>
    match event placed with
    | .error error => .refused error state
    | .ok found =>
      (consume state found).andThen fun state => drivePieces event final? consume state rest

/-- A consumer that is another one seen through `f` goes through the same outcomes. -/
theorem drivePieces_map {σ τ : Type} {consume : Consumer σ} {consume' : Consumer τ} {f : σ → τ}
    (h : ∀ state event, (consume state event).map f = consume' (f state) event)
    (event : PlacedPiece → Except RuleError Event) (final? : Option RuleError) (state : σ)
    (pieces : List PlacedPiece) :
    (drivePieces event final? consume state pieces).map f =
      drivePieces event final? consume' (f state) pieces := by
  induction pieces generalizing state with
  | nil => cases final? <;> rfl
  | cons placed rest ih =>
    simp only [drivePieces]
    cases event placed with
    | error error => rfl
    | ok found =>
      simp only [← h]
      cases consume state found with
      | accepted state => exact ih state
      | refused error state => rfl

end Markup

namespace SourceFile

/-- Feed the events of a source to a consumer. -/
def drive {σ : Type} (source : SourceFile) (consume : Consumer σ) (state : σ) : Outcome σ :=
  let read := Markup.readMarkup source.content
  Markup.drivePieces (·.event source) (read.fault.map (·.toError source)) consume state read.pieces

/-- The consumer that keeps the events it is given, last first. -/
def recorder : Consumer (List Event) := fun events event => .accepted (event :: events)

/-- The events of a source. -/
def record (source : SourceFile) : Except RuleError (List Event) :=
  match source.drive recorder [] with
  | .accepted events => .ok events.reverse
  | .refused error _ => .error error

end SourceFile

end GrammarRules
