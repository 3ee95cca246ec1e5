import GrammarRules.Proofs.Document.Origin

/-!
# Recordings

Which events a source has and how it ends does not depend on the consumer that takes them
(`Markup.reading`).  To feed a source to a consumer is to replay these events and, if the source
ends in an error, to fail with it once they have all been accepted (`SourceFile.driveWith_eq`).
Nothing of this depends on how markup is read, how attributes are taken apart or how entities are
replaced: `driveWith`, `recordWith` and `compileWith` take any reader of pieces and any events for
them.  So a recording is as good as its source, and where there is no recording a document fails,
with the same error or with one that its compiler raised before (`drive_of_record`).
-/

namespace GrammarRules

/-- Fail in the state reached, if there is an error to fail with. -/
def Outcome.closedBy {σ : Type} (outcome : Outcome σ) (error? : Option RuleError) : Outcome σ :=
  match error? with
  | none => outcome
  | some error => outcome.andThen (refused error)

theorem Outcome.andThen_closedBy {σ : Type} (outcome : Outcome σ) (next : σ → Outcome σ)
    (error? : Option RuleError) :
    (outcome.andThen next).closedBy error? =
      outcome.andThen fun state => (next state).closedBy error? := by
  cases outcome <;> cases error? <;> rfl

namespace Markup

/-- The events of pieces of markup, up to the first piece with an error in it, and the error that
ends them. -/
def reading (event : PlacedPiece → Except RuleError Event) (final? : Option RuleError) :
    List PlacedPiece → List Event × Option RuleError
  | [] => ([], final?)
  | placed :: rest =>
    match event placed with
    | .error error => ([], some error)
    | .ok found => (reading event final? rest).map (found :: ·) id

theorem drivePieces_eq {σ : Type} (event : PlacedPiece → Except RuleError Event)
    (final? : Option RuleError) (consume : Consumer σ) (state : σ) (pieces : List PlacedPiece) :
    drivePieces event final? consume state pieces =
      (replay consume state (reading event final? pieces).1).closedBy
        (reading event final? pieces).2 := by
  induction pieces generalizing state with
  | nil => cases final? <;> rfl
  | cons placed rest ih =>
    rw [drivePieces, reading]
    cases event placed with
    | error error => rfl
    | ok found =>
      simp only [ih, Prod.map_fst, Prod.map_snd, id_eq, replay, Outcome.andThen_closedBy]

end Markup

/-! ## Any reader -/

namespace SourceFile

variable (read : String → Markup.Pieces)
  (convert : SourceFile → Markup.PlacedPiece → Except RuleError Event) (source : SourceFile)

/-- Feed the events of the pieces that a reader finds in a source to a consumer. -/
def driveWith {σ : Type} (consume : Consumer σ) (state : σ) : Outcome σ :=
  let pieces := read source.content
  Markup.drivePieces (convert source) (pieces.fault.map (·.toError source)) consume state
    pieces.pieces

/-- The events that a reader finds in a source. -/
def recordWith : Except RuleError (List Event) :=
  match source.driveWith read convert recorder [] with
  | .accepted events => .ok events.reverse
  | .refused error _ => .error error

/-- Compile what a reader finds in a source. -/
def compileWith (options : CompileOptions) : Except RuleError CompiledRules :=
  match source.driveWith read convert Compiler.step (Compiler.new options) with
  | .accepted c => c.finish
  | .refused error _ => .error error

/-- The events of a source and the error that ends them. -/
def readingWith : List Event × Option RuleError :=
  Markup.reading (convert source) ((read source.content).fault.map (·.toError source))
    (read source.content).pieces

theorem driveWith_eq {σ : Type} (consume : Consumer σ) (state : σ) :
    source.driveWith read convert consume state =
      (replay consume state (source.readingWith read convert).1).closedBy
        (source.readingWith read convert).2 :=
  Markup.drivePieces_eq _ _ consume state _

theorem replay_recorder (recorded events : List Event) :
    replay recorder recorded events = .accepted (events.reverse ++ recorded) := by
  induction events generalizing recorded with
  | nil => rfl
  | cons event events ih =>
    rw [List.reverse_cons, List.append_assoc]
    exact ih (event :: recorded)

/-- The recorder accepts every event and so comes to the end of the source. -/
theorem recordWith_eq :
    source.recordWith read convert =
      match source.readingWith read convert with
      | (events, none) => .ok events
      | (_, some error) => .error error := by
  rw [recordWith, driveWith_eq, replay_recorder, List.append_nil]
  rcases source.readingWith read convert with ⟨events, _ | error⟩
  · exact congrArg Except.ok events.reverse_reverse
  · rfl

variable {read convert source}

theorem recordWith_eq_ok_iff {events : List Event} :
    source.recordWith read convert = .ok events ↔
      source.readingWith read convert = (events, none) := by
  rw [recordWith_eq]
  rcases source.readingWith read convert with ⟨found, _ | error⟩ <;> simp

theorem recordWith_eq_error_iff {error : RuleError} :
    source.recordWith read convert = .error error ↔
      ∃ events, source.readingWith read convert = (events, some error) := by
  rw [recordWith_eq]
  rcases source.readingWith read convert with ⟨found, _ | other⟩ <;> simp

/-- A recording is as good as its source. -/
theorem driveWith_of_recordWith_eq_ok {events : List Event}
    (h : source.recordWith read convert = .ok events) {σ : Type} (consume : Consumer σ)
    (state : σ) :
    source.driveWith read convert consume state = replay consume state events := by
  rw [driveWith_eq, recordWith_eq_ok_iff.1 h]
  rfl

theorem exists_of_recordWith_eq_error {error : RuleError}
    (h : source.recordWith read convert = .error error) :
    ∃ events, ∀ {σ : Type} (consume : Consumer σ) (state : σ),
      source.driveWith read convert consume state =
        (replay consume state events).andThen (.refused error) := by
  obtain ⟨events, hevents⟩ := recordWith_eq_error_iff.1 h
  refine ⟨events, fun consume state => ?_⟩
  rw [driveWith_eq, hevents]
  rfl

end SourceFile

/-! ## Sources and their recordings -/

open SourceFile Markup in
/-- However markup is read and made into events: where a source can be recorded, a consumer that
takes it and one that takes the recording come to the same outcome.  Where it cannot, there are the
events before the error, and a consumer that accepts all of these fails with the error in the state
it has reached, and one that does not fails with its own error at the first that it refuses.  Only
what can be recorded is compiled, and its compilation is that of the recording. -/
theorem drive_of_record (read : String → Pieces)
    (convert : SourceFile → PlacedPiece → Except RuleError Event) (source : SourceFile) :
    (∀ events, source.recordWith read convert = .ok events →
      ∀ {σ : Type} (consume : Consumer σ) (state : σ),
        source.driveWith read convert consume state = replay consume state events) ∧
    (∀ error, source.recordWith read convert = .error error →
      ∃ events, source.driveWith read convert recorder [] = .refused error events.reverse ∧
        ∀ {σ : Type} (consume : Consumer σ) (state : σ),
          (∃ reached, replay consume state events = .accepted reached ∧
            source.driveWith read convert consume state = .refused error reached) ∨
          (∃ before event after middle raised refused, events = before ++ event :: after ∧
            replay consume state before = .accepted middle ∧
            consume middle event = .refused raised refused ∧
            source.driveWith read convert consume state = .refused raised refused)) ∧
    (∀ options compiled, source.compileWith read convert options = .ok compiled →
      ∃ events, source.recordWith read convert = .ok events) ∧
    (∀ options events, source.recordWith read convert = .ok events →
      source.compileWith read convert options =
        match replay Compiler.step (Compiler.new options) events with
        | .accepted c => c.finish
        | .refused error _ => .error error) ∧
    (∀ {σ : Type} (consume : Consumer σ) (state : σ),
      source.drive consume state =
        source.driveWith readMarkup PlacedPiece.event consume state) ∧
    source.record = source.recordWith readMarkup PlacedPiece.event ∧
    (∀ options, compileSource source options =
      source.compileWith readMarkup PlacedPiece.event options) := by
  refine ⟨fun events hrecord => driveWith_of_recordWith_eq_ok hrecord, fun error hrecord => ?_,
    fun options compiled hcompile => ?_, fun options events hrecord => ?_, fun _ _ => rfl, rfl,
    fun _ => rfl⟩
  · obtain ⟨events, hdrive⟩ := exists_of_recordWith_eq_error hrecord
    refine ⟨events, ?_, fun consume state => ?_⟩
    · rw [hdrive, replay_recorder, List.append_nil]
      rfl
    · rw [hdrive]
      cases hreplay : replay consume state events with
      | accepted reached => exact .inl ⟨reached, rfl, rfl⟩
      | refused raised refused =>
        obtain ⟨before, event, after, middle, hevents, hbefore, hrefused⟩ :=
          exists_of_replay_eq_refused hreplay
        exact .inr ⟨before, event, after, middle, raised, refused, hevents, hbefore, hrefused, rfl⟩
  · cases hrecord : source.recordWith read convert with
    | ok events => exact ⟨events, rfl⟩
    | error error =>
      -- A consumer either fails before the error of the source or fails with it.
      obtain ⟨events, hdrive⟩ := exists_of_recordWith_eq_error hrecord
      rw [compileWith, hdrive] at hcompile
      cases hreplay : replay Compiler.step (Compiler.new options) events <;>
        simp [hreplay, Outcome.andThen] at hcompile
  · rw [compileWith, driveWith_of_recordWith_eq_ok hrecord]

/-- A document without rules. -/
def emptyDocument : SourceFile := .ofContent "empty.xml" "<rules></rules>"

/-- A document with a token where no token may be, and with an entity behind it that does not
exist. -/
def misplacedToken : SourceFile := .ofContent "token.xml" "<rules><token/>&x;</rules>"

open Markup in
/-- A document that is recorded and compiled, and one that the compiler refuses at a token although
its recording fails later, at an entity. -/
theorem drive_of_record_sample :
    (∃ events compiled,
      emptyDocument.recordWith readMarkup PlacedPiece.event = .ok events ∧
      emptyDocument.compileWith readMarkup PlacedPiece.event {} = .ok compiled ∧
      emptyDocument.driveWith readMarkup PlacedPiece.event Compiler.step (Compiler.new {}) =
        replay Compiler.step (Compiler.new {}) events) ∧
    (∃ error raised refused events,
      misplacedToken.recordWith readMarkup PlacedPiece.event = .error error ∧
      error.position = ⟨1, 19, 18⟩ ∧
      misplacedToken.driveWith readMarkup PlacedPiece.event SourceFile.recorder [] =
        .refused error events ∧
      misplacedToken.driveWith readMarkup PlacedPiece.event Compiler.step (Compiler.new {}) =
        .refused raised refused ∧ raised.position = ⟨1, 16, 15⟩) := by
  constructor
  · obtain ⟨hok, -, hcompile, -⟩ := drive_of_record readMarkup PlacedPiece.event emptyDocument
    have hcompiled : (emptyDocument.compileWith readMarkup PlacedPiece.event
        {}).toOption.isSome = true := by decide +kernel
    cases h : emptyDocument.compileWith readMarkup PlacedPiece.event {} with
    | error error => simp [h, Except.toOption] at hcompiled
    | ok compiled =>
      obtain ⟨events, hrecord⟩ := hcompile {} compiled h
      exact ⟨events, compiled, hrecord, rfl, hok events hrecord _ _⟩
  · obtain ⟨-, herror, -⟩ := drive_of_record readMarkup PlacedPiece.event misplacedToken
    have hplace : (match misplacedToken.recordWith readMarkup PlacedPiece.event with
        | .ok _ => none
        | .error error => some error.position) = some ⟨1, 19, 18⟩ := by decide +kernel
    have hraised : ((misplacedToken.driveWith readMarkup PlacedPiece.event Compiler.step
        (Compiler.new {})).error?.map (·.position)) = some ⟨1, 16, 15⟩ := by decide +kernel
    cases hrecord : misplacedToken.recordWith readMarkup PlacedPiece.event with
    | ok events =>
      rw [hrecord] at hplace
      cases hplace
    | error error =>
      rw [hrecord] at hplace
      obtain ⟨events, hrecorder, hdrive⟩ := herror error hrecord
      -- The document is refused at one of the events, since that is where its error is.
      rcases hdrive Compiler.step (Compiler.new {}) with
        ⟨reached, -, h⟩ | ⟨_, _, _, _, raised, refused, -, -, -, h⟩
      · rw [h] at hraised
        cases (Option.some.inj hplace).symm.trans (Option.some.inj hraised)
      · rw [h] at hraised
        exact ⟨error, raised, refused, events.reverse, rfl, Option.some.inj hplace, hrecorder, h,
          Option.some.inj hraised⟩

end GrammarRules
