import GrammarRules.Pattern.Phrase
import GrammarRules.Rule.Draft
import GrammarRules.Token.Draft
import GrammarRules.Token.Reference

/-!
# Where a check fails

A check is given the position of the event it is made for.  `FailsAt position check` says that this
is the position of its error, if there is one, and that the error does not blame the markup: to find
fault with the nesting of the tags is not the business of a check.  There is one rule for each way
to put checks together and one lemma for each check.
-/

namespace GrammarRules

/-- Whether the markup is at fault, and not what it says. -/
def Cause.isMalformed : Cause → Bool
  | .malformed _ => true
  | _ => false

/-- If the check fails, then at the position and without blame for the markup. -/
def FailsAt {α : Type} (position : Position) (result : Except RuleError α) : Prop :=
  ∀ error, result = .error error → error.position = position ∧ error.cause.isMalformed = false

section Rules

variable {α β : Type} {position : Position}

theorem failsAt_ok (a : α) : FailsAt position (.ok a) := nofun

theorem failsAt_fail {cause : Cause} (h : cause.isMalformed = false) :
    FailsAt (α := α) position (fail cause position) := by
  intro error herror
  cases herror
  exact ⟨rfl, h⟩

theorem FailsAt.bind {check : Except RuleError α} {next : α → Except RuleError β}
    (h : FailsAt position check) (hnext : ∀ a, FailsAt position (next a)) :
    FailsAt position (check >>= next) := by
  cases check with
  | ok a => exact hnext a
  | error error =>
    intro other hother
    cases hother
    exact h error rfl

theorem failsAt_ite {condition : Prop} [Decidable condition] {yes no : Except RuleError α}
    (hyes : FailsAt position yes) (hno : FailsAt position no) :
    FailsAt position (if condition then yes else no) := by
  split
  · exact hyes
  · exact hno

theorem failsAt_forM {check : α → Except RuleError Unit} (xs : List α)
    (h : ∀ x, FailsAt position (check x)) : FailsAt position (xs.forM check) := by
  induction xs with
  | nil => exact failsAt_ok ()
  | cons x xs ih => exact (h x).bind fun _ => ih

end Rules

/-! ## Attributes -/

section Attributes

variable (attributes : Attributes) (position : Position)

theorem failsAt_required (element name : String) :
    FailsAt position (attributes.required element name position) := by
  unfold Attributes.required
  cases attributes.find? name with
  | none => exact failsAt_fail rfl
  | some value => exact failsAt_ite (failsAt_fail rfl) (failsAt_ok value)

theorem failsAt_int32 (element name : String) :
    FailsAt position (attributes.int32 element name position) := by
  unfold Attributes.int32
  cases attributes.find? name with
  | none => exact failsAt_ok 0
  | some value =>
    dsimp only
    cases Text.int32? (Text.trim value).toList with
    | none => exact failsAt_fail rfl
    | some n => exact failsAt_ok n

theorem failsAt_choice {α : Type} (name : String) (missing : α) (ofName? : String → Option α) :
    FailsAt position (choice attributes name missing ofName? position) := by
  unfold choice
  cases attributes.find? name with
  | none => exact failsAt_ok missing
  | some value =>
    dsimp only
    cases ofName? value with
    | none => exact failsAt_fail rfl
    | some result => exact failsAt_ok result

theorem failsAt_parseMarker : FailsAt position (parseMarker attributes position) := by
  refine (failsAt_int32 _ _ _ _).bind fun fromStart => ?_
  refine (failsAt_int32 _ _ _ _).bind fun fromEnd => ?_
  exact failsAt_ite (failsAt_fail rfl) (failsAt_ite (failsAt_fail rfl) (failsAt_ok _))

theorem failsAt_referenceNumber : FailsAt position (referenceNumber attributes position) := by
  unfold referenceNumber
  cases (attributes.find? "no").map Text.trim with
  | none => exact failsAt_fail rfl
  | some value =>
    refine failsAt_ite (failsAt_fail rfl) ?_
    cases Text.int64? value.toList with
    | none => exact failsAt_fail rfl
    | some n => exact failsAt_ite (failsAt_ok _) (failsAt_fail rfl)

theorem failsAt_resolveMatch (place : MatchPlace) :
    FailsAt position (resolveMatch attributes place position) := by
  refine (failsAt_referenceNumber _ _).bind fun number => ?_
  have hplace : FailsAt position (place.check number position) := by
    cases place with
    | message inSuggestion => exact failsAt_ok ()
    | token completed => exact failsAt_ite (failsAt_fail rfl) (failsAt_ok ())
  refine hplace.bind fun _ => ?_
  refine (failsAt_choice _ _ _ _ _).bind fun caseConversion => ?_
  exact (failsAt_choice _ _ _ _ _).bind fun includeSkipped => failsAt_ok _

end Attributes

/-! ## Drafts that are opened -/

section Opened

variable (attributes : Attributes) (position : Position)

theorem RuleGroup.failsAt_ofAttributes :
    FailsAt position (RuleGroup.ofAttributes attributes position) :=
  (failsAt_required _ _ _ _).bind fun _ => failsAt_ok _

theorem ExampleDraft.failsAt_ofAttributes :
    FailsAt position (ExampleDraft.ofAttributes attributes position) := by
  refine (failsAt_required _ _ _ _).bind fun kind => ?_
  exact failsAt_ite (failsAt_ok _) (failsAt_ite (failsAt_ok _) (failsAt_fail rfl))

theorem RuleDraft.failsAt_ofAttributes (groupId : Option String) :
    FailsAt position (RuleDraft.ofAttributes attributes groupId position) := by
  unfold RuleDraft.ofAttributes
  dsimp only
  split
  · exact failsAt_ok _
  · exact failsAt_ok _
  · exact failsAt_fail rfl

theorem PatternDraft.failsAt_ofAttributes :
    FailsAt position (PatternDraft.ofAttributes attributes position) :=
  (failsAt_parseMarker _ _).bind fun _ => failsAt_ok _

theorem TokenDraft.failsAt_ofAttributes (caseSensitive : Bool) :
    FailsAt position (TokenDraft.ofAttributes attributes caseSensitive position) := by
  refine (failsAt_int32 _ _ _ _).bind fun skip => ?_
  exact failsAt_ite (failsAt_fail rfl) (failsAt_ok _)

end Opened

/-! ## Drafts that are finished -/

section Finished

variable (options : CompileOptions) (position : Position)

theorem CompileOptions.failsAt_checkRegex (pattern : String) :
    FailsAt position (options.checkRegex pattern position) := by
  refine failsAt_ite ?_ (failsAt_ok ())
  cases options.regexFault? pattern with
  | none => exact failsAt_ok ()
  | some message => exact failsAt_fail rfl

theorem CompileOptions.failsAt_checkPosTag (pos : Option PosTag) :
    FailsAt position (options.checkPosTag pos position) := by
  cases pos with
  | none => exact failsAt_ok ()
  | some pos => exact failsAt_ite (options.failsAt_checkRegex _ _) (failsAt_ok ())

theorem ExceptionDraft.failsAt_finish (draft : ExceptionDraft) :
    FailsAt position (draft.finish options position) := by
  have hpos := (options.failsAt_checkPosTag position draft.spec.pos).bind fun _ =>
    failsAt_ok (α := TokenException)
      { draft.spec with
        text := if Text.collapse draft.text == "" then none else some (Text.collapse draft.text) }
  exact failsAt_ite ((options.failsAt_checkRegex position _).bind fun _ => hpos) hpos

theorem TokenDraft.failsAt_finish (draft : TokenDraft) :
    FailsAt position (draft.finish options position) := by
  have hpos := (options.failsAt_checkPosTag position draft.element.pos).bind fun _ =>
    failsAt_ok (α := Element) { draft.element with text := Text.collapse draft.element.text }
  exact failsAt_ite ((options.failsAt_checkRegex position _).bind fun _ => hpos) hpos

theorem PhraseDraft.failsAt_finish (draft : PhraseDraft) :
    FailsAt position (draft.finish position) :=
  failsAt_ite (failsAt_fail rfl) (failsAt_ok _)

theorem failsAt_checkMarker (tokenCount surplus : Nat) (marker : MarkerRange) :
    FailsAt position (checkMarker tokenCount surplus marker position) :=
  failsAt_ite (failsAt_fail rfl) (failsAt_ite (failsAt_fail rfl) (failsAt_ok ()))

theorem RuleDraft.failsAt_finish (draft : RuleDraft) (context : RuleContext) :
    FailsAt position (draft.finish context position) := by
  unfold RuleDraft.finish
  cases draft.pattern with
  | none => exact failsAt_fail rfl
  | some pattern =>
    have hmarkers := failsAt_forM pattern.variants fun variant =>
      failsAt_checkMarker position pattern.tokenCount variant.surplus pattern.marker
    exact hmarkers.bind fun _ => failsAt_ok _

end Finished

end GrammarRules
