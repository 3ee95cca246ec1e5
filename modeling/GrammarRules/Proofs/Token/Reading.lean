import GrammarRules.Document.Tag
import GrammarRules.Proofs.Markup.Content
import GrammarRules.Proofs.Pattern.Correction
import GrammarRules.Proofs.Token.Reference
import GrammarRules.Proofs.Token.Written

/-!
# A token read at once

`readToken` says what the element of a token is by recursion over the content of the token and
without a state.  All that it looks at is the text that stands directly in the token, the attributes
of the matches, and the attributes and the text of each exception (`Content.parts`).  A
`TokenDraft` that is given these parts one after another is on the way to the same element
(`TokenDraft.written_foldl_take`).
-/

namespace GrammarRules

/-! ## Attributes -/

namespace Attributes

/-- The number in the attribute `no`. -/
def quotedNumber (attributes : Attributes) : Nat :=
  (((attributes.find? "no").bind fun value =>
    Text.int64? (Text.trim value).toList).map Int.toNat).getD 0

/-- The match in a token with the given attributes. -/
def quote (attributes : Attributes) : Match :=
  matchOf attributes (.token 0) attributes.quotedNumber
    (((attributes.find? "case_conversion").bind CaseConversion.ofName?).getD .keep)
    (((attributes.find? "include_skipped").bind SkippedTokens.ofName?).getD .omitted)

/-- The number in the attribute `skip`, or zero. -/
def skip (attributes : Attributes) : Int :=
  ((attributes.find? "skip").bind fun value => Text.int32? (Text.trim value).toList).getD 0

end Attributes

/-! ## Reading a token -/

/-- What a token takes notice of in its content. -/
inductive TokenPart where
  /-- Text that stands directly in the token. -/
  | text (data : String)
  | quote (attributes : Attributes)
  /-- An exception, with the text that stands directly in it. -/
  | exception (attributes : Attributes) (data : String)

namespace TokenPart

/-- What becomes of the part in the text of the token. -/
def mark : TokenPart → String
  | text data => data
  | quote attributes => s!"\\{attributes.quotedNumber}"
  | exception _ _ => ""

/-- The match, if the part is one. -/
def quote? : TokenPart → Option Match
  | quote attributes => some attributes.quote
  | _ => none

end TokenPart

/-- The exception with the given attributes and text.  Without text it looks at the part of speech
alone. -/
def readException (attributes : Attributes) (text : String) : TokenException where
  text := if Text.collapse text = "" then none else some (Text.collapse text)
  regexp := attributes.isYes "regexp"
  inflected := attributes.isYes "inflected"
  negated := attributes.isYes "negate"
  pos := attributes.posTag?
  scope := ExceptionDraft.scopeOf (attributes.find? "scope")
  spaceBefore := .ofAttribute (attributes.find? "spacebefore")

/-- The exception, if the part is one. -/
def TokenPart.exception? : TokenPart → Option TokenException
  | exception attributes data => some (readException attributes data)
  | _ => none

/-- What a token with this content takes notice of, in order. -/
def Content.parts : Content → List TokenPart
  | empty => []
  | text data _ rest => .text data :: rest.parts
  | element name attributes _ inner _ rest =>
    if name = Tag.quote.name then .quote attributes :: rest.parts
    else if name = Tag.exception.name then .exception attributes inner.ownText :: rest.parts
    else rest.parts

theorem Content.parts_unknown {name : String} (h : ∀ tag : Tag, tag.name ≠ name)
    (attributes : Attributes) (opened closed : Position) (inner rest : Content) :
    (element name attributes opened inner closed rest).parts = rest.parts := by
  rw [parts, if_neg (h .quote).symm, if_neg (h .exception).symm]

/-- The element of a token with the given attributes and content, where `caseSensitive` is what the
pattern around it says, if there is one. -/
def readToken (attributes : Attributes) (caseSensitive : Bool) (content : Content) : Element where
  text := Text.collapse (String.join (content.parts.map TokenPart.mark))
  caseSensitive := ((attributes.find? "case_sensitive").map (· == "yes")).getD caseSensitive
  regexp := attributes.isYes "regexp"
  negated := attributes.isYes "negate"
  inflected := attributes.isYes "inflected"
  pos := attributes.posTag?
  exceptions := content.parts.filterMap TokenPart.exception?
  spaceBefore := .ofAttribute (attributes.find? "spacebefore")
  skip := attributes.skip
  phrase := none
  reference := (content.parts.filterMap TokenPart.quote?).getLast?
  andGroup := []
  unification := none

/-! ## What the checks let through -/

section Checks

variable {attributes : Attributes} {position : Position}

theorem eq_quotedNumber_of_referenceNumber {number : Nat}
    (h : referenceNumber attributes position = .ok number) :
    number = attributes.quotedNumber := by
  unfold referenceNumber at h
  unfold Attributes.quotedNumber
  cases hfind : attributes.find? "no" with
  | none =>
    rw [hfind] at h
    cases h
  | some value =>
    rw [hfind, Option.map_some] at h
    dsimp only at h
    split at h
    · cases h
    · cases hread : Text.int64? (Text.trim value).toList with
      | none =>
        rw [hread] at h
        cases h
      | some n =>
        rw [hread] at h
        dsimp only at h
        split at h
        · cases h
          rw [Option.bind_some, hread]
          rfl
        · cases h

theorem eq_of_choice {α : Type} {name : String} {missing result : α}
    {ofName? : String → Option α}
    (h : choice attributes name missing ofName? position = .ok result) :
    result = ((attributes.find? name).bind ofName?).getD missing := by
  unfold choice at h
  cases hfind : attributes.find? name with
  | none =>
    rw [hfind] at h
    cases h
    rfl
  | some value =>
    rw [hfind] at h
    dsimp only at h
    cases hname : ofName? value with
    | none =>
      rw [hname] at h
      cases h
    | some chosen =>
      rw [hname] at h
      cases h
      rw [Option.bind_some, hname]
      rfl

/-- A match that a token accepts is the one that its attributes describe, however many tokens are
complete. -/
theorem eq_quote_of_resolveMatch {completed : Nat} {reference : Match}
    (h : resolveMatch attributes (.token completed) position = .ok reference) :
    reference = attributes.quote := by
  obtain ⟨number, hnumber, h⟩ := exists_of_bind_eq_ok h
  obtain ⟨_, -, h⟩ := exists_of_bind_eq_ok h
  obtain ⟨conversion, hconversion, h⟩ := exists_of_bind_eq_ok h
  obtain ⟨skipped, hskipped, h⟩ := exists_of_bind_eq_ok h
  cases h
  rw [Attributes.quote, ← eq_quotedNumber_of_referenceNumber hnumber, ← eq_of_choice hconversion,
    ← eq_of_choice hskipped]
  rfl

theorem eq_skip_of_int32 {skip : Int} (h : attributes.int32 "token" "skip" position = .ok skip) :
    skip = attributes.skip := by
  unfold Attributes.int32 at h
  unfold Attributes.skip
  cases hfind : attributes.find? "skip" with
  | none =>
    rw [hfind] at h
    cases h
    rfl
  | some value =>
    rw [hfind] at h
    dsimp only at h
    cases hread : Text.int32? (Text.trim value).toList with
    | none =>
      rw [hread] at h
      cases h
    | some n =>
      rw [hread] at h
      cases h
      rw [Option.bind_some, hread]
      rfl

/-- An exception that is accepted is the one that its attributes and its text describe. -/
theorem eq_readException_of_finish {options : CompileOptions} {text : String}
    {exception : TokenException}
    (h : ((ExceptionDraft.ofAttributes attributes).addText text).finish options position =
      .ok exception) : exception = readException attributes text := by
  have htext : ((ExceptionDraft.ofAttributes attributes).addText text).text = text :=
    String.empty_append
  rw [ExceptionDraft.eq_written_of_finish h, ExceptionDraft.written, htext]
  rfl

end Checks

/-! ## Taking the parts one by one -/

namespace TokenDraft

/-- Add a part of the content. -/
def take (draft : TokenDraft) : TokenPart → TokenDraft
  | .text text => draft.addText text
  | .quote attributes => draft.bind attributes.quote
  | .exception attributes text => draft.addException (readException attributes text)

theorem element_take (draft : TokenDraft) (part : TokenPart) :
    (draft.take part).element =
      { draft.element with
        text := draft.element.text ++ part.mark
        exceptions := draft.element.exceptions ++ part.exception?.toList
        reference := part.quote?.or draft.element.reference } := by
  cases part with
  | text data => simp [take, addText, TokenPart.mark, TokenPart.exception?, TokenPart.quote?]
  | quote attributes =>
    simp [take, bind, TokenPart.mark, TokenPart.exception?, TokenPart.quote?, Attributes.quote,
      matchOf]
  | exception attributes data =>
    simp [take, addException, TokenPart.mark, TokenPart.exception?, TokenPart.quote?]

theorem element_foldl_take (parts : List TokenPart) (draft : TokenDraft) :
    (parts.foldl take draft).element =
      { draft.element with
        text := draft.element.text ++ String.join (parts.map TokenPart.mark)
        exceptions := draft.element.exceptions ++ parts.filterMap TokenPart.exception?
        reference := (parts.filterMap TokenPart.quote?).getLast?.or draft.element.reference } := by
  induction parts generalizing draft with
  | nil =>
    simp only [List.foldl_nil, List.map_nil, String.join_nil, String.append_empty,
      List.filterMap_nil, List.append_nil, List.getLast?_nil, Option.none_or]
    exact draft.element.eta.symm
  | cons part parts ih =>
    have hexceptions : (part :: parts).filterMap TokenPart.exception? =
        part.exception?.toList ++ parts.filterMap TokenPart.exception? := by
      cases part <;> rfl
    have hquotes : ((part :: parts).filterMap TokenPart.quote?).getLast? =
        (parts.filterMap TokenPart.quote?).getLast?.or part.quote? := by
      rw [List.filterMap_cons]
      cases part.quote? with
      | none => rw [Option.or_none]
      | some reference =>
        dsimp only
        rw [List.getLast?_cons]
        cases (parts.filterMap TokenPart.quote?).getLast? <;> rfl
    rw [List.foldl_cons, ih, element_take, List.map_cons, String.join_cons, hexceptions, hquotes,
      Option.or_assoc, List.append_assoc, String.append_assoc]

/-- A token with the given attributes that is given the parts of its content becomes the element
that is read at once. -/
theorem written_foldl_take {attributes : Attributes} {caseSensitive : Bool} {position : Position}
    {draft : TokenDraft}
    (h : TokenDraft.ofAttributes attributes caseSensitive position = .ok draft)
    (content : Content) :
    (content.parts.foldl take draft).written = readToken attributes caseSensitive content := by
  obtain ⟨skip, hskip, h⟩ := exists_of_bind_eq_ok h
  split at h
  · cases h
  · cases h
    rw [written, element_foldl_take, readToken, ← eq_skip_of_int32 hskip]
    simp

end TokenDraft

end GrammarRules
