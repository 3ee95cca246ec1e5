import GrammarRules.Markup.Tag

/-!
# Reading markup

`readMarkup` cuts a document into `Piece`s: start tags, end tags, text and character data sections.
Comments, processing instructions and declarations are passed over.  A tag that closes itself is a
start tag and an end tag.  End tags have to match the innermost open start tag, but tags that are
still open at the end of the document are no fault here.

Every piece comes with the byte offset at which it was complete: after the `>` of a tag, and at the
`<` that ends a text.  A byte order mark at the beginning of the document does not count.
-/

namespace GrammarRules.Markup

/-- What is wrong with a document at the level of tags. -/
inductive MarkupError where
  | unknownDeclaration
  | unclosedInstruction
  | unclosedComment
  | unclosedDoctype
  | unclosedCharacterData
  | unclosedTag
  | unnamedDoctype
  | unmatchedEnd (found : List Char)
  | mismatchedEnd (expected found : List Char)
deriving DecidableEq, Inhabited

/-- The error in words. -/
def MarkupError.message : MarkupError → String
  | unknownDeclaration => "syntax error: unknown or missed symbol in markup"
  | unclosedInstruction =>
    "syntax error: processing instruction or xml declaration not closed: " ++
      "`?>` not found before end of input"
  | unclosedComment => "syntax error: comment not closed: `-->` not found before end of input"
  | unclosedDoctype => "syntax error: DOCTYPE not closed: `>` not found before end of input"
  | unclosedCharacterData =>
    "syntax error: CDATA not closed: `]]>` not found before end of input"
  | unclosedTag => "syntax error: tag not closed: `>` not found before end of input"
  | unnamedDoctype =>
    "ill-formed document: `<!DOCTYPE>` declaration does not contain a name of a document type"
  | unmatchedEnd found =>
    s!"ill-formed document: close tag `</{String.ofList found}>` does not match any open tag"
  | mismatchedEnd expected found =>
    s!"ill-formed document: expected `</{String.ofList expected}>`, but " ++
      s!"`</{String.ofList found}>` was found"

/-- A part of a document that matters to its reader. -/
inductive Piece where
  | startTag (tag : StartTag)
  | endTag (name : List Char)
  /-- Text as it is written, with its references. -/
  | text (raw : List Char)
  /-- The content of a character data section, which has no references. -/
  | characterData (content : List Char)
deriving DecidableEq, Inhabited

/-- A piece and the byte offset at which it was complete. -/
structure PlacedPiece where
  piece : Piece
  stop : Nat
deriving DecidableEq, Inhabited

/-- A fault and the byte offset at which it is reported. -/
structure MarkupFault where
  error : MarkupError
  place : Nat
deriving DecidableEq, Inhabited

/-- The pieces of a document up to its end or its first fault. -/
structure Pieces where
  pieces : List PlacedPiece
  fault : Option MarkupFault
deriving DecidableEq, Inhabited

/-! ## Finding the end of markup -/

/-- Read up to a `>` at which `closes` holds of the state that the characters before it lead to.
The result is what stands before that `>` and what follows it. -/
def scan {σ : Type} (next : σ → Char → σ) (closes : σ → Bool) (state : σ) (read : List Char) :
    List Char → Option (List Char × List Char)
  | [] => none
  | c :: cs =>
    if c = '>' ∧ closes state then some (read.reverse, cs)
    else scan next closes (next state c) (c :: read) cs

theorem scan_length {σ : Type} {next : σ → Char → σ} {closes : σ → Bool} {state : σ}
    {read cs content rest : List Char}
    (h : scan next closes state read cs = some (content, rest)) : rest.length < cs.length := by
  induction cs generalizing state read with
  | nil => simp [scan] at h
  | cons c cs ih =>
    simp only [scan] at h
    split at h
    next => cases h; simp
    next => have := ih h; simp only [List.length_cons]; omega

/-- In a tag a `>` between quotes does not count; the state is the open quote. -/
def scanTag : List Char → Option (List Char × List Char) :=
  scan (fun quote c =>
    match quote with
    | none => if c = '"' ∨ c = '\x27' then some c else none
    | some q => if c = q then none else some q) Option.isNone none []

/-- An instruction ends with `?>`; the state is whether the last character was a question mark. -/
def scanInstruction : List Char → Option (List Char × List Char) :=
  scan (fun _ c => c == '?') id false []

/-- A comment ends with `-->`, where the dashes are not those that begin it; the state is what has
been read, last first. -/
def scanComment : List Char → Option (List Char × List Char) :=
  scan (fun read c => c :: read) (fun read =>
    match read with
    | '-' :: '-' :: _ :: _ :: _ :: _ => true
    | _ => false) [] []

/-- A character data section ends with `]]>`; the state is what has been read, last first. -/
def scanCharacterData : List Char → Option (List Char × List Char) :=
  scan (fun read c => c :: read) (fun read =>
    match read with
    | ']' :: ']' :: _ => true
    | _ => false) [] []

/-- A document type ends where its inner tags are closed; the state is how many more have been
opened than closed. -/
def scanDoctype : List Char → Option (List Char × List Char) :=
  scan (fun (balance : Int) c =>
    if c = '<' then balance + 1 else if c = '>' then balance - 1 else balance) (· == 0) 0 []

/-! ## One piece of markup -/

/-- What markup is, its content, and what follows it. -/
structure Found where
  pieces : List Piece
  /-- The names of the start tags that are open after the markup, innermost first. -/
  opened : List (List Char)
  content : List Char
  rest : List Char

/-- Whether `cs` begins with `start`, in any mixture of ASCII capitals and small letters. -/
def startsUncased (start cs : List Char) : Bool :=
  (cs.take start.length).map Char.toLower == start

/-- A start tag, from its content. -/
def startTag (opened : List (List Char)) (content rest : List Char) : Found :=
  match content.getLast? with
  | some '/' =>
    let tag := StartTag.ofContent content.dropLast
    ⟨[.startTag tag, .endTag tag.name], opened, content, rest⟩
  | _ =>
    let tag := StartTag.ofContent content
    ⟨[.startTag tag], tag.name :: opened, content, rest⟩

/-- The name in the content of an end tag: all after the slash but the white space at the end,
unless it is white space throughout. -/
def endTagName (content : List Char) : List Char :=
  let name := content.drop 1
  let trimmed := (name.reverse.dropWhile isSpace).reverse
  if trimmed.isEmpty then name else trimmed

/-- An end tag, from its content. -/
def endTag (opened : List (List Char)) (content rest : List Char) : Except MarkupError Found :=
  let name := endTagName content
  match opened with
  | [] => .error (.unmatchedEnd name)
  | expected :: outer =>
    if expected = name then .ok ⟨[.endTag name], outer, content, rest⟩
    else .error (.mismatchedEnd expected name)

/-- Markup that begins with an exclamation mark. -/
def declaration (opened : List (List Char)) (kind : Char) (cs : List Char) :
    Except MarkupError Found :=
  if kind = '-' then
    match scanComment cs with
    | some (content, rest) =>
      if ['!', '-', '-'].isPrefixOf content then .ok ⟨[], opened, content, rest⟩
      else .error .unclosedComment
    | none => .error .unclosedComment
  else if kind = '[' then
    match scanCharacterData cs with
    | some (content, rest) =>
      if ['!', '[', 'C', 'D', 'A', 'T', 'A', '['].isPrefixOf content then
        .ok ⟨[.characterData ((content.drop 8).dropLast.dropLast)], opened, content, rest⟩
      else .error .unclosedCharacterData
    | none => .error .unclosedCharacterData
  else if kind = 'D' ∨ kind = 'd' then
    match scanDoctype cs with
    | some (content, rest) =>
      if startsUncased ['!', 'd', 'o', 'c', 't', 'y', 'p', 'e'] content then
        if (content.drop 8).all isSpace then .error .unnamedDoctype
        else .ok ⟨[], opened, content, rest⟩
      else .error .unclosedDoctype
    | none => .error .unclosedDoctype
  else .error .unknownDeclaration

/-- The markup whose `<` has just been read. -/
def markup (opened : List (List Char)) (cs : List Char) : Except MarkupError Found :=
  match cs with
  | [] => .error .unclosedTag
  | '!' :: kind :: _ => declaration opened kind cs
  | ['!'] => .error .unknownDeclaration
  | '/' :: _ =>
    match scanTag cs with
    | some (content, rest) => endTag opened content rest
    | none => .error .unclosedTag
  | '?' :: _ =>
    match scanInstruction cs with
    | some (content, rest) =>
      if content.length ≤ 1 then .error .unclosedInstruction
      else .ok ⟨[], opened, content, rest⟩
    | none => .error .unclosedInstruction
  | _ =>
    match scanTag cs with
    | some (content, rest) => .ok (startTag opened content rest)
    | none => .error .unclosedTag

theorem startTag_rest (opened : List (List Char)) (content rest : List Char) :
    (startTag opened content rest).rest = rest := by
  unfold startTag; split <;> rfl

theorem endTag_rest {opened : List (List Char)} {content rest : List Char} {found : Found}
    (h : endTag opened content rest = .ok found) : found.rest = rest := by
  unfold endTag at h
  split at h
  next => cases h
  next =>
    dsimp only at h
    split at h <;> cases h
    rfl

theorem declaration_length {opened : List (List Char)} {kind : Char} {cs : List Char}
    {found : Found} (h : declaration opened kind cs = .ok found) :
    found.rest.length < cs.length := by
  unfold declaration at h
  split at h
  next =>
    split at h
    next hs => split at h <;> cases h; exact scan_length hs
    next => cases h
  next =>
    split at h
    next =>
      split at h
      next hs => split at h <;> cases h; exact scan_length hs
      next => cases h
    next =>
      split at h
      next =>
        split at h
        next hs =>
          split at h
          next => split at h <;> cases h; exact scan_length hs
          next => cases h
        next => cases h
      next => cases h

theorem markup_length {opened : List (List Char)} {cs : List Char} {found : Found}
    (h : markup opened cs = .ok found) : found.rest.length < cs.length := by
  unfold markup at h
  split at h
  next => cases h
  next => exact declaration_length h
  next => cases h
  next =>
    split at h
    next hs => rw [endTag_rest h]; exact scan_length hs
    next => cases h
  next =>
    split at h
    next hs => split at h <;> cases h; exact scan_length hs
    next => cases h
  next =>
    split at h
    next hs => cases h; rw [startTag_rest]; exact scan_length hs
    next => cases h

/-! ## Whole documents -/

/-- Where a fault in the markup that follows byte `place` is reported: at its `<`, but for a
document type without a name at its `>`. -/
def faultPlace (place : Nat) (cs : List Char) : MarkupError → Nat
  | .unnamedDoctype => place + ((scanDoctype cs).map fun found => byteLength found.1).getD 0
  | _ => place - 1

/-- Read on at byte `place`.  `read` holds the pieces before it, last first. -/
def readFrom (opened : List (List Char)) (place : Nat) (read : List PlacedPiece)
    (cs : List Char) : Pieces :=
  let text := cs.takeWhile (· ≠ '<')
  let stop := place + byteLength text
  let read := if text.isEmpty then read else ⟨.text text, stop⟩ :: read
  match _h : cs.dropWhile (· ≠ '<') with
  | [] => ⟨read.reverse, none⟩
  | _ :: inside =>
    match _h' : markup opened inside with
    | .error error => ⟨read.reverse, some ⟨error, faultPlace (stop + 1) inside error⟩⟩
    | .ok found =>
      let next := stop + 1 + byteLength found.content + 1
      readFrom found.opened next ((found.pieces.map (⟨·, next⟩)).reverse ++ read) found.rest
termination_by cs.length
decreasing_by
  have h₁ := length_dropWhile_le (fun c => decide (c ≠ '<')) cs
  have h₂ := markup_length _h'
  rw [_h] at h₁
  simp only [List.length_cons] at h₁
  omega

/-- The pieces of a document. -/
def readMarkup (content : String) : Pieces :=
  match content.toList with
  | '\uFEFF' :: cs => readFrom [] 0 [] cs
  | cs => readFrom [] 0 [] cs

end GrammarRules.Markup
