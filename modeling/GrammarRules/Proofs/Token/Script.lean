import GrammarRules.Proofs.Pattern.Correction
import GrammarRules.Proofs.Text.Renumber
import GrammarRules.Proofs.Token.Written

/-!
# Tokens as the author wrote them

A `TokenScript` is the character data of a token and the numbers of the matches between.  Its text
under a numbering has a backslash and the new number for each match.  The element of a token has the
text under the numbers as they were written (`TokenScript.Records`).  The correction of references
looks for the number of the last match in this text, so the corrected text is the one under the
new numbers if the script is legible (`TokenScript.Records.shows`).
-/

namespace GrammarRules

/-- What has been written into a token. -/
structure TokenScript where
  /-- The numbers of the matches, each with the character data between it and the one before. -/
  quotes : List (String × Nat) := []
  /-- The character data behind the last match. -/
  rest : String := ""

namespace TokenScript

/-- Add character data. -/
def addText (script : TokenScript) (text : String) : TokenScript :=
  { script with rest := script.rest ++ text }

/-- Add a match with a number. -/
def addQuote (script : TokenScript) (number : Nat) : TokenScript :=
  ⟨script.quotes ++ [(script.rest, number)], ""⟩

/-- Character data and matches, where a match becomes a backslash and its new number. -/
def charsOf (physical : Nat → Nat) : List (String × Nat) → String → List Char
  | [], rest => rest.toList
  | (text, number) :: quotes, rest =>
    text.toList ++ '\\' :: (Text.numeral (physical number) ++ charsOf physical quotes rest)

/-- The text of the script under a numbering. -/
def text (physical : Nat → Nat) (script : TokenScript) : String :=
  Text.collapse (String.ofList (charsOf physical script.quotes script.rest))

/-- The numbers of the matches. -/
def numbers (script : TokenScript) : List Nat := script.quotes.map Prod.snd

/-- The number of the last match. -/
def last? (script : TokenScript) : Option Nat := script.numbers.getLast?

/-- The character data before, between and behind the matches. -/
def texts (script : TokenScript) : List String := script.quotes.map Prod.fst ++ [script.rest]

/-- The text after a correction that gives the number of the last match a new value wherever a
reference in the text has it. -/
def corrected (physical : Nat → Nat) (script : TokenScript) : String :=
  match script.last? with
  | none => script.text id
  | some last =>
    if physical last = last then script.text id
    else Text.renumberReference (script.text id) last (physical last)

/-- No match has a number that changes, or only the number of the last match changes, no digit
follows on a match, and the character data refers to no token by this number. -/
def Legible (physical : Nat → Nat) (script : TokenScript) : Prop :=
  (∀ number ∈ script.numbers, physical number = number) ∨
  ∃ last, script.last? = some last ∧
    (∀ number ∈ script.numbers, number = last ∨ physical number = number) ∧
    (∀ text ∈ script.texts.tail, Text.startsWithDecimal text.toList = false) ∧
    ∀ text ∈ script.texts, ∀ digits, .reference digits ∈ Text.readReferences text.toList →
      Text.natural? Text.natMax32 digits ≠ some last

/-! ## The text under a numbering -/

theorem charsOf_addText (physical : Nat → Nat) (quotes : List (String × Nat)) (rest text : String) :
    charsOf physical quotes (rest ++ text) = charsOf physical quotes rest ++ text.toList := by
  induction quotes with
  | nil => exact String.toList_append
  | cons quote quotes ih => simp [charsOf, ih]

theorem charsOf_addQuote (physical : Nat → Nat) (quotes : List (String × Nat)) (rest : String)
    (number : Nat) :
    charsOf physical (quotes ++ [(rest, number)]) "" =
      charsOf physical quotes rest ++ '\\' :: Text.numeral (physical number) := by
  induction quotes with
  | nil => simp [charsOf]
  | cons quote quotes ih => simp [charsOf, ih]

theorem charsOf_congr {physical physical' : Nat → Nat} {quotes : List (String × Nat)}
    (rest : String)
    (h : ∀ number ∈ quotes.map Prod.snd, physical number = physical' number) :
    charsOf physical quotes rest = charsOf physical' quotes rest := by
  induction quotes with
  | nil => rfl
  | cons quote quotes ih =>
    rw [List.map_cons, List.forall_mem_cons] at h
    rw [charsOf, charsOf, h.1, ih h.2]

theorem startsWithDecimal_charsOf (physical : Nat → Nat) {quotes : List (String × Nat)}
    {rest : String}
    (h : ∀ text ∈ quotes.map Prod.fst ++ [rest], Text.startsWithDecimal text.toList = false) :
    Text.startsWithDecimal (charsOf physical quotes rest) = false := by
  cases quotes with
  | nil => exact h rest List.mem_cons_self
  | cons quote quotes => exact Text.startsWithDecimal_append (h quote.1 List.mem_cons_self) rfl

theorem renamed_numeral {old new number : Nat} (h : number ≤ Text.natMax32) :
    Text.renamed old new (Text.numeral number) =
      Text.numeral (if number = old then new else number) := by
  rw [Text.renamed, Text.natural?_numeral, if_pos h]
  simp only [Option.some.injEq]
  split <;> rfl

/-- Giving one number a new value changes nothing but the matches with this number, if no digit
follows on a match and the character data does not refer to the number. -/
theorem renumber_charsOf {physical : Nat → Nat} {old : Nat} {quotes : List (String × Nat)}
    {rest : String} (bounded : ∀ number ∈ quotes.map Prod.snd, number ≤ Text.natMax32)
    (others : ∀ number ∈ quotes.map Prod.snd, number = old ∨ physical number = number)
    (apart : ∀ text ∈ (quotes.map Prod.fst ++ [rest]).tail,
      Text.startsWithDecimal text.toList = false)
    (free : ∀ text ∈ quotes.map Prod.fst ++ [rest], ∀ digits,
      .reference digits ∈ Text.readReferences text.toList →
        Text.natural? Text.natMax32 digits ≠ some old) :
    Text.renumber old (physical old) (charsOf id quotes rest) = charsOf physical quotes rest := by
  induction quotes with
  | nil => exact Text.renumber_of_free (free rest List.mem_cons_self)
  | cons quote quotes ih =>
    obtain ⟨text, number⟩ := quote
    rw [List.map_cons, List.forall_mem_cons] at bounded others
    have htail : ∀ text ∈ (quotes.map Prod.fst ++ [rest]).tail,
        Text.startsWithDecimal text.toList = false := fun t ht => apart t (List.mem_of_mem_tail ht)
    have hrest := ih bounded.2 others.2 htail fun t ht => free t (List.mem_cons_of_mem _ ht)
    have hnumber : (if number = old then physical old else number) = physical number := by
      rcases others.1 with rfl | hsame
      · exact if_pos rfl
      · split
        · next heq => rw [heq]
        · exact hsame.symm
    have hdigits : ∀ c ∈ Text.numeral (id number), Text.isDecimal c = true :=
      fun _ => Text.isDecimal_of_mem_numeral
    rw [charsOf, Text.renumber_append _ rfl, Text.renumber_of_free (free text List.mem_cons_self),
      Text.renumber_reference (Text.numeral_ne_nil _) hdigits (startsWithDecimal_charsOf id apart),
      id_eq, renamed_numeral bounded.1, hnumber, hrest, charsOf]

/-- A legible script is corrected as it should be. -/
theorem corrected_eq_text {physical : Nat → Nat} {script : TokenScript}
    (bounded : ∀ number ∈ script.numbers, number ≤ Text.natMax32)
    (legible : script.Legible physical) : script.corrected physical = script.text physical := by
  rcases legible with hsame | ⟨last, hlast, others, apart, free⟩
  · have htext : script.text physical = script.text id := by
      rw [text, text, charsOf_congr script.rest hsame]
      rfl
    rw [htext, corrected]
    cases hlast : script.last? with
    | none => rfl
    | some last => exact if_pos (hsame last (List.mem_of_getLast? hlast))
  · have hrenumber : Text.renumber last (physical last) (charsOf id script.quotes script.rest) =
        charsOf physical script.quotes script.rest := renumber_charsOf bounded others apart free
    rw [corrected, hlast]
    dsimp only
    split
    · next heq =>
      have hsame : ∀ number ∈ script.numbers, physical number = number := by
        intro number hnumber
        rcases others number hnumber with rfl | h
        · exact heq
        · exact h
      rw [text, text, charsOf_congr script.rest hsame]
      rfl
    · apply String.toList_injective
      rw [Text.toList_renumberReference, text, text, Text.toList_collapse, Text.toList_collapse,
        String.toList_ofList, String.toList_ofList, (Text.renumber_squeeze _).1, hrenumber]

/-- Scripts that are not legible: a digit follows on the match, or the character data refers to the
same token. -/
example :
    corrected (· + 1) ⟨[("", 1)], "0"⟩ = "\\10" ∧
    text (· + 1) ⟨[("", 1)], "0"⟩ = "\\20" ∧
    corrected (· + 1) ⟨[("(x)\\1", 1)], ""⟩ = "(x)\\2\\2" ∧
    text (· + 1) ⟨[("(x)\\1", 1)], ""⟩ = "(x)\\1\\2" := by
  exact ⟨rfl, rfl, rfl, rfl⟩

/-! ## Elements of scripts -/

/-- The element of an open token has collected what has been written. -/
structure Drafts (script : TokenScript) (element : Element) : Prop where
  text : element.text.toList = charsOf id script.quotes script.rest
  tokenRef : element.tokenRef? = script.last?
  bounded : ∀ number ∈ script.numbers, number ≤ Text.natMax32

/-- The element is that of a token with this script. -/
structure Records (script : TokenScript) (element : Element) : Prop where
  text : element.text = script.text id
  tokenRef : element.tokenRef? = script.last?
  bounded : ∀ number ∈ script.numbers, number ≤ Text.natMax32

/-- The element of a token with this script after the correction: it refers to the token that its
last match means, its text is corrected as if by looking for the number of this match, and so it is
the text under the new numbers if the script is legible. -/
structure Shows (physical : Nat → Nat) (script : TokenScript) (element : Element) : Prop where
  tokenRef : element.tokenRef? = script.last?.map physical
  corrected : element.text = script.corrected physical
  legible : script.Legible physical → element.text = script.text physical

variable {script : TokenScript} {element element' : Element}

theorem drafts_ofAttributes {attributes : Attributes} {caseSensitive : Bool} {position : Position}
    {draft : TokenDraft}
    (h : TokenDraft.ofAttributes attributes caseSensitive position = .ok draft) :
    Drafts {} draft.element := by
  obtain ⟨skip, -, h⟩ := exists_of_bind_eq_ok h
  split at h
  · cases h
  · cases h
    exact ⟨rfl, rfl, List.forall_mem_nil _⟩

theorem Drafts.addText {draft : TokenDraft} (h : script.Drafts draft.element) (text : String) :
    (script.addText text).Drafts (draft.addText text).element where
  text := by rw [TokenDraft.addText, String.toList_append, h.text, TokenScript.addText,
    charsOf_addText]
  tokenRef := h.tokenRef
  bounded := h.bounded

theorem Drafts.addException {draft : TokenDraft} (h : script.Drafts draft.element)
    (exception : TokenException) : script.Drafts (draft.addException exception).element :=
  ⟨h.text, h.tokenRef, h.bounded⟩

theorem numbers_addQuote (script : TokenScript) (number : Nat) :
    (script.addQuote number).numbers = script.numbers ++ [number] := by
  rw [numbers, addQuote, List.map_append]
  rfl

theorem Drafts.bind {draft : TokenDraft} (h : script.Drafts draft.element) {reference : Match}
    {number : Nat} (hnumber : reference.tokenRef = some number)
    (hbound : number ≤ Text.natMax32) :
    (script.addQuote number).Drafts (draft.bind reference).element where
  text := by
    have hmark : (draft.bind reference).element.text =
        draft.element.text ++ ("\\" ++ number.repr) := by
      rw [TokenDraft.bind, hnumber]
      rfl
    rw [hmark, TokenScript.addQuote, charsOf_addQuote, ← h.text, String.toList_append,
      String.toList_append]
    rfl
  tokenRef := by
    rw [last?, numbers_addQuote, List.getLast?_concat]
    exact hnumber
  bounded := by
    rw [numbers_addQuote]
    intro n hn
    rcases List.mem_append.1 hn with hn | hn
    · exact h.bounded n hn
    · rwa [List.mem_singleton.1 hn]

theorem Drafts.written {draft : TokenDraft} (h : script.Drafts draft.element) :
    script.Records draft.written where
  text := by
    rw [TokenDraft.written, TokenScript.text, ← h.text, String.ofList_toList]
  tokenRef := h.tokenRef
  bounded := h.bounded

theorem Records.congr (h : script.Records element) (htext : element'.text = element.text)
    (hnumber : element'.tokenRef? = element.tokenRef?) : script.Records element' :=
  ⟨htext.trans h.text, hnumber.trans h.tokenRef, h.bounded⟩

theorem Shows.congr {physical : Nat → Nat} (h : script.Shows physical element)
    (htext : element'.text = element.text) (hnumber : element'.tokenRef? = element.tokenRef?) :
    script.Shows physical element' :=
  ⟨hnumber.trans h.tokenRef, htext.trans h.corrected,
    fun legible => htext.trans (h.legible legible)⟩

/-- What the correction makes of an element, where `physical` is what it makes of the number. -/
theorem Records.shows (h : script.Records element) {physical : Nat → Nat} {spans : List PhraseSpan}
    {index : Nat} (hphysical : ∀ number, element.tokenRef? = some number →
      correctedNumber spans index number = physical number) :
    script.Shows physical (element.correctReference spans index) := by
  have htext : (element.correctReference spans index).text = script.corrected physical := by
    unfold corrected
    rw [← h.tokenRef, ← h.text]
    cases hnumber : element.tokenRef? with
    | none => rw [Element.correctReference_of_eq_none _ _ hnumber]
    | some last =>
      obtain ⟨reference, hreference, hlast⟩ := Option.bind_eq_some_iff.1 hnumber
      rw [Element.correctReference_eq _ _ hreference hlast, hphysical last hnumber]
  refine ⟨?_, htext, fun legible => htext.trans (corrected_eq_text h.bounded legible)⟩
  rw [Element.tokenRef?_correctReference, ← h.tokenRef]
  cases hnumber : element.tokenRef? with
  | none => rfl
  | some last => rw [Option.map_some, Option.map_some, hphysical last hnumber]

end TokenScript

end GrammarRules
