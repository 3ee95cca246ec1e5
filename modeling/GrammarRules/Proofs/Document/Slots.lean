import GrammarRules.Proofs.Document.Transition
import GrammarRules.Proofs.Token.Written

/-!
# The slots that a document writes

`writtenSlots` reads the slots of the last pattern off from the events of a run, in the order of the
document: a phrase when its tag begins, a token or a group of constraints on one token when its tag
ends.  It looks at the innermost elements that are open and at the phrases, but at nothing that a
pattern has collected.  `Compiler.noteTag` is what this record and the others of a run do at start
tags.
-/

namespace GrammarRules

open ScopeStack

/-! ## Records -/

/-- A record after a start tag, where `note` is for a tag that has a meaning. -/
def Compiler.noteTag {γ : Type} (c : Compiler) (history : γ) (name : String) (note : Tag → γ) : γ :=
  if c.inIgnored then history else ((Tag.ofName? name).map note).getD history

section Note

variable {γ : Type} {c : Compiler} {history : γ} {name : String} {note : Tag → γ}

theorem Compiler.noteTag_of_ignored (h : c.inIgnored = true ∨ Tag.ofName? name = none) :
    c.noteTag history name note = history := by
  rcases h with h | h
  · simp only [noteTag, h, if_true]
  · simp only [noteTag, h, Option.map_none, Option.getD_none, ite_self]

theorem Compiler.noteTag_of_tag {tag : Tag} (h : c.inIgnored = false)
    (htag : Tag.ofName? name = some tag) : c.noteTag history name note = note tag := by
  simp [noteTag, h, htag]

end Note

/-! ## Slots -/

namespace ScopeStack

/-- The slots with the element as one more, if it stands in a pattern or in a unification block of
one. -/
def noteElement (slots : List Slot) (element : Element) : ScopeStack → List Slot
  | .pattern _ :: _ => slots ++ [.single element]
  | .unify features :: _ => slots ++ [.single { element with unification := some { features } }]
  | _ => slots

theorem noteElement_seat (slots : List Slot) (element : Element)
    (block : Option (Table (List String))) (pattern : PatternDraft) (outer : ScopeStack) :
    noteElement slots element (seat block pattern outer) =
      slots ++ [.single (inBlock block element)] := by
  cases block <;> rfl

/-- The slots after a start tag on this stack.  A pattern begins without any. -/
def noteStart (phrases : PhraseTable) (slots : List Slot) (attributes : Attributes)
    (stack : ScopeStack) : Tag → List Slot
  | .pattern => []
  | .phraseRef =>
    match stack with
    | .pattern _ :: _ =>
      let name := (attributes.find? "idref").getD ""
      slots ++ [.phrase name ((phrases.find? name).getD [])]
    | _ => slots
  | _ => slots

/-- The slots after the end tag of the innermost element.  The end of a unification block shows in
the last slot. -/
def noteStop (slots : List Slot) : ScopeStack → List Slot
  | .token draft :: outer => noteElement slots draft.written outer
  | .andGroup (first :: others) :: outer =>
    noteElement slots { first with andGroup := others } outer
  | .unify _ :: _ => Slot.closeLast slots
  | _ => slots

end ScopeStack

/-- The slots of the last pattern after an event. -/
def Compiler.noteSlot (c : Compiler) (slots : List Slot) : Event → List Slot
  | .start name attributes _ =>
    c.noteTag slots name (c.stack.noteStart c.phrases slots attributes)
  | .text _ _ => slots
  | .stop _ _ => c.stack.noteStop slots

/-- The slots that events write into the last pattern. -/
def writtenSlots (options : CompileOptions) (events : List Event) : List Slot :=
  historyAfter Compiler.noteSlot (Compiler.new options) [] events

/-! ## A sample -/

/-- The events of an element. -/
def tagged (name : String) (attributes : List (String × String)) (content : List Event) :
    List Event :=
  .start name ⟨attributes⟩ .unknown :: content ++ [.stop name .unknown]

/-- A phrase with an alternative of one token and one of two. -/
def samplePhrases : List Event :=
  tagged "phrases" []
    (tagged "phrase" [("id", "one")] (tagged "token" [] [.text "a" .unknown]) ++
      tagged "phrase" [("id", "some")]
        (tagged "includephrases" [] (tagged "phraseref" [("idref", "one")] []) ++
          tagged "token" [] [.text "b" .unknown] ++
          tagged "token" [] (tagged "match" [("no", "1")] [])))

/-- A pattern with a token, the phrase, and a group that refers to the phrase. -/
def samplePattern (markFrom : String) : List Event :=
  tagged "pattern" [("mark_from", markFrom)]
    (tagged "token" [] [.text "c" .unknown] ++
      tagged "phraseref" [("idref", "some")] [] ++
      tagged "and" []
        (tagged "token" [] [] ++ tagged "token" [] (tagged "match" [("no", "2")] [])))

/-- A document up to the end tag of a rule. -/
def sampleEvents : List Event :=
  .start "rules" ⟨[]⟩ .unknown :: samplePhrases ++
    .start "rule" ⟨[("id", "R")]⟩ .unknown :: samplePattern "2"

example : (writtenSlots {} sampleEvents).map Slot.width = [1, 2, 1] := by rfl

end GrammarRules
