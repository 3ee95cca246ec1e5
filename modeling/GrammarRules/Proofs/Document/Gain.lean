import GrammarRules.Document.Scope
import GrammarRules.Proofs.Message.Placeholder
import GrammarRules.Proofs.Pattern.Slot
import GrammarRules.Proofs.Table

/-!
# What open elements gain

A `Delivery` is what an event has for an open element.  `Scope.Gains` says what becomes of an
element that takes it: one of its lists has one more entry, or one of its texts goes on, and
everything else in the element is as it was.  An element that cannot take something gains nothing
from it.  For the operations that are not written this way the lemmas of the first two sections say
so: a message is looked at sign by sign (`MessageDraft.signs`), and the end of a unification block
changes the last element of a variant (`Variant.EndsBlock`).
-/

namespace GrammarRules

/-! ## Messages sign by sign -/

/-- A sign of a message. -/
inductive MessageSign where
  | char (c : Char)
  /-- A reference by its number. -/
  | reference (number : Nat)

/-- The signs of a part of a message. -/
def Segment.signs : Segment → List MessageSign
  | .text literal => literal.toList.map .char
  | .reference number => [.reference number]

namespace MessageDraft

/-- The signs of a message, however its text is divided into parts. -/
def signs (message : MessageDraft) : List MessageSign := message.segments.flatMap Segment.signs

variable (message : MessageDraft)

theorem signs_addText (text : String) :
    (message.addText text).signs = message.signs ++ text.toList.map .char := by
  rcases message.segments_addText text with ⟨init, last, hsegments, hadded⟩ | ⟨-, hadded⟩
  · rw [signs, signs, hadded, hsegments, List.flatMap_append, List.flatMap_append,
      List.flatMap_singleton, List.flatMap_singleton, Segment.signs, Segment.signs,
      String.toList_append, List.map_append, List.append_assoc]
  · rw [signs, signs, hadded, List.flatMap_append, List.flatMap_singleton, Segment.signs]

theorem signs_addReference (number : Nat) :
    (message.addReference number).signs = message.signs ++ [.reference number] := by
  rw [signs, signs, segments_addReference, List.flatMap_append, List.flatMap_singleton,
    Segment.signs]

/-- A match shows in the message if it has a number. -/
theorem signs_addMatch (declared : Match) :
    ((declared.tokenRef.map message.addReference).getD message).signs =
      message.signs ++ (declared.tokenRef.map MessageSign.reference).toList := by
  cases declared.tokenRef with
  | none => exact (List.append_nil _).symm
  | some number => exact message.signs_addReference number

end MessageDraft

/-! ## Texts and variants -/

/-- The number of a match becomes part of the text of its token. -/
theorem TokenDraft.toList_text_bind (draft : TokenDraft) (reference : Match) :
    (draft.bind reference).element.text.toList =
      draft.element.text.toList ++
        (reference.tokenRef.map fun number => '\\' :: Text.numeral number).getD [] := by
  rw [bind]
  cases reference.tokenRef with
  | none => exact String.toList_append
  | some number =>
    show (draft.element.text ++ s!"\\{number}").toList = _
    rw [String.toList_append, String.toList_append]
    rfl

/-- At the end of a unification block the last element is marked as the last of the block. -/
inductive Variant.EndsBlock : Variant → Variant → Prop
  | empty (spans : List PhraseSpan) : EndsBlock ⟨[], spans⟩ ⟨[], spans⟩
  | last (init : List Element) (element : Element) (spans : List PhraseSpan) :
      EndsBlock ⟨init ++ [element], spans⟩ ⟨init ++ [element.closeUnification], spans⟩

theorem Variant.endsBlock_closeUnification (variant : Variant) :
    variant.EndsBlock variant.closeUnification := by
  obtain ⟨elements, spans⟩ := variant
  rcases List.eq_nil_or_concat' elements with rfl | ⟨init, element, rfl⟩
  · exact .empty spans
  · rw [closeUnification_concat]
    exact .last init element spans

/-! ## Open elements -/

/-- Something for an open element. -/
inductive Delivery where
  /-- An element, for a group, a pattern, a phrase or a type of a feature. -/
  | element (element : Element)
  | exception (exception : TokenException)
  /-- A feature with its types, for a unification block. -/
  | feature (id : String) (types : List String)
  | featureType (type : String)
  | pattern (pattern : PatternDraft)
  | sample (sample : RuleExample)
  /-- The match of a token. -/
  | reference (reference : Match)
  /-- A match of a message. -/
  | declared (declared : Match)
  | phrase (name : String) (alternatives : Alternatives)
  | tokenText (text : String)
  | exceptionText (text : String)
  | sampleText (text : String)
  | messageText (text : String)
  | shortText (text : String)
  /-- That a slot of the pattern begins. -/
  | slot
  /-- That a unification block of the pattern ends. -/
  | blockEnd
  /-- That a rule of the group ends. -/
  | ruleEnd

/-- What becomes of an element that takes something. -/
inductive Scope.Gains : Delivery → Scope → Scope → Prop
  /-- Every variant of a pattern gets the element, and a slot is complete. -/
  | single (element : Element) (draft : PatternDraft) :
      Gains (.element element) (.pattern draft)
        (.pattern { draft with
          variants := draft.variants.map fun variant =>
            ⟨variant.elements ++ [element], variant.spans⟩
          completed := draft.completed + 1 })
  | member (element : Element) (members : List Element) :
      Gains (.element element) (.andGroup members) (.andGroup (members ++ [element]))
  | phraseToken (element : Element) (draft : PhraseDraft) :
      Gains (.element element) (.phrase draft)
        (.phrase { draft with written := draft.written ++ [element] })
  | typeToken (element : Element) (type : String) (elements : List Element) :
      Gains (.element element) (.equivalence type elements)
        (.equivalence type (elements ++ [element]))
  | exception (exception : TokenException) (draft : TokenDraft) :
      Gains (.exception exception) (.token draft)
        (.token
          ⟨{ draft.element with exceptions := draft.element.exceptions ++ [exception] }⟩)
  | feature {id : String} {types : List String} {features changed : Table (List String)}
      (sets : features.Sets id types changed) :
      Gains (.feature id types) (.unify features) (.unify changed)
  | featureType (type id : String) (types : List String) :
      Gains (.featureType type) (.feature id types) (.feature id (types ++ [type]))
  | pattern (pattern : PatternDraft) (draft : RuleDraft) :
      Gains (.pattern pattern) (.rule draft) (.rule { draft with pattern := some pattern })
  | correct (text : String) (draft : RuleDraft) :
      Gains (.sample (.correct text)) (.rule draft)
        (.rule { draft with correctExamples := draft.correctExamples ++ [text] })
  | incorrect (sentence : IncorrectExample) (draft : RuleDraft) :
      Gains (.sample (.incorrect sentence)) (.rule draft)
        (.rule { draft with incorrectExamples := draft.incorrectExamples ++ [sentence] })
  /-- The token is bound, and its text goes on with the number. -/
  | reference {reference : Match} {draft : TokenDraft} {text : String}
      (htext : text.toList = draft.element.text.toList ++
        (reference.tokenRef.map fun number => '\\' :: Text.numeral number).getD []) :
      Gains (.reference reference) (.token draft)
        (.token ⟨{ draft.element with text, reference := some reference }⟩)
  /-- The match is declared, and stands at the end of the message. -/
  | declared {declared : Match} {draft : RuleDraft} {message : MessageDraft}
      (hmessage : message.signs =
        draft.message.signs ++ (declared.tokenRef.map MessageSign.reference).toList) :
      Gains (.declared declared) (.rule draft)
        (.rule { draft with message, declared := draft.declared ++ [declared] })
  /-- Every variant of a pattern is replaced by one for each alternative. -/
  | expansion (name : String) (alternatives : Alternatives) (draft : PatternDraft) :
      Gains (.phrase name alternatives) (.pattern draft)
        (.pattern { draft with
          variants := draft.variants.flatMap fun variant => alternatives.map fun alternative =>
            ⟨variant.elements ++ alternative,
              variant.spans ++ [⟨name, variant.elements.length, alternative.length⟩]⟩
          tokenCount := draft.tokenCount + 1
          completed := draft.completed + 1 })
  | inclusion (name : String) (alternatives : Alternatives) (draft : PhraseDraft) :
      Gains (.phrase name alternatives) (.phrase draft)
        (.phrase { draft with included := draft.included ++ alternatives })
  | tokenText (text : String) (draft : TokenDraft) :
      Gains (.tokenText text) (.token draft)
        (.token ⟨{ draft.element with text := draft.element.text ++ text }⟩)
  | exceptionText (text : String) (draft : ExceptionDraft) :
      Gains (.exceptionText text) (.exception draft)
        (.exception { draft with text := draft.text ++ text })
  | sampleText (text : String) (draft : ExampleDraft) :
      Gains (.sampleText text) (.sample draft)
        (.sample { draft with text := draft.text ++ text })
  | messageText {text : String} {draft : RuleDraft} {message : MessageDraft}
      (hmessage : message.signs = draft.message.signs ++ text.toList.map .char) :
      Gains (.messageText text) (.rule draft) (.rule { draft with message })
  | shortText (text : String) (draft : RuleDraft) :
      Gains (.shortText text) (.rule draft)
        (.rule { draft with shortMessage := some (draft.shortMessage.getD "" ++ text) })
  | slot (draft : PatternDraft) :
      Gains .slot (.pattern draft)
        (.pattern { draft with tokenCount := draft.tokenCount + 1 })
  | blockEnd {draft : PatternDraft} {variants : List Variant}
      (hvariants : List.Forall₂ Variant.EndsBlock draft.variants variants) :
      Gains .blockEnd (.pattern draft) (.pattern { draft with variants })
  | ruleEnd (group : RuleGroup) :
      Gains .ruleEnd (.ruleGroup group)
        (.ruleGroup { group with rulesSeen := group.rulesSeen + 1 })

namespace Scope

theorem gains_bind (draft : TokenDraft) (reference : Match) :
    Gains (.reference reference) (.token draft) (.token (draft.bind reference)) :=
  .reference (draft.toList_text_bind reference)

theorem gains_addMatch (draft : RuleDraft) (declared : Match) :
    Gains (.declared declared) (.rule draft) (.rule (draft.addMatch declared)) :=
  .declared (draft.message.signs_addMatch declared)

theorem gains_addText (draft : RuleDraft) (text : String) :
    Gains (.messageText text) (.rule draft) (.rule (draft.addText text)) :=
  .messageText (draft.message.signs_addText text)

theorem gains_addExample (draft : RuleDraft) (sample : RuleExample) :
    Gains (.sample sample) (.rule draft) (.rule (draft.addExample sample)) := by
  cases sample with
  | correct text => exact .correct text draft
  | incorrect sentence => exact .incorrect sentence draft

theorem gains_closeUnification (draft : PatternDraft) :
    Gains .blockEnd (.pattern draft) (.pattern draft.closeUnification) := by
  refine .blockEnd (List.forall₂_map_right_iff.2 (List.forall₂_same.2 fun variant _ => ?_))
  exact variant.endsBlock_closeUnification

/-- Whether something is collected in the element itself. -/
def collects : Scope → Bool
  | phrase _ | equivalence _ _ | ruleGroup _ | rule _ | pattern _ | andGroup _ | unify _
  | feature _ _ | token _ | exception _ | sample _ => true
  | _ => false

theorem not_gains_of_collects {scope : Scope} (h : scope.collects = false) (delivery : Delivery)
    (changed : Scope) : ¬ Gains delivery scope changed := by
  intro gains
  cases gains <;> cases h

/-- What gains something does not become a declaration of a feature. -/
theorem Gains.tag?_ne_unification {delivery : Delivery} {scope changed : Scope}
    (h : Gains delivery scope changed) : changed.tag? ≠ some .unification := by
  cases h <;> nofun

end Scope

end GrammarRules
