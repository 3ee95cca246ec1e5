import GrammarRules.Proofs.Document.Phrases
import GrammarRules.Proofs.Pattern.Script

/-!
# The tokens of a document as the author wrote them

A `Manuscript` is a record of a run that keeps the scripts of tokens where the compiler keeps their
elements: those of an open group, of the slots of the last pattern, of the open phrase, and of the
phrases that are complete.  `Manuscript.Matches` ties it to the state and to the records of slots
and phrases, and from it `texts_of_run` concludes what the texts of the elements of every rule are:
the text under the corrected numbers, wherever the script is legible.
-/

namespace GrammarRules

open ScopeStack

/-! ## The record -/

/-- The tokens of a document as far as they have been written. -/
structure Manuscript where
  /-- The last token. -/
  token : TokenScript := {}
  /-- The members of the last group. -/
  group : List TokenScript := []
  /-- The slots of the last pattern. -/
  slots : List SlotScript := []
  /-- The name of the last phrase. -/
  id : String := ""
  /-- The alternatives that the last phrase includes, as they stood at that place. -/
  included : List (List TokenScript) := []
  /-- The tokens written in the last phrase itself. -/
  written : List TokenScript := []
  /-- The phrases that are complete. -/
  phrases : Table (List (List TokenScript)) := {}

namespace Manuscript

/-- The token with a match that has these attributes. -/
def quoted (m : Manuscript) (attributes : Attributes) (position : Position) : TokenScript :=
  match referenceNumber attributes position with
  | .ok number => m.token.addQuote number
  | .error _ => m.token

/-- The alternatives of the phrase that a reference names. -/
def named (m : Manuscript) (attributes : Attributes) : List (List TokenScript) :=
  (m.phrases.find? ((attributes.find? "idref").getD "")).getD []

/-- The tokens written in the last phrase as an alternative, if there are any. -/
def own (m : Manuscript) : List (List TokenScript) :=
  match m.written with
  | [] => []
  | first :: rest => [first :: rest]

/-- The alternatives of the last phrase when it is complete. -/
def alternatives (m : Manuscript) : List (List TokenScript) := m.included ++ m.own

/-- The ways to choose an alternative for every slot, in the order of the variants. -/
def choices (m : Manuscript) : List (List Nat) :=
  Slot.indexChoices (m.slots.map SlotScript.width)

/-- The scripts for each token of a variant, and what the numbers in them mean. -/
def settings (m : Manuscript) (indices : List Nat) : List (List TokenScript × (Nat → Nat)) :=
  PieceScript.settings [] (SlotScript.pick m.slots indices)

/-- The record after a start tag on this stack. -/
def noteStart (m : Manuscript) (attributes : Attributes) (position : Position)
    (stack : ScopeStack) : Tag → Manuscript
  | .token => { m with token := {} }
  | .andGroup => { m with group := [] }
  | .pattern => { m with slots := [] }
  | .phrase =>
    { m with id := (attributes.find? "id").getD "", included := [], written := [] }
  | .phraseRef =>
    match stack with
    | .pattern _ :: _ => { m with slots := m.slots ++ [.phrase (m.named attributes)] }
    | .includePhrases :: _ => { m with included := m.included ++ m.named attributes }
    | _ => m
  | .quote =>
    match stack with
    | .token _ :: _ => { m with token := m.quoted attributes position }
    | _ => m
  | _ => m

/-- The record after character data in the innermost element. -/
def noteText (m : Manuscript) (text : String) : ScopeStack → Manuscript
  | .token _ :: _ => { m with token := m.token.addText text }
  | _ => m

/-- The record after the end tag of the innermost element. -/
def noteStop (m : Manuscript) : ScopeStack → Manuscript
  | .token _ :: .pattern _ :: _ | .token _ :: .unify _ :: _ =>
    { m with slots := m.slots ++ [.single [m.token]] }
  | .token _ :: .andGroup _ :: _ => { m with group := m.group ++ [m.token] }
  | .token _ :: .phrase _ :: _ => { m with written := m.written ++ [m.token] }
  | .andGroup _ :: _ => { m with slots := m.slots ++ [.single m.group] }
  | .phrase _ :: _ => { m with phrases := m.phrases.insert m.id m.alternatives }
  | _ => m

end Manuscript

/-- The record after an event. -/
def Compiler.noteManuscript (c : Compiler) (m : Manuscript) : Event → Manuscript
  | .start name attributes position =>
    c.noteTag m name (m.noteStart attributes position c.stack)
  | .text text _ => m.noteText text c.stack
  | .stop _ _ => m.noteStop c.stack

/-- The tokens that events write. -/
def manuscript (options : CompileOptions) (events : List Event) : Manuscript :=
  historyAfter Compiler.noteManuscript (Compiler.new options) {} events

/-! ## The open token and the open group -/

namespace ScopeStack

/-- The token that is open with nothing but elements of a token in it. -/
def openToken? : ScopeStack → Option TokenDraft
  | .token draft :: _ => some draft
  | .quote :: outer | .exception _ :: outer | .ignored _ :: outer => openToken? outer
  | _ => none

/-- The members of the group that is open with nothing but elements of a token in it. -/
def openGroup? : ScopeStack → Option (List Element)
  | .andGroup members :: _ => some members
  | .token _ :: outer | .quote :: outer | .exception _ :: outer | .ignored _ :: outer =>
    openGroup? outer
  | _ => none

/-- Nothing of this kind is open around an element that stands in neither. -/
theorem not_open_of_fits {tag : Tag} {stack : ScopeStack} (fits : tag.fitsOn stack = true)
    (htag : tag ≠ .token ∧ tag ≠ .exception ∧ tag ≠ .quote) :
    stack.openToken? = none ∧ stack.openGroup? = none := by
  cases stack with
  | nil => exact ⟨rfl, rfl⟩
  | cons scope outer =>
    cases scope with
    | token | andGroup | quote | exception | ignored =>
      -- Only the elements of a token and of a group stand here.
      cases tag <;> first | exact absurd fits Bool.false_ne_true | simp at htag
    | _ => exact ⟨rfl, rfl⟩

theorem RulePlace.not_open_countRule {stack : ScopeStack} (h : RulePlace stack) :
    stack.countRule.openToken? = none ∧ stack.countRule.openGroup? = none := by
  cases h <;> exact ⟨rfl, rfl⟩

end ScopeStack

/-! ## Scripts and the state -/

/-- The alternatives are those of these scripts. -/
abbrev RecordsAlternatives (scripts : List (List TokenScript)) (alternatives : Alternatives) :
    Prop := List.Forall₂ RecordsAll scripts alternatives

/-- The scripts of a table of phrases. -/
def RecordsEntries (scripts : List (String × List (List TokenScript)))
    (phrases : List (String × Alternatives)) : Prop :=
  List.Forall₂ (fun a b => a.1 = b.1 ∧ RecordsAlternatives a.2 b.2) scripts phrases

/-- The scripts of a record are those of the elements in the state and in the other records. -/
structure Manuscript.Matches (m : Manuscript) (c : Compiler) (slots : List Slot)
    (script : PhraseScript) : Prop where
  token : ∀ draft ∈ c.stack.openToken?, m.token.Drafts draft.element
  group : ∀ members ∈ c.stack.openGroup?, RecordsAll m.group members
  slots : List.Forall₂ SlotScript.Records m.slots slots
  id : m.id = script.id
  included : RecordsAlternatives m.included script.included
  written : RecordsAll m.written script.written
  phrases : RecordsEntries m.phrases.entries c.phrases.entries

/-! ## Phrases -/

theorem RecordsEntries.lookup {scripts : List (String × List (List TokenScript))}
    {phrases : List (String × Alternatives)} (h : RecordsEntries scripts phrases) {name : String}
    {alternatives : Alternatives} (hfind : phrases.lookup name = some alternatives) :
    ∃ found, scripts.lookup name = some found ∧ RecordsAlternatives found alternatives := by
  induction h with
  | nil => cases hfind
  | @cons a b scripts phrases hentry hrest ih =>
    rw [List.lookup_cons] at hfind ⊢
    rw [hentry.1]
    cases hname : name == b.1 with
    | true =>
      rw [hname] at hfind
      exact ⟨a.2, rfl, Option.some.inj hfind ▸ hentry.2⟩
    | false =>
      rw [hname] at hfind
      exact ih hfind

theorem RecordsEntries.insert {scripts : List (String × List (List TokenScript))}
    {phrases : List (String × Alternatives)} (h : RecordsEntries scripts phrases) (name : String)
    {added : List (List TokenScript)} {alternatives : Alternatives}
    (hadded : RecordsAlternatives added alternatives) :
    RecordsEntries (Table.insertEntry name added scripts)
      (Table.insertEntry name alternatives phrases) := by
  induction h with
  | nil => exact .cons ⟨rfl, hadded⟩ .nil
  | @cons a b scripts phrases hentry hrest ih =>
    rw [Table.insertEntry, Table.insertEntry, hentry.1]
    split
    · exact .cons ⟨rfl, hadded⟩ hrest
    · exact .cons ⟨rfl, hentry.2⟩ ih

namespace Manuscript.Matches

variable {m : Manuscript} {c next : Compiler} {slots : List Slot} {script : PhraseScript}
  {attributes : Attributes} {position : Position} {tag : Tag}

theorem records_named (h : m.Matches c slots script) {name : String} {alternatives : Alternatives}
    (hname : attributes.required "phraseref" "idref" position = .ok name)
    (hfind : c.phrases.find? name = some alternatives) :
    RecordsAlternatives (m.named attributes) alternatives := by
  obtain ⟨found, hfound, hrecords⟩ := h.phrases.lookup hfind
  rw [named, find?_of_required hname, Option.getD_some, Table.find?, hfound, Option.getD_some]
  exact hrecords

theorem records_own (h : m.Matches c slots script) : RecordsAlternatives m.own script.own := by
  have hwritten := h.written
  unfold own PhraseScript.own
  generalize m.written = scripts, script.written = elements at hwritten
  cases hwritten with
  | nil => exact .nil
  | cons hfirst hrest => exact .cons (.cons hfirst hrest) .nil

theorem records_alternatives (h : m.Matches c slots script) :
    RecordsAlternatives m.alternatives script.alternatives := by
  rw [PhraseScript.alternatives, RecordsAlternatives, List.forall₂_map_right_iff]
  refine (List.rel_append h.included h.records_own).imp fun scripts elements hrecords => ?_
  rw [RecordsAll, List.forall₂_map_right_iff]
  exact hrecords.imp fun script element hscript => hscript.congr rfl rfl

/-- An event after which neither a token nor a group is open, if it leaves the phrases alone. -/
theorem closed (h : m.Matches c slots script) (htoken : next.stack.openToken? = none)
    (hgroup : next.stack.openGroup? = none) (hphrases : next.phrases = c.phrases) :
    m.Matches next slots script where
  token draft hdraft := by
    rw [htoken] at hdraft
    cases hdraft
  group members hmembers := by
    rw [hgroup] at hmembers
    cases hmembers
  slots := h.slots
  id := h.id
  included := h.included
  written := h.written
  phrases := hphrases ▸ h.phrases

/-- An event that leaves the open token, the open group and the phrases alone. -/
theorem congr (h : m.Matches c slots script)
    (htoken : next.stack.openToken? = c.stack.openToken?)
    (hgroup : next.stack.openGroup? = c.stack.openGroup?) (hphrases : next.phrases = c.phrases) :
    m.Matches next slots script where
  token draft hdraft := h.token draft (htoken ▸ hdraft)
  group members hmembers := h.group members (hgroup ▸ hmembers)
  slots := h.slots
  id := h.id
  included := h.included
  written := h.written
  phrases := hphrases ▸ h.phrases

/-- The end of a unification block does not concern the scripts. -/
theorem records_closeLast {scripts : List SlotScript}
    (h : List.Forall₂ SlotScript.Records scripts slots) :
    List.Forall₂ SlotScript.Records scripts (Slot.closeLast slots) := by
  rcases List.eq_nil_or_concat' slots with rfl | ⟨init, last, rfl⟩
  · cases h
    exact .nil
  · obtain ⟨init', last', rfl, hinit, hlast⟩ := exists_of_forall₂_concat h
    rw [Slot.closeLast_concat]
    exact List.rel_append hinit (.cons hlast.close .nil)

/-- A slot that is complete. -/
theorem addSlot (h : m.Matches c slots script) {added : SlotScript} {slot : Slot}
    (hslot : added.Records slot) :
    Matches { m with slots := m.slots ++ [added] } c (slots ++ [slot]) script :=
  { h with slots := List.rel_append h.slots (.cons hslot .nil) }

/-! ## Events -/

theorem of_fresh {scope : Scope} (h : m.Matches c slots script)
    (fresh : Fresh c attributes position tag scope) :
    (m.noteStart attributes position c.stack tag).Matches { c with stack := scope :: c.stack }
      (c.stack.noteStart c.phrases slots attributes tag)
      (script.noteStart c.phrases attributes c.stack tag) := by
  have hclosed (htoken : openToken? (scope :: c.stack) = none)
      (hgroup : openGroup? (scope :: c.stack) = none) :
      m.Matches { c with stack := scope :: c.stack } slots script := h.closed htoken hgroup rfl
  cases fresh with
  | token hdraft apart =>
    refine { h with token := fun draft hopen => ?_, group := h.group }
    cases hopen
    exact TokenScript.drafts_ofAttributes hdraft
  | exception => exact h.congr rfl rfl rfl
  | pattern => exact { hclosed rfl rfl with slots := .nil }
  | phrase hid =>
    refine { hclosed rfl rfl with id := ?_, included := .nil, written := .nil }
    rfl
  | _ => exact hclosed rfl rfl

/-- A start tag adds to the scripts what it adds to the elements. -/
theorem opens (h : m.Matches c slots script) (opens : Opens c attributes position tag next) :
    (m.noteStart attributes position c.stack tag).Matches next
      (c.stack.noteStart c.phrases slots attributes tag)
      (script.noteStart c.phrases attributes c.stack tag) := by
  cases opens with
  | fresh fresh => exact h.of_fresh fresh
  | rules hstack => exact h.closed rfl rfl rfl
  | unification hstack hfeature => exact h.closed rfl rfl rfl
  | @token block pattern outer draft hstack hdraft =>
    refine { h with token := fun draft hopen => ?_, group := fun members hopen => ?_ }
    · cases hopen
      exact TokenScript.drafts_ofAttributes hdraft
    · cases block <;> cases hopen
  | andGroup hstack =>
    refine { h with token := nofun, group := fun members hopen => ?_ }
    cases hopen
    exact .nil
  | @expansion pattern outer name alternatives hstack hname hfind =>
    have hslot : SlotScript.Records (.phrase (m.named attributes)) (.phrase name alternatives) :=
      .phrase (h.records_named hname hfind)
    rw [hstack]
    simp only [noteStart, ScopeStack.noteStart, PhraseScript.noteStart, find?_of_required hname,
      Option.getD_some, hfind]
    exact (h.addSlot hslot).closed rfl rfl rfl
  | @inclusion phrase name alternatives hstack hname hfind =>
    rw [hstack]
    simp only [noteStart, ScopeStack.noteStart, PhraseScript.noteStart, find?_of_required hname,
      Option.getD_some, hfind]
    have hincluded : Matches { m with included := m.included ++ m.named attributes } c slots
        { script with included := script.included ++ alternatives } :=
      { h with included := List.rel_append h.included (h.records_named hname hfind) }
    exact hincluded.closed rfl rfl rfl
  | @binding draft outer reference hstack hreference =>
    obtain ⟨number, hnumber, htokenRef⟩ := tokenRef_of_resolveMatch hreference
    have hdrafts := h.token draft (by rw [hstack]; rfl)
    have hquoted : m.quoted attributes position = m.token.addQuote number := by
      rw [quoted, hnumber]
    rw [hstack]
    refine { h with
      token := fun draft' hopen => ?_, group := fun members hopen => h.group members ?_ }
    · cases hopen
      rw [noteStart, hquoted]
      exact hdrafts.bind htokenRef (bounds_of_referenceNumber hnumber).2
    · rw [hstack]
      exact hopen
  | @declaration inSuggestion rule outer declared hstack hdeclared =>
    rw [hstack]
    cases inSuggestion <;> exact h.closed rfl rfl rfl
  | featureType hstack | suggestion hstack | marker hstack => exact h.closed rfl rfl rfl

/-- Text adds to the scripts what it adds to the elements. -/
theorem reads {text : String} (h : m.Matches c slots script) (reads : Reads c text next) :
    (m.noteText text c.stack).Matches next slots script := by
  cases reads with
  | @token draft outer hstack =>
    have hdrafts := h.token draft (by rw [hstack]; rfl)
    rw [hstack]
    refine { h with
      token := fun draft' hopen => ?_, group := fun members hopen => h.group members ?_ }
    · cases hopen
      exact hdrafts.addText text
    · rw [hstack]
      exact hopen
  | exception hstack =>
    rw [hstack]
    exact h.congr (by rw [hstack]; rfl) (by rw [hstack]; rfl) rfl
  | @message inSuggestion rule outer hstack apart =>
    rw [hstack]
    cases inSuggestion <;> exact h.closed rfl rfl rfl
  | nothing hstack =>
    have hm : m.noteText text c.stack = m := by
      cases hc : c.stack with
      | nil => rfl
      | cons scope outer =>
        have hscope := hstack scope outer hc
        cases scope <;> first | rfl | cases hscope
    rw [hm]
    exact h
  | sample hstack | short hstack | marker hstack =>
    rw [hstack]
    exact h.closed rfl rfl rfl

/-- An end tag adds to the scripts what it adds to the elements. -/
theorem closes (h : m.Matches c slots script) (path : c.stack.IsPath) (sound : c.Sound slots)
    (collects : c.Collects script) (closes : Closes c position next) :
    (m.noteStop c.stack).Matches next (c.stack.noteStop slots) (script.noteStop c.stack) := by
  cases closes with
  | @silent scope outer hstack silent =>
    rw [hstack] at path ⊢
    cases scope with
    | quote | ignored => exact h.congr (by rw [hstack]; rfl) (by rw [hstack]; rfl) rfl
    | rules | category | phrases | includePhrases | phraseRef | unification | ruleGroup
    | featureType | message | short =>
      -- None of these stands in a token or in a group.
      obtain ⟨htoken, hgroup⟩ := not_open_of_fits (path.1 _ rfl) ⟨nofun, nofun, nofun⟩
      exact h.closed htoken hgroup rfl
    | _ => cases silent
  | @token draft block pattern outer element hstack helement =>
    obtain rfl := TokenDraft.eq_written_of_finish helement
    have hsound := sound.stack
    have hrecords := (h.token draft (by rw [hstack]; rfl)).written
    rw [hstack] at hsound
    have hslot : SlotScript.Records (.single [m.token])
        (.single (inBlock block draft.written)) := by
      have hgroup := hsound.1.andGroup
      cases block <;> exact .of_group (.cons hrecords .nil) rfl rfl hgroup
    rw [hstack, ScopeStack.noteStop, noteElement_seat]
    cases block <;> exact (h.addSlot hslot).closed rfl rfl rfl
  | @member draft members outer element hstack helement =>
    obtain rfl := TokenDraft.eq_written_of_finish helement
    have hrecords := (h.token draft (by rw [hstack]; rfl)).written
    have hgroup := h.group members (by rw [hstack]; rfl)
    rw [hstack]
    refine { h with token := fun _ hopen => ?_, group := fun members' hopen => ?_ }
    · cases hopen
    · cases hopen
      exact List.rel_append hgroup (.cons hrecords .nil)
  | @phraseToken draft phrase element hstack helement =>
    obtain rfl := TokenDraft.eq_written_of_finish helement
    have hrecords := (h.token draft (by rw [hstack]; rfl)).written
    have hwritten : Matches { m with written := m.written ++ [m.token] } c slots
        { script with written := script.written ++ [draft.written] } :=
      { h with written := List.rel_append h.written (.cons hrecords .nil) }
    rw [hstack]
    exact hwritten.closed rfl rfl rfl
  | typeToken hstack =>
    rw [hstack]
    exact h.closed rfl rfl rfl
  | @andGroup first others block pattern outer hstack =>
    have hgroup := h.group (first :: others) (by rw [hstack]; rfl)
    have hslot : SlotScript.Records (.single m.group)
        (.single (inBlock block { first with andGroup := others })) := by
      cases block <;> exact .of_group hgroup rfl rfl rfl
    rw [hstack, ScopeStack.noteStop, noteElement_seat]
    cases block <;> exact (h.addSlot hslot).closed rfl rfl rfl
  | @exception draft token outer exception hstack hexception =>
    have hdrafts := h.token token (by rw [hstack]; rfl)
    rw [hstack]
    refine { h with
      token := fun draft' hopen => ?_, group := fun members hopen => h.group members ?_ }
    · cases hopen
      exact hdrafts.addException exception
    · rw [hstack]
      exact hopen
  | unify hstack =>
    have hslots : Matches m c (Slot.closeLast slots) script :=
      { h with slots := records_closeLast h.slots }
    rw [hstack]
    exact hslots.closed rfl rfl rfl
  | rule hstack hrules =>
    rw [hstack] at path
    have hplace := rulePlace_of_fits path.tail (path.1 .rule rfl)
    rw [hstack]
    exact h.closed hplace.not_open_countRule.1 hplace.not_open_countRule.2 rfl
  | @phrase draft alternatives hstack halternatives =>
    obtain ⟨hid, hdraft⟩ := collects.alternatives sound hstack
    obtain rfl : alternatives = draft.alternatives := by
      unfold PhraseDraft.finish at halternatives
      split at halternatives <;> cases halternatives
      rfl
    have hphrases := h.phrases.insert script.id h.records_alternatives
    rw [← h.id] at hphrases
    rw [hid, hdraft, ← h.id, hstack]
    refine { h with token := fun _ hopen => ?_, group := fun _ hopen => ?_, phrases := hphrases } <;>
      cases hopen
  | feature hstack | pattern hstack | suggestion hstack | marker hstack | sample hstack
  | equivalence hstack =>
    rw [hstack]
    exact h.closed rfl rfl rfl

theorem transition {event : Event} (h : m.Matches c slots script) (path : c.stack.IsPath)
    (sound : c.Sound slots) (collects : c.Collects script) (transition : Transition c event next) :
    (c.noteManuscript m event).Matches next (c.noteSlot slots event)
      (c.notePhrase script event) := by
  cases transition with
  | @ignore name attributes position hignored =>
    rw [Compiler.noteSlot, Compiler.noteTag_of_ignored hignored, Compiler.noteManuscript,
      Compiler.noteTag_of_ignored hignored, Compiler.notePhrase,
      Compiler.noteTag_of_ignored hignored]
    exact h.congr rfl rfl rfl
  | @start name tag attributes position next hignored htag fits opens =>
    rw [Compiler.noteSlot, Compiler.noteTag_of_tag hignored htag, Compiler.noteManuscript,
      Compiler.noteTag_of_tag hignored htag, Compiler.notePhrase,
      Compiler.noteTag_of_tag hignored htag]
    exact h.opens opens
  | text reads => exact h.reads reads
  | stop _ _ closes => exact h.closes path sound collects closes

end Manuscript.Matches

/-! ## Runs -/

section Run

variable {options : CompileOptions} {events : List Event} {c : Compiler}

/-- After every run the scripts are those of the elements in the state. -/
theorem matches_of_run (run : replay Compiler.step (Compiler.new options) events = .accepted c) :
    (manuscript options events).Matches c (writtenSlots options events)
      (writtenPhrase options events) := by
  induction events using List.reverseRecOn generalizing c with
  | nil =>
    cases run
    exact ⟨nofun, nofun, .nil, rfl, .nil, .nil, .nil⟩
  | append_singleton events event ih =>
    obtain ⟨middle, hmiddle, hlast⟩ := exists_of_replay_append run
    obtain ⟨next, hnext, hend⟩ := replay_cons_eq_accepted hlast
    obtain rfl : next = c := by cases hend; rfl
    obtain ⟨path, sound⟩ := sound_of_run hmiddle
    have collects := collects_of_run hmiddle
    have moved : (manuscript options events).Matches (middle.moved event.position)
        (writtenSlots options events) (writtenPhrase options events) :=
      (ih hmiddle).congr rfl rfl rfl
    have movedSound : (middle.moved event.position).Sound (writtenSlots options events) :=
      ⟨sound.stack, sound.phrases, sound.rules⟩
    rw [manuscript, writtenSlots, writtenPhrase, historyAfter_concat _ hmiddle hnext,
      historyAfter_concat _ hmiddle hnext, historyAfter_concat _ hmiddle hnext]
    exact moved.transition path movedSound collects (transition_of_step path hnext)

/-- The elements of every rule show the scripts of the tokens that were written into its pattern
before the end tag of the rule, with an alternative chosen for every slot. -/
theorem texts_of_run (run : replay Compiler.step (Compiler.new options) events = .accepted c) :
    ∀ (index : Nat) (rule : Rule), c.rules[index]? = some rule →
      ∃ before indices, AddedAfter options events index before ∧
        (manuscript options before).choices[index - ruleCount options before]? = some indices ∧
        List.Forall₂ ShowsSetting ((manuscript options before).settings indices)
          rule.elements := by
  intro index rule hrule
  obtain ⟨origin⟩ := exists_origin run hrule
  obtain ⟨variant, hvariant, hmade⟩ := origin.exists_variant
  have holds := origin.holds
  have hslots := (matches_of_run origin.run).slots
  rw [holds.variants, Slot.variants_eq, List.getElem?_map] at hvariant
  obtain ⟨indices, hindices, rfl⟩ := Option.map_eq_some_iff.1 hvariant
  have hpieces : Slot.pick (writtenSlots options origin.before) indices ∈
      Slot.choices (writtenSlots options origin.before) := by
    rw [Slot.choices_eq_map_pick]
    exact List.mem_map_of_mem (List.mem_of_getElem? hindices)
  refine ⟨origin.before, indices, origin.added, ?_, ?_⟩
  · rw [Manuscript.choices, map_width_eq hslots]
    exact hindices
  · have hshows := shows_settings (holds.sound.soundPieces hpieces)
      (SlotScript.records_pick hslots indices)
    exact congrArg Rule.elements hmade ▸ hshows

/-- In the second rule of the sample the phrase takes two tokens, so that its slot ends with the
third. -/
theorem texts_of_run_sample :
    ∃ c rule before indices,
      replay Compiler.step (Compiler.new {}) (sampleEvents ++ [.stop "rule" .unknown]) =
        .accepted c ∧
      c.rules[1]? = some rule ∧
      rule.elements.map (fun e => (e :: e.andGroup).map Element.text) =
        [["c"], ["b"], ["\\2"], ["", "\\3"]] ∧
      AddedAfter {} (sampleEvents ++ [.stop "rule" .unknown]) 1 before ∧
      (manuscript {} before).choices[1 - ruleCount {} before]? = some indices ∧
      List.Forall₂ ShowsSetting ((manuscript {} before).settings indices) rule.elements := by
  have run : replay Compiler.step (Compiler.new {}) (sampleEvents ++ [.stop "rule" .unknown]) =
      .accepted _ := rfl
  obtain ⟨before, indices, added, hindices, hshows⟩ := texts_of_run run 1 _ rfl
  exact ⟨_, _, before, indices, run, rfl, rfl, added, hindices, hshows⟩

end Run

/-- A rule, up to its end tag, with two matches in one token behind a phrase of two tokens. -/
def twoMatches : List Event :=
  .start "rules" ⟨[]⟩ .unknown ::
    tagged "phrases" [] (tagged "phrase" [("id", "P")]
      (tagged "token" [] [.text "a" .unknown] ++ tagged "token" [] [.text "b" .unknown])) ++
    .start "rule" ⟨[("id", "R")]⟩ .unknown ::
      tagged "pattern" []
        (tagged "phraseref" [("idref", "P")] [] ++ tagged "token" [] [.text "c" .unknown] ++
          tagged "token" [] (tagged "match" [("no", "1")] [] ++ .text "|" .unknown ::
            tagged "match" [("no", "2")] []))

/-- Only the second match is corrected: the token is to have the text `\2|\3` and has `\1|\3`. -/
theorem not_corrected_twoMatches :
    ∃ c rule element script physical,
      replay Compiler.step (Compiler.new {}) (twoMatches ++ [.stop "rule" .unknown]) =
        .accepted c ∧
      c.rules[0]? = some rule ∧ rule.elements[3]? = some element ∧
      (manuscript {} twoMatches).choices = [[0, 0, 0]] ∧
      ((manuscript {} twoMatches).settings [0, 0, 0])[3]? = some ([script], physical) ∧
      element.text = "\\1|\\3" ∧ script.text physical = "\\2|\\3" := by
  have run : replay Compiler.step (Compiler.new {}) (twoMatches ++ [.stop "rule" .unknown]) =
      .accepted _ := rfl
  exact ⟨_, _, _, _, _, run, rfl, rfl, rfl, rfl, rfl, rfl⟩

end GrammarRules
