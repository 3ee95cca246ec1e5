import GrammarRules.Proofs.Document.Origin

/-!
# The phrases of a document

`writtenPhrase` reads the last phrase off from the events of a run: its name, the alternatives that
it takes over, as they stand when they are taken over, and the tokens written in it.  The end tag of
a phrase gives these alternatives to the name of the phrase, changes no other entry of the table and
no rule, and is refused if there are none; no other event changes the table (`phrases_of_run`).
-/

namespace GrammarRules

open ScopeStack

/-! ## What has been written into a phrase -/

/-- The last phrase as far as it has been written. -/
structure PhraseScript where
  id : String := ""
  /-- The alternatives of the phrases that it includes, as they stood at that place. -/
  included : Alternatives := []
  /-- The tokens written in the phrase itself. -/
  written : List Element := []

namespace PhraseScript

/-- The tokens written in the phrase as an alternative, if there are any. -/
def own (script : PhraseScript) : Alternatives :=
  match script.written with
  | [] => []
  | first :: rest => [first :: rest]

/-- The alternatives of the phrase when it is complete; every element has the name of the phrase. -/
def alternatives (script : PhraseScript) : Alternatives :=
  (script.included ++ script.own).map
    (·.map fun element => { element with phrase := some script.id })

/-- The phrase after a start tag on this stack. -/
def noteStart (phrases : PhraseTable) (script : PhraseScript) (attributes : Attributes)
    (stack : ScopeStack) : Tag → PhraseScript
  | .phrase => { id := (attributes.find? "id").getD "" }
  | .phraseRef =>
    match stack with
    | .includePhrases :: _ =>
      let named := (phrases.find? ((attributes.find? "idref").getD "")).getD []
      { script with included := script.included ++ named }
    | _ => script
  | _ => script

/-- The phrase after the end tag of the innermost element. -/
def noteStop (script : PhraseScript) : ScopeStack → PhraseScript
  | .token draft :: .phrase _ :: _ => { script with written := script.written ++ [draft.written] }
  | _ => script

theorem alternatives_eq_nil_iff (script : PhraseScript) :
    script.alternatives = [] ↔ script.included = [] ∧ script.written = [] := by
  unfold alternatives own
  cases script.written <;> simp

end PhraseScript

/-- The last phrase after an event. -/
def Compiler.notePhrase (c : Compiler) (script : PhraseScript) : Event → PhraseScript
  | .start name attributes _ =>
    c.noteTag script name (script.noteStart c.phrases attributes c.stack)
  | .text _ _ => script
  | .stop _ _ => script.noteStop c.stack

/-- The last phrase that events write. -/
def writtenPhrase (options : CompileOptions) (events : List Event) : PhraseScript :=
  historyAfter Compiler.notePhrase (Compiler.new options) {} events

/-! ## The open phrase -/

/-- The phrase, if the element is one. -/
def Scope.phrase? : Scope → Option PhraseDraft
  | .phrase draft => some draft
  | _ => none

/-- The innermost open phrase. -/
def ScopeStack.phrase? (stack : ScopeStack) : Option PhraseDraft := stack.findSome? Scope.phrase?

/-- The phrase that is open, if one is, has collected what has been written. -/
def Compiler.Collects (c : Compiler) (script : PhraseScript) : Prop :=
  ∀ draft ∈ c.stack.phrase?,
    draft.id = script.id ∧ draft.included = script.included ∧ draft.written = script.written

theorem ScopeStack.phrase?_seat (block : Option (Table (List String))) (pattern : PatternDraft)
    (outer : ScopeStack) : (seat block pattern outer).phrase? = outer.phrase? := by
  cases block <;> rfl

theorem ScopeStack.phrase?_messageStack (inSuggestion : Bool) (rule : RuleDraft)
    (outer : ScopeStack) : (messageStack inSuggestion rule outer).phrase? = outer.phrase? := by
  cases inSuggestion <;> rfl

theorem ScopeStack.RulePlace.phrase?_countRule {stack : ScopeStack} (h : RulePlace stack) :
    stack.countRule.phrase? = none := by
  cases h <;> rfl

namespace Compiler.Collects

variable {c next : Compiler} {script : PhraseScript} {attributes : Attributes}
  {position : Position} {tag : Tag}

/-- An event that leaves the open phrase and the record alone. -/
theorem congr (h : c.Collects script) (hstack : next.stack.phrase? = c.stack.phrase?) :
    next.Collects script := fun draft hdraft => h draft (hstack ▸ hdraft)

theorem of_fresh {scope : Scope} (h : c.Collects script)
    (fresh : Fresh c attributes position tag scope) :
    Compiler.Collects { c with stack := scope :: c.stack }
      (script.noteStart c.phrases attributes c.stack tag) := by
  cases fresh with
  | phrase hid =>
    intro draft hdraft
    cases hdraft
    exact ⟨by rw [PhraseScript.noteStart, find?_of_required hid, Option.getD_some], rfl, rfl⟩
  | _ => exact h.congr rfl

/-- A start tag adds to the open phrase what it adds to the record. -/
theorem opens (h : c.Collects script) (opens : Opens c attributes position tag next) :
    next.Collects (script.noteStart c.phrases attributes c.stack tag) := by
  cases opens with
  | fresh fresh => exact h.of_fresh fresh
  | rules hstack => exact nofun
  | unification hstack hfeature => exact nofun
  | token hstack hdraft | andGroup hstack =>
    refine h.congr ?_
    rw [hstack, phrase?_seat]
    exact phrase?_seat _ _ _
  | @expansion pattern outer name alternatives hstack hname hfind =>
    have hscript : script.noteStart c.phrases attributes c.stack .phraseRef = script := by
      rw [hstack]
      rfl
    rw [hscript]
    exact h.congr (by rw [hstack]; rfl)
  | @inclusion phrase name alternatives hstack hname hfind =>
    have hphrase := h phrase (by rw [hstack]; rfl)
    intro draft hdraft
    cases hdraft
    rw [hstack]
    simp only [PhraseScript.noteStart, find?_of_required hname, Option.getD_some, hfind]
    exact ⟨hphrase.1, congrArg (· ++ alternatives) hphrase.2.1, hphrase.2.2⟩
  | declaration hstack hdeclared =>
    refine h.congr ?_
    rw [hstack, phrase?_messageStack]
    exact phrase?_messageStack _ _ _
  | featureType hstack | binding hstack | suggestion hstack | marker hstack =>
    exact h.congr (by rw [hstack]; rfl)

/-- Text does not matter to the open phrase. -/
theorem reads {text : String} (h : c.Collects script) (reads : Reads c text next) :
    next.Collects script := by
  cases reads with
  | message hstack =>
    refine h.congr ?_
    rw [hstack, phrase?_messageStack]
    exact (phrase?_messageStack _ _ _).symm
  | nothing => exact h
  | token hstack | exception hstack | sample hstack | short hstack | marker hstack =>
    exact h.congr (by rw [hstack]; rfl)

/-- An end tag adds to the open phrase what it adds to the record. -/
theorem closes (h : c.Collects script) (path : c.stack.IsPath) (closes : Closes c position next) :
    next.Collects (script.noteStop c.stack) := by
  cases closes with
  | @silent scope outer hstack silent =>
    rw [hstack]
    cases scope <;> first | exact h.congr (by rw [hstack]; rfl) | cases silent
  | @token draft block pattern outer element hstack helement =>
    have hscript : script.noteStop c.stack = script := by
      rw [hstack]
      cases block <;> rfl
    rw [hscript]
    refine h.congr ?_
    rw [hstack, phrase?_seat]
    exact (phrase?_seat block pattern outer).symm
  | @andGroup first others block pattern outer hstack =>
    have hscript : script.noteStop c.stack = script := by rw [hstack]; rfl
    rw [hscript]
    refine h.congr ?_
    rw [hstack, phrase?_seat]
    exact (phrase?_seat block pattern outer).symm
  | @phraseToken draft phrase element hstack helement =>
    obtain rfl := TokenDraft.eq_written_of_finish helement
    have hphrase := h phrase (by rw [hstack]; rfl)
    intro other hother
    cases hother
    rw [hstack]
    exact ⟨hphrase.1, hphrase.2.1, congrArg (· ++ [draft.written]) hphrase.2.2⟩
  | rule hstack hrules =>
    rw [hstack] at path
    have hplace := rulePlace_of_fits path.tail (path.1 .rule rfl)
    intro draft hdraft
    rw [hplace.phrase?_countRule] at hdraft
    cases hdraft
  | phrase hstack halternatives => exact nofun
  | member hstack | typeToken hstack | exception hstack | feature hstack | unify hstack
  | pattern hstack | suggestion hstack | marker hstack | sample hstack | equivalence hstack =>
    rw [hstack]
    exact h.congr (by rw [hstack]; rfl)

theorem transition {event : Event} (h : c.Collects script) (path : c.stack.IsPath)
    (transition : Transition c event next) : next.Collects (c.notePhrase script event) := by
  cases transition with
  | ignore hignored =>
    rw [notePhrase, noteTag_of_ignored hignored]
    exact h.congr rfl
  | start hignored htag fits opens =>
    rw [notePhrase, noteTag_of_tag hignored htag]
    exact h.opens opens
  | text reads => exact h.reads reads
  | stop _ _ closes => exact h.closes path closes

end Compiler.Collects

/-- After every run the open phrase has collected what the run has written. -/
theorem collects_of_run {options : CompileOptions} {events : List Event} {c : Compiler}
    (run : replay Compiler.step (Compiler.new options) events = .accepted c) :
    c.Collects (writtenPhrase options events) := by
  have keep : ∀ {c : Compiler} {script : PhraseScript} {event : Event} {next : Compiler},
      c.stack.IsPath → c.Collects script → Transition (c.moved event.position) event next →
        next.Collects (c.notePhrase script event) := by
    intro c script event next path h transition
    have moved : (c.moved event.position).Collects script := h
    exact moved.transition path transition
  exact (run_induction (c := Compiler.new options) keep trivial nofun run).2

/-! ## The end tag of a phrase -/

theorem PhraseDraft.alternatives_eq {draft : PhraseDraft} {script : PhraseScript}
    (sound : draft.Sound) (hid : draft.id = script.id)
    (hincluded : draft.included = script.included)
    (hwritten : draft.written = script.written) : draft.alternatives = script.alternatives := by
  have hfilled : script.included.filter (fun elements => !elements.isEmpty) = script.included := by
    rw [List.filter_eq_self]
    intro es hes
    simpa using (sound.included es (hincluded ▸ hes)).1
  have hown : [script.written].filter (fun elements => !elements.isEmpty) = script.own := by
    unfold PhraseScript.own
    cases script.written <;> rfl
  rw [alternatives, PhraseScript.alternatives, hid, hincluded, hwritten, List.filter_append,
    hfilled, hown]

theorem Compiler.step_stop_phrase {c : Compiler} {draft : PhraseDraft} {outer : ScopeStack}
    (h : c.stack = .phrase draft :: outer) (position : Position) :
    c.step (.stop Tag.phrase.name position) =
      if draft.alternatives = [] then
        .refused ⟨.emptyPhrase draft.id, position⟩
          { c with stack := outer, lastPosition := position }
      else
        .accepted { c with
          stack := outer
          phrases := c.phrases.insert draft.id draft.alternatives
          lastPosition := position } := by
  refine (step_stop h position).trans ?_
  unfold Compiler.closeScope PhraseDraft.finish Compiler.check
  dsimp only
  cases draft.alternatives <;> rfl

/-- The end tag of the phrase gives its alternatives to its name and changes no other phrase and no
rule; a name that is there keeps its place. -/
structure PhraseScript.Defines (script : PhraseScript) (c next : Compiler) : Prop where
  found : next.phrases.find? script.id = some script.alternatives
  others : ∀ name, name ≠ script.id → next.phrases.find? name = c.phrases.find? name
  keys : next.phrases.keys =
    if c.phrases.contains script.id then c.phrases.keys else c.phrases.keys ++ [script.id]
  rules : next.rules = c.rules

section Run

variable {options : CompileOptions} {events : List Event} {c next : Compiler}

theorem Closes.phrases_eq {position : Position} (h : Closes c position next)
    (hphrase : ∀ draft outer, c.stack ≠ .phrase draft :: outer) : next.phrases = c.phrases := by
  cases h with
  | phrase hstack => exact absurd hstack (hphrase _ _)
  | _ => rfl

/-- Only the end tag of a phrase changes the table. -/
theorem Transition.phrases_eq {event : Event} (h : Transition c event next)
    (hphrase : ¬ ∃ draft outer name position,
      c.stack = .phrase draft :: outer ∧ event = .stop name position) :
    next.phrases = c.phrases := by
  cases h with
  | ignore => rfl
  | start _ _ _ opens => cases opens <;> rfl
  | text reads => cases reads <;> rfl
  | stop _ _ closes =>
    exact closes.phrases_eq fun draft outer hstack => hphrase ⟨draft, outer, _, _, hstack, rfl⟩

/-- What the open phrase is when it is complete. -/
theorem Compiler.Collects.alternatives {script : PhraseScript} {slots : List Slot}
    (h : c.Collects script) (sound : c.Sound slots) {draft : PhraseDraft} {outer : ScopeStack}
    (hstack : c.stack = .phrase draft :: outer) :
    draft.id = script.id ∧ draft.alternatives = script.alternatives := by
  have hsound := sound.stack
  rw [hstack] at hsound
  obtain ⟨hid, hincluded, hwritten⟩ := h draft (by rw [hstack]; rfl)
  exact ⟨hid, draft.alternatives_eq hsound.1 hid hincluded hwritten⟩

/-- After every run all phrases have a token in every alternative, under the name of the phrase, and
refer backwards.  The end tag of a phrase is refused if the phrase includes no alternative and has
no token of its own; otherwise it makes an entry of what has been written.  No other event changes
the table. -/
theorem phrases_of_run (run : replay Compiler.step (Compiler.new options) events = .accepted c) :
    (∀ entry ∈ c.phrases.entries, IsPhrase entry.1 entry.2) ∧
    (∀ draft outer position, c.stack = .phrase draft :: outer →
      ((writtenPhrase options events).included = [] ∧ (writtenPhrase options events).written = [] →
        ∃ refused, c.step (.stop Tag.phrase.name position) =
            .refused ⟨.emptyPhrase (writtenPhrase options events).id, position⟩ refused ∧
          refused.phrases = c.phrases ∧ refused.rules = c.rules) ∧
      (¬ ((writtenPhrase options events).included = [] ∧
          (writtenPhrase options events).written = []) →
        ∃ next, c.step (.stop Tag.phrase.name position) = .accepted next ∧
          (writtenPhrase options events).Defines c next)) ∧
    ∀ event next, c.step event = .accepted next →
      (¬ ∃ draft outer name position,
        c.stack = .phrase draft :: outer ∧ event = .stop name position) →
      next.phrases = c.phrases := by
  obtain ⟨path, sound⟩ := sound_of_run run
  refine ⟨sound.phrases, fun draft outer position hstack => ?_, fun event next step => ?_⟩
  · obtain ⟨hid, halternatives⟩ := (collects_of_run run).alternatives sound hstack
    have hstep := Compiler.step_stop_phrase hstack position
    rw [hid, halternatives] at hstep
    refine ⟨fun hempty => ?_, fun hfilled => ?_⟩
    · rw [if_pos ((PhraseScript.alternatives_eq_nil_iff _).2 hempty)] at hstep
      exact ⟨_, hstep, rfl, rfl⟩
    · rw [if_neg fun h => hfilled ((PhraseScript.alternatives_eq_nil_iff _).1 h)] at hstep
      refine ⟨_, hstep, ?_, fun name hname => ?_, ?_, rfl⟩
      · exact Table.find?_insert_self _ _ _
      · exact Table.find?_insert_of_ne hname
      · exact Table.keys_insert _ _ _
  · exact (transition_of_step path step).phrases_eq

end Run

/-- The phrase of the sample that includes another has two alternatives. -/
theorem phrases_of_run_sample :
    ∃ c next, replay Compiler.step (Compiler.new {}) (sampleEvents.take 19) = .accepted c ∧
      c.step (.stop "phrase" .unknown) = .accepted next ∧
      (writtenPhrase {} (sampleEvents.take 19)).alternatives.map List.length = [1, 2] ∧
      (writtenPhrase {} (sampleEvents.take 19)).Defines c next := by
  have run : replay Compiler.step (Compiler.new {}) (sampleEvents.take 19) = .accepted _ := rfl
  obtain ⟨next, hnext, defines⟩ :=
    ((phrases_of_run run).2.1 _ _ .unknown rfl).2 fun h => List.cons_ne_nil _ _ h.1
  exact ⟨_, next, run, hnext, rfl, defines⟩

end GrammarRules
