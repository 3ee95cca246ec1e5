import GrammarRules.Proofs.Document.Bookkeeping
import GrammarRules.Proofs.Document.Emission
import GrammarRules.Proofs.Document.Gain

/-!
# Nothing gets lost on the way

Most events hand something to an open element further out: an end tag what the element has
collected, a match or a phrase itself, text to what takes it.  `Compiler.handed` reads off from the
event and the innermost open elements what that is, and `Scope.Gains` says what an element has more
of that takes it.  The compiler looks through the stack for the element to change, and passes over
an event silently if there is none.  On a path of the grammar this never happens: whatever is handed
over arrives at one element, the innermost that can take it (`Arrives`), and all others stay as they
are (`deliveries_of_run`).
-/

namespace GrammarRules

open ScopeStack

/-! ## What is handed over -/

namespace ScopeStack

/-- An element with the features of the unification block that it stands in directly, if it does. -/
def dress (element : Element) : ScopeStack → Element
  | .unify features :: _ => { element with unification := some { features } }
  | _ => element

/-- What a start tag hands over. -/
def handedByStart (phrases : PhraseTable) (attributes : Attributes) (position : Position)
    (stack : ScopeStack) : Tag → Except RuleError (Option Delivery)
  | .andGroup => .ok (some .slot)
  | .token =>
    match stack with
    | .pattern _ :: _ | .unify _ :: _ => .ok (some .slot)
    | _ => .ok none
  | .phraseRef => do
    let name ← attributes.required "phraseref" "idref" position
    match phrases.find? name with
    | some alternatives => return some (.phrase name alternatives)
    | none => fail (.unknownPhrase name) position
  | .featureType => return some (.featureType (← attributes.required "type" "id" position))
  | .quote =>
    match stack with
    | .token _ :: outer =>
      return some (.reference (← resolveMatch attributes (.token (completed outer)) position))
    | .suggestion :: _ =>
      return some (.declared (← resolveMatch attributes (.message true) position))
    | _ => return some (.declared (← resolveMatch attributes (.message false) position))
  | .suggestion => .ok (some (.messageText "<suggestion>"))
  | .marker => .ok (some (.sampleText "<marker>"))
  | _ => .ok none

/-- What text is handed to. -/
def handedByText (text : String) : ScopeStack → Option Delivery
  | .token _ :: _ => some (.tokenText text)
  | .exception _ :: _ => some (.exceptionText text)
  | .sample _ :: _ | .marker :: _ => some (.sampleText text)
  | .message :: _ | .suggestion :: _ => some (.messageText text)
  | .short :: _ => some (.shortText text)
  | _ => none

/-- What the end tag of the innermost element hands over. -/
def handedByStop : ScopeStack → Option Delivery
  | .token draft :: outer => some (.element (dress draft.written outer))
  | .andGroup (first :: others) :: outer =>
    some (.element (dress { first with andGroup := others } outer))
  | .exception draft :: _ => some (.exception draft.written)
  | .feature id types :: _ => some (.feature id types)
  | .unify _ :: _ => some .blockEnd
  | .pattern draft :: _ => some (.pattern draft)
  | .suggestion :: _ => some (.messageText "</suggestion>")
  | .marker :: _ => some (.sampleText "</marker>")
  | .sample ⟨true, text, _⟩ :: _ => some (.sample (.correct (Text.trim text)))
  | .sample ⟨false, text, corrections⟩ :: _ =>
    some (.sample (.incorrect ⟨Text.trim text, corrections⟩))
  | .rule _ :: .ruleGroup _ :: _ => some .ruleEnd
  | _ => none

end ScopeStack

/-- What an event hands to an open element, or the error if that cannot be made out. -/
def Compiler.handed (c : Compiler) : Event → Except RuleError (Option Delivery)
  | .start name attributes position =>
    if c.inIgnored then .ok none
    else
      match Tag.ofName? name with
      | none => .ok none
      | some tag => c.stack.handedByStart c.phrases attributes position tag
  | .text text _ => .ok (c.stack.handedByText text)
  | .stop _ _ => .ok c.stack.handedByStop

/-! ## Where it arrives -/

/-- What is handed over, if anything is, changes the innermost element that can take it, and all
other elements stay as they are. -/
inductive Arrives : Option Delivery → ScopeStack → ScopeStack → Prop
  | nothing (stack : ScopeStack) : Arrives none stack stack
  | taken {delivery : Delivery} (inner outer : ScopeStack) {owner changed : Scope}
      (passed : ∀ scope ∈ inner, ∀ other, ¬ scope.Gains delivery other)
      (gains : owner.Gains delivery changed) :
      Arrives (some delivery) (inner ++ owner :: outer) (inner ++ changed :: outer)

/-- The elements around the one that an event closes, or all if it closes none. -/
def Event.around : Event → ScopeStack → ScopeStack
  | .stop _ _, stack => stack.tail
  | _, stack => stack

/-- The elements around the one that an event has opened, or all if it has opened none. -/
def Event.aroundOpened : Event → ScopeStack → ScopeStack
  | .start _ _ _, stack => stack.tail
  | _, stack => stack

section Places

variable {delivery : Delivery} {outer : ScopeStack}

theorem arrives_head {owner changed : Scope} (gains : owner.Gains delivery changed) :
    Arrives (some delivery) (owner :: outer) (changed :: outer) :=
  .taken [] outer (List.forall_mem_nil _) gains

theorem arrives_second {scope owner changed : Scope}
    (passed : ∀ other, ¬ scope.Gains delivery other) (gains : owner.Gains delivery changed) :
    Arrives (some delivery) (scope :: owner :: outer) (scope :: changed :: outer) :=
  .taken [scope] outer (List.forall_mem_singleton.2 passed) gains

/-- What is given goes past an element that collects nothing. -/
theorem arrives_behind {scope owner changed : Scope} (hscope : scope.collects = false)
    (gains : owner.Gains delivery changed) :
    Arrives (some delivery) (scope :: owner :: outer) (scope :: changed :: outer) :=
  arrives_second (Scope.not_gains_of_collects hscope delivery) gains

/-- A pattern takes what is given to it through a unification block. -/
theorem arrives_seat (block : Option (Table (List String))) {pattern changed : PatternDraft}
    (passed : ∀ features other, ¬ (Scope.unify features).Gains delivery other)
    (gains : (Scope.pattern pattern).Gains delivery (.pattern changed)) :
    Arrives (some delivery) (seat block pattern outer) (seat block changed outer) := by
  cases block with
  | none => exact arrives_head gains
  | some features => exact arrives_second (passed features) gains

/-- A rule takes what is given to it through its message. -/
theorem arrives_messageStack (inSuggestion : Bool) {rule changed : RuleDraft}
    (gains : (Scope.rule rule).Gains delivery (.rule changed)) :
    Arrives (some delivery) (messageStack inSuggestion rule outer)
      (messageStack inSuggestion changed outer) := by
  cases inSuggestion with
  | false => exact arrives_behind rfl gains
  | true =>
    have message : ∀ other, ¬ Scope.message.Gains delivery other :=
      Scope.not_gains_of_collects rfl delivery
    have suggestion : ∀ other, ¬ Scope.suggestion.Gains delivery other :=
      Scope.not_gains_of_collects rfl delivery
    exact .taken [.suggestion, .message] outer
      (List.forall_mem_cons.2 ⟨suggestion, List.forall_mem_singleton.2 message⟩) gains

end Places

section Step

variable {c next : Compiler} {attributes : Attributes} {position : Position} {tag : Tag}

theorem Fresh.handedByStart_eq {scope : Scope} (h : Fresh c attributes position tag scope)
    (path : c.stack.IsPath) (fits : tag.fitsOn c.stack = true) :
    c.stack.handedByStart c.phrases attributes position tag = .ok none := by
  cases h with
  | token hdraft apart =>
    generalize c.stack = stack at path fits apart
    cases tokenPlace_of_fits path fits with
    | slot block pattern outer => exact absurd rfl (apart block pattern outer)
    | member | phrase | equivalence => rfl
  | _ => rfl

/-- What a start tag hands over arrives. -/
theorem Opens.arrives (h : Opens c attributes position tag next) (path : c.stack.IsPath)
    (fits : tag.fitsOn c.stack = true) :
    ∃ handed, c.stack.handedByStart c.phrases attributes position tag = .ok handed ∧
      Arrives handed c.stack next.stack.tail := by
  cases h with
  | fresh fresh => exact ⟨none, fresh.handedByStart_eq path fits, .nothing _⟩
  | rules hstack | unification hstack _ =>
    rw [hstack]
    exact ⟨none, rfl, .nothing _⟩
  | @token block pattern outer draft hstack hdraft =>
    rw [hstack]
    refine ⟨some .slot, ?_, arrives_seat block (fun _ _ => nofun) (.slot _)⟩
    cases block <;> rfl
  | @andGroup block pattern outer hstack =>
    rw [hstack]
    exact ⟨some .slot, rfl, arrives_seat block (fun _ _ => nofun) (.slot _)⟩
  | @expansion pattern outer name alternatives hstack hname hfind =>
    rw [hstack]
    refine ⟨some (.phrase name alternatives), ?_, arrives_head (.expansion _ _ _)⟩
    simp only [handedByStart, hname, bind, Except.bind, hfind]
    rfl
  | @inclusion phrase name alternatives hstack hname hfind =>
    rw [hstack]
    refine ⟨some (.phrase name alternatives), ?_, arrives_behind rfl (.inclusion _ _ _)⟩
    simp only [handedByStart, hname, bind, Except.bind, hfind]
    rfl
  | @featureType id type types outer hstack htype =>
    rw [hstack]
    refine ⟨some (.featureType type), ?_, arrives_head (.featureType _ _ _)⟩
    simp only [handedByStart, htype]
    rfl
  | @binding draft outer reference hstack hreference =>
    rw [hstack]
    refine ⟨some (.reference reference), ?_, arrives_head (Scope.gains_bind draft reference)⟩
    simp only [handedByStart, hreference]
    rfl
  | @declaration inSuggestion rule outer declared hstack hdeclared =>
    rw [hstack]
    refine ⟨some (.declared declared), ?_, arrives_messageStack inSuggestion
      (Scope.gains_addMatch rule declared)⟩
    cases inSuggestion <;> simp only [handedByStart, messageStack, hdeclared] <;> rfl
  | suggestion hstack =>
    rw [hstack]
    exact ⟨_, rfl, arrives_messageStack false (Scope.gains_addText _ _)⟩
  | marker hstack =>
    rw [hstack]
    exact ⟨_, rfl, arrives_head (.sampleText _ _)⟩

/-- Text arrives where it is handed to. -/
theorem Reads.arrives {text : String} (h : Reads c text next) :
    Arrives (c.stack.handedByText text) c.stack next.stack := by
  cases h with
  | token hstack =>
    rw [hstack]
    exact arrives_head (.tokenText text _)
  | exception hstack =>
    rw [hstack]
    exact arrives_head (.exceptionText text _)
  | sample hstack =>
    rw [hstack]
    exact arrives_head (.sampleText text _)
  | @message inSuggestion rule outer hstack _ =>
    have hhanded : handedByText text (messageStack inSuggestion rule outer) =
        some (.messageText text) := by cases inSuggestion <;> rfl
    rw [hstack, hhanded]
    exact arrives_messageStack inSuggestion (Scope.gains_addText rule text)
  | short hstack =>
    rw [hstack]
    exact arrives_behind rfl (.shortText text _)
  | marker hstack =>
    rw [hstack]
    exact arrives_behind rfl (.sampleText text _)
  | nothing h =>
    have hhanded : handedByText text c.stack = none := by
      cases hstack : c.stack with
      | nil => rfl
      | cons scope outer =>
        have htakes := h scope outer hstack
        cases scope <;> first | rfl | cases htakes
    rw [hhanded]
    exact .nothing _

theorem dress_seat (element : Element) (block : Option (Table (List String)))
    (pattern : PatternDraft) (outer : ScopeStack) :
    dress element (seat block pattern outer) = inBlock block element := by
  cases block <;> rfl

/-- The end of a rule arrives at the group around it, if there is one. -/
theorem ScopeStack.RulePlace.arrives {outer : ScopeStack} (h : RulePlace outer)
    (draft : RuleDraft) :
    Arrives (handedByStop (.rule draft :: outer)) outer outer.countRule := by
  cases h with
  | root | category => exact .nothing _
  | group group | groupInCategory group => exact arrives_head (.ruleEnd group)

/-- What an end tag hands over arrives. -/
theorem Closes.arrives (h : Closes c position next) (path : c.stack.IsPath) :
    Arrives c.stack.handedByStop c.stack.tail next.stack := by
  cases h with
  | @silent scope outer hstack silent =>
    have hhanded : handedByStop (scope :: outer) = none := by
      cases scope <;> first | rfl | cases silent
    rw [hstack, hhanded]
    exact .nothing _
  | @token draft block pattern outer element hstack helement =>
    rw [hstack, handedByStop, dress_seat, TokenDraft.eq_written_of_finish helement]
    exact arrives_seat block (fun _ _ => nofun) (.single _ _)
  | @andGroup first others block pattern outer hstack =>
    rw [hstack, handedByStop, dress_seat]
    exact arrives_seat block (fun _ _ => nofun) (.single _ _)
  | member hstack helement =>
    rw [hstack, TokenDraft.eq_written_of_finish helement]
    exact arrives_head (.member _ _)
  | phraseToken hstack helement =>
    rw [hstack, TokenDraft.eq_written_of_finish helement]
    exact arrives_head (.phraseToken _ _)
  | typeToken hstack helement =>
    rw [hstack, TokenDraft.eq_written_of_finish helement]
    exact arrives_head (.typeToken _ _ _)
  | exception hstack hexception =>
    rw [hstack, ExceptionDraft.eq_written_of_finish hexception]
    exact arrives_head (.exception _ _)
  | feature hstack =>
    rw [hstack]
    exact arrives_head (.feature (Table.sets_insert _ _ _))
  | unify hstack =>
    rw [hstack]
    exact arrives_head (Scope.gains_closeUnification _)
  | pattern hstack =>
    rw [hstack]
    exact arrives_head (.pattern _ _)
  | suggestion hstack =>
    rw [hstack]
    exact arrives_messageStack false (Scope.gains_addText _ _)
  | marker hstack =>
    rw [hstack]
    exact arrives_head (.sampleText _ _)
  | @sample draft rule outer hstack =>
    rw [hstack]
    obtain ⟨isCorrect, text, corrections⟩ := draft
    cases isCorrect <;> exact arrives_head (Scope.gains_addExample rule _)
  | rule hstack hrules =>
    rw [hstack] at path ⊢
    exact (rulePlace_of_fits path.tail (path.1 .rule rfl)).arrives _
  | phrase hstack _ | equivalence hstack =>
    rw [hstack]
    exact .nothing _

/-- What an event hands over arrives. -/
theorem Transition.arrives {event : Event} (h : Transition c event next) (path : c.stack.IsPath) :
    ∃ handed, c.handed event = .ok handed ∧
      Arrives handed (event.around c.stack) (event.aroundOpened next.stack) := by
  cases h with
  | ignore hignored =>
    refine ⟨none, ?_, .nothing _⟩
    rcases hignored with hignored | hname
    · exact if_pos hignored
    · simp only [Compiler.handed, hname, ite_self]
  | start hignored htag fits opens =>
    obtain ⟨handed, hhanded, harrives⟩ := opens.arrives path fits
    refine ⟨handed, ?_, harrives⟩
    simp only [Compiler.handed, hignored, htag]
    exact hhanded
  | text reads => exact ⟨_, rfl, reads.arrives⟩
  | stop _ _ closes => exact ⟨_, rfl, closes.arrives path⟩

end Step

/-! ## The open elements -/

/-- Every element with a meaning stands in one that the grammar allows for it, or at the root if it
allows none, and within an element without a meaning there are only such elements. -/
structure ScopeStack.FollowsGrammar (stack : ScopeStack) : Prop where
  parent : ∀ inner scope outer tag, stack = inner ++ scope :: outer → scope.tag? = some tag →
    match outer with
    | [] => tag.parents = []
    | around :: _ => ∃ parent ∈ tag.parents, around.tag? = some parent
  ignored : ∀ inner name outer, stack = inner ++ .ignored name :: outer →
    ∀ scope ∈ inner, ∃ other, scope = .ignored other

namespace ScopeStack

theorem IsPath.of_append {inner outer : ScopeStack} (path : IsPath (inner ++ outer)) :
    IsPath outer := by
  induction inner with
  | nil => exact path
  | cons scope inner ih => exact ih path.tail

/-- Nothing with a meaning fits on an element without one. -/
theorem IsPath.ignored_within {inner outer : ScopeStack} {name : String}
    (path : IsPath (inner ++ .ignored name :: outer)) :
    ∀ scope ∈ inner, ∃ other, scope = .ignored other := by
  induction inner with
  | nil => exact List.forall_mem_nil _
  | cons scope inner ih =>
    have hinner := ih path.tail
    refine List.forall_mem_cons.2 ⟨?_, hinner⟩
    obtain ⟨other, rest, hrest⟩ :
        ∃ other rest, inner ++ .ignored name :: outer = .ignored other :: rest := by
      cases inner with
      | nil => exact ⟨name, outer, rfl⟩
      | cons first inner =>
        obtain ⟨other, rfl⟩ := hinner first List.mem_cons_self
        exact ⟨other, _, rfl⟩
    have hfits : ∀ tag, scope.tag? = some tag → tag.fitsOn (.ignored other :: rest) = true :=
      hrest ▸ path.1
    cases scope with
    | ignored other => exact ⟨other, rfl⟩
    | _ => nomatch hfits _ rfl

theorem IsPath.followsGrammar {stack : ScopeStack} (path : stack.IsPath) :
    stack.FollowsGrammar where
  parent inner scope outer tag hstack htag := by
    subst hstack
    have hfits := path.of_append.1 tag htag
    cases outer with
    | nil => exact List.isEmpty_iff.1 hfits
    | cons around rest =>
      obtain ⟨parent, hparent, hstands⟩ := (Option.any_eq_true _ _).1 hfits
      exact ⟨parent, by simpa [Tag.mayStandIn] using hstands, hparent⟩
  ignored inner name outer hstack := by
    subst hstack
    exact path.ignored_within

/-- Around a token there is a sequence of tokens that says how many of them are complete. -/
theorem IsPath.exists_completed {inner outer : ScopeStack} {draft : TokenDraft}
    (path : IsPath (inner ++ .token draft :: outer)) :
    ∃ count, outer.findSome? Scope.completed? = some count := by
  have htoken := path.of_append
  cases tokenPlace_of_fits htoken.tail (htoken.1 .token rfl) with
  | slot block pattern rest | member members block pattern rest =>
    exact ⟨pattern.completed, by cases block <;> rfl⟩
  | phrase phrase => exact ⟨phrase.completed, rfl⟩
  | equivalence type elements feature => exact ⟨elements.length, rfl⟩

end ScopeStack

/-! ## Declared features -/

/-- Nothing that arrives opens or changes a declaration of a feature. -/
theorem Arrives.unification_mem {handed : Option Delivery} {before after : ScopeStack}
    (h : Arrives handed before after) {feature : String} (hmem : .unification feature ∈ after) :
    .unification feature ∈ before := by
  cases h with
  | nothing => exact hmem
  | taken inner outer passed gains =>
    rcases List.mem_append.1 hmem with hmem | hmem
    · exact List.mem_append_left _ hmem
    · rcases List.mem_cons.1 hmem with rfl | hmem
      · exact absurd rfl gains.tag?_ne_unification
      · exact List.mem_append_right _ (List.mem_cons_of_mem _ hmem)

/-- Every feature whose declaration is open is in the output. -/
def Compiler.Declares (c : Compiler) : Prop :=
  ∀ feature, .unification feature ∈ c.stack → c.output.unification.contains feature = true

section Declared

variable {c next : Compiler} {feature : String}

/-- A feature stays in the output. -/
theorem Transition.contains {event : Event} (h : Transition c event next)
    (hfeature : c.output.unification.contains feature = true) :
    next.output.unification.contains feature = true := by
  cases h with
  | ignore => exact hfeature
  | start _ _ _ opens =>
    cases opens with
    | unification => exact Table.contains_insertIfNew.2 (.inr hfeature)
    | _ => exact hfeature
  | text reads => cases reads <;> exact hfeature
  | stop _ _ closes =>
    cases closes with
    | equivalence => exact Table.contains_insert.2 (.inr hfeature)
    | _ => exact hfeature

/-- The start tag of a declaration puts the feature into the output. -/
theorem Opens.contains_of_unification {attributes : Attributes} {position : Position}
    {outer : ScopeStack} (h : Opens c attributes position .unification next)
    (hstack : next.stack = .unification feature :: outer) :
    next.output.unification.contains feature = true := by
  cases h with
  | fresh fresh => cases fresh
  | unification =>
    cases hstack
    exact Table.contains_insertIfNew.2 (.inl rfl)

theorem Transition.declares {event : Event} (h : Transition c event next) (path : c.stack.IsPath)
    (declares : c.Declares) : next.Declares := by
  intro feature hmem
  obtain ⟨handed, -, harrives⟩ := h.arrives path
  have hkept : c.output.unification.contains feature = true →
      next.output.unification.contains feature = true := h.contains
  cases h with
  | ignore => exact hkept (declares feature (by simpa using hmem))
  | @start _ tag _ _ _ _ _ _ opens =>
    obtain ⟨scope, outer, hstack, hscope, -⟩ := List.map_eq_cons_iff.1 opens.kinds_eq
    rw [hstack] at hmem
    rcases List.mem_cons.1 hmem with rfl | hmem
    · obtain rfl : Tag.unification = tag := Option.some.inj (congrArg Prod.fst hscope)
      exact opens.contains_of_unification hstack
    · rw [Event.aroundOpened, hstack] at harrives
      exact hkept (declares feature (harrives.unification_mem hmem))
  | text => exact hkept (declares feature (harrives.unification_mem hmem))
  | stop =>
    exact hkept (declares feature (List.mem_of_mem_tail (harrives.unification_mem hmem)))

/-- The end tag of a type of a feature gives the feature the type with its elements. -/
theorem Compiler.exists_sets_of_stop {type name : String} {elements : List Element}
    {rest : ScopeStack} {types : Table (List Element)} {position : Position}
    (hstack : c.stack = .equivalence type elements :: .unification feature :: rest)
    (htypes : c.output.unification.find? feature = some types)
    (step : c.step (.stop name position) = .accepted next) :
    ∃ changed, types.Sets type elements changed ∧
      c.output.unification.Sets feature changed next.output.unification := by
  by_cases hname : (Scope.equivalence type elements).name = name
  · subst hname
    rw [step_stop hstack] at step
    cases step
    refine ⟨types.insert type elements, types.sets_insert type elements, ?_⟩
    simp only [closeEquivalence, htypes, Option.getD_some]
    exact Table.sets_insert _ _ _
  · rw [step_stop_of_ne hstack hname] at step
    cases step

end Declared

/-! ## Runs -/

section Run

variable {options : CompileOptions} {events : List Event} {c : Compiler}

theorem declares_of_run
    (run : replay Compiler.step (Compiler.new options) events = .accepted c) : c.Declares := by
  have path : (Compiler.new options).stack.IsPath := trivial
  have declares : (Compiler.new options).Declares := nofun
  exact run_invariant (fun path declares transition => transition.declares path declares) path
    declares run

theorem variants_ne_nil_of_run
    (run : replay Compiler.step (Compiler.new options) events = .accepted c) {draft : PatternDraft}
    (hmem : .pattern draft ∈ c.stack) : draft.variants ≠ [] := by
  obtain ⟨path, sound⟩ := sound_of_run run
  obtain ⟨inner, outer, hstack⟩ := List.append_of_mem hmem
  have hsound := sound.stack
  rw [hstack] at path hsound
  have holds := hsound.holds_pattern path.no_pattern_within
  have hpos := holds.sound.prod_width_pos
  exact List.ne_nil_of_length_pos (holds.length_variants ▸ hpos)

/-- After every run the open elements follow the grammar, and every event that is accepted then
reaches the element that it is for: what it hands over arrives, and the feature whose declaration
is open gets the elements of a type.  An open pattern has a variant to take an element, and around
an open token there is a sequence that numbers it. -/
theorem deliveries_of_run
    (run : replay Compiler.step (Compiler.new options) events = .accepted c) :
    c.stack.FollowsGrammar ∧
    (∀ draft, .pattern draft ∈ c.stack → draft.variants ≠ []) ∧
    (∀ inner draft outer, c.stack = inner ++ .token draft :: outer →
      ∃ count, outer.findSome? Scope.completed? = some count) ∧
    ∀ event next, c.step event = .accepted next →
      (∃ handed, c.handed event = .ok handed ∧
        Arrives handed (event.around c.stack) (event.aroundOpened next.stack)) ∧
      ∀ type elements outer name position, c.stack = .equivalence type elements :: outer →
        event = .stop name position →
        ∃ feature rest types changed, outer = .unification feature :: rest ∧
          c.output.unification.find? feature = some types ∧ types.Sets type elements changed ∧
          c.output.unification.Sets feature changed next.output.unification := by
  have path := (sound_of_run run).1
  refine ⟨path.followsGrammar, fun _ => variants_ne_nil_of_run run, fun inner draft outer hstack =>
    (hstack ▸ path).exists_completed, fun event next step => ?_⟩
  have transition := transition_of_step path step
  refine ⟨transition.arrives path, fun type elements outer name position hstack hevent => ?_⟩
  subst hevent
  rw [hstack] at path
  obtain ⟨feature, rfl⟩ := exists_of_fits_equivalence path.tail (path.1 .equivalence rfl)
  have declared := declares_of_run run feature (by simp [hstack])
  obtain ⟨types, htypes⟩ := Option.isSome_iff_exists.1 declared
  obtain ⟨changed, htype, hchanged⟩ := Compiler.exists_sets_of_stop hstack htypes step
  exact ⟨feature, _, types, changed, rfl, htypes, htype, hchanged⟩

end Run

/-- The second token of the group of the sample arrives at the group, and at nothing else. -/
theorem deliveries_of_run_sample :
    ∃ c next, replay Compiler.step (Compiler.new {}) (sampleEvents.take 34) = .accepted c ∧
      c.step (.stop "token" .unknown) = .accepted next ∧ c.stack.FollowsGrammar ∧
      ∃ element, c.handed (.stop "token" .unknown) = .ok (some (.element element)) ∧
        Arrives (some (.element element)) c.stack.tail next.stack ∧
        ∃ draft first outer, c.stack = .token draft :: .andGroup [first] :: outer ∧
          next.stack = .andGroup [first, element] :: outer := by
  have run : replay Compiler.step (Compiler.new {}) (sampleEvents.take 34) = .accepted _ := rfl
  obtain ⟨hgrammar, -, -, hevents⟩ := deliveries_of_run run
  obtain ⟨⟨handed, hhanded, harrives⟩, -⟩ := hevents (.stop "token" .unknown) _ rfl
  cases hhanded
  exact ⟨_, _, run, rfl, hgrammar, _, rfl, harrives, _, _, _, rfl, rfl⟩

end GrammarRules
