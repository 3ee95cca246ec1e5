import GrammarRules.Proofs.Document.Transition

/-!
# What is around a rule plays no part in it

`Compiler.above` puts the open elements of one compiler on top of those of another.  If what is
below only holds rules, as the root, a category and a group do, no search for an element ends there,
and the elements of a rule read nothing else of it than the options, the phrases and the names of
the features.  So an event in a rule has the same outcome wherever the rule stands
(`Compiler.step_above`).
-/

namespace GrammarRules

open ScopeStack

/-- Whether an element with this tag belongs to a rule, so that its tags change nothing outside of
the rule. -/
def Tag.isPart : Tag → Bool
  | .rules | .category | .phrases | .phrase | .includePhrases | .unification | .equivalence
  | .ruleGroup | .rule => false
  | _ => true

/-- Whether the element may stand in a rule, directly or not. -/
def Scope.isPart (scope : Scope) : Bool := scope.tag?.all Tag.isPart

/-- The category of the rules directly in the element, if it is the root or a category. -/
def Scope.section? : Scope → Option (Option String)
  | .rules => some none
  | .category name => some name
  | _ => none

/-- Whether a rule may stand directly in the element: the root, a category or a group. -/
def Scope.holdsRules : Scope → Bool
  | .rules | .category _ | .ruleGroup _ => true
  | _ => false

/-- What stands in a rule or in an element of one belongs to the rule as well. -/
theorem Tag.isPart_of_mem_parents {tag parent : Tag} (h : parent ∈ tag.parents)
    (hparent : parent.isPart = true ∨ parent = .rule) : tag.isPart = true := by
  have hall : ∀ tag ∈ Tag.all, ∀ parent ∈ tag.parents, parent.isPart = true ∨ parent = .rule →
      tag.isPart = true := by decide
  exact hall tag tag.mem_all parent h hparent

theorem Scope.exists_of_tag?_eq_rule {scope : Scope} (h : scope.tag? = some .rule) :
    ∃ draft, scope = .rule draft := by
  cases scope with
  | rule draft => exact ⟨draft, rfl⟩
  | _ => nomatch h

/-- The innermost open element is a rule or belongs to one. -/
def ScopeStack.InRule (stack : ScopeStack) : Prop :=
  ∃ parts draft, stack = parts ++ [.rule draft] ∧ ∀ scope ∈ parts, scope.isPart = true

namespace ScopeStack.InRule

variable {stack : ScopeStack} (h : stack.InRule)
include h

theorem exists_head :
    ∃ head outer, stack = head :: outer ∧ (head.isPart = true ∨ head.tag? = some .rule) := by
  obtain ⟨parts, draft, rfl, hparts⟩ := h
  cases parts with
  | nil => exact ⟨_, _, rfl, .inr rfl⟩
  | cons head parts => exact ⟨_, _, rfl, .inl (hparts head List.mem_cons_self)⟩

theorem isPart_head {outer : ScopeStack} {head : Scope} (hstack : stack = head :: outer)
    (hlength : stack.length ≠ 1) : head.isPart = true := by
  obtain ⟨parts, draft, rfl, hparts⟩ := h
  cases parts with
  | nil => exact absurd rfl hlength
  | cons scope parts =>
    obtain ⟨rfl, -⟩ := List.cons.inj hstack
    exact hparts scope List.mem_cons_self

theorem congr {stack' : ScopeStack} (hkinds : kinds stack' = kinds stack) : stack'.InRule := by
  obtain ⟨parts, draft, rfl, hparts⟩ := h
  rw [kinds, kinds, List.map_append] at hkinds
  obtain ⟨parts', last, rfl, hparts', hlast⟩ := List.map_eq_append_iff.1 hkinds
  obtain ⟨rule, rfl, hrule⟩ := List.map_eq_singleton_iff.1 hlast
  obtain ⟨draft', rfl⟩ := Scope.exists_of_tag?_eq_rule (congrArg Prod.fst hrule)
  refine ⟨parts', draft', rfl, fun scope hscope => ?_⟩
  -- The elements are others, but they have the same tags.
  have hmem : (scope.tag?, scope.name) ∈ kinds parts' := List.mem_map_of_mem hscope
  rw [kinds, hparts'] at hmem
  obtain ⟨original, horiginal, hsame⟩ := List.mem_map.1 hmem
  have htag : original.tag? = scope.tag? := congrArg Prod.fst hsame
  rw [Scope.isPart, ← htag]
  exact hparts original horiginal

theorem cons {scope : Scope} (part : scope.isPart = true) : InRule (scope :: stack) := by
  obtain ⟨parts, draft, rfl, hparts⟩ := h
  exact ⟨scope :: parts, draft, rfl, List.forall_mem_cons.2 ⟨part, hparts⟩⟩

end ScopeStack.InRule

/-- What may be opened in a rule belongs to it. -/
theorem Tag.isPart_of_fits {tag : Tag} {head : Scope} {outer : ScopeStack}
    (hhead : head.isPart = true ∨ head.tag? = some .rule)
    (fits : tag.fitsOn (head :: outer) = true) : tag.isPart = true := by
  obtain ⟨parent, hparent, hstands⟩ := (Option.any_eq_true _ _).1 fits
  refine isPart_of_mem_parents (List.contains_iff_mem.1 hstands) ?_
  apply hhead.imp <;> intro h
  · rwa [Scope.isPart, hparent] at h
  · exact Option.some.inj (hparent.symm.trans h)

/-- The event does not close the outermost element. -/
def Event.StaysIn (stack : ScopeStack) : Event → Prop
  | .stop _ _ => stack.length ≠ 1
  | _ => True

/-! ## Searches in the stack -/

namespace ScopeStack

variable {base : ScopeStack}

/-- What applies to none of the elements that hold rules. -/
theorem eq_none_of_holders {α : Type} {look : Scope → Option α}
    (hbase : ∀ scope ∈ base, scope.holdsRules = true) (rules : look .rules = none)
    (category : ∀ name, look (.category name) = none)
    (ruleGroup : ∀ group, look (.ruleGroup group) = none) : ∀ scope ∈ base, look scope = none := by
  intro scope hscope
  have hholds := hbase scope hscope
  cases scope with
  | rules => exact rules
  | category name => exact category name
  | ruleGroup group => exact ruleGroup group
  | _ => cases hholds

theorem findSome?_append_holders {α : Type} {look : Scope → Option α}
    (hbase : ∀ scope ∈ base, scope.holdsRules = true) (rules : look .rules = none)
    (category : ∀ name, look (.category name) = none)
    (ruleGroup : ∀ group, look (.ruleGroup group) = none) (inner : ScopeStack) :
    (inner ++ base).findSome? look = inner.findSome? look := by
  rw [List.findSome?_append,
    List.findSome?_eq_none_iff.2 (eq_none_of_holders hbase rules category ruleGroup),
    Option.or_none]

theorem update_eq_self {change : Scope → Option Scope} (h : ∀ scope ∈ base, change scope = none) :
    base.update change = base := by
  induction base with
  | nil => rfl
  | cons scope base ih =>
    obtain ⟨hscope, hbase⟩ := List.forall_mem_cons.1 h
    rw [update, hscope, ih hbase]

theorem update_append {change : Scope → Option Scope} (h : ∀ scope ∈ base, change scope = none)
    (inner : ScopeStack) : (inner ++ base).update change = inner.update change ++ base := by
  induction inner with
  | nil => exact update_eq_self h
  | cons scope inner ih =>
    rw [List.cons_append, update, update]
    cases change scope with
    | some changed => rfl
    | none => exact congrArg _ ih

theorem updateTop_append {change : Scope → Option Scope} (h : ∀ scope ∈ base, change scope = none)
    (inner : ScopeStack) : (inner ++ base).updateTop change = inner.updateTop change ++ base := by
  cases inner with
  | nil =>
    cases base with
    | nil => rfl
    | cons scope base => simp [updateTop, h scope List.mem_cons_self]
  | cons scope inner => rfl

theorem attach_append (hbase : ∀ scope ∈ base, scope.holdsRules = true) (element : Element)
    (inner : ScopeStack) : (inner ++ base).attach element = inner.attach element ++ base := by
  induction inner generalizing element with
  | nil =>
    cases base with
    | nil => rfl
    | cons scope base =>
      have hholds := hbase scope List.mem_cons_self
      cases scope <;> first | rfl | cases hholds
  | cons scope inner ih =>
    cases scope with
    | unify features => exact congrArg _ (ih _)
    | _ => rfl

end ScopeStack

/-! ## One compiler above another -/

namespace Compiler

/-- The open elements of a compiler on top of another one. -/
def above (c below : Compiler) : Compiler :=
  { below with stack := c.stack ++ below.stack, lastPosition := c.lastPosition }

/-- What is below the open elements only holds rules, and what can be read of the compiler there is
the same. -/
structure SitsOn (c below : Compiler) : Prop where
  holders : ∀ scope ∈ below.stack, scope.holdsRules = true
  options : below.options = c.options
  phrases : below.phrases = c.phrases
  declared : ∀ feature,
    below.output.unification.contains feature = c.output.unification.contains feature

variable {c below : Compiler}

theorem stack_above {head : Scope} {outer : ScopeStack} (hstack : c.stack = head :: outer) :
    (c.above below).stack = head :: (outer ++ below.stack) := by
  rw [above, hstack, List.cons_append]

/-- A check and what comes after it. -/
theorem check_above {α : Type} {result : Except RuleError α} {next next' : α → Outcome Compiler}
    (h : ∀ value, result = .ok value → next' value = (next value).map (·.above below)) :
    (c.above below).check result next' = (c.check result next).map (·.above below) := by
  cases result with
  | ok value => exact h value rfl
  | error error => rfl

/-- A change of the open elements. -/
theorem mapStack_above {change : ScopeStack → ScopeStack}
    (h : change (c.stack ++ below.stack) = change c.stack ++ below.stack) :
    (c.above below).mapStack change = (c.mapStack change).above below := by
  simp only [mapStack, above, h]

theorem push_above (scope : Scope) : (c.above below).push scope = (c.push scope).above below := rfl

/-- A change of the open elements before one more is opened. -/
theorem accepted_push_above {change : ScopeStack → ScopeStack}
    (h : change (c.stack ++ below.stack) = change c.stack ++ below.stack) (scope : Scope) :
    Outcome.accepted (((c.above below).mapStack change).push scope) =
      (Outcome.accepted ((c.mapStack change).push scope)).map (·.above below) := by
  rw [mapStack_above h, push_above]
  rfl

theorem accepted_mapStack_above {change : ScopeStack → ScopeStack}
    (h : change (c.stack ++ below.stack) = change c.stack ++ below.stack) :
    Outcome.accepted ((c.above below).mapStack change) =
      (Outcome.accepted (c.mapStack change)).map (·.above below) := by
  rw [mapStack_above h]
  rfl

section Handlers

variable (h : c.SitsOn below)
include h

theorem SitsOn.update_append {change : Scope → Option Scope} (rules : change .rules = none)
    (category : ∀ name, change (.category name) = none)
    (ruleGroup : ∀ group, change (.ruleGroup group) = none) (inner : ScopeStack) :
    (inner ++ below.stack).update change = inner.update change ++ below.stack :=
  ScopeStack.update_append (eq_none_of_holders h.holders rules category ruleGroup) inner

theorem SitsOn.updateTop_append {change : Scope → Option Scope} (rules : change .rules = none)
    (category : ∀ name, change (.category name) = none)
    (ruleGroup : ∀ group, change (.ruleGroup group) = none) (inner : ScopeStack) :
    (inner ++ below.stack).updateTop change = inner.updateTop change ++ below.stack :=
  ScopeStack.updateTop_append (eq_none_of_holders h.holders rules category ruleGroup) inner

theorem SitsOn.pattern?_append (inner : ScopeStack) :
    (inner ++ below.stack).pattern? = inner.pattern? :=
  findSome?_append_holders h.holders rfl (fun _ => rfl) (fun _ => rfl) inner

theorem SitsOn.completed_append (inner : ScopeStack) :
    (inner ++ below.stack).completed = inner.completed :=
  congrArg (Option.getD · 0)
    (findSome?_append_holders h.holders rfl (fun _ => rfl) (fun _ => rfl) inner)

/-! ### Start tags -/

variable {head : Scope} {outer : ScopeStack} (hstack : c.stack = head :: outer)
  (attributes : Attributes) (position : Position)

include hstack in
theorem startToken_above :
    (c.above below).startToken attributes position =
      (c.startToken attributes position).map (·.above below) := by
  have hsensitive : (c.above below).stack.pattern? = c.stack.pattern? := h.pattern?_append _
  unfold startToken
  rw [hsensitive]
  refine check_above fun draft _ => ?_
  have hcount : Outcome.accepted (((c.above below).mapStack
      (·.updatePattern PatternDraft.countToken)).push (.token draft)) =
      (Outcome.accepted ((c.mapStack (·.updatePattern PatternDraft.countToken)).push
        (.token draft))).map (·.above below) :=
    accepted_push_above (h.update_append rfl (fun _ => rfl) (fun _ => rfl) _) _
  rw [stack_above hstack, hstack]
  cases head with
  | andGroup members => rfl
  | _ => exact hcount

include hstack in
theorem startMatch_above :
    (c.above below).startMatch attributes position =
      (c.startMatch attributes position).map (·.above below) := by
  have hcompleted : (c.above below).stack.completed = c.stack.completed := h.completed_append _
  have hrule : ∀ declared, Outcome.accepted (((c.above below).mapStack
      (·.updateRule (·.addMatch declared))).push .quote) =
      (Outcome.accepted ((c.mapStack (·.updateRule (·.addMatch declared))).push .quote)).map
        (·.above below) :=
    fun _ => accepted_push_above (h.update_append rfl (fun _ => rfl) (fun _ => rfl) _) _
  unfold startMatch
  rw [hcompleted, stack_above hstack, hstack]
  cases head with
  | token draft =>
    exact check_above fun _ _ =>
      accepted_push_above (h.updateTop_append rfl (fun _ => rfl) (fun _ => rfl) _) _
  | _ => exact check_above fun declared _ => hrule declared

theorem startPhraseRef_above :
    (c.above below).startPhraseRef attributes position =
      (c.startPhraseRef attributes position).map (·.above below) := by
  refine check_above fun name _ => ?_
  have hphrases : (c.above below).phrases = c.phrases := h.phrases
  rw [hphrases]
  cases c.phrases.find? name with
  | none => rfl
  | some alternatives =>
    exact accepted_push_above (h.update_append rfl (fun _ => rfl) (fun _ => rfl) _) _

theorem startFeature_above :
    (c.above below).startFeature attributes position =
      (c.startFeature attributes position).map (·.above below) := by
  refine check_above fun id _ => ?_
  have hdeclared : (c.above below).output.unification.contains id =
      c.output.unification.contains id := h.declared id
  rw [hdeclared]
  split <;> rfl

theorem startFeatureType_above :
    (c.above below).startFeatureType attributes position =
      (c.startFeatureType attributes position).map (·.above below) :=
  check_above fun _ _ =>
    accepted_push_above (h.updateTop_append rfl (fun _ => rfl) (fun _ => rfl) _) _

include hstack in
/-- The start tag of an element of a rule. -/
theorem startTag_above {tag : Tag} (part : tag.isPart = true) :
    (c.above below).startTag tag attributes position =
      (c.startTag tag attributes position).map (·.above below) := by
  cases tag with
  | rules | category | phrases | phrase | includePhrases | unification | equivalence | ruleGroup
  | rule => cases part
  | phraseRef => exact startPhraseRef_above h attributes position
  | pattern => exact check_above fun _ _ => rfl
  | andGroup => exact accepted_push_above (h.update_append rfl (fun _ => rfl) (fun _ => rfl) _) _
  | feature => exact startFeature_above h attributes position
  | featureType => exact startFeatureType_above h attributes position
  | token => exact startToken_above h hstack attributes position
  | quote => exact startMatch_above h hstack attributes position
  | suggestion => exact accepted_push_above (h.update_append rfl (fun _ => rfl) (fun _ => rfl) _) _
  | sample => exact check_above fun _ _ => rfl
  | marker => exact accepted_push_above (h.updateTop_append rfl (fun _ => rfl) (fun _ => rfl) _) _
  | unify | exception | message | short => rfl

include hstack in
theorem start_above (name : String) (hhead : head.isPart = true ∨ head.tag? = some .rule) :
    (c.above below).start name attributes position =
      (c.start name attributes position).map (·.above below) := by
  have hignored : (c.above below).inIgnored = c.inIgnored := by
    rw [inIgnored, inIgnored, stack_above hstack, hstack]
    cases head <;> rfl
  unfold start
  rw [hignored]
  split
  · rfl
  · split
    · rfl
    · next tag htag =>
      have hparent : (c.above below).requireParent tag position = c.requireParent tag position := by
        rw [requireParent_eq, requireParent_eq, stack_above hstack, hstack]
        rfl
      rw [hparent]
      refine check_above fun _ hfits => ?_
      have fits := fitsOn_of_requireParent hfits
      rw [hstack] at fits
      exact startTag_above h hstack attributes position (Tag.isPart_of_fits hhead fits)

/-! ### Text and end tags -/

theorem messageText_above (text : String) :
    (c.above below).messageText text position =
      (c.messageText text position).map (·.above below) := by
  have hadd : Outcome.accepted ((c.above below).mapStack (·.updateRule (·.addText text))) =
      (Outcome.accepted (c.mapStack (·.updateRule (·.addText text)))).map (·.above below) :=
    accepted_mapStack_above (h.update_append rfl (fun _ => rfl) (fun _ => rfl) _)
  unfold messageText
  rw [above, findSome?_append_holders h.holders rfl (fun _ => rfl) fun _ => rfl]
  dsimp only
  split
  · split
    · rfl
    · exact hadd
  · exact hadd

include hstack in
theorem text_above (text : String) :
    (c.above below).text text position = (c.text text position).map (·.above below) := by
  have hmessage := messageText_above h position text
  unfold Compiler.text
  rw [stack_above hstack, hstack]
  cases head with
  | message | suggestion => exact hmessage
  | short | marker =>
    exact accepted_mapStack_above (h.update_append rfl (fun _ => rfl) (fun _ => rfl) _)
  | _ => rfl

/-- The end tag of an element of a rule. -/
theorem closeScope_above {scope : Scope} (part : scope.isPart = true) :
    (c.above below).closeScope scope position =
      (c.closeScope scope position).map (·.above below) := by
  have hoptions : (c.above below).options = c.options := h.options
  cases scope with
  | rules | category | phrases | phrase | includePhrases | unification | equivalence | ruleGroup
  | rule => cases part
  | token draft =>
    simp only [closeScope, hoptions]
    exact check_above fun _ _ => accepted_mapStack_above (attach_append h.holders _ _)
  | exception draft =>
    simp only [closeScope, hoptions]
    exact check_above fun _ _ =>
      accepted_mapStack_above (h.updateTop_append rfl (fun _ => rfl) (fun _ => rfl) _)
  | andGroup members =>
    cases members with
    | nil => rfl
    | cons first others => exact accepted_mapStack_above (attach_append h.holders _ _)
  | feature | pattern | marker =>
    exact accepted_mapStack_above (h.updateTop_append rfl (fun _ => rfl) (fun _ => rfl) _)
  | unify | suggestion | sample =>
    exact accepted_mapStack_above (h.update_append rfl (fun _ => rfl) (fun _ => rfl) _)
  | phraseRef | featureType | quote | message | short | ignored => rfl

end Handlers

/-! ### Events -/

/-- An event in a rule does to the open elements of the rule what it would do if they were all. -/
theorem step_above (h : c.SitsOn below) (inRule : c.stack.InRule) {event : Event}
    (stays : event.StaysIn c.stack) :
    (c.above below).step event = (c.step event).map (·.above below) := by
  have moved : (c.moved event.position).SitsOn below :=
    ⟨h.holders, h.options, h.phrases, h.declared⟩
  obtain ⟨head, outer, hstack, hhead⟩ := inRule.exists_head
  cases event with
  | start name attributes position => exact start_above moved hstack attributes position name hhead
  | text text position => exact text_above moved hstack position text
  | stop name position =>
    have part : head.isPart = true := inRule.isPart_head hstack stays
    by_cases hname : head.name = name
    · subst hname
      have popped : Compiler.SitsOn { c with stack := outer, lastPosition := position } below :=
        ⟨h.holders, h.options, h.phrases, h.declared⟩
      rw [step_stop hstack, step_stop (stack_above hstack)]
      exact closeScope_above popped position part
    · rw [step_stop_of_ne hstack hname, step_stop_of_ne (stack_above hstack) hname]
      rfl

/-- An event in a rule changes nothing but the open elements. -/
theorem kept_of_step (inRule : c.stack.InRule) {event : Event} {next : Compiler}
    (stays : event.StaysIn c.stack) (step : c.step event = .accepted next) :
    next.options = c.options ∧ next.phrases = c.phrases ∧ next.output = c.output := by
  -- With nothing below, `above` shows everything that does not come from the open elements.
  have alone : c.SitsOn { c with stack := [] } :=
    ⟨List.forall_mem_nil _, rfl, rfl, fun _ => rfl⟩
  have hself : c.above { c with stack := [] } = c := by simp only [above, List.append_nil]
  have hstep := step_above alone inRule stays
  rw [hself, step] at hstep
  have hnext : next = next.above { c with stack := [] } := Outcome.accepted.inj hstep
  rw [hnext]
  exact ⟨rfl, rfl, rfl⟩

theorem SitsOn.of_step (h : c.SitsOn below) (inRule : c.stack.InRule) {event : Event}
    {next : Compiler} (stays : event.StaysIn c.stack) (step : c.step event = .accepted next) :
    next.SitsOn below := by
  obtain ⟨hoptions, hphrases, houtput⟩ := kept_of_step inRule stays step
  refine ⟨h.holders, h.options.trans hoptions.symm, h.phrases.trans hphrases.symm, fun _ => ?_⟩
  rw [houtput]
  exact h.declared _

end Compiler

end GrammarRules
