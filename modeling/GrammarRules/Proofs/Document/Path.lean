import GrammarRules.Document.Compiler

/-!
# The open elements are a path of the grammar

`ScopeStack.IsPath` says of a stack of open elements that every element with a meaning stands where
the grammar allows it; in particular nothing in an element without a meaning has one.  On a path the
grammar fixes what is around an element.  A rule and a token each stand in one of four places
(`RulePlace`, `TokenPlace`), a slot of a pattern is collected by the pattern or by a unification
block in it (`seat`), and a match of a message has the rule around it (`messageStack`).
-/

namespace GrammarRules

/-- Whether an element with this tag may be opened on a stack. -/
def Tag.fitsOn (tag : Tag) (stack : ScopeStack) : Bool :=
  match stack.head? with
  | none => tag.mayStandIn none
  | some scope => scope.tag?.any fun parent => tag.mayStandIn (some parent)

theorem Compiler.requireParent_eq (c : Compiler) (tag : Tag) (position : Position) :
    c.requireParent tag position =
      if tag.fitsOn c.stack then .ok ()
      else fail (.misplaced tag.name (parentPhrase c.stack)) position := rfl

theorem Compiler.fitsOn_of_requireParent {c : Compiler} {tag : Tag} {position : Position}
    (h : c.requireParent tag position = .ok ()) : tag.fitsOn c.stack = true := by
  rw [requireParent_eq] at h
  split at h
  · assumption
  · cases h

namespace ScopeStack

/-- Every element with a meaning stands in an element that the grammar allows for it. -/
def IsPath : ScopeStack → Prop
  | [] => True
  | scope :: outer => (∀ tag, scope.tag? = some tag → tag.fitsOn outer = true) ∧ IsPath outer

theorem IsPath.tail {scope : Scope} {outer : ScopeStack} (h : IsPath (scope :: outer)) :
    IsPath outer := h.2

/-- The tags and names of the open elements. -/
def kinds (stack : ScopeStack) : List (Option Tag × String) :=
  stack.map fun scope => (scope.tag?, scope.name)

@[simp] theorem kinds_cons (scope : Scope) (outer : ScopeStack) :
    kinds (scope :: outer) = (scope.tag?, scope.name) :: kinds outer := rfl

theorem kinds_append (inner outer : ScopeStack) :
    kinds (inner ++ outer) = kinds inner ++ kinds outer := List.map_append

theorem fitsOn_congr {stack stack' : ScopeStack} (h : kinds stack' = kinds stack) (tag : Tag) :
    tag.fitsOn stack' = tag.fitsOn stack := by
  cases stack with
  | nil => rw [List.map_eq_nil_iff.1 h]
  | cons scope outer =>
    obtain ⟨scope', outer', rfl, hscope, -⟩ := List.map_eq_cons_iff.1 h
    have htag : scope'.tag? = scope.tag? := congrArg Prod.fst hscope
    simp only [Tag.fitsOn, List.head?_cons, htag]

/-- Whether a stack is a path depends on the tags of its elements only. -/
theorem IsPath.congr {stack stack' : ScopeStack} (path : stack.IsPath)
    (h : kinds stack' = kinds stack) : stack'.IsPath := by
  induction stack generalizing stack' with
  | nil =>
    rw [List.map_eq_nil_iff.1 h]
    trivial
  | cons scope outer ih =>
    obtain ⟨scope', outer', rfl, hscope, houter⟩ := List.map_eq_cons_iff.1 h
    have htag : scope'.tag? = scope.tag? := congrArg Prod.fst hscope
    refine ⟨fun tag h => ?_, ih path.tail houter⟩
    rw [fitsOn_congr houter]
    exact path.1 tag (htag ▸ h)

/-! ## What is around an element -/

section Around

variable {stack : ScopeStack}

theorem eq_nil_of_fits_rules (h : Tag.rules.fitsOn stack = true) : stack = [] := by
  cases stack with
  | nil => rfl
  | cons scope outer => cases scope <;> nomatch h

/-- What stands directly in the root of the document. -/
theorem eq_rules_of_fits {tag : Tag} (htag : tag.parents = [.rules]) (path : stack.IsPath)
    (h : tag.fitsOn stack = true) : stack = [.rules] := by
  cases stack with
  | nil => simp [Tag.fitsOn, Tag.mayStandIn, htag] at h
  | cons scope outer =>
    cases scope with
    | rules => rw [eq_nil_of_fits_rules (path.1 .rules rfl)]
    | _ => simp [Tag.fitsOn, Scope.tag?, Tag.mayStandIn, htag] at h

theorem eq_of_fits_phrase (path : stack.IsPath) (h : Tag.phrase.fitsOn stack = true) :
    stack = [.phrases, .rules] := by
  cases stack with
  | nil => nomatch h
  | cons scope outer =>
    cases scope with
    | phrases => rw [eq_rules_of_fits rfl path.tail (path.1 .phrases rfl)]
    | _ => nomatch h

theorem exists_of_fits_equivalence (path : stack.IsPath)
    (h : Tag.equivalence.fitsOn stack = true) :
    ∃ feature, stack = [.unification feature, .rules] := by
  cases stack with
  | nil => nomatch h
  | cons scope outer =>
    cases scope with
    | unification feature =>
      exact ⟨feature, by rw [eq_rules_of_fits rfl path.tail (path.1 .unification rfl)]⟩
    | _ => nomatch h

theorem exists_of_fits_includePhrases (path : stack.IsPath)
    (h : Tag.includePhrases.fitsOn stack = true) :
    ∃ draft, stack = [.phrase draft, .phrases, .rules] := by
  cases stack with
  | nil => nomatch h
  | cons scope outer =>
    cases scope with
    | phrase draft => exact ⟨draft, by rw [eq_of_fits_phrase path.tail (path.1 .phrase rfl)]⟩
    | _ => nomatch h

theorem exists_of_fits_unify (h : Tag.unify.fitsOn stack = true) :
    ∃ draft outer, stack = .pattern draft :: outer := by
  cases stack with
  | nil => nomatch h
  | cons scope outer =>
    cases scope with
    | pattern draft => exact ⟨draft, outer, rfl⟩
    | _ => nomatch h

theorem exists_of_fits_feature (path : stack.IsPath) (h : Tag.feature.fitsOn stack = true) :
    ∃ features draft outer, stack = .unify features :: .pattern draft :: outer := by
  cases stack with
  | nil => nomatch h
  | cons scope outer =>
    cases scope with
    | unify features =>
      obtain ⟨draft, rest, rfl⟩ := exists_of_fits_unify (path.1 .unify rfl)
      exact ⟨features, draft, rest, rfl⟩
    | _ => nomatch h

theorem exists_of_fits_featureType (h : Tag.featureType.fitsOn stack = true) :
    ∃ id types outer, stack = .feature id types :: outer := by
  cases stack with
  | nil => nomatch h
  | cons scope outer =>
    cases scope with
    | feature id types => exact ⟨id, types, outer, rfl⟩
    | _ => nomatch h

theorem exists_of_fits_exception (h : Tag.exception.fitsOn stack = true) :
    ∃ draft outer, stack = .token draft :: outer := by
  cases stack with
  | nil => nomatch h
  | cons scope outer =>
    cases scope with
    | token draft => exact ⟨draft, outer, rfl⟩
    | _ => nomatch h

/-- What stands directly in a rule. -/
theorem exists_of_fits_in_rule {tag : Tag} (htag : tag.parents = [.rule])
    (h : tag.fitsOn stack = true) : ∃ draft outer, stack = .rule draft :: outer := by
  cases stack with
  | nil => simp [Tag.fitsOn, Tag.mayStandIn, htag] at h
  | cons scope outer =>
    cases scope with
    | rule draft => exact ⟨draft, outer, rfl⟩
    | _ => simp [Tag.fitsOn, Scope.tag?, Tag.mayStandIn, htag] at h

theorem exists_of_fits_suggestion (path : stack.IsPath) (h : Tag.suggestion.fitsOn stack = true) :
    ∃ draft outer, stack = .message :: .rule draft :: outer := by
  cases stack with
  | nil => nomatch h
  | cons scope outer =>
    cases scope with
    | message =>
      obtain ⟨draft, rest, rfl⟩ := exists_of_fits_in_rule rfl (path.1 .message rfl)
      exact ⟨draft, rest, rfl⟩
    | _ => nomatch h

theorem exists_of_fits_marker (path : stack.IsPath) (h : Tag.marker.fitsOn stack = true) :
    ∃ sample draft outer, stack = .sample sample :: .rule draft :: outer := by
  cases stack with
  | nil => nomatch h
  | cons scope outer =>
    cases scope with
    | sample sample =>
      obtain ⟨draft, rest, rfl⟩ := exists_of_fits_in_rule rfl (path.1 .sample rfl)
      exact ⟨sample, draft, rest, rfl⟩
    | _ => nomatch h

/-- The places where a rule may stand. -/
inductive RulePlace : ScopeStack → Prop
  | root : RulePlace [.rules]
  | category (name : Option String) : RulePlace [.category name, .rules]
  | group (group : RuleGroup) : RulePlace [.ruleGroup group, .rules]
  | groupInCategory (group : RuleGroup) (name : Option String) :
      RulePlace [.ruleGroup group, .category name, .rules]

theorem rulePlace_of_fits (path : stack.IsPath) (h : Tag.rule.fitsOn stack = true) :
    RulePlace stack := by
  cases stack with
  | nil => nomatch h
  | cons scope outer =>
    cases scope with
    | rules =>
      obtain rfl := eq_nil_of_fits_rules (path.1 .rules rfl)
      exact .root
    | category name =>
      obtain rfl := eq_rules_of_fits rfl path.tail (path.1 .category rfl)
      exact .category name
    | ruleGroup group =>
      have hgroup := path.1 .ruleGroup rfl
      cases outer with
      | nil => nomatch hgroup
      | cons scope rest =>
        cases scope with
        | rules =>
          obtain rfl := eq_nil_of_fits_rules (path.2.1 .rules rfl)
          exact .group group
        | category name =>
          obtain rfl := eq_rules_of_fits rfl path.tail.tail (path.2.1 .category rfl)
          exact .groupInCategory group name
        | _ => nomatch hgroup
    | _ => nomatch h

/-! ## Where slots and messages are collected -/

/-- A pattern, or a unification block in a pattern if there are features. -/
def seat (block : Option (Table (List String))) (draft : PatternDraft) (outer : ScopeStack) :
    ScopeStack :=
  match block with
  | none => .pattern draft :: outer
  | some features => .unify features :: .pattern draft :: outer

/-- An element with the features of its unification block, if it is in one. -/
def inBlock (block : Option (Table (List String))) (element : Element) : Element :=
  match block with
  | none => element
  | some features => { element with unification := some { features } }

theorem kinds_seat (block : Option (Table (List String))) (draft draft' : PatternDraft)
    (outer : ScopeStack) : kinds (seat block draft outer) = kinds (seat block draft' outer) := by
  cases block <;> rfl

theorem completed_seat (block : Option (Table (List String))) (draft : PatternDraft)
    (outer : ScopeStack) : (seat block draft outer).completed = draft.completed := by
  cases block <;> rfl

theorem seat_ne_cons {scope : Scope} {outer rest : ScopeStack}
    {block : Option (Table (List String))} {draft : PatternDraft}
    (h : scope.tag? ≠ some .pattern) (h' : scope.tag? ≠ some .unify) :
    scope :: outer ≠ seat block draft rest := by
  intro heq
  cases block <;> cases heq
  · exact h rfl
  · exact h' rfl

theorem exists_of_fits_andGroup (path : stack.IsPath) (h : Tag.andGroup.fitsOn stack = true) :
    ∃ block draft outer, stack = seat block draft outer := by
  cases stack with
  | nil => nomatch h
  | cons scope outer =>
    cases scope with
    | pattern draft => exact ⟨none, draft, outer, rfl⟩
    | unify features =>
      obtain ⟨draft, rest, rfl⟩ := exists_of_fits_unify (path.1 .unify rfl)
      exact ⟨some features, draft, rest, rfl⟩
    | _ => nomatch h

/-- The places where a token may stand. -/
inductive TokenPlace : ScopeStack → Prop
  | slot (block : Option (Table (List String))) (draft : PatternDraft) (outer : ScopeStack) :
      TokenPlace (seat block draft outer)
  | member (members : List Element) (block : Option (Table (List String))) (draft : PatternDraft)
      (outer : ScopeStack) : TokenPlace (.andGroup members :: seat block draft outer)
  | phrase (draft : PhraseDraft) : TokenPlace [.phrase draft, .phrases, .rules]
  | equivalence (type : String) (elements : List Element) (feature : String) :
      TokenPlace [.equivalence type elements, .unification feature, .rules]

theorem tokenPlace_of_fits (path : stack.IsPath) (h : Tag.token.fitsOn stack = true) :
    TokenPlace stack := by
  cases stack with
  | nil => nomatch h
  | cons scope outer =>
    cases scope with
    | pattern draft => exact .slot none draft outer
    | unify features =>
      obtain ⟨draft, rest, rfl⟩ := exists_of_fits_unify (path.1 .unify rfl)
      exact .slot (some features) draft rest
    | andGroup members =>
      obtain ⟨block, draft, rest, rfl⟩ :=
        exists_of_fits_andGroup path.tail (path.1 .andGroup rfl)
      exact .member members block draft rest
    | phrase draft =>
      obtain rfl := eq_of_fits_phrase path.tail (path.1 .phrase rfl)
      exact .phrase draft
    | equivalence type elements =>
      obtain ⟨feature, rfl⟩ := exists_of_fits_equivalence path.tail (path.1 .equivalence rfl)
      exact .equivalence type elements feature
    | _ => nomatch h

/-- A message of a rule, or a suggestion in it. -/
def messageStack (inSuggestion : Bool) (draft : RuleDraft) (outer : ScopeStack) : ScopeStack :=
  match inSuggestion with
  | false => .message :: .rule draft :: outer
  | true => .suggestion :: .message :: .rule draft :: outer

theorem kinds_messageStack (inSuggestion : Bool) (draft draft' : RuleDraft) (outer : ScopeStack) :
    kinds (messageStack inSuggestion draft outer) =
      kinds (messageStack inSuggestion draft' outer) := by
  cases inSuggestion <;> rfl

theorem exists_of_fits_quote (path : stack.IsPath) (h : Tag.quote.fitsOn stack = true) :
    (∃ draft outer, stack = .token draft :: outer) ∨
      ∃ inSuggestion draft outer, stack = messageStack inSuggestion draft outer := by
  cases stack with
  | nil => nomatch h
  | cons scope outer =>
    cases scope with
    | token draft => exact .inl ⟨draft, outer, rfl⟩
    | message =>
      obtain ⟨draft, rest, rfl⟩ := exists_of_fits_in_rule rfl (path.1 .message rfl)
      exact .inr ⟨false, draft, rest, rfl⟩
    | suggestion =>
      obtain ⟨draft, rest, rfl⟩ := exists_of_fits_suggestion path.tail (path.1 .suggestion rfl)
      exact .inr ⟨true, draft, rest, rfl⟩
    | _ => nomatch h

theorem exists_of_fits_phraseRef (path : stack.IsPath) (h : Tag.phraseRef.fitsOn stack = true) :
    (∃ draft outer, stack = .pattern draft :: outer) ∨
      ∃ draft, stack = [.includePhrases, .phrase draft, .phrases, .rules] := by
  cases stack with
  | nil => nomatch h
  | cons scope outer =>
    cases scope with
    | pattern draft => exact .inl ⟨draft, outer, rfl⟩
    | includePhrases =>
      obtain ⟨draft, rfl⟩ := exists_of_fits_includePhrases path.tail (path.1 .includePhrases rfl)
      exact .inr ⟨draft, rfl⟩
    | _ => nomatch h

end Around

end ScopeStack

end GrammarRules
