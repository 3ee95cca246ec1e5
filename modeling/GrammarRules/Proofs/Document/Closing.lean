import GrammarRules.Proofs.Document.Opening

/-!
# What an end tag does

`Closes` is an end tag that the compiler accepts, with everything that it changes: where what the
innermost element has collected goes.  `Closes.of_closeScope` derives it from `Compiler.closeScope`
on a stack that is a path.
-/

namespace GrammarRules

open ScopeStack

/-- Whether nothing is collected in the element itself. -/
def Scope.isSilent : Scope → Bool
  | .rules | .category _ | .phrases | .includePhrases | .phraseRef | .unification _ | .ruleGroup _
  | .featureType | .quote | .message | .short | .ignored _ => true
  | _ => false

/-- An end tag. -/
inductive Closes (c : Compiler) (position : Position) : Compiler → Prop
  | silent {scope : Scope} {outer : ScopeStack} (h : c.stack = scope :: outer)
      (silent : scope.isSilent = true) : Closes c position { c with stack := outer }
  /-- A token that was a slot of its own. -/
  | token {draft : TokenDraft} {block : Option (Table (List String))} {pattern : PatternDraft}
      {outer : ScopeStack} {element : Element}
      (h : c.stack = .token draft :: seat block pattern outer)
      (helement : draft.finish c.options position = .ok element) :
      Closes c position { c with stack := seat block (pattern.push (inBlock block element)) outer }
  /-- A token in a group. -/
  | member {draft : TokenDraft} {members : List Element} {outer : ScopeStack} {element : Element}
      (h : c.stack = .token draft :: .andGroup members :: outer)
      (helement : draft.finish c.options position = .ok element) :
      Closes c position { c with stack := .andGroup (members ++ [element]) :: outer }
  /-- A token of a phrase. -/
  | phraseToken {draft : TokenDraft} {phrase : PhraseDraft} {element : Element}
      (h : c.stack = [.token draft, .phrase phrase, .phrases, .rules])
      (helement : draft.finish c.options position = .ok element) :
      Closes c position { c with stack := [.phrase (phrase.push element), .phrases, .rules] }
  /-- A token that stands for a type of a feature. -/
  | typeToken {draft : TokenDraft} {type feature : String} {elements : List Element}
      {element : Element}
      (h : c.stack = [.token draft, .equivalence type elements, .unification feature, .rules])
      (helement : draft.finish c.options position = .ok element) :
      Closes c position
        { c with
          stack := [.equivalence type (elements ++ [element]), .unification feature, .rules] }
  | andGroup {first : Element} {others : List Element} {block : Option (Table (List String))}
      {pattern : PatternDraft} {outer : ScopeStack}
      (h : c.stack = .andGroup (first :: others) :: seat block pattern outer) :
      Closes c position
        { c with
          stack :=
            seat block (pattern.push (inBlock block { first with andGroup := others })) outer }
  | exception {draft : ExceptionDraft} {token : TokenDraft} {outer : ScopeStack}
      {exception : TokenException} (h : c.stack = .exception draft :: .token token :: outer)
      (hexception : draft.finish c.options position = .ok exception) :
      Closes c position { c with stack := .token (token.addException exception) :: outer }
  | feature {id : String} {types : List String} {features : Table (List String)}
      {pattern : PatternDraft} {outer : ScopeStack}
      (h : c.stack = .feature id types :: .unify features :: .pattern pattern :: outer) :
      Closes c position
        { c with stack := .unify (features.insert id types) :: .pattern pattern :: outer }
  | unify {features : Table (List String)} {pattern : PatternDraft} {outer : ScopeStack}
      (h : c.stack = .unify features :: .pattern pattern :: outer) :
      Closes c position { c with stack := .pattern pattern.closeUnification :: outer }
  | pattern {pattern : PatternDraft} {rule : RuleDraft} {outer : ScopeStack}
      (h : c.stack = .pattern pattern :: .rule rule :: outer) :
      Closes c position { c with stack := .rule (rule.setPattern pattern) :: outer }
  | suggestion {rule : RuleDraft} {outer : ScopeStack}
      (h : c.stack = messageStack true rule outer) :
      Closes c position { c with stack := messageStack false (rule.addText "</suggestion>") outer }
  | marker {draft : ExampleDraft} {outer : ScopeStack}
      (h : c.stack = .marker :: .sample draft :: outer) :
      Closes c position { c with stack := .sample (draft.addText "</marker>") :: outer }
  | sample {draft : ExampleDraft} {rule : RuleDraft} {outer : ScopeStack}
      (h : c.stack = .sample draft :: .rule rule :: outer) :
      Closes c position { c with stack := .rule (rule.addExample draft.finish) :: outer }
  | rule {draft : RuleDraft} {outer : ScopeStack} {rules : List Rule}
      (h : c.stack = .rule draft :: outer)
      (hrules : draft.finish outer.ruleContext position = .ok rules) :
      Closes c position
        { c with
          stack := outer.countRule
          output := { c.output with rules := c.output.rules ++ rules } }
  | phrase {draft : PhraseDraft} {alternatives : Alternatives}
      (h : c.stack = [.phrase draft, .phrases, .rules])
      (halternatives : draft.finish position = .ok alternatives) :
      Closes c position
        { c with stack := [.phrases, .rules], phrases := c.phrases.insert draft.id alternatives }
  | equivalence {type feature : String} {elements : List Element}
      (h : c.stack = [.equivalence type elements, .unification feature, .rules]) :
      Closes c position
        { c with
          stack := [.unification feature, .rules]
          output := { c.output with
            unification := c.output.unification.insert feature
              (((c.output.unification.find? feature).getD {}).insert type elements) } }

section Stop

variable {options : CompileOptions} {outer : ScopeStack} {phrases : PhraseTable}
  {output : CompiledRules} {last : Position} {next : Compiler} {position : Position}

theorem Closes.of_token {draft : TokenDraft} (path : IsPath (.token draft :: outer))
    (h : (Compiler.mk options outer phrases output last).closeScope (.token draft) position =
      .accepted next) :
    Closes ⟨options, .token draft :: outer, phrases, output, last⟩ position next := by
  obtain ⟨element, helement, hnext⟩ := Compiler.exists_of_check h
  cases tokenPlace_of_fits path.tail (path.1 .token rfl) with
  | slot block pattern outer =>
    have hcloses : Closes ⟨options, .token draft :: seat block pattern outer, phrases, output, last⟩
        position ⟨options, seat block (pattern.push (inBlock block element)) outer, phrases, output,
          last⟩ := .token rfl helement
    cases block <;> cases hnext <;> exact hcloses
  | member members block pattern outer =>
    cases hnext
    exact .member rfl helement
  | phrase phrase =>
    cases hnext
    exact .phraseToken rfl helement
  | equivalence type elements feature =>
    cases hnext
    exact .typeToken rfl helement

theorem Closes.of_andGroup {members : List Element} (path : IsPath (.andGroup members :: outer))
    (h : (Compiler.mk options outer phrases output last).closeAndGroup members position =
      .accepted next) :
    Closes ⟨options, .andGroup members :: outer, phrases, output, last⟩ position next := by
  obtain ⟨block, pattern, rest, rfl⟩ := exists_of_fits_andGroup path.tail (path.1 .andGroup rfl)
  cases members with
  | nil => cases h
  | cons first others =>
    have hcloses : Closes ⟨options, .andGroup (first :: others) :: seat block pattern rest, phrases,
        output, last⟩ position ⟨options, seat block (pattern.push (inBlock block
          { first with andGroup := others })) rest, phrases, output, last⟩ := .andGroup rfl
    cases block <;> cases h <;> exact hcloses

/-- An end tag of the innermost element. -/
theorem Closes.of_closeScope {scope : Scope} (path : IsPath (scope :: outer))
    (h : (Compiler.mk options outer phrases output last).closeScope scope position =
      .accepted next) :
    Closes ⟨options, scope :: outer, phrases, output, last⟩ position next := by
  cases scope with
  | phrase draft =>
    obtain rfl := eq_of_fits_phrase path.tail (path.1 .phrase rfl)
    obtain ⟨alternatives, halternatives, hnext⟩ := Compiler.exists_of_check h
    cases hnext
    exact .phrase rfl halternatives
  | equivalence type elements =>
    obtain ⟨feature, rfl⟩ := exists_of_fits_equivalence path.tail (path.1 .equivalence rfl)
    cases h
    exact .equivalence rfl
  | rule draft =>
    obtain ⟨rules, hrules, hnext⟩ := Compiler.exists_of_check h
    cases hnext
    exact .rule rfl hrules
  | pattern draft =>
    obtain ⟨rule, rest, rfl⟩ := exists_of_fits_in_rule rfl (path.1 .pattern rfl)
    cases h
    exact .pattern rfl
  | andGroup members => exact .of_andGroup path h
  | unify features =>
    obtain ⟨pattern, rest, rfl⟩ := exists_of_fits_unify (path.1 .unify rfl)
    cases h
    exact .unify rfl
  | feature id types =>
    obtain ⟨features, pattern, rest, rfl⟩ :=
      exists_of_fits_feature path.tail (path.1 .feature rfl)
    cases h
    exact .feature rfl
  | token draft => exact .of_token path h
  | exception draft =>
    obtain ⟨token, rest, rfl⟩ := exists_of_fits_exception (path.1 .exception rfl)
    obtain ⟨exception, hexception, hnext⟩ := Compiler.exists_of_check h
    cases hnext
    exact .exception rfl hexception
  | suggestion =>
    obtain ⟨rule, rest, rfl⟩ := exists_of_fits_suggestion path.tail (path.1 .suggestion rfl)
    cases h
    exact .suggestion rfl
  | sample draft =>
    obtain ⟨rule, rest, rfl⟩ := exists_of_fits_in_rule rfl (path.1 .sample rfl)
    cases h
    exact .sample rfl
  | marker =>
    obtain ⟨sample, rule, rest, rfl⟩ := exists_of_fits_marker path.tail (path.1 .marker rfl)
    cases h
    exact .marker rfl
  | _ =>
    cases h
    exact .silent rfl rfl

end Stop

end GrammarRules
