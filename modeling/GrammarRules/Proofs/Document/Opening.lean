import GrammarRules.Proofs.Document.Path
import GrammarRules.Proofs.Result

/-!
# What a start tag does

`Opens` is a start tag that the compiler accepts where it may stand, with everything that it
changes.  There is one rule for each thing that may happen, and each rule shows the stack before and
after, so nothing is searched for.  `Opens.of_startTag` derives it from `Compiler.startTag` on a
stack that is a path.
-/

namespace GrammarRules

open ScopeStack

/-- Whether the pattern around is case sensitive. -/
def ScopeStack.caseSensitive (stack : ScopeStack) : Bool :=
  (stack.pattern?.map PatternDraft.caseSensitive).getD false

/-- The scopes that are opened without a change to another scope. -/
inductive Fresh (c : Compiler) (attributes : Attributes) (position : Position) :
    Tag → Scope → Prop
  | category : Fresh c attributes position .category (.category (attributes.find? "name"))
  | phrases : Fresh c attributes position .phrases .phrases
  | phrase {id : String} (hid : attributes.required "phrase" "id" position = .ok id) :
      Fresh c attributes position .phrase (.phrase { id })
  | includePhrases : Fresh c attributes position .includePhrases .includePhrases
  | equivalence {type : String}
      (htype : attributes.required "equivalence" "type" position = .ok type) :
      Fresh c attributes position .equivalence (.equivalence type [])
  | ruleGroup {group : RuleGroup}
      (hgroup : RuleGroup.ofAttributes attributes position = .ok group) :
      Fresh c attributes position .ruleGroup (.ruleGroup group)
  | rule {draft : RuleDraft}
      (hdraft : RuleDraft.ofAttributes attributes c.groupId? position = .ok draft) :
      Fresh c attributes position .rule (.rule draft)
  | pattern {draft : PatternDraft}
      (hdraft : PatternDraft.ofAttributes attributes position = .ok draft) :
      Fresh c attributes position .pattern (.pattern draft)
  | unify : Fresh c attributes position .unify (.unify {})
  | feature {id : String} (hid : attributes.required "feature" "id" position = .ok id)
      (declared : c.output.unification.contains id = true) :
      Fresh c attributes position .feature (.feature id [])
  /-- A token that begins no slot. -/
  | token {draft : TokenDraft}
      (hdraft : TokenDraft.ofAttributes attributes c.stack.caseSensitive position = .ok draft)
      (apart : ∀ block pattern outer, c.stack ≠ seat block pattern outer) :
      Fresh c attributes position .token (.token draft)
  | exception :
      Fresh c attributes position .exception (.exception (ExceptionDraft.ofAttributes attributes))
  | message : Fresh c attributes position .message .message
  | short : Fresh c attributes position .short .short
  | sample {draft : ExampleDraft}
      (hdraft : ExampleDraft.ofAttributes attributes position = .ok draft) :
      Fresh c attributes position .sample (.sample draft)

/-- A start tag with a meaning. -/
inductive Opens (c : Compiler) (attributes : Attributes) (position : Position) :
    Tag → Compiler → Prop
  | fresh {tag : Tag} {scope : Scope} (fresh : Fresh c attributes position tag scope) :
      Opens c attributes position tag { c with stack := scope :: c.stack }
  | rules (h : c.stack = []) :
      Opens c attributes position .rules
        { c with
          stack := [.rules]
          output := { c.output with language := attributes.find? "lang" } }
  | unification {feature : String} (h : c.stack = [.rules])
      (hfeature : attributes.required "unification" "feature" position = .ok feature) :
      Opens c attributes position .unification
        { c with
          stack := [.unification feature, .rules]
          output := { c.output with
            unification := c.output.unification.insertIfNew feature {} } }
  /-- A token that begins a slot. -/
  | token {block : Option (Table (List String))} {pattern : PatternDraft} {outer : ScopeStack}
      {draft : TokenDraft} (h : c.stack = seat block pattern outer)
      (hdraft : TokenDraft.ofAttributes attributes c.stack.caseSensitive position = .ok draft) :
      Opens c attributes position .token
        { c with stack := .token draft :: seat block pattern.countToken outer }
  | andGroup {block : Option (Table (List String))} {pattern : PatternDraft} {outer : ScopeStack}
      (h : c.stack = seat block pattern outer) :
      Opens c attributes position .andGroup
        { c with stack := .andGroup [] :: seat block pattern.countToken outer }
  /-- A phrase in a pattern. -/
  | expansion {pattern : PatternDraft} {outer : ScopeStack} {name : String}
      {alternatives : Alternatives} (h : c.stack = .pattern pattern :: outer)
      (hname : attributes.required "phraseref" "idref" position = .ok name)
      (hfind : c.phrases.find? name = some alternatives) :
      Opens c attributes position .phraseRef
        { c with stack := .phraseRef :: .pattern (pattern.expandPhrase name alternatives) :: outer }
  /-- A phrase in a phrase. -/
  | inclusion {phrase : PhraseDraft} {name : String} {alternatives : Alternatives}
      (h : c.stack = [.includePhrases, .phrase phrase, .phrases, .rules])
      (hname : attributes.required "phraseref" "idref" position = .ok name)
      (hfind : c.phrases.find? name = some alternatives) :
      Opens c attributes position .phraseRef
        { c with
          stack := [.phraseRef, .includePhrases, .phrase (phrase.includeAll alternatives), .phrases,
            .rules] }
  | featureType {id type : String} {types : List String} {outer : ScopeStack}
      (h : c.stack = .feature id types :: outer)
      (htype : attributes.required "type" "id" position = .ok type) :
      Opens c attributes position .featureType
        { c with stack := .featureType :: .feature id (types ++ [type]) :: outer }
  /-- A match in a token. -/
  | binding {draft : TokenDraft} {outer : ScopeStack} {reference : Match}
      (h : c.stack = .token draft :: outer)
      (hreference : resolveMatch attributes (.token outer.completed) position = .ok reference) :
      Opens c attributes position .quote
        { c with stack := .quote :: .token (draft.bind reference) :: outer }
  /-- A match in a message. -/
  | declaration {inSuggestion : Bool} {rule : RuleDraft} {outer : ScopeStack} {declared : Match}
      (h : c.stack = messageStack inSuggestion rule outer)
      (hdeclared : resolveMatch attributes (.message inSuggestion) position = .ok declared) :
      Opens c attributes position .quote
        { c with stack := .quote :: messageStack inSuggestion (rule.addMatch declared) outer }
  | suggestion {rule : RuleDraft} {outer : ScopeStack}
      (h : c.stack = messageStack false rule outer) :
      Opens c attributes position .suggestion
        { c with stack := messageStack true (rule.addText "<suggestion>") outer }
  | marker {draft : ExampleDraft} {outer : ScopeStack} (h : c.stack = .sample draft :: outer) :
      Opens c attributes position .marker
        { c with stack := .marker :: .sample (draft.addText "<marker>") :: outer }

theorem Compiler.exists_of_check {α : Type} {c next : Compiler} {result : Except RuleError α}
    {f : α → Outcome Compiler} (h : c.check result f = .accepted next) :
    ∃ value, result = .ok value ∧ f value = .accepted next := by
  cases result with
  | ok value => exact ⟨value, rfl, h⟩
  | error error => cases h

section Start

variable {options : CompileOptions} {stack : ScopeStack} {phrases : PhraseTable}
  {output : CompiledRules} {last : Position} {next : Compiler} {attributes : Attributes}
  {position : Position}

theorem Opens.of_startToken (path : stack.IsPath) (fits : Tag.token.fitsOn stack = true)
    (h : (Compiler.mk options stack phrases output last).startToken attributes position =
      .accepted next) :
    Opens ⟨options, stack, phrases, output, last⟩ attributes position .token next := by
  obtain ⟨draft, hdraft, hnext⟩ := Compiler.exists_of_check h
  cases tokenPlace_of_fits path fits with
  | slot block pattern outer =>
    have hopens : Opens ⟨options, seat block pattern outer, phrases, output, last⟩ attributes
        position .token ⟨options, .token draft :: seat block pattern.countToken outer, phrases,
          output, last⟩ := .token rfl hdraft
    cases block <;> cases hnext <;> exact hopens
  | member members block pattern outer =>
    cases hnext
    exact .fresh (.token hdraft fun _ _ _ => seat_ne_cons nofun nofun)
  | phrase phrase =>
    cases hnext
    exact .fresh (.token hdraft fun _ _ _ => seat_ne_cons nofun nofun)
  | equivalence type elements feature =>
    cases hnext
    exact .fresh (.token hdraft fun _ _ _ => seat_ne_cons nofun nofun)

theorem startMatch_messageStack (inSuggestion : Bool) (rule : RuleDraft) (outer : ScopeStack) :
    (Compiler.mk options (messageStack inSuggestion rule outer) phrases output last).startMatch
        attributes position =
      (Compiler.mk options (messageStack inSuggestion rule outer) phrases output last).check
        (resolveMatch attributes (.message inSuggestion) position) fun declared =>
          .accepted ⟨options, .quote :: messageStack inSuggestion (rule.addMatch declared) outer,
            phrases, output, last⟩ := by
  cases inSuggestion <;> rfl

theorem Opens.of_startMatch (path : stack.IsPath) (fits : Tag.quote.fitsOn stack = true)
    (h : (Compiler.mk options stack phrases output last).startMatch attributes position =
      .accepted next) :
    Opens ⟨options, stack, phrases, output, last⟩ attributes position .quote next := by
  rcases exists_of_fits_quote path fits with ⟨draft, outer, rfl⟩ | ⟨inSuggestion, rule, outer, rfl⟩
  · obtain ⟨reference, hreference, hnext⟩ := Compiler.exists_of_check h
    cases hnext
    exact .binding rfl hreference
  · rw [startMatch_messageStack] at h
    obtain ⟨declared, hdeclared, hnext⟩ := Compiler.exists_of_check h
    cases hnext
    exact .declaration rfl hdeclared

theorem Opens.of_startPhraseRef (path : stack.IsPath) (fits : Tag.phraseRef.fitsOn stack = true)
    (h : (Compiler.mk options stack phrases output last).startPhraseRef attributes position =
      .accepted next) :
    Opens ⟨options, stack, phrases, output, last⟩ attributes position .phraseRef next := by
  obtain ⟨name, hname, h⟩ := Compiler.exists_of_check h
  cases hfind : phrases.find? name with
  | none =>
    simp only [hfind] at h
    cases h
  | some alternatives =>
    simp only [hfind] at h
    cases h
    rcases exists_of_fits_phraseRef path fits with ⟨pattern, outer, rfl⟩ | ⟨phrase, rfl⟩
    · exact .expansion rfl hname hfind
    · exact .inclusion rfl hname hfind

theorem Opens.of_startFeature
    (h : (Compiler.mk options stack phrases output last).startFeature attributes position =
      .accepted next) :
    Opens ⟨options, stack, phrases, output, last⟩ attributes position .feature next := by
  obtain ⟨id, hid, h⟩ := Compiler.exists_of_check h
  dsimp only at h
  split at h
  · next declared =>
    cases h
    exact .fresh (.feature hid declared)
  · cases h

/-- A start tag where it may stand. -/
theorem Opens.of_startTag {tag : Tag} (path : stack.IsPath) (fits : tag.fitsOn stack = true)
    (h : (Compiler.mk options stack phrases output last).startTag tag attributes position =
      .accepted next) :
    Opens ⟨options, stack, phrases, output, last⟩ attributes position tag next := by
  cases tag with
  | rules =>
    obtain rfl := eq_nil_of_fits_rules fits
    cases h
    exact .rules rfl
  | category =>
    cases h
    exact .fresh .category
  | phrases =>
    cases h
    exact .fresh .phrases
  | phrase =>
    obtain ⟨id, hid, hnext⟩ := Compiler.exists_of_check h
    cases hnext
    exact .fresh (.phrase hid)
  | includePhrases =>
    cases h
    exact .fresh .includePhrases
  | phraseRef => exact .of_startPhraseRef path fits h
  | unification =>
    obtain ⟨feature, hfeature, hnext⟩ := Compiler.exists_of_check h
    obtain rfl := eq_rules_of_fits rfl path fits
    cases hnext
    exact .unification rfl hfeature
  | equivalence =>
    obtain ⟨type, htype, hnext⟩ := Compiler.exists_of_check h
    cases hnext
    exact .fresh (.equivalence htype)
  | ruleGroup =>
    obtain ⟨group, hgroup, hnext⟩ := Compiler.exists_of_check h
    cases hnext
    exact .fresh (.ruleGroup hgroup)
  | rule =>
    obtain ⟨draft, hdraft, hnext⟩ := Compiler.exists_of_check h
    cases hnext
    exact .fresh (.rule hdraft)
  | pattern =>
    obtain ⟨draft, hdraft, hnext⟩ := Compiler.exists_of_check h
    cases hnext
    exact .fresh (.pattern hdraft)
  | andGroup =>
    obtain ⟨block, pattern, outer, rfl⟩ := exists_of_fits_andGroup path fits
    have hopens : Opens ⟨options, seat block pattern outer, phrases, output, last⟩ attributes
        position .andGroup ⟨options, .andGroup [] :: seat block pattern.countToken outer, phrases,
          output, last⟩ := .andGroup rfl
    cases block <;> cases h <;> exact hopens
  | unify =>
    cases h
    exact .fresh .unify
  | feature => exact .of_startFeature h
  | featureType =>
    obtain ⟨type, htype, hnext⟩ := Compiler.exists_of_check h
    obtain ⟨id, types, outer, rfl⟩ := exists_of_fits_featureType fits
    cases hnext
    exact .featureType rfl htype
  | token => exact .of_startToken path fits h
  | exception =>
    cases h
    exact .fresh .exception
  | quote => exact .of_startMatch path fits h
  | message =>
    cases h
    exact .fresh .message
  | short =>
    cases h
    exact .fresh .short
  | suggestion =>
    obtain ⟨rule, outer, rfl⟩ := exists_of_fits_suggestion path fits
    cases h
    exact .suggestion rfl
  | sample =>
    obtain ⟨draft, hdraft, hnext⟩ := Compiler.exists_of_check h
    cases hnext
    exact .fresh (.sample hdraft)
  | marker =>
    obtain ⟨sample, rule, outer, rfl⟩ := exists_of_fits_marker path fits
    cases h
    exact .marker rfl

end Start

end GrammarRules
