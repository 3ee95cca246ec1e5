import GrammarRules.Proofs.Document.Frame
import GrammarRules.Proofs.Document.Origin
import GrammarRules.Proofs.Markup.Nesting

/-!
# Rules do not depend on each other

The events of a rule do what they would do if only the rule were open (`Framed`), so what comes of
them depends on the options, the phrases, the names of the features and the category only
(`exists_outcome`).  Two documents that agree on these make the same of a rule, and two rules that
follow one another may be swapped (`isolation_of_run`).
-/

namespace GrammarRules

open ScopeStack

/-! ## One event -/

section Step

variable {c next : Compiler} {name text : String} {attributes : Attributes} {position : Position}

/-- A start tag that is accepted opens one element. -/
theorem exists_kind_of_start (path : c.stack.IsPath)
    (step : c.step (.start name attributes position) = .accepted next) :
    ∃ kind, kinds next.stack = kind :: kinds c.stack := by
  cases transition_of_step path step with
  | ignore => exact ⟨_, rfl⟩
  | start _ _ _ opens => exact ⟨_, opens.kinds_eq⟩

theorem kinds_of_text (path : c.stack.IsPath)
    (step : c.step (.text text position) = .accepted next) : kinds next.stack = kinds c.stack := by
  cases transition_of_step path step with
  | text reads => exact reads.kinds_eq

/-- An end tag that is accepted closes the innermost element. -/
theorem kinds_of_stop (path : c.stack.IsPath)
    (step : c.step (.stop name position) = .accepted next) :
    kinds next.stack = (kinds c.stack).tail := by
  cases transition_of_step path step with
  | stop hstack _ closes =>
    have hkinds := closes.kinds_eq hstack
    rw [hkinds, show c.stack = _ from hstack, kinds_cons, List.tail_cons]

end Step

/-! ## Runs in a rule -/

namespace Compiler

/-- In a rule that stands where rules may stand, in a document that is open there. -/
structure Within (c below : Compiler) : Prop where
  sitsOn : c.SitsOn below
  inRule : c.stack.InRule
  path : (c.above below).stack.IsPath

/-- The events do in a rule what they would do if only the rule were open, and `R` holds of the
compiler when they are accepted. -/
structure Framed (c below : Compiler) (events : List Event) (R : Compiler → Prop) : Prop where
  replay_eq : replay step (c.above below) events = (replay step c events).map (·.above below)
  accepted : ∀ next, replay step c events = .accepted next → R next

variable {c below : Compiler} {R S : Compiler → Prop}

namespace Framed

theorem nil (h : R c) : c.Framed below [] R where
  replay_eq := rfl
  accepted next hnext := by
    cases hnext
    exact h

theorem mono {events : List Event} (h : c.Framed below events R) (hR : ∀ next, R next → S next) :
    c.Framed below events S :=
  ⟨h.replay_eq, fun next hnext => hR next (h.accepted next hnext)⟩

theorem append {before after : List Event} (hbefore : c.Framed below before R)
    (hafter : ∀ next, R next → next.Framed below after S) :
    c.Framed below (before ++ after) S := by
  constructor
  · rw [replay_append, replay_append, hbefore.replay_eq]
    cases hnext : replay step c before with
    | accepted next => exact (hafter next (hbefore.accepted next hnext)).replay_eq
    | refused error refused => rfl
  · intro final hfinal
    obtain ⟨next, hnext, hfinal⟩ := exists_of_replay_append hfinal
    exact (hafter next (hbefore.accepted next hnext)).accepted final hfinal

theorem single {event : Event}
    (hstep : (c.above below).step event = (c.step event).map (·.above below))
    (h : ∀ next, c.step event = .accepted next → R next) : c.Framed below [event] R := by
  constructor
  · rw [replay, replay, hstep]
    cases c.step event <;> rfl
  · intro final hfinal
    obtain ⟨next, hnext, hfinal⟩ := replay_cons_eq_accepted hfinal
    cases hfinal
    exact h final hnext

end Framed

namespace Within

variable {next : Compiler}

/-- An event that is accepted in the rule on its own is accepted where the rule stands. -/
theorem step_eq (h : c.Within below) {event : Event}
    (stays : event.StaysIn c.stack) (step : c.step event = .accepted next) :
    (c.above below).step event = .accepted (next.above below) := by
  rw [step_above h.sitsOn h.inRule stays, step]
  rfl

/-- What an event does to the open elements of the rule shows in the whole stack. -/
theorem of_step (h : c.Within below) {event : Event}
    (stays : event.StaysIn c.stack) (step : c.step event = .accepted next)
    (inRule : next.stack.InRule) : next.Within below :=
  ⟨h.sitsOn.of_step h.inRule stays step, inRule, isPath_of_step h.path (h.step_eq stays step)⟩

/-- A start tag in a rule. -/
theorem framed_start (h : c.Within below) (name : String) (attributes : Attributes)
    (position : Position) :
    c.Framed below [.start name attributes position] fun next =>
      next.Within below ∧ ∃ kind, kinds next.stack = kind :: kinds c.stack := by
  have stays : (Event.start name attributes position).StaysIn c.stack := trivial
  refine .single (step_above h.sitsOn h.inRule stays) fun next step => ?_
  have habove := h.step_eq stays step
  obtain ⟨kind, hkind⟩ := exists_kind_of_start h.path habove
  simp only [above, kinds_append] at hkind
  have hkinds : kinds next.stack = kind :: kinds c.stack := List.append_cancel_right hkind
  obtain ⟨scope, outer, hstack, -, houter⟩ := List.map_eq_cons_iff.1 hkinds
  -- The element that is opened stands in one of the rule, so it is one of the rule as well.
  have inRule := h.inRule.congr houter
  obtain ⟨head, rest, rfl, hhead⟩ := inRule.exists_head
  have path := isPath_of_step h.path habove
  rw [above, hstack] at path
  have part : scope.isPart = true :=
    (Option.all_eq_true _ _).2 fun tag htag => Tag.isPart_of_fits hhead (path.1 tag htag)
  exact ⟨h.of_step stays step (hstack ▸ inRule.cons part), kind, hkinds⟩

/-- Text in a rule. -/
theorem framed_text (h : c.Within below) (text : String) (position : Position) :
    c.Framed below [.text text position] fun next =>
      next.Within below ∧ kinds next.stack = kinds c.stack := by
  have stays : (Event.text text position).StaysIn c.stack := trivial
  refine .single (step_above h.sitsOn h.inRule stays) fun next step => ?_
  have hkinds := kinds_of_text h.path (h.step_eq stays step)
  simp only [above, kinds_append] at hkinds
  have hkinds : kinds next.stack = kinds c.stack := List.append_cancel_right hkinds
  exact ⟨h.of_step stays step (h.inRule.congr hkinds), hkinds⟩

/-- An end tag in a rule, other than that of the rule. -/
theorem framed_stop (h : c.Within below) (name : String) (position : Position)
    {kind : Option Tag × String} {stack : ScopeStack} (hkinds : kinds c.stack = kind :: kinds stack)
    (inRule : stack.InRule) :
    c.Framed below [.stop name position] fun next =>
      next.Within below ∧ kinds next.stack = kinds stack := by
  have stays : (Event.stop name position).StaysIn c.stack := by
    obtain ⟨head, outer, rfl, -⟩ := inRule.exists_head
    obtain ⟨scope, rest, hstack, -, hrest⟩ := List.map_eq_cons_iff.1 hkinds
    obtain ⟨_, _, rfl, -⟩ := List.map_eq_cons_iff.1 hrest
    rw [hstack]
    simp [Event.StaysIn]
  refine .single (step_above h.sitsOn h.inRule stays) fun next step => ?_
  have hnext := kinds_of_stop h.path (h.step_eq stays step)
  simp only [above, kinds_append, hkinds, List.cons_append, List.tail_cons] at hnext
  have hnext : kinds next.stack = kinds stack := List.append_cancel_right hnext
  exact ⟨h.of_step stays step (inRule.congr hnext), hnext⟩

/-- Nested events in a rule leave the same elements open. -/
theorem framed_nested {content : List Event} (nested : Nested content) (h : c.Within below) :
    c.Framed below content fun next =>
      next.Within below ∧ kinds next.stack = kinds c.stack := by
  induction nested generalizing c with
  | nil => exact .nil ⟨h, rfl⟩
  | text text position hrest ih =>
    refine (h.framed_text text position).append fun next ⟨hnext, hkinds⟩ => ?_
    exact (ih hnext).mono fun final ⟨hfinal, hfinalKinds⟩ => ⟨hfinal, hfinalKinds.trans hkinds⟩
  | element name attributes opened closed hcontent hrest ihcontent ihrest =>
    rw [List.cons_append]
    refine (h.framed_start name attributes opened).append fun first ⟨hfirst, kind, hkind⟩ => ?_
    refine (ihcontent hfirst).append fun second ⟨hsecond, hsecondKinds⟩ => ?_
    refine (hsecond.framed_stop name closed (hsecondKinds.trans hkind) h.inRule).append
      fun third ⟨hthird, hthirdKinds⟩ => ?_
    exact (ihrest hthird).mono fun final ⟨hfinal, hkinds⟩ => ⟨hfinal, hkinds.trans hthirdKinds⟩

end Within

end Compiler

/-! ## Rules -/

/-- The places of a rule outside of a group, with the category of the rules there. -/
inductive SectionPlace : Option String → ScopeStack → Prop
  | root : SectionPlace none [.rules]
  | category (name : Option String) : SectionPlace name [.category name, .rules]

namespace SectionPlace

variable {category : Option String} {stack : ScopeStack}

theorem of_head? (path : stack.IsPath) (h : stack.head?.bind Scope.section? = some category) :
    SectionPlace category stack := by
  cases stack with
  | nil => nomatch h
  | cons scope outer =>
    cases scope with
    | rules =>
      obtain rfl := Option.some.inj h
      obtain rfl := eq_nil_of_fits_rules (path.1 .rules rfl)
      exact .root
    | category name =>
      obtain rfl := Option.some.inj h
      obtain rfl := eq_rules_of_fits rfl path.tail (path.1 .category rfl)
      exact .category _
    | _ => nomatch h

variable (h : SectionPlace category stack)
include h

theorem isPath : stack.IsPath := by
  cases h with
  | root => exact ⟨fun tag htag => by cases htag; rfl, trivial⟩
  | category name =>
    exact ⟨fun tag htag => by cases htag; rfl, fun tag htag => by cases htag; rfl, trivial⟩

theorem fits : Tag.rule.fitsOn stack = true := by cases h <;> rfl

theorem holdsRules : ∀ scope ∈ stack, scope.holdsRules = true := by
  cases h <;> simp [Scope.holdsRules]

theorem ruleContext_eq : stack.ruleContext = { category } := by cases h <;> rfl

theorem countRule_eq : stack.countRule = stack := by cases h <;> rfl

end SectionPlace

/-- One element that is a rule, with the position of its end tag. -/
inductive IsRuleElement (closed : Position) : List Event → Prop
  | intro (attributes : Attributes) (opened : Position) {content : List Event}
      (nested : Nested content) :
      IsRuleElement closed
        (.start Tag.rule.name attributes opened :: content ++ [.stop Tag.rule.name closed])

namespace Compiler

variable {c below : Compiler} {category : Option String}

/-- The compiler with more rules, after an event at this position. -/
def adding (c : Compiler) (rules : List Rule) (position : Position) : Compiler :=
  { c with output := { c.output with rules := c.rules ++ rules }, lastPosition := position }

theorem adding_adding (c : Compiler) (rules rules' : List Rule) (position position' : Position) :
    (c.adding rules position).adding rules' position' = c.adding (rules ++ rules') position' := by
  simp only [adding, Compiler.rules, List.append_assoc]

/-- A rule may come next in this category, and finds the options, the phrases and the features that
it would find in `c`. -/
structure Offers (below c : Compiler) (category : Option String) : Prop where
  place : SectionPlace category below.stack
  options : below.options = c.options
  phrases : below.phrases = c.phrases
  declared : ∀ feature,
    below.output.unification.contains feature = c.output.unification.contains feature

/-- The start tag of a rule. -/
theorem step_start_rule (place : SectionPlace category below.stack) (attributes : Attributes)
    (position : Position) :
    below.step (.start Tag.rule.name attributes position) =
      (below.moved position).check (RuleDraft.ofAttributes attributes none position) fun draft =>
        .accepted ((below.moved position).push (.rule draft)) := by
  obtain ⟨options, stack, phrases, output, last⟩ := below
  obtain rfl | ⟨name⟩ := place <;> rfl

/-- The compiler with only a rule open, right after its start tag. -/
def alone (c : Compiler) (draft : RuleDraft) (position : Position) : Compiler :=
  { c with stack := [.rule draft], lastPosition := position }

theorem Offers.within_alone (offers : below.Offers c category) (draft : RuleDraft)
    (position : Position) : (c.alone draft position).Within below where
  sitsOn := ⟨offers.place.holdsRules, offers.options, offers.phrases, offers.declared⟩
  inRule := ⟨[], draft, rfl, List.forall_mem_nil _⟩
  path := ⟨fun tag htag => by cases htag; exact offers.place.fits, offers.place.isPath⟩

/-- The content of a rule is as good as in a rule on its own. -/
theorem Offers.replay_rule (offers : below.Offers c category) {content : List Event}
    (nested : Nested content) (attributes : Attributes) (opened closed : Position) :
    replay step below
        (.start Tag.rule.name attributes opened :: content ++ [.stop Tag.rule.name closed]) =
      (below.moved opened).check (RuleDraft.ofAttributes attributes none opened) fun draft =>
        ((replay step (c.alone draft opened) content).map (·.above below)).andThen
          fun inner => inner.step (.stop Tag.rule.name closed) := by
  rw [List.cons_append, replay, step_start_rule offers.place]
  cases RuleDraft.ofAttributes attributes none opened with
  | error error => rfl
  | ok draft =>
    have framed := (offers.within_alone draft opened).framed_nested nested
    have hopened : (below.moved opened).push (.rule draft) =
        (c.alone draft opened).above below := rfl
    simp only [check, Outcome.andThen, hopened, replay_append, framed.replay_eq]
    cases replay step (c.alone draft opened) content with
    | refused error inner => rfl
    | accepted inner =>
      simp only [Outcome.map, replay]
      cases (inner.above below).step (.stop Tag.rule.name closed) <;> rfl

/-- The content of a rule leaves just the rule open. -/
theorem exists_rule_of_replay {draft : RuleDraft} {opened : Position} {content : List Event}
    {inner : Compiler} (nested : Nested content)
    (run : replay step (c.alone draft opened) content = .accepted inner) :
    ∃ draft', inner.stack = [.rule draft'] := by
  have offers : Offers { c with stack := [.rules] } c none := ⟨.root, rfl, rfl, fun _ => rfl⟩
  have hkinds := (((offers.within_alone draft opened).framed_nested nested).accepted inner run).2
  obtain ⟨scope, hstack, hscope⟩ := List.map_eq_singleton_iff.1 hkinds
  obtain ⟨draft', rfl⟩ := Scope.exists_of_tag?_eq_rule (congrArg Prod.fst hscope)
  exact ⟨draft', hstack⟩

/-- What a rule comes to depends on the options, the phrases, the features and the category only. -/
theorem exists_outcome (c : Compiler) (category : Option String) {closed : Position}
    {element : List Event} (rule : IsRuleElement closed element) :
    ∃ outcome : Except RuleError (List Rule), ∀ below : Compiler, below.Offers c category →
      match outcome with
      | .error error => ∃ refused, replay step below element = .refused error refused
      | .ok added => replay step below element = .accepted (below.adding added closed) := by
  obtain @⟨attributes, opened, content, nested⟩ := rule
  cases hdraft : RuleDraft.ofAttributes attributes none opened with
  | error error =>
    refine ⟨.error error, fun below offers => ?_⟩
    rw [offers.replay_rule nested, hdraft]
    exact ⟨_, rfl⟩
  | ok draft =>
    cases hcontent : replay step (c.alone draft opened) content with
    | refused error inner =>
      refine ⟨.error error, fun below offers => ?_⟩
      rw [offers.replay_rule nested, hdraft]
      simp only [check, hcontent]
      exact ⟨_, rfl⟩
    | accepted inner =>
      obtain ⟨draft', hinner⟩ := exists_rule_of_replay nested hcontent
      refine ⟨draft'.finish { category } closed, fun below offers => ?_⟩
      rw [offers.replay_rule nested, hdraft]
      simp only [check, hcontent, Outcome.map, Outcome.andThen]
      rw [step_stop_rule (stack_above hinner), List.nil_append, offers.place.ruleContext_eq,
        offers.place.countRule_eq]
      cases draft'.finish { category } closed with
      | error error => exact ⟨_, rfl⟩
      | ok added => rfl

/-- A rule that is accepted once adds the same rules wherever it finds the same. -/
theorem exists_added {closed : Position} {element : List Event} {next : Compiler}
    (rule : IsRuleElement closed element) (offers : below.Offers c category)
    (run : replay step below element = .accepted next) :
    ∃ added, ∀ other : Compiler, other.Offers c category →
      replay step other element = .accepted (other.adding added closed) := by
  obtain ⟨outcome, houtcome⟩ := exists_outcome c category rule
  cases outcome with
  | error error =>
    obtain ⟨refused, hrefused⟩ := houtcome below offers
    cases run.symm.trans hrefused
  | ok added => exact ⟨added, houtcome⟩

theorem Offers.adding (offers : below.Offers c category) (rules : List Rule) (position : Position) :
    (below.adding rules position).Offers c category :=
  ⟨offers.place, offers.options, offers.phrases, offers.declared⟩

end Compiler

/-! ## Two documents -/

section Runs

variable {options₁ options₂ : CompileOptions} {events₁ events₂ element : List Event}
  {c₁ c₂ : Compiler} {category : Option String} {closed : Position}

/-- Where two documents that agree on the options, the phrases and the names of the features await a
rule in the same category, the same element has the same error in both or adds the same rules to
both, and then changes nothing else but the last position.  Two such elements in a row add what each
adds alone, in either order. -/
theorem isolation_of_run
    (run₁ : replay Compiler.step (Compiler.new options₁) events₁ = .accepted c₁)
    (run₂ : replay Compiler.step (Compiler.new options₂) events₂ = .accepted c₂)
    (place₁ : c₁.stack.head?.bind Scope.section? = some category)
    (place₂ : c₂.stack.head?.bind Scope.section? = some category)
    (options : c₁.options = c₂.options) (phrases : c₁.phrases = c₂.phrases)
    (declared : ∀ feature,
      c₁.output.unification.contains feature = c₂.output.unification.contains feature)
    (rule : IsRuleElement closed element) :
    ((∃ error refused₁ refused₂, replay Compiler.step c₁ element = .refused error refused₁ ∧
        replay Compiler.step c₂ element = .refused error refused₂) ∨
      ∃ added, replay Compiler.step c₁ element = .accepted (c₁.adding added closed) ∧
        replay Compiler.step c₂ element = .accepted (c₂.adding added closed)) ∧
    ∀ other last final, IsRuleElement last other →
      replay Compiler.step c₁ (element ++ other) = .accepted final →
      ∃ added addedOther, replay Compiler.step c₁ element = .accepted (c₁.adding added closed) ∧
        replay Compiler.step c₁ other = .accepted (c₁.adding addedOther last) ∧
        final = c₁.adding (added ++ addedOther) last ∧
        replay Compiler.step c₁ (other ++ element) =
          .accepted (c₁.adding (addedOther ++ added) closed) := by
  have hplace₁ := SectionPlace.of_head? (sound_of_run run₁).1 place₁
  have hplace₂ := SectionPlace.of_head? (sound_of_run run₂).1 place₂
  have offers₁ : c₁.Offers c₁ category := ⟨hplace₁, rfl, rfl, fun _ => rfl⟩
  have offers₂ : c₂.Offers c₁ category :=
    ⟨hplace₂, options.symm, phrases.symm, fun feature => (declared feature).symm⟩
  obtain ⟨outcome, houtcome⟩ := Compiler.exists_outcome c₁ category rule
  refine ⟨?_, fun other last final hother hfinal => ?_⟩
  · have h₁ := houtcome c₁ offers₁
    have h₂ := houtcome c₂ offers₂
    cases outcome with
    | error error =>
      obtain ⟨refused₁, h₁⟩ := h₁
      obtain ⟨refused₂, h₂⟩ := h₂
      exact .inl ⟨error, refused₁, refused₂, h₁, h₂⟩
    | ok added => exact .inr ⟨added, h₁, h₂⟩
  · obtain ⟨middle, hmiddle, hfinal⟩ := exists_of_replay_append hfinal
    obtain ⟨added, hadded⟩ := Compiler.exists_added rule offers₁ hmiddle
    obtain rfl := Outcome.accepted.inj (hmiddle.symm.trans (hadded c₁ offers₁))
    obtain ⟨addedOther, haddedOther⟩ :=
      Compiler.exists_added hother (offers₁.adding added closed) hfinal
    refine ⟨added, addedOther, hmiddle, haddedOther c₁ offers₁, ?_, ?_⟩
    · have hlast := haddedOther _ (offers₁.adding added closed)
      rw [Compiler.adding_adding] at hlast
      exact Outcome.accepted.inj (hfinal.symm.trans hlast)
    · have hlast := hadded _ (offers₁.adding addedOther last)
      rw [Compiler.adding_adding] at hlast
      rw [replay_append, haddedOther c₁ offers₁]
      exact hlast

end Runs

/-- A rule with the pattern of the sample. -/
def sampleRule (id markFrom : String) : List Event :=
  tagged "rule" [("id", id)] (samplePattern markFrom)

theorem isRuleElement_sampleRule (id markFrom : String) :
    IsRuleElement .unknown (sampleRule id markFrom) :=
  .intro ⟨[("id", id)]⟩ .unknown (nested_iff.2 (by simp [samplePattern, tagged, openAfter]))

/-- A rule adds its two variants to a document that has no rule yet, to the document with another
rule before it, and after a rule that it has changed places with. -/
theorem isolation_of_run_sample :
    ∃ c₁ c₂ added addedOther, replay Compiler.step (Compiler.new {})
        (.start "rules" ⟨[]⟩ .unknown :: samplePhrases) = .accepted c₁ ∧
      replay Compiler.step (Compiler.new {})
        (.start "rules" ⟨[]⟩ .unknown :: samplePhrases ++ sampleRule "R" "2") = .accepted c₂ ∧
      added.length = 2 ∧
      replay Compiler.step c₁ (sampleRule "S" "2") = .accepted (c₁.adding added .unknown) ∧
      replay Compiler.step c₂ (sampleRule "S" "2") = .accepted (c₂.adding added .unknown) ∧
      replay Compiler.step c₁ (sampleRule "T" "1" ++ sampleRule "S" "2") =
        .accepted (c₁.adding (addedOther ++ added) .unknown) := by
  obtain ⟨c, run, place, hrules, hR, hS, hST⟩ : ∃ c, replay Compiler.step (Compiler.new {})
      (.start "rules" ⟨[]⟩ .unknown :: samplePhrases) = .accepted c ∧
      c.stack.head?.bind Scope.section? = some none ∧ c.rules.length = 0 ∧
      (replay Compiler.step c (sampleRule "R" "2")).error? = none ∧
      (replay Compiler.step c (sampleRule "S" "2")).state.rules.length = 2 ∧
      (replay Compiler.step c (sampleRule "S" "2" ++ sampleRule "T" "1")).error? = none := by
    let c := (replay Compiler.step (Compiler.new {})
      (.start "rules" ⟨[]⟩ .unknown :: samplePhrases)).state
    exact ⟨c, Outcome.eq_accepted (by decide +kernel), by decide +kernel, by decide +kernel,
      by decide +kernel, by decide +kernel, by decide +kernel⟩
  -- The second document is the first with what a rule adds.
  have offers : c.Offers c none :=
    ⟨.of_head? (sound_of_run run).1 place, rfl, rfl, fun _ => rfl⟩
  obtain ⟨first, hfirst⟩ := Compiler.exists_added (isRuleElement_sampleRule "R" "2") offers
    (Outcome.eq_accepted hR)
  have run' : replay Compiler.step (Compiler.new {})
      (.start "rules" ⟨[]⟩ .unknown :: samplePhrases ++ sampleRule "R" "2") =
        .accepted (c.adding first .unknown) := by
    rw [replay_append, run, Outcome.andThen]
    exact hfirst c offers
  obtain ⟨hboth, hswap⟩ := isolation_of_run run run' place place rfl rfl (fun _ => rfl)
    (isRuleElement_sampleRule "S" "2")
  obtain ⟨added, addedOther, hadded, -, -, hswapped⟩ :=
    hswap _ _ _ (isRuleElement_sampleRule "T" "1") (Outcome.eq_accepted hST)
  have hlength : added.length = 2 := by
    have hrules' : (c.rules ++ added).length = 2 := by rwa [hadded] at hS
    rwa [List.length_append, hrules, Nat.zero_add] at hrules'
  -- What the rule adds before the other rule is what it adds alone.
  obtain ⟨error, refused, -, hrefused, -⟩ | ⟨added', hadded', hsecond⟩ := hboth
  · cases hadded.symm.trans hrefused
  · have hsame := Outcome.accepted.inj (hadded.symm.trans hadded')
    obtain rfl : added = added' := List.append_cancel_left (congrArg Compiler.rules hsame)
    exact ⟨c, _, added, addedOther, run, run', hlength, hadded, hsecond, hswapped⟩

end GrammarRules
