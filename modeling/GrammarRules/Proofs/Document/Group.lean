import GrammarRules.Proofs.Document.Idle
import GrammarRules.Proofs.Document.Isolation
import GrammarRules.Proofs.Document.Reachable
import GrammarRules.Proofs.Rule.Family

/-!
# Groups of rules

Between the tags of a group the only elements with a meaning that may stand directly in it are
rules, and what is open and compiled there is told by how far the group has counted and what it has
added (`Compiler.inGroup`).  A rule in it is one family more (`exists_family`), everything else is
idle, so the rules of a group are one family for each of its rule tags (`families_of_group`).
-/

namespace GrammarRules

open ScopeStack

namespace SectionPlace

variable {category : Option String} {stack : ScopeStack}

theorem exists_of_fits (path : stack.IsPath) (fits : Tag.ruleGroup.fitsOn stack = true) :
    ∃ category, SectionPlace category stack := by
  cases stack with
  | nil => nomatch fits
  | cons scope outer =>
    cases scope with
    | rules => exact ⟨_, of_head? path rfl⟩
    | category name => exact ⟨_, of_head? path rfl⟩
    | _ => nomatch fits

theorem fits_ruleGroup (h : SectionPlace category stack) : Tag.ruleGroup.fitsOn stack = true := by
  cases h <;> rfl

theorem ruleContext_inGroup (h : SectionPlace category stack) (group : RuleGroup) :
    ruleContext (.ruleGroup group :: stack) =
      { category
        groupId := some group.id
        groupName := group.name
        groupDefaultOff := group.defaultOff
        subId := some group.nextSubId } := by
  cases h <;> rfl

end SectionPlace

theorem RuleGroup.eq_of_ofAttributes {attributes : Attributes} {position : Position}
    {group : RuleGroup} (h : RuleGroup.ofAttributes attributes position = .ok group) :
    attributes.find? "id" = some group.id ∧ group.rulesSeen = 0 := by
  obtain ⟨id, hid, hgroup⟩ := exists_of_bind_eq_ok h
  cases hgroup
  exact ⟨find?_of_required hid, rfl⟩

namespace Compiler

variable {c next : Compiler} {category : Option String} {group : RuleGroup} {rules : List Rule}
  {attributes : Attributes} {position opened closed : Position}

/-- The compiler in a group that has been opened on it, with what the group has added so far. -/
def inGroup (c : Compiler) (group : RuleGroup) (rules : List Rule) (position : Position) :
    Compiler :=
  { c.adding rules position with stack := .ruleGroup group :: c.stack }

theorem rules_inGroup (c : Compiler) (group : RuleGroup) (rules : List Rule)
    (position : Position) : (c.inGroup group rules position).rules = c.rules ++ rules := rfl

/-- The end tag of a group. -/
theorem step_stop_group (c : Compiler) (group : RuleGroup) (rules : List Rule)
    (position closed : Position) :
    (c.inGroup group rules position).step (.stop Tag.ruleGroup.name closed) =
      .accepted (c.adding rules closed) :=
  @step_stop _ (.ruleGroup group) _ rfl closed

/-- The start tag of a group. -/
theorem exists_group_of_start (path : c.stack.IsPath) (hignored : c.inIgnored = false)
    (step : c.step (.start Tag.ruleGroup.name attributes position) = .accepted next) :
    ∃ category group, SectionPlace category c.stack ∧
      attributes.find? "id" = some group.id ∧ group.rulesSeen = 0 ∧
      next = c.inGroup group [] position := by
  obtain ⟨fits, opens⟩ := opens_of_start path hignored step
  obtain ⟨category, place⟩ := SectionPlace.exists_of_fits path fits
  cases opens with
  | fresh fresh =>
    cases fresh with
    | @ruleGroup group hgroup =>
      obtain ⟨hid, hseen⟩ := RuleGroup.eq_of_ofAttributes hgroup
      refine ⟨category, group, place, hid, hseen, ?_⟩
      simp only [inGroup, adding, moved, List.append_nil]
      rfl

/-- The start tag of a rule. -/
theorem exists_draft_of_start (path : c.stack.IsPath) (hignored : c.inIgnored = false)
    (step : c.step (.start Tag.rule.name attributes position) = .accepted next) :
    ∃ draft, next = (c.moved position).push (.rule draft) := by
  cases (opens_of_start path hignored step).2 with
  | fresh fresh =>
    cases fresh with
    | rule hdraft => exact ⟨_, rfl⟩

/-- The content of a rule changes nothing but the rule. -/
theorem exists_push_of_replay {draft : RuleDraft} {content : List Event}
    (path : c.stack.IsPath) (fits : Tag.rule.fitsOn c.stack = true)
    (holders : ∀ scope ∈ c.stack, scope.holdsRules = true) (nested : Nested content)
    (run : replay step ((c.moved opened).push (.rule draft)) content = .accepted next) :
    ∃ draft' last, next = (c.moved last).push (.rule draft') := by
  -- It does what it would do if only the rule were open.
  have within : (c.alone draft opened).Within c :=
    { sitsOn := ⟨holders, rfl, rfl, fun _ => rfl⟩
      inRule := ⟨[], draft, rfl, List.forall_mem_nil _⟩
      path := ⟨fun tag htag => by cases htag; exact fits, path⟩ }
  have hreplay := (within.framed_nested nested).replay_eq
  have hopened : (c.moved opened).push (.rule draft) = (c.alone draft opened).above c := rfl
  rw [← hopened, run] at hreplay
  cases hinner : replay step (c.alone draft opened) content with
  | refused error inner =>
    rw [hinner] at hreplay
    cases hreplay
  | accepted inner =>
    rw [hinner] at hreplay
    obtain ⟨draft', hstack⟩ := exists_rule_of_replay nested hinner
    refine ⟨draft', inner.lastPosition, ?_⟩
    have hnext : next = inner.above c := Outcome.accepted.inj hreplay
    rw [hnext, above, hstack]
    rfl

section Group

variable (place : SectionPlace category c.stack)
include place

theorem isPath_inGroup (group : RuleGroup) (rules : List Rule) (position : Position) :
    (c.inGroup group rules position).stack.IsPath :=
  ⟨fun tag htag => by cases htag; exact place.fits_ruleGroup, place.isPath⟩

theorem holdsRules_inGroup (group : RuleGroup) (rules : List Rule) (position : Position) :
    ∀ scope ∈ (c.inGroup group rules position).stack, scope.holdsRules = true :=
  List.forall_mem_cons.2 ⟨rfl, place.holdsRules⟩

/-- A start tag in a group is that of a rule, or the element has no meaning. -/
theorem eq_rule_of_start {name : String}
    (step : (c.inGroup group rules position).step (.start name attributes opened) =
      .accepted next) : name = Tag.rule.name ∨ ∀ tag : Tag, tag.name ≠ name := by
  cases transition_of_step (isPath_inGroup place _ _ _) step with
  | ignore h =>
    rcases h with h | h
    · cases h
    · exact .inr (Tag.ofName?_eq_none_iff.1 h)
  | @start _ tag _ _ _ _ htag fits opens =>
    refine .inl ((Tag.name_of_ofName? htag).symm.trans (congrArg _ ?_))
    cases tag <;> first | rfl | cases fits

/-- A rule in a group adds a family and is counted. -/
theorem exists_family {content : List Event}
    (yields : (c.inGroup group rules position).Yields) (nested : Nested content)
    (run : replay step (c.inGroup group rules position)
      (.start Tag.rule.name attributes opened :: content ++ [.stop Tag.rule.name closed]) =
        .accepted next) :
    ∃ family, IsFamily group.id group.nextSubId family ∧
      next = c.inGroup group.count (rules ++ family) closed := by
  have path := isPath_inGroup place group rules position
  obtain ⟨middle, hmiddle, hstop⟩ := exists_of_replay_append run
  obtain ⟨first, hfirst, hcontent⟩ := replay_cons_eq_accepted hmiddle
  obtain ⟨draft, rfl⟩ := exists_draft_of_start path rfl hfirst
  obtain ⟨draft', last, rfl⟩ :=
    exists_push_of_replay path rfl (holdsRules_inGroup place _ _ _) nested hcontent
  obtain ⟨final, hfinal, hend⟩ := replay_cons_eq_accepted hstop
  cases hend
  have hyields := (yields.replay path hmiddle).scopes _ List.mem_cons_self
  have hstack : (((c.inGroup group rules position).moved last).push (.rule draft')).stack =
      .rule draft' :: .ruleGroup group :: c.stack := rfl
  have hcontext := place.ruleContext_inGroup group
  have hcount : countRule (.ruleGroup group :: c.stack) = .ruleGroup group.count :: c.stack :=
    congrArg (_ :: ·) place.countRule_eq
  rw [step_stop_rule hstack, hcount] at hfinal
  cases hfinish : draft'.finish (ruleContext (.ruleGroup group :: c.stack)) closed with
  | error error =>
    rw [hfinish] at hfinal
    cases hfinal
  | ok family =>
    rw [hfinish] at hfinal
    obtain ⟨pattern, hpattern, hfamily⟩ := RuleDraft.exists_rulesOf_of_finish hfinish
    refine ⟨family, ?_, ?_⟩
    · rw [hfamily, hcontext]
      exact draft'.isFamily_rulesOf rfl rfl (hyields pattern hpattern)
    · rw [← Outcome.accepted.inj hfinal]
      simp only [inGroup, adding, push, moved, Compiler.rules, List.append_assoc]

/-- Nested events in a group add a family for each rule tag directly among them. -/
theorem exists_families {content : List Event}
    (yields : (c.inGroup group rules position).Yields) (nested : Nested content)
    (run : replay step (c.inGroup group rules position) content = .accepted next) :
    ∃ families last, IsFamilies group.id group.rulesSeen families ∧
      families.length = childCount Tag.rule.name 0 content ∧
      next = c.inGroup { group with rulesSeen := group.rulesSeen + families.length }
        (rules ++ families.flatten) last := by
  induction nested generalizing group rules position with
  | nil =>
    cases run
    exact ⟨[], position, isFamilies_nil _ _, rfl, by simp⟩
  | text text noted hrest ih =>
    have htext : (c.inGroup group rules position).step (.text text noted) =
        .accepted (c.inGroup group rules noted) :=
      step_text_idle (fun scope outer hstack => by cases hstack; rfl) text noted
    rw [replay, htext] at run
    have moved : (c.inGroup group rules noted).Yields := ⟨yields.scopes, yields.phrases⟩
    exact ih moved run
  | @element name attributes opened closed content rest hcontent hrest ihcontent ihrest =>
    rw [List.append_cons] at run
    obtain ⟨middle, helement, run⟩ := exists_of_replay_append run
    rw [hcontent.childCount_element]
    by_cases hname : name = Tag.rule.name
    · subst hname
      have hmiddle := yields.replay (isPath_inGroup place _ _ _) helement
      obtain ⟨family, hfamily, rfl⟩ := exists_family place yields hcontent helement
      obtain ⟨families, last, hfamilies, hlength, rfl⟩ := ihrest hmiddle run
      refine ⟨family :: families, last, isFamilies_cons.2 ⟨hfamily, hfamilies⟩, ?_, ?_⟩
      · rw [List.length_cons, hlength, if_pos rfl, Nat.add_comm]
      · rw [List.append_assoc, ← List.flatten_cons]
        simp only [RuleGroup.count, List.length_cons, Nat.add_assoc, Nat.add_comm 1]
    · obtain ⟨first, hfirst, -⟩ := replay_cons_eq_accepted helement
      have hunknown := (eq_rule_of_start place hfirst).resolve_left hname
      obtain rfl : middle = c.inGroup group rules closed :=
        Outcome.accepted.inj
          (helement.symm.trans (Idle.element attributes opened hunknown hcontent).replay_eq)
      have moved : (c.inGroup group rules closed).Yields := ⟨yields.scopes, yields.phrases⟩
      rw [if_neg hname, Nat.zero_add]
      exact ihrest moved run

/-- Part of the events in a group adds the first of the families that all of them add. -/
theorem exists_rules_of_append {before after : List Event} {families : List (List Rule)}
    (yields : (c.inGroup group [] position).Yields) (nestedBefore : Nested before)
    (nested : Nested (before ++ after)) (hfamilies : IsFamilies group.id group.rulesSeen families)
    (run : replay step (c.inGroup group [] position) (before ++ after) = .accepted next)
    (hrules : next.rules = c.rules ++ families.flatten) :
    ∃ middle, replay step (c.inGroup group [] position) before = .accepted middle ∧
      middle.rules = c.rules ++ (families.take (childCount Tag.rule.name 0 before)).flatten := by
  obtain ⟨middle, hbefore, hafter⟩ := exists_of_replay_append run
  have hmiddle := yields.replay (isPath_inGroup place _ _ _) hbefore
  obtain ⟨families₁, last₁, h₁, hlength, rfl⟩ := exists_families place yields nestedBefore hbefore
  obtain ⟨families₂, last₂, h₂, -, rfl⟩ :=
    exists_families place hmiddle (nestedBefore.of_append nested) hafter
  rw [rules_inGroup, List.nil_append, ← List.flatten_append] at hrules
  have hall := (h₁.append h₂).eq_of_flatten_eq hfamilies (List.append_cancel_left hrules)
  refine ⟨_, hbefore, ?_⟩
  rw [← hall, ← hlength, List.take_left, rules_inGroup, List.nil_append]

end Group

end Compiler

/-! ## Runs -/

section Run

variable {options : CompileOptions} {c final : Compiler} {attributes : Attributes}
  {opened closed : Position} {content : List Event}

/-- A group that is accepted adds one family of rules for each rule directly in it, in their order,
with the id of the group and the numbers from one on; what has been added after part of its content
are the families of the rules so far.  The rules come in the order of their numbers, which leave
nothing out, and have different names to show.  In an element without a meaning a group adds
nothing. -/
theorem families_of_group (reachable : c.Reachable options) (nested : Nested content)
    (run : replay Compiler.step c (.start Tag.ruleGroup.name attributes opened :: content ++
      [.stop Tag.ruleGroup.name closed]) = .accepted final) :
    (c.inIgnored = true → final = c.moved closed) ∧
    (c.inIgnored = false → ∃ id families, attributes.find? "id" = some id ∧
      final = c.adding families.flatten closed ∧
      families.length = childCount Tag.rule.name 0 content ∧ IsFamilies id 0 families ∧
      (∀ before after, content = before ++ after → Nested before → ∃ middle,
        replay Compiler.step c (.start Tag.ruleGroup.name attributes opened :: before) =
            .accepted middle ∧
          middle.rules =
            c.rules ++ (families.take (childCount Tag.rule.name 0 before)).flatten) ∧
      (families.flatten.filterMap Rule.subId).Pairwise (· ≤ ·) ∧
      (∀ number, number ∈ families.flatten.filterMap Rule.subId ↔
        1 ≤ number ∧ number ≤ families.length) ∧
      (families.flatten.map Rule.displayName).Nodup) := by
  refine ⟨fun hignored => ?_, fun hignored => ?_⟩
  · have helement := Compiler.replay_element
      (Compiler.step_start_ignored hignored Tag.ruleGroup.name attributes opened)
      (Compiler.replay_ignored nested rfl) closed
    exact Outcome.accepted.inj (run.symm.trans helement)
  · obtain ⟨path, yields⟩ := reachable.sound
    obtain ⟨inside, hinside, hstop⟩ := exists_of_replay_append run
    obtain ⟨first, hfirst, hcontent⟩ := replay_cons_eq_accepted hinside
    obtain ⟨category, group, place, hid, hseen, rfl⟩ :=
      Compiler.exists_group_of_start path hignored hfirst
    have hyields : (c.inGroup group [] opened).Yields := by
      have := (reachable.step (.start Tag.ruleGroup.name attributes opened)).sound.2
      rwa [hfirst] at this
    obtain ⟨families, last, hfamilies, hlength, rfl⟩ :=
      Compiler.exists_families place hyields nested hcontent
    rw [hseen] at hfamilies
    rw [replay, Compiler.step_stop_group] at hstop
    refine ⟨group.id, families, hid, (Outcome.accepted.inj hstop).symm, hlength, hfamilies,
      fun before after hsplit hbefore => ?_, hfamilies.sorted, fun number => ?_,
      hfamilies.nodup_displayName⟩
    · subst hsplit
      rw [← hseen] at hfamilies
      obtain ⟨middle, hmiddle, hrules⟩ :=
        Compiler.exists_rules_of_append place hyields hbefore nested hfamilies hcontent rfl
      refine ⟨middle, ?_, hrules⟩
      rw [replay, hfirst]
      exact hmiddle
    · rw [hfamilies.mem_subId_iff, Nat.zero_add]
      rfl

end Run

/-- Two rules of a group, one with the id of the group and one without an id, with other things
around them. -/
def sampleMembers : List Event :=
  .text "1" .unknown :: sampleRule "G[1]" "2" ++ tagged "b" [] (sampleRule "S" "2") ++
    tagged "rule" [] (samplePattern "2")

/-- Each of the two rules adds a family of two. -/
theorem families_of_group_sample :
    ∃ c families, replay Compiler.step (Compiler.new {})
        (.start "rules" ⟨[]⟩ .unknown :: samplePhrases) = .accepted c ∧
      replay Compiler.step c (tagged "rulegroup" [("id", "G[1]")] sampleMembers) =
        .accepted (c.adding families.flatten .unknown) ∧
      families.length = 2 ∧ IsFamilies "G[1]" 0 families ∧
      families.flatten.map Rule.displayName =
        ["G[1][1]#1", "G[1][1]#2", "G[1][2]#1", "G[1][2]#2"] := by
  obtain ⟨c, run, hignored, hrules, hgroup, hnames⟩ : ∃ c, replay Compiler.step (Compiler.new {})
      (.start "rules" ⟨[]⟩ .unknown :: samplePhrases) = .accepted c ∧ c.inIgnored = false ∧
      c.rules.map Rule.displayName = [] ∧
      (replay Compiler.step c (tagged "rulegroup" [("id", "G[1]")] sampleMembers)).error? = none ∧
      (replay Compiler.step c
        (tagged "rulegroup" [("id", "G[1]")] sampleMembers)).state.rules.map Rule.displayName =
          ["G[1][1]#1", "G[1][1]#2", "G[1][2]#1", "G[1][2]#2"] := by
    let c := (replay Compiler.step (Compiler.new {})
      (.start "rules" ⟨[]⟩ .unknown :: samplePhrases)).state
    exact ⟨c, Outcome.eq_accepted (by decide +kernel), by decide +kernel, by decide +kernel,
      by decide +kernel, by decide +kernel⟩
  have nested : Nested sampleMembers :=
    nested_iff.2 (by simp [sampleMembers, sampleRule, samplePattern, tagged, openAfter])
  have reachable := Compiler.Reachable.new.replay run
  have hfinal := Outcome.eq_accepted hgroup
  obtain ⟨id, families, hid, hadding, hlength, hfamilies, -⟩ :=
    (families_of_group reachable nested hfinal).2 hignored
  obtain rfl := Option.some.inj hid
  rw [hadding] at hfinal hnames
  have hadded : (c.adding families.flatten .unknown).rules = c.rules ++ families.flatten := rfl
  rw [hadded, List.map_append, hrules, List.nil_append] at hnames
  exact ⟨c, families, run, hfinal, hlength, hfamilies, hnames⟩

end GrammarRules
