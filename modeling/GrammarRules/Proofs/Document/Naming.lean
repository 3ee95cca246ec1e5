import GrammarRules.Proofs.Document.Recording
import GrammarRules.Proofs.Text.Words

/-!
# Ids and messages of compiled rules

A rule has an id of its own or that of its group, and neither is taken if there are only blanks in
it, so the open groups and rules are all named (`Compiler.Named`).  Hence the id of every compiled
rule has a character that is no blank, while its message has no blank but the space
(`Rule.presentable_of_run`).  What is compiled from a source is the output of such a run
(`exists_run_of_compileWith`).
-/

namespace GrammarRules

open ScopeStack

/-! ## The ids of open elements -/

/-- The id of a group or of a rule. -/
def Scope.id? : Scope → Option String
  | .ruleGroup group => some group.id
  | .rule draft => some draft.id
  | _ => none

/-- The ids of the open groups and rules, innermost first. -/
def ScopeStack.ids (stack : ScopeStack) : List String := stack.filterMap Scope.id?

/-- Every open group and every open rule has an id that can be seen. -/
def Compiler.Named (c : Compiler) : Prop := ∀ id ∈ c.stack.ids, Text.isAllBlank id = false

namespace ScopeStack

theorem ids_seat (block : Option (Table (List String))) (pattern : PatternDraft)
    (outer : ScopeStack) : (seat block pattern outer).ids = outer.ids := by
  cases block <;> rfl

theorem ids_messageStack (inSuggestion : Bool) (rule : RuleDraft) (outer : ScopeStack) :
    (messageStack inSuggestion rule outer).ids = rule.id :: outer.ids := by
  cases inSuggestion <;> rfl

theorem ids_countRule (stack : ScopeStack) : stack.countRule.ids = stack.ids := by
  rw [ids, countRule, List.filterMap_map]
  congr 1
  funext scope
  cases scope <;> rfl

end ScopeStack

theorem RuleDraft.id_addExample (draft : RuleDraft) (sample : RuleExample) :
    (draft.addExample sample).id = draft.id := by
  cases sample <;> rfl

/-! ## Where ids come from -/

theorem not_isAllBlank_of_required {attributes : Attributes} {element name value : String}
    {position : Position} (h : attributes.required element name position = .ok value) :
    Text.isAllBlank value = false := by
  unfold Attributes.required at h
  split at h
  · split at h
    · cases h
    · next hvalue =>
      cases h
      exact Bool.not_eq_true _ ▸ hvalue
  · cases h

/-- The id of a rule can be seen, or it is that of the group around. -/
theorem RuleDraft.id_of_ofAttributes {attributes : Attributes} {groupId : Option String}
    {position : Position} {draft : RuleDraft}
    (h : RuleDraft.ofAttributes attributes groupId position = .ok draft) :
    Text.isAllBlank draft.id = false ∨ groupId = some draft.id := by
  unfold RuleDraft.ofAttributes at h
  dsimp only at h
  split at h
  · next hid =>
    cases h
    have hvisible := (Option.filter_eq_some_iff.1 hid).2
    exact .inl (by simpa using hvisible)
  · cases h
    exact .inr rfl
  · cases h

theorem mem_ids_of_groupId? {c : Compiler} {id : String} (h : c.groupId? = some id) :
    id ∈ c.stack.ids := by
  unfold Compiler.groupId? at h
  split at h
  · next hstack =>
    cases h
    rw [hstack]
    exact .head _
  · cases h

/-! ## Transitions -/

/-- An end tag leaves the ids of the elements around. -/
theorem Closes.ids_eq {c next : Compiler} {position : Position} (h : Closes c position next) :
    next.stack.ids = ids c.stack.tail := by
  cases h with
  | token hstack | andGroup hstack =>
    rw [hstack, List.tail_cons, ids_seat, ids_seat]
  | rule hstack => rw [hstack, List.tail_cons, ids_countRule]
  | @sample draft rule outer hstack =>
    rw [hstack, List.tail_cons]
    exact congrArg (· :: outer.ids) (rule.id_addExample draft.finish)
  | silent hstack | member hstack | phraseToken hstack | typeToken hstack | exception hstack
  | feature hstack | unify hstack | pattern hstack | suggestion hstack | marker hstack
  | phrase hstack | equivalence hstack =>
    rw [hstack]
    rfl

namespace Compiler.Named

variable {c next : Compiler} {attributes : Attributes} {position : Position} {tag : Tag}

theorem congr (h : c.Named) (hids : next.stack.ids = c.stack.ids) : next.Named :=
  fun id hid => h id (hids ▸ hid)

theorem of_fresh {scope : Scope} (h : c.Named) (fresh : Fresh c attributes position tag scope) :
    Compiler.Named { c with stack := scope :: c.stack } := by
  cases fresh with
  | @ruleGroup group hgroup =>
    obtain ⟨id, hid, hmade⟩ := exists_of_bind_eq_ok hgroup
    cases hmade
    exact List.forall_mem_cons.2 ⟨not_isAllBlank_of_required hid, h⟩
  | @rule draft hdraft =>
    refine List.forall_mem_cons.2 ⟨?_, h⟩
    rcases RuleDraft.id_of_ofAttributes hdraft with hid | hid
    · exact hid
    · exact h _ (mem_ids_of_groupId? hid)
  | _ => exact h.congr rfl

/-- A start tag opens no group and no rule without an id. -/
theorem opens (h : c.Named) (opens : Opens c attributes position tag next) : next.Named := by
  cases opens with
  | fresh fresh => exact h.of_fresh fresh
  | @token block pattern outer draft hstack _ | @andGroup block pattern outer hstack =>
    refine h.congr ?_
    rw [hstack]
    exact (ids_seat block _ outer).trans (ids_seat block _ outer).symm
  | @declaration inSuggestion rule outer declared hstack _ =>
    refine h.congr ?_
    rw [hstack]
    exact (ids_messageStack inSuggestion _ outer).trans
      (ids_messageStack inSuggestion rule outer).symm
  | rules hstack | unification hstack | expansion hstack | inclusion hstack | featureType hstack
  | binding hstack | suggestion hstack | marker hstack =>
    exact h.congr (by rw [hstack]; rfl)

/-- Text changes no id. -/
theorem reads {text : String} (h : c.Named) (reads : Reads c text next) : next.Named := by
  cases reads with
  | @message inSuggestion rule outer hstack _ =>
    refine h.congr ?_
    rw [hstack]
    exact (ids_messageStack inSuggestion _ outer).trans
      (ids_messageStack inSuggestion rule outer).symm
  | nothing => exact h
  | token hstack | exception hstack | sample hstack | short hstack | marker hstack =>
    exact h.congr (by rw [hstack]; rfl)

/-- An end tag opens nothing. -/
theorem closes (h : c.Named) (closes : Closes c position next) : next.Named := by
  intro id hid
  rw [closes.ids_eq] at hid
  exact h id ((List.tail_sublist _).filterMap _ |>.subset hid)

/-- Every event that is accepted keeps the open groups and rules named. -/
theorem transition {event : Event} (h : c.Named) (transition : Transition c event next) :
    next.Named := by
  cases transition with
  | ignore => exact h.congr rfl
  | start _ _ _ opens => exact h.opens opens
  | text reads => exact h.reads reads
  | stop _ _ closes => exact h.closes closes

end Compiler.Named

/-! ## Runs -/

section Run

variable {options : CompileOptions} {events : List Event} {c : Compiler}

/-- After every run the open groups and rules are named. -/
theorem named_of_run (run : replay Compiler.step (Compiler.new options) events = .accepted c) :
    c.Named := by
  have path : (Compiler.new options).stack.IsPath := trivial
  have named : (Compiler.new options).Named := List.forall_mem_nil _
  refine run_invariant ?_ path named run
  intro c event next _ h transition
  have moved : (c.moved event.position).Named := h
  exact moved.transition transition

/-- The id of the rule can be seen, and no blank of the message is anything but a space. -/
structure Rule.Presentable (rule : Rule) : Prop where
  id : Text.isAllBlank rule.id = false
  message : ∀ ch ∈ rule.message.toList, Text.isBlank ch = true → ch = ' '

/-- Every compiled rule is presentable. -/
theorem Rule.presentable_of_run
    (run : replay Compiler.step (Compiler.new options) events = .accepted c) {rule : Rule}
    (hrule : rule ∈ c.rules) : rule.Presentable := by
  obtain ⟨index, hindex⟩ := List.mem_iff_getElem?.1 hrule
  obtain ⟨origin⟩ := exists_origin run hindex
  obtain ⟨variant, -, hmade⟩ := origin.exists_variant
  constructor
  · have hid : rule.id = origin.draft.id := congrArg Rule.id hmade
    rw [hid]
    apply named_of_run origin.run
    rw [origin.stack]
    exact .head _
  · intro ch hch
    have hmessage : rule.message =
        (resolveMessage origin.draft.message.segments origin.draft.declared).text :=
      congrArg Rule.message hmade
    rw [hmessage, resolveMessage, Text.toList_collapse] at hch
    exact (Text.isCollapsed_squeeze _).1.eq_space ch hch

/-! ## Sources -/

theorem Outcome.eq_accepted_of_closedBy {σ : Type} {outcome : Outcome σ} {state : σ}
    {error? : Option RuleError} (h : outcome.closedBy error? = .accepted state) :
    outcome = .accepted state := by
  cases error? with
  | none => exact h
  | some error => cases outcome <;> cases h

/-- What is compiled from a source, however it is read, is the output of a run that closes every
element. -/
theorem exists_run_of_compileWith {read : String → Markup.Pieces}
    {convert : SourceFile → Markup.PlacedPiece → Except RuleError Event} {source : SourceFile}
    {compiled : CompiledRules} (h : source.compileWith read convert options = .ok compiled) :
    ∃ events c, replay Compiler.step (Compiler.new options) events = .accepted c ∧
      c.stack = [] ∧ c.output = compiled := by
  unfold SourceFile.compileWith at h
  split at h
  · next c hdrive =>
    rw [SourceFile.driveWith_eq] at hdrive
    refine ⟨_, c, Outcome.eq_accepted_of_closedBy hdrive, ?_⟩
    unfold Compiler.finish at h
    split at h
    · next hstack => exact ⟨hstack, Except.ok.inj h⟩
    · cases h
  · cases h

end Run

end GrammarRules
