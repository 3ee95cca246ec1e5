import GrammarRules.Proofs.Document.Slots
import GrammarRules.Proofs.Rule.Finish
import GrammarRules.Proofs.Table

/-!
# The invariant of the compiler

`Compiler.Sound` ties a state of the compiler to the slots that have been written into its last
pattern.  The pattern holds the variants of exactly these slots and has counted them; every token
refers to slots that are complete; the phrases have tokens in every alternative and refer backwards;
and the rules that are complete refer backwards and have a marker that fits.  The invariant is kept
by each rule of `Opens`, `Reads` and `Closes`, so it holds after every run (`sound_of_run`).
-/

namespace GrammarRules

open ScopeStack

/-! ## Open elements -/

/-- How many slots of the pattern further out have been begun but not completed, where `pending` is
the number seen from the element. -/
def Scope.pendingBelow (pending : Nat) : Scope → Nat
  | .token _ | .andGroup _ => 1
  | .pattern _ => 0
  | _ => pending

/-- The slots of the last pattern as far as they concern what is further out. -/
def Scope.slotsBelow (slots? : Option (List Slot)) : Scope → Option (List Slot)
  | .pattern _ => none
  | _ => slots?

/-- What holds of an open element, given what is around it. -/
def Scope.Sound (slots? : Option (List Slot)) (pending : Nat) (outer : ScopeStack) :
    Scope → Prop
  | .token draft => draft.element.Written outer.completed
  | .andGroup members => ∀ e ∈ members, e.Written outer.completed
  | .phrase draft => draft.Sound
  | .pattern draft => ∀ slots ∈ slots?, draft.Holds slots pending
  | .rule draft => ∀ slots ∈ slots?, ∀ pattern ∈ draft.pattern, pattern.Holds slots 0
  | _ => True

/-- What holds of all open elements. -/
def ScopeStack.Sound (slots? : Option (List Slot)) (pending : Nat) : ScopeStack → Prop
  | [] => True
  | scope :: outer =>
    scope.Sound slots? pending outer ∧
      Sound (scope.slotsBelow slots?) (scope.pendingBelow pending) outer

/-- The invariant of the compiler, where `slots` are the slots of the last pattern. -/
structure Compiler.Sound (c : Compiler) (slots : List Slot) : Prop where
  stack : c.stack.Sound (some slots) 0
  phrases : ∀ entry ∈ c.phrases.entries, IsPhrase entry.1 entry.2
  rules : ∀ rule ∈ c.rules, rule.Sound

namespace ScopeStack

variable {slots : List Slot} {slots? : Option (List Slot)} {pending : Nat} {stack : ScopeStack}

/-- Without slots to go by, nothing is said of patterns. -/
theorem Sound.forget (h : stack.Sound slots? pending) : stack.Sound none pending := by
  induction stack generalizing slots? pending with
  | nil => trivial
  | cons scope outer ih =>
    refine ⟨?_, ?_⟩
    · cases scope with
      | pattern draft => exact nofun
      | rule draft => exact nofun
      | _ => exact h.1
    · have hbelow : scope.slotsBelow none = none := by cases scope <;> rfl
      rw [hbelow]
      exact ih h.2

/-- Nothing is said of what is around a rule. -/
theorem RulePlace.sound (h : RulePlace stack) : stack.Sound slots? pending := by
  cases h <;> simp [Sound, Scope.Sound]

theorem sound_countRule (h : RulePlace stack) : stack.countRule.Sound slots? pending := by
  cases h <;> simp [countRule, Sound, Scope.Sound]

theorem sound_seat (block : Option (Table (List String))) {pattern : PatternDraft}
    {outer : ScopeStack} :
    (seat block pattern outer).Sound (some slots) pending ↔
      pattern.Holds slots pending ∧ outer.Sound none 0 := by
  cases block <;> simp [seat, Sound, Scope.Sound, Scope.slotsBelow, Scope.pendingBelow]

/-- Around a token that begins no slot nothing depends on how many slots are pending. -/
theorem Sound.of_apart (h : stack.Sound slots? pending) (place : TokenPlace stack)
    (apart : ∀ block pattern outer, stack ≠ seat block pattern outer) (pending' : Nat) :
    stack.Sound slots? pending' := by
  cases place with
  | slot block pattern outer => exact absurd rfl (apart block pattern outer)
  | member | phrase | equivalence => exact h

/-- A change to the rule around a message that leaves the pattern alone. -/
theorem Sound.setRule {inSuggestion : Bool} {rule rule' : RuleDraft} {outer : ScopeStack}
    (h : (messageStack inSuggestion rule outer).Sound slots? pending)
    (hpattern : rule'.pattern = rule.pattern) :
    (messageStack inSuggestion rule' outer).Sound slots? pending := by
  cases inSuggestion <;>
    simpa only [messageStack, Sound, Scope.Sound, hpattern, Scope.slotsBelow, Scope.pendingBelow]
      using h

end ScopeStack

/-- A slot in a unification block is as sound as one outside. -/
theorem Slot.Sound.inBlock {index : Nat} {element : Element} (h : (Slot.single element).Sound index)
    (block : Option (Table (List String))) :
    (Slot.single (ScopeStack.inBlock block element)).Sound index := by
  cases block with
  | none => exact h
  | some features => exact ⟨h.1, h.2.setUnification _⟩

theorem RuleDraft.pattern_addExample (draft : RuleDraft) (sample : RuleExample) :
    (draft.addExample sample).pattern = draft.pattern := by
  cases sample <;> rfl

/-- The pattern of a rule whose tag may close holds all slots. -/
theorem Compiler.Sound.holds_rule {c : Compiler} {slots : List Slot} (h : c.Sound slots)
    {draft : RuleDraft} {outer : ScopeStack} (hstack : c.stack = .rule draft :: outer)
    {pattern : PatternDraft} (hpattern : draft.pattern = some pattern) : pattern.Holds slots 0 := by
  have hsound := h.stack
  rw [hstack] at hsound
  exact hsound.1 slots rfl pattern hpattern

/-! ## Start tags -/

theorem find?_of_required {attributes : Attributes} {element name value : String}
    {position : Position} (h : attributes.required element name position = .ok value) :
    attributes.find? name = some value := by
  unfold Attributes.required at h
  split at h
  · next found hfound =>
    split at h
    · cases h
    · cases h
      exact hfound
  · cases h

theorem RuleDraft.pattern_of_ofAttributes {attributes : Attributes} {groupId : Option String}
    {position : Position} {draft : RuleDraft}
    (h : RuleDraft.ofAttributes attributes groupId position = .ok draft) :
    draft.pattern = none := by
  unfold RuleDraft.ofAttributes at h
  dsimp only at h
  split at h <;> cases h <;> rfl

namespace Compiler.Sound

variable {c next : Compiler} {slots : List Slot} {attributes : Attributes} {position : Position}
  {tag : Tag}

theorem of_fresh {scope : Scope} (h : c.Sound slots) (path : c.stack.IsPath)
    (fits : tag.fitsOn c.stack = true) (fresh : Fresh c attributes position tag scope) :
    Compiler.Sound { c with stack := scope :: c.stack }
      (c.stack.noteStart c.phrases slots attributes tag) := by
  refine ⟨?_, h.phrases, h.rules⟩
  cases fresh with
  | phrase hid => exact ⟨⟨List.forall_mem_nil _, backward_nil⟩, h.stack⟩
  | rule hdraft =>
    refine ⟨fun slots' _ pattern hpattern => ?_, h.stack⟩
    rw [RuleDraft.pattern_of_ofAttributes hdraft] at hpattern
    cases hpattern
  | pattern hdraft =>
    -- The slots are those of the new pattern, so what was said of an earlier one is given up.
    refine ⟨fun slots' hslots => ?_, h.stack.forget⟩
    obtain rfl := Option.some.inj hslots
    exact PatternDraft.holds_of_ofAttributes hdraft
  | token hdraft apart =>
    have hplace := tokenPlace_of_fits path fits
    exact ⟨TokenDraft.written_of_ofAttributes hdraft _, h.stack.of_apart hplace apart 1⟩
  | category | phrases | includePhrases | equivalence | ruleGroup | unify | feature | exception
  | message | short | sample => exact ⟨trivial, h.stack⟩

/-- A start tag keeps the invariant. -/
theorem opens (h : c.Sound slots) (path : c.stack.IsPath) (fits : tag.fitsOn c.stack = true)
    (opens : Opens c attributes position tag next) :
    next.Sound (c.stack.noteStart c.phrases slots attributes tag) := by
  have hsound := h.stack
  cases opens with
  | fresh fresh => exact h.of_fresh path fits fresh
  | rules hstack => exact ⟨⟨trivial, trivial⟩, h.phrases, h.rules⟩
  | unification hstack hfeature => exact ⟨⟨trivial, trivial, trivial⟩, h.phrases, h.rules⟩
  | token hstack hdraft =>
    rw [hstack, sound_seat] at hsound
    obtain ⟨holds, houter⟩ := hsound
    have hwritten := TokenDraft.written_of_ofAttributes hdraft
    exact ⟨⟨hwritten _, (sound_seat _).2 ⟨holds.countToken, houter⟩⟩, h.phrases, h.rules⟩
  | andGroup hstack =>
    rw [hstack, sound_seat] at hsound
    obtain ⟨holds, houter⟩ := hsound
    refine ⟨⟨List.forall_mem_nil _, ?_⟩, h.phrases, h.rules⟩
    exact (sound_seat _).2 ⟨holds.countToken, houter⟩
  | @expansion pattern outer name alternatives hstack hname hfind =>
    have hphrase : IsPhrase name alternatives := h.phrases _ (Table.mem_of_find? hfind)
    have hslots : c.stack.noteStart c.phrases slots attributes .phraseRef =
        slots ++ [.phrase name alternatives] := by
      simp only [hstack, noteStart, find?_of_required hname, Option.getD_some, hfind]
    rw [hstack] at hsound
    obtain ⟨holds, houter⟩ := (sound_seat none).1 hsound
    rw [hslots]
    exact ⟨⟨trivial, (sound_seat none).2 ⟨holds.expandPhrase hphrase, houter⟩⟩,
      h.phrases, h.rules⟩
  | @inclusion phrase name alternatives hstack hname hfind =>
    have hphrase : IsPhrase name alternatives := h.phrases _ (Table.mem_of_find? hfind)
    rw [hstack] at hsound ⊢
    obtain ⟨-, hsound, -⟩ := hsound
    exact ⟨⟨trivial, trivial, hsound.includeAll hphrase, trivial, trivial, trivial⟩, h.phrases,
      h.rules⟩
  | featureType hstack htype =>
    rw [hstack] at hsound
    exact ⟨⟨trivial, trivial, hsound.2⟩, h.phrases, h.rules⟩
  | binding hstack hreference =>
    rw [hstack] at hsound
    obtain ⟨hwritten, houter⟩ := hsound
    exact ⟨⟨trivial, TokenDraft.written_bind hwritten hreference, houter⟩, h.phrases, h.rules⟩
  | declaration hstack hdeclared =>
    rw [hstack] at hsound
    exact ⟨⟨trivial, hsound.setRule rfl⟩, h.phrases, h.rules⟩
  | suggestion hstack =>
    rw [hstack] at hsound
    exact ⟨⟨trivial, hsound.setRule rfl⟩, h.phrases, h.rules⟩
  | marker hstack =>
    rw [hstack] at hsound
    exact ⟨⟨trivial, trivial, hsound.2⟩, h.phrases, h.rules⟩

/-! ## Text and end tags -/

/-- Text keeps the invariant. -/
theorem reads {text : String} (h : c.Sound slots) (reads : Reads c text next) :
    next.Sound slots := by
  have hsound := h.stack
  cases reads with
  | token hstack =>
    rw [hstack] at hsound
    obtain ⟨hwritten, houter⟩ := hsound
    exact ⟨⟨TokenDraft.written_addText hwritten text, houter⟩, h.phrases, h.rules⟩
  | exception hstack | sample hstack =>
    rw [hstack] at hsound
    exact ⟨⟨trivial, hsound.2⟩, h.phrases, h.rules⟩
  | message hstack =>
    rw [hstack] at hsound
    exact ⟨hsound.setRule rfl, h.phrases, h.rules⟩
  | short hstack | marker hstack =>
    rw [hstack] at hsound
    exact ⟨⟨trivial, hsound.2⟩, h.phrases, h.rules⟩
  | nothing => exact h

/-- An end tag keeps the invariant. -/
theorem closes (h : c.Sound slots) (path : c.stack.IsPath) (closes : Closes c position next) :
    next.Sound (c.stack.noteStop slots) := by
  have hsound := h.stack
  cases closes with
  | @silent scope outer hstack silent =>
    rw [hstack] at hsound ⊢
    cases scope <;> first | exact ⟨hsound.2, h.phrases, h.rules⟩ | cases silent
  | token hstack helement =>
    obtain rfl := TokenDraft.eq_written_of_finish helement
    rw [hstack] at hsound ⊢
    obtain ⟨hwritten, hseat⟩ := hsound
    obtain ⟨holds, houter⟩ := (sound_seat _).1 hseat
    rw [Scope.Sound, completed_seat, holds.completed] at hwritten
    have hslot := (TokenDraft.written_written hwritten).sound_single
    rw [noteStop, noteElement_seat]
    exact ⟨(sound_seat _).2 ⟨holds.push (hslot.inBlock _), houter⟩, h.phrases, h.rules⟩
  | member hstack helement =>
    obtain rfl := TokenDraft.eq_written_of_finish helement
    rw [hstack] at hsound ⊢
    obtain ⟨hwritten, hmembers, houter⟩ := hsound
    refine ⟨⟨fun e he => ?_, houter⟩, h.phrases, h.rules⟩
    rcases List.mem_append.1 he with he | he
    · exact hmembers e he
    · rw [List.mem_singleton.1 he]
      exact TokenDraft.written_written hwritten
  | phraseToken hstack helement =>
    obtain rfl := TokenDraft.eq_written_of_finish helement
    rw [hstack] at hsound ⊢
    obtain ⟨hwritten, hphrase, houter⟩ := hsound
    have hplain := (TokenDraft.written_written hwritten).toPlain
    exact ⟨⟨hphrase.push hplain, houter⟩, h.phrases, h.rules⟩
  | typeToken hstack helement =>
    rw [hstack]
    exact ⟨⟨trivial, trivial, trivial, trivial⟩, h.phrases, h.rules⟩
  | andGroup hstack =>
    rw [hstack] at hsound ⊢
    obtain ⟨hmembers, hseat⟩ := hsound
    obtain ⟨holds, houter⟩ := (sound_seat _).1 hseat
    rw [Scope.Sound, completed_seat, holds.completed] at hmembers
    have hslot := Slot.sound_group hmembers
    rw [noteStop, noteElement_seat]
    exact ⟨(sound_seat _).2 ⟨holds.push (hslot.inBlock _), houter⟩, h.phrases, h.rules⟩
  | exception hstack hexception =>
    rw [hstack] at hsound ⊢
    obtain ⟨-, hwritten, houter⟩ := hsound
    exact ⟨⟨TokenDraft.written_addException hwritten _, houter⟩, h.phrases, h.rules⟩
  | feature hstack =>
    rw [hstack] at hsound ⊢
    exact ⟨⟨trivial, hsound.2.2⟩, h.phrases, h.rules⟩
  | unify hstack =>
    rw [hstack] at hsound ⊢
    obtain ⟨holds, houter⟩ := (sound_seat (some _)).1 hsound
    exact ⟨(sound_seat none).2 ⟨holds.closeUnification, houter⟩, h.phrases, h.rules⟩
  | pattern hstack =>
    rw [hstack] at hsound path ⊢
    obtain ⟨holds, -⟩ := (sound_seat none).1 hsound
    -- While the pattern was open nothing was said of what is around it; there is only its rule.
    have houter := rulePlace_of_fits path.tail.tail (path.2.1 .rule rfl)
    refine ⟨⟨fun slots' hslots pattern hpattern => ?_, houter.sound⟩, h.phrases, h.rules⟩
    obtain rfl := Option.some.inj hslots
    obtain rfl := Option.some.inj hpattern
    exact holds
  | suggestion hstack =>
    rw [hstack] at hsound ⊢
    have hmessage : (messageStack false _ _).Sound (some slots) 0 := hsound.2
    exact ⟨hmessage.setRule rfl, h.phrases, h.rules⟩
  | marker hstack =>
    rw [hstack] at hsound ⊢
    exact ⟨⟨trivial, hsound.2.2⟩, h.phrases, h.rules⟩
  | @sample draft rule outer hstack =>
    rw [hstack] at hsound ⊢
    obtain ⟨-, hrule, houter⟩ := hsound
    refine ⟨⟨?_, houter⟩, h.phrases, h.rules⟩
    rw [Scope.Sound, RuleDraft.pattern_addExample]
    exact hrule
  | rule hstack hrules =>
    obtain ⟨pattern, hpattern⟩ := RuleDraft.exists_pattern_of_finish hrules
    have holds := h.holds_rule hstack hpattern
    rw [hstack] at path ⊢
    obtain ⟨hfits, rfl⟩ := (RuleDraft.finish_eq_ok_iff hpattern holds).1 hrules
    have houter := rulePlace_of_fits path.tail (path.1 .rule rfl)
    refine ⟨sound_countRule houter, h.phrases, fun rule hrule => ?_⟩
    rcases List.mem_append.1 hrule with hrule | hrule
    · exact h.rules rule hrule
    · exact RuleDraft.sound_of_mem_rulesOf holds hfits hrule
  | phrase hstack halternatives =>
    rw [hstack] at hsound ⊢
    refine ⟨hsound.2, fun entry hentry => ?_, h.rules⟩
    rcases Table.mem_insert hentry with hentry | rfl
    · exact h.phrases entry hentry
    · exact hsound.1.isPhrase halternatives
  | equivalence hstack =>
    rw [hstack]
    exact ⟨⟨trivial, trivial, trivial⟩, h.phrases, h.rules⟩

/-! ## Runs -/

/-- Every event that is accepted keeps the invariant. -/
theorem transition {event : Event} (h : c.Sound slots) (path : c.stack.IsPath)
    (transition : Transition c event next) : next.Sound (c.noteSlot slots event) := by
  cases transition with
  | @ignore name attributes position hignored =>
    rw [noteSlot, noteTag_of_ignored hignored]
    exact ⟨⟨trivial, h.stack⟩, h.phrases, h.rules⟩
  | @start name tag attributes position next hignored htag fits opens =>
    rw [noteSlot, noteTag_of_tag hignored htag]
    exact h.opens path fits opens
  | text reads => exact h.reads reads
  | stop _ _ closes => exact h.closes path closes

end Compiler.Sound

theorem sound_new (options : CompileOptions) : (Compiler.new options).Sound [] :=
  ⟨trivial, List.forall_mem_nil _, List.forall_mem_nil _⟩

/-- After a run that is accepted the open elements are a path of the grammar, and the invariant
holds for the slots that the run has written. -/
theorem sound_of_run {options : CompileOptions} {events : List Event} {c : Compiler}
    (run : replay Compiler.step (Compiler.new options) events = .accepted c) :
    c.stack.IsPath ∧ c.Sound (writtenSlots options events) := by
  refine run_induction (fun {c slots event _} path h transition => ?_) trivial
    (sound_new options) run
  have moved : (c.moved event.position).Sound slots := ⟨h.stack, h.phrases, h.rules⟩
  exact moved.transition path transition

end GrammarRules
