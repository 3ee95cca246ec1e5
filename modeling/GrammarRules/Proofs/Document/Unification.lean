import GrammarRules.Proofs.Document.Delivery
import GrammarRules.Proofs.Document.Origin
import GrammarRules.Proofs.Pattern.Unification

/-!
# The unification blocks of a document

A `BlockScript` is a record of a run that keeps the unification blocks of the last pattern as the
author wrote them, by the tags of features and types and by where tokens, groups and phrases stand.
`BlockScript.Matches` ties it to the state and to the slots of the pattern, and from it
`unifications_of_run` concludes what the elements of every rule carry, and that their features are
declared.
-/

namespace GrammarRules

open ScopeStack

/-! ## The record -/

/-- The unification blocks of the last pattern as far as they have been written. -/
structure BlockScript where
  /-- What stands in the pattern outside of the open block. -/
  parts : List PatternPart := []
  /-- The features that were listed before each token and group of the open block. -/
  members : List Features := []
  /-- The features of the last block. -/
  features : Features := []
  /-- The last feature, with the types listed for it. -/
  feature : String × List String := ("", [])

namespace BlockScript

/-- What the elements of the slots carry. -/
def marks (m : BlockScript) : List SlotMark :=
  m.parts.flatMap PatternPart.marks ++ m.members.map SlotMark.within

/-- The ways to choose an alternative for every slot, in the order of the variants. -/
def choices (m : BlockScript) : List (List Nat) :=
  Slot.indexChoices ((m.parts.flatMap PatternPart.marks).map SlotMark.width)

/-- What the elements of a variant carry. -/
def unifications (m : BlockScript) (indices : List Nat) : List (Option Unification) :=
  SlotMark.pick (m.parts.flatMap PatternPart.marks) indices

/-- The names of the features that are listed in the pattern. -/
def names (m : BlockScript) : List String :=
  m.parts.flatMap PatternPart.names ++
    m.members.flatMap (fun features => features.map Prod.fst) ++ m.features.map Prod.fst

/-- The record after a start tag on this stack. -/
def noteStart (m : BlockScript) (phrases : PhraseTable) (attributes : Attributes)
    (stack : ScopeStack) : Tag → BlockScript
  | .pattern => { m with parts := [], members := [] }
  | .phraseRef =>
    match stack with
    | .pattern _ :: _ =>
      let alternatives := (phrases.find? ((attributes.find? "idref").getD "")).getD []
      { m with parts := m.parts ++ [.phrase (alternatives.map List.length)] }
    | _ => m
  | .unify => { m with features := [] }
  | .feature => { m with feature := ((attributes.find? "id").getD "", []) }
  | .featureType =>
    { m with feature := (m.feature.1, m.feature.2 ++ [(attributes.find? "id").getD ""]) }
  | _ => m

/-- The record with a token or a group as one more slot, if it stands in a pattern or in a block of
one. -/
def noteElement (m : BlockScript) : ScopeStack → BlockScript
  | .pattern _ :: _ => { m with parts := m.parts ++ [.single] }
  | .unify _ :: _ => { m with members := m.members ++ [m.features] }
  | _ => m

/-- The record after the end tag of the innermost element. -/
def noteStop (m : BlockScript) : ScopeStack → BlockScript
  | .token _ :: outer | .andGroup _ :: outer => m.noteElement outer
  | .feature _ _ :: _ => { m with features := m.features ++ [m.feature] }
  | .unify _ :: _ => { m with parts := m.parts ++ [.block m.members], members := [] }
  | _ => m

end BlockScript

/-- The record after an event. -/
def Compiler.noteBlock (c : Compiler) (m : BlockScript) : Event → BlockScript
  | .start name attributes _ => c.noteTag m name (m.noteStart c.phrases attributes c.stack)
  | .text _ _ => m
  | .stop _ _ => m.noteStop c.stack

/-- The blocks that events write into the last pattern. -/
def blockScript (options : CompileOptions) (events : List Event) : BlockScript :=
  historyAfter Compiler.noteBlock (Compiler.new options) {} events

/-! ## The open block and the open feature -/

namespace ScopeStack

/-- The features of the unification block that is open with nothing but its elements in it. -/
def block? : ScopeStack → Option (Table (List String))
  | .unify features :: _ => some features
  | .token _ :: outer | .andGroup _ :: outer | .feature _ _ :: outer | .featureType :: outer
  | .quote :: outer | .exception _ :: outer | .ignored _ :: outer => block? outer
  | _ => none

/-- The feature that is open with nothing but its types in it. -/
def feature? : ScopeStack → Option (String × List String)
  | .feature id types :: _ => some (id, types)
  | .featureType :: outer | .ignored _ :: outer => feature? outer
  | _ => none

/-- No block is open around an element that does not stand in one. -/
theorem block?_of_fits {tag : Tag} {stack : ScopeStack} (fits : tag.fitsOn stack = true)
    (htag : tag ≠ .token ∧ tag ≠ .andGroup ∧ tag ≠ .feature ∧ tag ≠ .featureType ∧
      tag ≠ .exception ∧ tag ≠ .quote) : stack.block? = none := by
  cases stack with
  | nil => rfl
  | cons scope outer =>
    cases scope with
    | unify | token | andGroup | feature | featureType | quote | exception | ignored =>
      -- Only the elements of a block stand here.
      cases tag <;> first | exact absurd fits Bool.false_ne_true | simp at htag
    | _ => rfl

/-- No feature is open around an element other than a type. -/
theorem feature?_of_fits {tag : Tag} {stack : ScopeStack} (fits : tag.fitsOn stack = true)
    (htag : tag ≠ .featureType) : stack.feature? = none := by
  cases stack with
  | nil => rfl
  | cons scope outer =>
    cases scope with
    | feature | featureType | ignored =>
      cases tag <;> first | exact absurd fits Bool.false_ne_true | exact absurd rfl htag
    | _ => rfl

theorem block?_seat (block : Option (Table (List String))) (pattern : PatternDraft)
    (outer : ScopeStack) : (seat block pattern outer).block? = block := by
  cases block <;> rfl

theorem feature?_seat (block : Option (Table (List String))) (pattern : PatternDraft)
    (outer : ScopeStack) : (seat block pattern outer).feature? = none := by
  cases block <;> rfl

theorem RulePlace.block?_countRule {stack : ScopeStack} (h : RulePlace stack) :
    stack.countRule.block? = none ∧ stack.countRule.feature? = none := by
  cases h <;> exact ⟨rfl, rfl⟩

end ScopeStack

/-! ## Blocks and the state -/

/-- The record is that of the open block, of the open feature and of the slots, and every feature in
it is declared. -/
structure BlockScript.Matches (m : BlockScript) (c : Compiler) (slots : List Slot) : Prop where
  block : ∀ features ∈ c.stack.block?, features = Table.ofList m.features
  outside : c.stack.block? = none → m.members = []
  feature : ∀ feature ∈ c.stack.feature?,
    feature = m.feature ∧ c.output.unification.contains feature.1 = true
  slots : List.Forall₂ SlotMark.Marks m.marks slots
  declared : ∀ name ∈ m.names, c.output.unification.contains name = true

theorem Table.ofList_concat {α : Type} (pairs : List (String × α)) (pair : String × α) :
    Table.ofList (pairs ++ [pair]) = (Table.ofList pairs).insert pair.1 pair.2 := by
  rw [ofList, List.foldl_append]
  rfl

theorem Table.mem_keys_ofList {α : Type} {pairs : List (String × α)} {name : String}
    (h : name ∈ (Table.ofList pairs).keys) : name ∈ pairs.map Prod.fst := by
  induction pairs using List.reverseRecOn with
  | nil => cases h
  | append_singleton pairs pair ih =>
    rw [ofList_concat, keys_insert] at h
    rw [List.map_append, List.mem_append]
    split_ifs at h
    · exact .inl (ih h)
    · exact (List.mem_append.1 h).imp ih id

/-- An element by itself carries nothing. -/
theorem carries_of_plain {bound : Nat} {element : Element} (h : element.Plain bound) :
    Carries none element where
  unification_eq := h.unification
  members member hmember := by
    rw [h.andGroup] at hmember
    cases hmember

/-- Nor does the group that such elements make together. -/
theorem carries_of_group {bound : Nat} {first : Element} {others : List Element}
    (h : ∀ e ∈ first :: others, e.Written bound) :
    Carries none { first with andGroup := others } where
  unification_eq := (h first List.mem_cons_self).unification
  members member hmember := (h member (List.mem_cons_of_mem _ hmember)).unification

namespace BlockScript.Matches

variable {m : BlockScript} {c next : Compiler} {slots : List Slot} {attributes : Attributes}
  {position : Position} {tag : Tag}

/-- An event that leaves the open block alone, after which no feature is open. -/
theorem apart (h : m.Matches c slots) (hblock : next.stack.block? = c.stack.block?)
    (hfeature : next.stack.feature? = none)
    (hcontains : ∀ name, c.output.unification.contains name = true →
      next.output.unification.contains name = true) : m.Matches next slots where
  block features hfeatures := h.block features (hblock ▸ hfeatures)
  outside hnone := h.outside (hblock ▸ hnone)
  feature feature hopen := by
    rw [hfeature] at hopen
    cases hopen
  slots := h.slots
  declared name hname := hcontains name (h.declared name hname)

/-- An event that leaves the open block and the open feature alone. -/
theorem congr (h : m.Matches c slots) (hblock : next.stack.block? = c.stack.block?)
    (hfeature : next.stack.feature? = c.stack.feature?)
    (hcontains : ∀ name, c.output.unification.contains name = true →
      next.output.unification.contains name = true) : m.Matches next slots where
  block features hfeatures := h.block features (hblock ▸ hfeatures)
  outside hnone := h.outside (hblock ▸ hnone)
  feature feature hopen := (h.feature feature (hfeature ▸ hopen)).imp_right (hcontains _)
  slots := h.slots
  declared name hname := hcontains name (h.declared name hname)

/-- A part of the pattern outside of all blocks. -/
theorem addPart (h : m.Matches c slots) (hblock : c.stack.block? = none) {part : PatternPart}
    {mark : SlotMark} {slot : Slot} (hmarks : part.marks = [mark]) (hnames : part.names = [])
    (hslot : mark.Marks slot) :
    Matches { m with parts := m.parts ++ [part] } c (slots ++ [slot]) where
  block := h.block
  outside := h.outside
  feature := h.feature
  slots := by
    have hslots := h.slots
    rw [marks, h.outside hblock, List.map_nil, List.append_nil] at hslots
    rw [marks, h.outside hblock, List.map_nil, List.append_nil, List.flatMap_append,
      List.flatMap_singleton, hmarks]
    exact List.rel_append hslots (.cons hslot .nil)
  declared name hname := by
    rw [names, List.flatMap_append, List.flatMap_singleton, hnames, List.append_nil] at hname
    exact h.declared name hname

/-- A token or a group of the open block. -/
theorem addMember (h : m.Matches c slots) {features : Table (List String)}
    (hblock : c.stack.block? = some features) {element : Element}
    (hcarries : Carries (some { features }) element) :
    Matches { m with members := m.members ++ [m.features] } c (slots ++ [.single element]) where
  block := h.block
  outside hnone := by
    rw [hblock] at hnone
    cases hnone
  feature := h.feature
  slots := by
    obtain rfl := h.block features hblock
    rw [marks, List.map_append, ← List.append_assoc]
    exact List.rel_append h.slots (.cons (.single hcarries) .nil)
  declared name hname := by
    refine h.declared name ?_
    simp only [names, List.flatMap_append, List.flatMap_singleton, List.mem_append] at hname ⊢
    tauto

/-- A token or a group where it is a slot. -/
theorem addElement (h : m.Matches c slots) {block : Option (Table (List String))}
    (hblock : c.stack.block? = block) {element : Element} (hcarries : Carries none element)
    (pattern : PatternDraft) (outer : ScopeStack) :
    (m.noteElement (seat block pattern outer)).Matches c
      (slots ++ [.single (inBlock block element)]) := by
  cases block with
  | none => exact h.addPart hblock rfl rfl (.single hcarries)
  | some features => exact h.addMember hblock ⟨rfl, hcarries.members⟩

/-! ### Events -/

theorem of_fresh {scope : Scope} (h : m.Matches c slots) (fits : tag.fitsOn c.stack = true)
    (fresh : Fresh c attributes position tag scope) :
    (m.noteStart c.phrases attributes c.stack tag).Matches { c with stack := scope :: c.stack }
      (c.stack.noteStart c.phrases slots attributes tag) := by
  have hoff (htag : tag ≠ .token ∧ tag ≠ .andGroup ∧ tag ≠ .feature ∧ tag ≠ .featureType ∧
      tag ≠ .exception ∧ tag ≠ .quote) (hblock : block? (scope :: c.stack) = none)
      (hfeature : feature? (scope :: c.stack) = none) :
      m.Matches { c with stack := scope :: c.stack } slots :=
    h.apart (hblock.trans (block?_of_fits fits htag).symm) hfeature fun _ => id
  cases fresh with
  | token | exception => exact h.apart rfl rfl fun _ => id
  | unify =>
    have hmembers := h.outside (block?_of_fits fits (by simp))
    refine { h with block := fun features hopen => ?_, outside := nofun, feature := nofun,
                    declared := fun name hname => h.declared name ?_ }
    · cases hopen
      rfl
    · simp only [names, noteStart, List.map_nil, List.append_nil, List.mem_append] at hname ⊢
      exact .inl hname
  | feature hid declared =>
    refine { h with feature := fun feature hopen => ?_ }
    cases hopen
    rw [noteStart, find?_of_required hid]
    exact ⟨rfl, declared⟩
  | pattern =>
    refine { block := nofun, outside := fun _ => rfl, feature := nofun, slots := .nil,
             declared := fun name hname => h.declared name ?_ }
    exact List.mem_append_right _ hname
  | _ => exact hoff (by simp) rfl rfl

/-- A start tag adds to the record what it adds to the elements. -/
theorem opens (h : m.Matches c slots) (sound : c.Sound slots) (fits : tag.fitsOn c.stack = true)
    (hcontains : ∀ name, c.output.unification.contains name = true →
      next.output.unification.contains name = true)
    (opens : Opens c attributes position tag next) :
    (m.noteStart c.phrases attributes c.stack tag).Matches next
      (c.stack.noteStart c.phrases slots attributes tag) := by
  cases opens with
  | fresh fresh => exact h.of_fresh fits fresh
  | rules hstack | unification hstack => exact h.apart (by rw [hstack]; rfl) rfl hcontains
  | token hstack | andGroup hstack =>
    refine h.apart ?_ rfl hcontains
    rw [hstack, block?_seat]
    exact block?_seat _ _ _
  | @expansion pattern outer name alternatives hstack hname hfind =>
    have hphrase := sound.phrases (name, alternatives) (Table.mem_of_find? hfind)
    have hslot : SlotMark.Marks (.phrase (alternatives.map List.length))
        (.phrase name alternatives) := by
      refine .phrase fun es hes e he => ?_
      obtain ⟨index, hindex⟩ := List.mem_iff_getElem?.1 he
      exact carries_of_plain (hphrase.backward es hes index e hindex)
    rw [hstack]
    simp only [noteStart, ScopeStack.noteStart, find?_of_required hname, Option.getD_some, hfind]
    exact (h.addPart (by rw [hstack]; rfl) rfl rfl hslot).apart (by rw [hstack]; rfl) rfl hcontains
  | @featureType id type types outer hstack htype =>
    obtain ⟨hfeature, hdeclared⟩ := h.feature (id, types) (by rw [hstack]; rfl)
    have hblock : block? (.featureType :: .feature id (types ++ [type]) :: outer) =
        c.stack.block? := by
      rw [hstack]
      rfl
    refine { h with block := fun features hopen => h.block features (hblock ▸ hopen),
                    outside := fun hnone => h.outside (hblock ▸ hnone),
                    feature := fun feature hopen => ?_ }
    cases hopen
    rw [noteStart, find?_of_required htype, ← hfeature]
    exact ⟨rfl, hdeclared⟩
  | inclusion hstack =>
    rw [hstack]
    exact h.apart (by rw [hstack]; rfl) rfl hcontains
  | @declaration inSuggestion rule outer declared hstack =>
    refine h.apart ?_ ?_ hcontains
    · rw [hstack]
      cases inSuggestion <;> rfl
    · cases inSuggestion <;> rfl
  | binding hstack | suggestion hstack | marker hstack =>
    exact h.apart (by rw [hstack]; rfl) rfl hcontains

/-- Text does not concern the record. -/
theorem reads {text : String} (h : m.Matches c slots) (reads : Reads c text next) :
    m.Matches next slots := by
  cases reads with
  | @message inSuggestion rule outer hstack =>
    refine h.apart ?_ ?_ fun _ => id
    · rw [hstack]
      cases inSuggestion <;> rfl
    · cases inSuggestion <;> rfl
  | nothing => exact h
  | token hstack | exception hstack | sample hstack | short hstack | marker hstack =>
    exact h.apart (by rw [hstack]; rfl) rfl fun _ => id

/-- An end tag adds to the record what it adds to the elements. -/
theorem closes (h : m.Matches c slots) (path : c.stack.IsPath) (sound : c.Sound slots)
    (hcontains : ∀ name, c.output.unification.contains name = true →
      next.output.unification.contains name = true)
    (closes : Closes c position next) :
    (m.noteStop c.stack).Matches next (c.stack.noteStop slots) := by
  cases closes with
  | @silent scope outer hstack silent =>
    rw [hstack] at path ⊢
    cases scope with
    | featureType | ignored => exact h.congr (by rw [hstack]; rfl) (by rw [hstack]; rfl) hcontains
    | quote =>
      exact h.apart (by rw [hstack]; rfl) (feature?_of_fits (path.1 .quote rfl) (by simp)) hcontains
    | rules | category | phrases | includePhrases | phraseRef | unification | ruleGroup
    | message | short =>
      -- None of these stands in a block.
      have hblock := block?_of_fits (path.1 _ rfl) (by simp)
      refine h.apart (hblock.trans ?_) (feature?_of_fits (path.1 _ rfl) (by simp)) hcontains
      rw [hstack]
      rfl
    | _ => cases silent
  | @token draft block pattern outer element hstack helement =>
    obtain rfl := TokenDraft.eq_written_of_finish helement
    have hsound := sound.stack
    have hblock : c.stack.block? = block := by
      rw [hstack]
      exact block?_seat _ _ _
    rw [hstack] at hsound ⊢
    have hwritten := TokenDraft.written_written hsound.1
    have hadded := h.addElement hblock (carries_of_plain hwritten.toPlain) pattern outer
    rw [ScopeStack.noteStop, noteElement_seat]
    exact hadded.apart ((block?_seat _ _ _).trans hblock.symm) (feature?_seat _ _ _) hcontains
  | @andGroup first others block pattern outer hstack =>
    have hsound := sound.stack
    have hblock : c.stack.block? = block := by
      rw [hstack]
      exact block?_seat _ _ _
    rw [hstack] at hsound ⊢
    have hadded := h.addElement hblock (carries_of_group hsound.1) pattern outer
    rw [ScopeStack.noteStop, noteElement_seat]
    exact hadded.apart ((block?_seat _ _ _).trans hblock.symm) (feature?_seat _ _ _) hcontains
  | @feature id types features pattern outer hstack =>
    obtain ⟨hfeature, hdeclared⟩ := h.feature (id, types) (by rw [hstack]; rfl)
    have hfeatures := h.block features (by rw [hstack]; rfl)
    rw [hstack]
    refine { block := fun features' hopen => ?_, slots := h.slots,
             outside := fun hnone => absurd hnone (Option.some_ne_none _),
             feature := fun _ hopen => absurd hopen (Option.not_mem_none _),
             declared := fun name hname => ?_ }
    · cases hopen
      rw [noteStop, Table.ofList_concat, hfeatures, ← hfeature]
    · rw [noteStop, names, List.map_append, ← List.append_assoc] at hname
      rcases List.mem_append.1 hname with hname | hname
      · exact h.declared name hname
      · rw [← hfeature] at hname
        obtain rfl := List.mem_singleton.1 hname
        exact hdeclared
  | unify hstack =>
    have hslots := SlotMark.marks_closeLast h.slots
    rw [marks, PatternPart.closeLast_marks] at hslots
    rw [hstack]
    refine { block := fun _ hopen => absurd hopen (Option.not_mem_none _),
             outside := fun _ => rfl, slots := ?_,
             feature := fun _ hopen => absurd hopen (Option.not_mem_none _),
             declared := fun name hname => h.declared name ?_ }
    · rw [noteStop, marks, List.map_nil, List.append_nil]
      exact hslots
    · simp only [noteStop, names, List.flatMap_append, List.flatMap_singleton, List.flatMap_nil,
        List.append_nil] at hname
      exact hname
  | rule hstack hrules =>
    rw [hstack] at path
    have hplace := (rulePlace_of_fits path.tail (path.1 .rule rfl)).block?_countRule
    rw [hstack]
    exact h.apart (by rw [hstack]; exact hplace.1) hplace.2 hcontains
  | member hstack | phraseToken hstack | typeToken hstack | exception hstack | pattern hstack
  | suggestion hstack | marker hstack | sample hstack | phrase hstack | equivalence hstack =>
    rw [hstack]
    exact h.apart (by rw [hstack]; rfl) rfl hcontains

theorem transition {event : Event} (h : m.Matches c slots) (path : c.stack.IsPath)
    (sound : c.Sound slots) (transition : Transition c event next) :
    (c.noteBlock m event).Matches next (c.noteSlot slots event) := by
  have hcontains : ∀ name, c.output.unification.contains name = true →
      next.output.unification.contains name = true := fun _ => transition.contains
  cases transition with
  | @ignore name attributes position hignored =>
    rw [Compiler.noteSlot, Compiler.noteTag_of_ignored hignored, Compiler.noteBlock,
      Compiler.noteTag_of_ignored hignored]
    exact h.congr rfl rfl hcontains
  | @start name tag attributes position next hignored htag fits opens =>
    rw [Compiler.noteSlot, Compiler.noteTag_of_tag hignored htag, Compiler.noteBlock,
      Compiler.noteTag_of_tag hignored htag]
    exact h.opens sound fits hcontains opens
  | text reads => exact h.reads reads
  | stop _ _ closes => exact h.closes path sound hcontains closes

/-- The end of a block with nothing in it leaves the pattern as it is. -/
theorem step_stop_unify (h : m.Matches c slots) (sound : c.Sound slots)
    {features : Table (List String)} {pattern : PatternDraft} {outer : ScopeStack}
    (hstack : c.stack = .unify features :: .pattern pattern :: outer) (hmembers : m.members = [])
    (position : Position) :
    c.step (.stop Tag.unify.name position) =
      .accepted { c with stack := .pattern pattern :: outer, lastPosition := position } := by
  have hsound := sound.stack
  rw [hstack] at hsound
  have holds := hsound.2.1 slots rfl
  have hslots : Slot.closeLast slots = slots := by
    have hmarks := h.slots
    rw [marks, hmembers, List.map_nil, List.append_nil] at hmarks
    exact SlotMark.closeLast_eq hmarks (PatternPart.closeLast_flatMap_marks m.parts)
  have hpattern : pattern.closeUnification = pattern := by
    rw [PatternDraft.closeUnification, holds.variants,
      Slot.map_closeUnification_variants holds.sound.free, hslots, ← holds.variants]
  have hstep : c.step (.stop Tag.unify.name position) =
      .accepted { c with stack := .pattern pattern.closeUnification :: outer,
                         lastPosition := position } :=
    Compiler.step_stop hstack position
  rw [hstep, hpattern]

end BlockScript.Matches

/-! ## Runs -/

/-- A rule with a unification block behind a phrase, and the start of another up to the end tag of a
block with nothing but a feature in it. -/
def unifyingEvents : List Event :=
  .start "rules" ⟨[]⟩ .unknown ::
    tagged "phrases" [] (tagged "phrase" [("id", "P")] (tagged "token" [] [.text "a" .unknown])) ++
    tagged "unification" [("feature", "number")]
      (tagged "equivalence" [("type", "plural")] (tagged "token" [] [.text "b" .unknown])) ++
    tagged "rule" [("id", "R")]
      (tagged "pattern" []
        (tagged "phraseref" [("idref", "P")] [] ++
          tagged "unify" []
            (tagged "token" [] [.text "c" .unknown] ++
              tagged "feature" [("id", "number")] (tagged "type" [("id", "plural")] []) ++
              tagged "and" []
                (tagged "token" [] [.text "d" .unknown] ++
                  tagged "token" [] [.text "e" .unknown]))) ++
        tagged "message" [] []) ++
    .start "rule" ⟨[("id", "S")]⟩ .unknown :: .start "pattern" ⟨[]⟩ .unknown ::
      tagged "token" [] [.text "f" .unknown] ++
        .start "unify" ⟨[]⟩ .unknown :: tagged "feature" [("id", "number")] []

section Run

variable {options : CompileOptions} {events : List Event} {c : Compiler}

/-- After every run the record is that of the state. -/
theorem blocks_of_run (run : replay Compiler.step (Compiler.new options) events = .accepted c) :
    (blockScript options events).Matches c (writtenSlots options events) := by
  induction events using List.reverseRecOn generalizing c with
  | nil =>
    cases run
    exact ⟨nofun, fun _ => rfl, nofun, .nil, nofun⟩
  | append_singleton events event ih =>
    obtain ⟨middle, hmiddle, hlast⟩ := exists_of_replay_append run
    obtain ⟨next, hnext, hend⟩ := replay_cons_eq_accepted hlast
    obtain rfl : next = c := by cases hend; rfl
    obtain ⟨path, sound⟩ := sound_of_run hmiddle
    have moved : (blockScript options events).Matches (middle.moved event.position)
        (writtenSlots options events) := (ih hmiddle).congr rfl rfl fun _ => id
    have movedSound : (middle.moved event.position).Sound (writtenSlots options events) :=
      ⟨sound.stack, sound.phrases, sound.rules⟩
    rw [blockScript, writtenSlots, historyAfter_concat _ hmiddle hnext,
      historyAfter_concat _ hmiddle hnext]
    exact moved.transition path movedSound (transition_of_step path hnext)

/-- A feature that is declared stays so. -/
theorem contains_of_replay {middle : Compiler} (path : middle.stack.IsPath)
    (run : replay Compiler.step middle events = .accepted c) {name : String}
    (h : middle.output.unification.contains name = true) :
    c.output.unification.contains name = true := by
  induction events generalizing middle with
  | nil =>
    cases run
    exact h
  | cons event events ih =>
    obtain ⟨next, hnext, hrest⟩ := replay_cons_eq_accepted run
    have hmoved : (middle.moved event.position).output.unification.contains name = true := h
    exact ih (isPath_of_step path hnext) hrest ((transition_of_step path hnext).contains hmoved)

/-- A feature that is declared at the end tag of a rule stays so. -/
theorem RuleOrigin.contains {index : Nat} {rule : Rule}
    (origin : RuleOrigin options events index rule)
    (run : replay Compiler.step (Compiler.new options) events = .accepted c) {name : String}
    (h : origin.compiler.output.unification.contains name = true) :
    c.output.unification.contains name = true := by
  obtain ⟨position, after, hevents, -⟩ := origin.added.exists_stop
  rw [hevents] at run
  obtain ⟨middle, hmiddle, hrest⟩ := exists_of_replay_append run
  obtain rfl : origin.compiler = middle := by
    rw [origin.run] at hmiddle
    exact Outcome.accepted.inj hmiddle
  exact contains_of_replay (sound_of_run origin.run).1 hrest h

/-- The features that the elements of a variant carry are listed in the pattern. -/
theorem BlockScript.mem_names {m : BlockScript} {indices : List Nat} {unification : Unification}
    (h : some unification ∈ m.unifications indices) {name : String}
    (hname : name ∈ unification.features.keys) : name ∈ m.names := by
  obtain ⟨part, hpart, hmark⟩ := List.mem_flatMap.1 (SlotMark.mem_of_mem_pick h)
  cases part with
  | single => simp [PatternPart.marks] at hmark
  | phrase lengths => simp [PatternPart.marks] at hmark
  | block members =>
    obtain ⟨features, hfeatures, heq⟩ := SlotMark.mem_ofBlock hmark
    rw [heq] at hname
    refine List.mem_append_left _ (List.mem_append_left _ (List.mem_flatMap.2 ⟨_, hpart, ?_⟩))
    exact List.mem_flatMap.2 ⟨features, hfeatures, Table.mem_keys_ofList hname⟩

/-- An element of a rule carries a unification just if it is that of a token or a group in a
unification block: with the features that the block listed before it, as the last of the block just
if nothing follows in the block.  All features are declared.  A block with nothing in it leaves the
pattern as it was. -/
theorem unifications_of_run
    (run : replay Compiler.step (Compiler.new options) events = .accepted c) :
    (∀ (index : Nat) (rule : Rule), c.rules[index]? = some rule →
      ∃ before indices, AddedAfter options events index before ∧
        (blockScript options before).choices[index - ruleCount options before]? = some indices ∧
        List.Forall₂ Carries ((blockScript options before).unifications indices) rule.elements ∧
        ∀ element ∈ rule.elements, ∀ unification, element.unification = some unification →
          ∀ name ∈ unification.features.keys, c.output.unification.contains name = true) ∧
    ∀ features pattern outer position, c.stack = .unify features :: .pattern pattern :: outer →
      (blockScript options events).members = [] →
      c.step (.stop Tag.unify.name position) =
        .accepted { c with stack := .pattern pattern :: outer, lastPosition := position } := by
  refine ⟨fun index rule hrule => ?_, fun features pattern outer position hstack hmembers => ?_⟩
  · obtain ⟨origin⟩ := exists_origin run hrule
    obtain ⟨indices, hindices, -, hchoice⟩ := origin.exists_choice
    have hblocks := blocks_of_run origin.run
    have hslots := hblocks.slots
    rw [BlockScript.marks, hblocks.outside (by rw [origin.stack]; rfl), List.map_nil,
      List.append_nil] at hslots
    have hcarries : List.Forall₂ Carries
        ((blockScript options origin.before).unifications indices) rule.elements := by
      rw [hchoice.corrected]
      exact carries_correctReferences (SlotMark.carries_pick hslots indices) _
    refine ⟨origin.before, indices, origin.added, ?_, hcarries, ?_⟩
    · rw [BlockScript.choices, SlotMark.map_width_eq hslots]
      exact hindices
    · intro element helement unification hunification name hname
      obtain ⟨expected, hexpected, hcarried⟩ := exists_of_forall₂_mem hcarries helement
      rw [← hcarried.unification_eq, hunification] at hexpected
      exact origin.contains run
        (hblocks.declared name (BlockScript.mem_names hexpected hname))
  · exact (blocks_of_run run).step_stop_unify (sound_of_run run).2 hstack hmembers position

/-- Both tokens of the block carry its features as listed before each, the last is marked, and the
token of the phrase carries nothing; the block without a token leaves its pattern alone. -/
theorem unifications_of_run_sample :
    ∃ c rule pattern outer before indices,
      replay Compiler.step (Compiler.new {}) unifyingEvents = .accepted c ∧
      c.rules[0]? = some rule ∧
      rule.elements.map Element.unification =
        [none, some { features := {} },
          some { features := Table.ofList [("number", ["plural"])], last := true }] ∧
      AddedAfter {} unifyingEvents 0 before ∧
      (blockScript {} before).choices[0 - ruleCount {} before]? = some indices ∧
      List.Forall₂ Carries ((blockScript {} before).unifications indices) rule.elements ∧
      c.output.unification.contains "number" = true ∧
      c.stack = .unify (Table.ofList [("number", [])]) :: .pattern pattern :: outer ∧
      (blockScript {} unifyingEvents).members = [] ∧
      c.step (.stop Tag.unify.name .unknown) =
        .accepted { c with stack := .pattern pattern :: outer, lastPosition := .unknown } := by
  have run : replay Compiler.step (Compiler.new {}) unifyingEvents = .accepted _ := rfl
  obtain ⟨hrules, hempty⟩ := unifications_of_run run
  obtain ⟨before, indices, added, hindices, hcarries, hdeclared⟩ := hrules 0 _ rfl
  have hnumber := hdeclared _ (List.mem_of_getElem? (rfl : _[2]? = some _)) _ rfl "number"
    List.mem_cons_self
  exact ⟨_, _, _, _, before, indices, run, rfl, rfl, added, hindices, hcarries, hnumber, rfl, rfl,
    hempty _ _ _ .unknown rfl rfl⟩

end Run

end GrammarRules
