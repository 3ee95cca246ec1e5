import GrammarRules.Proofs.Document.Origin
import GrammarRules.Proofs.Message.Reading

/-!
# The messages of a document

`writtenMessage` reads the message of the last rule off from the events of a run, in the order of
the document: character data, the two tags of a suggestion, and matches with their attributes.  The
message of every rule has the placeholders of these parts (`placeholders_of_run`), and each number
is read right unless a digit follows on a match behind empty character data (`numbers_of_run`).
-/

namespace GrammarRules

open ScopeStack

/-! ## What has been written into a message -/

namespace MessagePart

/-- The part that a match with these attributes is. -/
def ofAttributes (attributes : Attributes) (inSuggestion : Bool) (position : Position) :
    List MessagePart :=
  match resolveMatch attributes (.message inSuggestion) position with
  | .ok declared => [.quote declared]
  | .error _ => []

/-- The parts after a start tag on this stack.  A rule begins without any. -/
def noteStart (parts : List MessagePart) (attributes : Attributes) (position : Position)
    (stack : ScopeStack) : Tag → List MessagePart
  | .rule => []
  | .suggestion => parts ++ [.opening]
  | .quote =>
    match stack with
    | .message :: _ => parts ++ ofAttributes attributes false position
    | .suggestion :: _ => parts ++ ofAttributes attributes true position
    | _ => parts
  | _ => parts

/-- The parts after character data in the innermost element. -/
def noteText (parts : List MessagePart) (text : String) : ScopeStack → List MessagePart
  | .message :: _ | .suggestion :: _ => parts ++ [.data text]
  | _ => parts

/-- The parts after the end tag of the innermost element. -/
def noteStop (parts : List MessagePart) : ScopeStack → List MessagePart
  | .suggestion :: _ => parts ++ [.closing]
  | _ => parts

end MessagePart

/-- The message of the last rule after an event. -/
def Compiler.noteMessage (c : Compiler) (parts : List MessagePart) : Event → List MessagePart
  | .start name attributes position =>
    c.noteTag parts name (MessagePart.noteStart parts attributes position c.stack)
  | .text text _ => MessagePart.noteText parts text c.stack
  | .stop _ _ => MessagePart.noteStop parts c.stack

/-- The parts that events write into the message of the last rule. -/
def writtenMessage (options : CompileOptions) (events : List Event) : List MessagePart :=
  historyAfter Compiler.noteMessage (Compiler.new options) [] events

/-! ## The open message -/

/-- What a rule has collected of its message, if the element is one. -/
def Scope.message? : Scope → Option (MessageDraft × List Match)
  | .rule draft => some (draft.message, draft.declared)
  | _ => none

/-- What the innermost open rule has collected of its message. -/
def ScopeStack.message? (stack : ScopeStack) : Option (MessageDraft × List Match) :=
  stack.findSome? Scope.message?

/-- The rule that is open, if one is, follows what has been written. -/
def Compiler.Follows (c : Compiler) (parts : List MessagePart) : Prop :=
  ∀ m ∈ c.stack.message?, m.1.Follows m.2 parts

namespace ScopeStack

theorem message?_seat (block : Option (Table (List String))) (pattern : PatternDraft)
    (outer : ScopeStack) : (seat block pattern outer).message? = outer.message? := by
  cases block <;> rfl

theorem message?_messageStack (inSuggestion : Bool) (rule : RuleDraft) (outer : ScopeStack) :
    (messageStack inSuggestion rule outer).message? = some (rule.message, rule.declared) := by
  cases inSuggestion <;> rfl

theorem RulePlace.message?_countRule {stack : ScopeStack} (h : RulePlace stack) :
    stack.countRule.message? = none := by
  cases h <;> rfl

end ScopeStack

theorem RuleDraft.message_of_ofAttributes {attributes : Attributes} {groupId : Option String}
    {position : Position} {draft : RuleDraft}
    (h : RuleDraft.ofAttributes attributes groupId position = .ok draft) :
    draft.message = {} ∧ draft.declared = [] := by
  unfold RuleDraft.ofAttributes at h
  dsimp only at h
  split at h <;> cases h <;> exact ⟨rfl, rfl⟩

namespace Compiler.Follows

variable {c next : Compiler} {parts : List MessagePart} {attributes : Attributes}
  {position : Position} {tag : Tag}

/-- An event that leaves the open message and the record alone. -/
theorem congr (h : c.Follows parts) (hstack : next.stack.message? = c.stack.message?) :
    next.Follows parts := fun m hm => h m (hstack ▸ hm)

theorem follows_messageStack (h : c.Follows parts) {inSuggestion : Bool} {rule : RuleDraft}
    {outer : ScopeStack} (hstack : c.stack = messageStack inSuggestion rule outer) :
    rule.message.Follows rule.declared parts :=
  h (rule.message, rule.declared) (by rw [hstack, message?_messageStack]; rfl)

theorem of_messageStack (inSuggestion : Bool) (rule : RuleDraft) {outer : ScopeStack}
    (hstack : next.stack.message? = (messageStack inSuggestion rule outer).message?)
    (h : rule.message.Follows rule.declared parts) : next.Follows parts := by
  intro m hm
  rw [hstack, message?_messageStack] at hm
  cases hm
  exact h

theorem of_fresh {scope : Scope} (h : c.Follows parts)
    (fresh : Fresh c attributes position tag scope) :
    Compiler.Follows { c with stack := scope :: c.stack }
      (MessagePart.noteStart parts attributes position c.stack tag) := by
  cases fresh with
  | rule hdraft =>
    intro m hm
    cases hm
    obtain ⟨hmessage, hdeclared⟩ := RuleDraft.message_of_ofAttributes hdraft
    dsimp only
    rw [hmessage, hdeclared]
    exact MessageDraft.follows_empty
  | _ => exact h.congr rfl

/-- A start tag adds to the open message what it adds to the record. -/
theorem opens (h : c.Follows parts) (opens : Opens c attributes position tag next) :
    next.Follows (MessagePart.noteStart parts attributes position c.stack tag) := by
  cases opens with
  | fresh fresh => exact h.of_fresh fresh
  | rules hstack => exact nofun
  | unification hstack hfeature => exact nofun
  | token hstack hdraft | andGroup hstack =>
    refine h.congr ?_
    rw [hstack, message?_seat]
    exact message?_seat _ _ _
  | @declaration inSuggestion rule outer declared hstack hdeclared =>
    obtain ⟨number, hnumber, htokenRef⟩ := tokenRef_of_resolveMatch hdeclared
    have hparts : MessagePart.noteStart parts attributes position c.stack .quote =
        parts ++ [.quote declared] := by
      have hpart :
          MessagePart.ofAttributes attributes inSuggestion position = [.quote declared] := by
        rw [MessagePart.ofAttributes, hdeclared]
      rw [hstack, ← hpart]
      cases inSuggestion <;> rfl
    have hfollows := h.follows_messageStack hstack
    have hadded := hfollows.addReference htokenRef (pos_of_referenceNumber hnumber)
    rw [hparts]
    refine of_messageStack inSuggestion (rule.addMatch declared) rfl ?_
    rw [RuleDraft.addMatch, htokenRef]
    exact hadded
  | @suggestion rule outer hstack =>
    have hfollows := h.follows_messageStack hstack
    exact of_messageStack true _ rfl
      (hfollows.addText .opening rfl rfl (.inr rfl))
  | @binding draft outer reference hstack hreference =>
    have hparts : MessagePart.noteStart parts attributes position c.stack .quote = parts := by
      rw [hstack]
      rfl
    rw [hparts]
    exact h.congr (by rw [hstack]; rfl)
  | expansion hstack | inclusion hstack | featureType hstack | marker hstack =>
    exact h.congr (by rw [hstack]; rfl)

/-- Text adds to the open message what it adds to the record. -/
theorem reads {text : String} (h : c.Follows parts) (reads : Reads c text next) :
    next.Follows (MessagePart.noteText parts text c.stack) := by
  cases reads with
  | @message inSuggestion rule outer hstack apart =>
    have hparts : MessagePart.noteText parts text c.stack = parts ++ [.data text] := by
      rw [hstack]
      cases inSuggestion <;> rfl
    have hfollows := h.follows_messageStack hstack
    rw [hparts]
    exact of_messageStack inSuggestion _ rfl
      (hfollows.addText (.data text) rfl rfl apart)
  | nothing hstack =>
    have hparts : MessagePart.noteText parts text c.stack = parts := by
      cases hc : c.stack with
      | nil => rfl
      | cons scope outer =>
        have hscope := hstack scope outer hc
        cases scope <;> first | rfl | cases hscope
    rw [hparts]
    exact h
  | token hstack | exception hstack | sample hstack | short hstack | marker hstack =>
    rw [hstack]
    exact h.congr (by rw [hstack]; rfl)

/-- An end tag adds to the open message what it adds to the record. -/
theorem closes (h : c.Follows parts) (path : c.stack.IsPath) (closes : Closes c position next) :
    next.Follows (MessagePart.noteStop parts c.stack) := by
  cases closes with
  | @silent scope outer hstack silent =>
    rw [hstack]
    cases scope <;> first | exact h.congr (by rw [hstack]; rfl) | cases silent
  | @token draft block pattern outer element hstack helement =>
    rw [hstack]
    refine h.congr ?_
    rw [hstack, message?_seat]
    exact (message?_seat block pattern outer).symm
  | @andGroup first others block pattern outer hstack =>
    rw [hstack]
    refine h.congr ?_
    rw [hstack, message?_seat]
    exact (message?_seat block pattern outer).symm
  | @suggestion rule outer hstack =>
    have hfollows := h.follows_messageStack hstack
    rw [hstack]
    exact of_messageStack false _ rfl
      (hfollows.addText .closing rfl rfl (.inr rfl))
  | @sample draft rule outer hstack =>
    rw [hstack]
    refine h.congr ?_
    rw [hstack]
    cases draft.finish <;> rfl
  | rule hstack hrules =>
    rw [hstack] at path
    have hplace := rulePlace_of_fits path.tail (path.1 .rule rfl)
    intro m hm
    rw [hplace.message?_countRule] at hm
    cases hm
  | phrase hstack halternatives => exact nofun
  | member hstack | phraseToken hstack | typeToken hstack | exception hstack | feature hstack
  | unify hstack | pattern hstack | marker hstack | equivalence hstack =>
    rw [hstack]
    exact h.congr (by rw [hstack]; rfl)

theorem transition {event : Event} (h : c.Follows parts) (path : c.stack.IsPath)
    (transition : Transition c event next) : next.Follows (c.noteMessage parts event) := by
  cases transition with
  | ignore hignored =>
    rw [noteMessage, noteTag_of_ignored hignored]
    exact h.congr rfl
  | start hignored htag fits opens =>
    rw [noteMessage, noteTag_of_tag hignored htag]
    exact h.opens opens
  | text reads => exact h.reads reads
  | stop _ _ closes => exact h.closes path closes

end Compiler.Follows

/-! ## A sample -/

/-- A document with one rule, whose message has the given content. -/
def messageEvents (content : List Event) : List Event :=
  .start "rules" ⟨[]⟩ .unknown :: tagged "rule" [("id", "R")]
    (tagged "pattern" [] (tagged "token" [] [.text "a" .unknown]) ++ tagged "message" [] content)

/-- A placeholder that is written out, a match, and a match in a suggestion. -/
def sampleMessage : List Event :=
  .text "Not \\2 but" .unknown :: tagged "match" [("no", "1")] [] ++
    tagged "suggestion" [] (.text " " .unknown :: tagged "match" [("no", "3")] [])

/-! ## Runs -/

section Run

variable {options : CompileOptions} {events : List Event} {c : Compiler}

/-- After every run the open rule follows what the run has written into its message. -/
theorem follows_of_run (run : replay Compiler.step (Compiler.new options) events = .accepted c) :
    c.Follows (writtenMessage options events) := by
  have keep : ∀ {c : Compiler} {parts : List MessagePart} {event : Event} {next : Compiler},
      c.stack.IsPath → c.Follows parts → Transition (c.moved event.position) event next →
        next.Follows (c.noteMessage parts event) := by
    intro c parts event next path h transition
    have moved : (c.moved event.position).Follows parts := h
    exact moved.transition path transition
  exact (run_induction (c := Compiler.new options) keep trivial nofun run).2

/-- The message of a rule is made of the parts that were written before its end tag. -/
theorem RuleOrigin.message {index : Nat} {rule : Rule}
    (origin : RuleOrigin options events index rule) :
    ∃ message declared,
      MessageDraft.Follows message declared (writtenMessage options origin.before) ∧
      rule.message = (resolveMessage message.segments declared).text ∧
      rule.placeholders = (resolveMessage message.segments declared).placeholders := by
  obtain ⟨variant, -, hrule⟩ := origin.exists_variant
  have hmem : (origin.draft.message, origin.draft.declared) ∈ origin.compiler.stack.message? := by
    rw [origin.stack]
    rfl
  exact ⟨_, _, follows_of_run origin.run _ hmem, congrArg Rule.message hrule,
    congrArg Rule.placeholders hrule⟩

/-- The placeholders in the message of every rule, and their matches, are those of the parts that
were written into the message before the end tag of the rule. -/
theorem placeholders_of_run
    (run : replay Compiler.step (Compiler.new options) events = .accepted c) :
    ∀ (index : Nat) (rule : Rule), c.rules[index]? = some rule →
      ∃ before, AddedAfter options events index before ∧
        Speaks (writtenMessage options before) rule.message rule.placeholders := by
  intro index rule hrule
  obtain ⟨origin⟩ := exists_origin run hrule
  obtain ⟨message, declared, follows, htext, hplaceholders⟩ := origin.message
  refine ⟨origin.before, origin.added, ?_⟩
  rw [htext, hplaceholders]
  exact follows.speaks

/-- The message of the sample speaks for the three placeholders in it, of which two are matches. -/
theorem placeholders_of_run_sample :
    ∃ c rule before, replay Compiler.step (Compiler.new {}) (messageEvents sampleMessage) =
        .accepted c ∧
      c.rules[0]? = some rule ∧ rule.message = "Not \\2 but\\1<suggestion> \\3</suggestion>" ∧
      AddedAfter {} (messageEvents sampleMessage) 0 before ∧
      Speaks (writtenMessage {} before) rule.message rule.placeholders := by
  have run : replay Compiler.step (Compiler.new {}) (messageEvents sampleMessage) =
      .accepted _ := rfl
  obtain ⟨before, added, speaks⟩ := placeholders_of_run run 0 _ rfl
  exact ⟨_, _, before, run, rfl, rfl, added, speaks⟩

/-- The numbers of the matches in the message of a rule are read right unless character data that
begins with a digit follows on a match, behind character data that is empty. -/
theorem numbers_of_run (run : replay Compiler.step (Compiler.new options) events = .accepted c) :
    ∀ (index : Nat) (rule : Rule), c.rules[index]? = some rule →
      ∃ before, AddedAfter options events index before ∧
        (PlaceholdersDenote rule.message rule.placeholders ↔
          ¬ MessagePart.RunsOn (writtenMessage options before)) := by
  intro index rule hrule
  obtain ⟨origin⟩ := exists_origin run hrule
  obtain ⟨message, declared, follows, htext, hplaceholders⟩ := origin.message
  refine ⟨origin.before, origin.added, ?_⟩
  rw [htext, hplaceholders]
  exact follows.denote_iff

/-- In the same message the numbers are read right just if nothing in it runs on. -/
theorem numbers_of_run_sample :
    ∃ c rule before, replay Compiler.step (Compiler.new {}) (messageEvents sampleMessage) =
        .accepted c ∧
      c.rules[0]? = some rule ∧ AddedAfter {} (messageEvents sampleMessage) 0 before ∧
      (PlaceholdersDenote rule.message rule.placeholders ↔
        ¬ MessagePart.RunsOn (writtenMessage {} before)) := by
  have run : replay Compiler.step (Compiler.new {}) (messageEvents sampleMessage) =
      .accepted _ := rfl
  obtain ⟨before, added, hdenote⟩ := numbers_of_run run 0 _ rfl
  exact ⟨_, _, before, run, rfl, added, hdenote⟩

end Run

/-- A match, then empty character data, then a digit. -/
def runningOn : List Event :=
  tagged "match" [("no", "1")] [] ++ [.text "" .unknown, .text "0" .unknown]

/-- The number of the match is misread: the message is `\10`, and its match has the number one. -/
theorem not_denote_runningOn :
    ∃ c rule, replay Compiler.step (Compiler.new {}) (messageEvents runningOn) = .accepted c ∧
      rule ∈ c.rules ∧ ¬ PlaceholdersDenote rule.message rule.placeholders := by
  have run : replay Compiler.step (Compiler.new {}) (messageEvents runningOn) = .accepted _ := rfl
  refine ⟨_, _, run, .head _, fun hdenote => ?_⟩
  have hvalue : Text.valueOf ['1', '0'] = 1 := hdenote [] ['1', '0'] _ 1 rfl rfl rfl rfl
  exact absurd hvalue (by decide)

end GrammarRules
