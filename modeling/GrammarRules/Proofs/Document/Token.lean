import GrammarRules.Proofs.Document.Chunks
import GrammarRules.Proofs.Document.Idle
import GrammarRules.Proofs.Document.Reachable
import GrammarRules.Proofs.Token.Reading

/-!
# The machine reads tokens one by one

Between the start tag of a token and its end tag the compiler keeps a draft and takes one event
after another.  What it hands over in the end is `readToken` of the attributes and the content of
this one token, whatever has been read before (`Compiler.token_of_replay`).  In the token only
matches, exceptions and elements without a meaning may stand, and in a match or an exception only
the last of these, so each child does to the draft what its part of the content says
(`Compiler.replay_token`).
-/

namespace GrammarRules

open ScopeStack

/-- The element goes to what collects it: to the pattern as a slot, with the features of the
unification block that it stands in, if it does; to the group, the phrase, or the elements that
stand for a type of a feature. -/
inductive HandsOver (element : Element) : ScopeStack → ScopeStack → Prop
  | slot (block : Option (Table (List String))) (pattern : PatternDraft) (outer : ScopeStack) :
      HandsOver element (seat block pattern outer)
        (seat block (pattern.countToken.push (inBlock block element)) outer)
  | member (members : List Element) (outer : ScopeStack) :
      HandsOver element (.andGroup members :: outer) (.andGroup (members ++ [element]) :: outer)
  | phrase (phrase : PhraseDraft) (outer : ScopeStack) :
      HandsOver element (.phrase phrase :: outer) (.phrase (phrase.push element) :: outer)
  | equivalence (type : String) (elements : List Element) (outer : ScopeStack) :
      HandsOver element (.equivalence type elements :: outer)
        (.equivalence type (elements ++ [element]) :: outer)

namespace Compiler

variable {c next : Compiler} {outer : ScopeStack}

/-- The compiler with other open elements and the last position moved. -/
def restack (c : Compiler) (stack : ScopeStack) (position : Position) : Compiler :=
  { c with stack, lastPosition := position }

theorem restack_restack (c : Compiler) (stack stack' : ScopeStack)
    (position position' : Position) :
    (c.restack stack position).restack stack' position' = c.restack stack' position' := rfl

theorem restack_of_stack_eq {stack : ScopeStack} (h : c.stack = stack) (position : Position) :
    c.restack stack position = c.moved position := by
  subst h
  rfl

/-! ## Events in a token -/

/-- A start tag with a meaning is accepted only where it may stand. -/
theorem fits_of_start {tag : Tag} {attributes : Attributes} {position : Position}
    (hignored : c.inIgnored = false)
    (hstep : c.step (.start tag.name attributes position) = .accepted next) :
    tag.fitsOn c.stack = true ∧
      (c.moved position).startTag tag attributes position = .accepted next := by
  have hstart : (c.moved position).start tag.name attributes position = .accepted next := hstep
  have hmoved : (c.moved position).inIgnored = false := hignored
  unfold start at hstart
  rw [hmoved, tag.ofName?_name] at hstart
  obtain ⟨_, hparent, hnext⟩ := exists_of_check hstart
  exact ⟨fitsOn_of_requireParent hparent, hnext⟩

theorem inIgnored_eq_false {scope : Scope} {tag : Tag} (hstack : c.stack = scope :: outer)
    (htag : scope.tag? = some tag) : c.inIgnored = false := by
  unfold inIgnored
  rw [hstack]
  cases scope <;> first | rfl | cases htag

section Events

variable {draft : TokenDraft} {attributes : Attributes} {data : String} {position : Position}

theorem step_text_token (hstack : c.stack = .token draft :: outer) (data : String)
    (position : Position) :
    c.step (.text data position) =
      .accepted (c.restack (.token (draft.addText data) :: outer) position) := by
  obtain ⟨options, stack, phrases, output, last⟩ := c
  cases hstack
  rfl

theorem step_text_exception {exception : ExceptionDraft}
    (hstack : c.stack = .exception exception :: outer) (data : String) (position : Position) :
    c.step (.text data position) =
      .accepted (c.restack (.exception (exception.addText data) :: outer) position) := by
  obtain ⟨options, stack, phrases, output, last⟩ := c
  cases hstack
  rfl

theorem step_text_quote (hstack : c.stack = .quote :: outer) (data : String)
    (position : Position) :
    c.step (.text data position) = .accepted (c.restack (.quote :: outer) position) := by
  obtain ⟨options, stack, phrases, output, last⟩ := c
  cases hstack
  rfl

theorem eq_of_start_exception (hstack : c.stack = .token draft :: outer)
    (hstep : c.step (.start Tag.exception.name attributes position) = .accepted next) :
    next = c.restack
      (.exception (ExceptionDraft.ofAttributes attributes) :: .token draft :: outer) position := by
  obtain ⟨options, stack, phrases, output, last⟩ := c
  cases hstack
  obtain ⟨-, hopens⟩ := fits_of_start rfl hstep
  cases hopens
  rfl

theorem eq_of_start_quote (hstack : c.stack = .token draft :: outer)
    (hstep : c.step (.start Tag.quote.name attributes position) = .accepted next) :
    next = c.restack (.quote :: .token (draft.bind attributes.quote) :: outer) position := by
  obtain ⟨options, stack, phrases, output, last⟩ := c
  cases hstack
  obtain ⟨-, hopens⟩ := fits_of_start rfl hstep
  obtain ⟨reference, hreference, hopens⟩ := exists_of_check hopens
  cases hopens
  rw [eq_quote_of_resolveMatch hreference]
  rfl

theorem eq_of_stop_exception
    (hstack : c.stack = .exception ((ExceptionDraft.ofAttributes attributes).addText data) ::
      .token draft :: outer)
    (hstep : c.step (.stop Tag.exception.name position) = .accepted next) :
    next = c.restack (.token (draft.addException (readException attributes data)) :: outer)
      position := by
  obtain ⟨options, stack, phrases, output, last⟩ := c
  cases hstack
  obtain ⟨exception, hexception, hcloses⟩ := exists_of_check hstep
  cases hcloses
  rw [eq_readException_of_finish hexception]
  rfl

theorem eq_of_stop_quote (hstack : c.stack = .quote :: outer)
    (hstep : c.step (.stop Tag.quote.name position) = .accepted next) :
    next = c.restack outer position := by
  obtain ⟨options, stack, phrases, output, last⟩ := c
  cases hstack
  cases hstep
  rfl

end Events

/-! ## Elements in a token -/

/-- An element splits into its start tag, its content and its end tag, and what comes after it. -/
theorem exists_of_replay_element {name : String} {attributes : Attributes}
    {opened closed : Position} {inner rest : Content}
    (run : replay step c (Content.element name attributes opened inner closed rest).events =
      .accepted next) :
    ∃ first second third, c.step (.start name attributes opened) = .accepted first ∧
      replay step first inner.events = .accepted second ∧
      second.step (.stop name closed) = .accepted third ∧
      replay step third rest.events = .accepted next := by
  rw [Content.events, List.cons_append] at run
  obtain ⟨first, hfirst, run⟩ := replay_cons_eq_accepted run
  obtain ⟨second, hsecond, run⟩ := exists_of_replay_append run
  obtain ⟨third, hthird, hrest⟩ := replay_cons_eq_accepted run
  exact ⟨first, second, third, hfirst, hsecond, hthird, hrest⟩

/-- An element without a meaning leaves no trace. -/
theorem replay_unknown {name : String} (hname : ∀ tag : Tag, tag.name ≠ name)
    {attributes : Attributes} {opened closed : Position} {inner rest : Content}
    (run : replay step c (Content.element name attributes opened inner closed rest).events =
      .accepted next) :
    replay step (c.moved closed) rest.events = .accepted next := by
  have hidle : c.Idle closed
      (.start name attributes opened :: inner.events ++ [.stop name closed]) :=
    .element attributes opened hname inner.nested_events
  rw [Content.events, List.append_cons, replay_append, hidle.replay_eq] at run
  exact run

/-- In an element in which no tag may stand, only the text counts that stands directly in it.  What
the text `data` makes of the element is `shape data`. -/
theorem replay_bare (tag : Tag) (shape : String → Scope)
    (hbare : ∀ child : Tag, child.mayStandIn (some tag) = false)
    (htag : ∀ data, (shape data).tag? = some tag)
    (htext : ∀ (c : Compiler) (data more : String) (position : Position),
      c.stack = shape data :: outer → c.step (.text more position) =
        .accepted (c.restack (shape (data ++ more) :: outer) position))
    (data : String) (hstack : c.stack = shape data :: outer) (content : Content)
    (run : replay step c content.events = .accepted next) :
    ∃ position, next = c.restack (shape (data ++ content.ownText) :: outer) position := by
  induction content generalizing c data with
  | empty =>
    cases run
    refine ⟨next.lastPosition, ?_⟩
    rw [Content.ownText, String.append_empty, restack_of_stack_eq hstack]
    rfl
  | text more position rest ih =>
    obtain ⟨second, hsecond, run⟩ := replay_cons_eq_accepted run
    rw [htext c data more position hstack] at hsecond
    cases hsecond
    obtain ⟨last, hlast⟩ := ih (data ++ more) rfl run
    rw [restack_restack, String.append_assoc] at hlast
    exact ⟨last, hlast⟩
  | element name attributes opened inner closed rest ihinner ihrest =>
    obtain ⟨first, -, -, hstart, -, -, -⟩ := exists_of_replay_element run
    have hname : ∀ child : Tag, child.name ≠ name := by
      rintro child rfl
      obtain ⟨fits, -⟩ := fits_of_start (inIgnored_eq_false hstack (htag data)) hstart
      rw [hstack, Tag.fitsOn, List.head?_cons] at fits
      dsimp only at fits
      rw [htag data, Option.any_some, hbare child] at fits
      cases fits
    exact ihrest (c := c.moved closed) data hstack (replay_unknown hname run)

/-- The content of an exception adds its text to the exception. -/
theorem replay_exception {exception : ExceptionDraft}
    (hstack : c.stack = .exception exception :: outer) (content : Content)
    (run : replay step c content.events = .accepted next) :
    ∃ position, next =
      c.restack (.exception (exception.addText content.ownText) :: outer) position := by
  have hempty : exception.addText "" = exception := by
    rw [ExceptionDraft.addText, String.append_empty]
  rw [← hempty] at hstack
  have htext : ∀ (c : Compiler) (data more : String) (position : Position),
      c.stack = .exception (exception.addText data) :: outer →
        c.step (.text more position) = .accepted
          (c.restack (.exception (exception.addText (data ++ more)) :: outer) position) := by
    intro c data more position hstack
    rw [step_text_exception hstack, ExceptionDraft.addText_addText]
  obtain ⟨position, hnext⟩ := replay_bare .exception
    (fun data => .exception (exception.addText data)) (fun child => by cases child <;> rfl)
    (fun _ => rfl) htext "" hstack content run
  rw [String.empty_append] at hnext
  exact ⟨position, hnext⟩

/-- The content of a match has no effect. -/
theorem replay_quote (hstack : c.stack = .quote :: outer) (content : Content)
    (run : replay step c content.events = .accepted next) :
    ∃ position, next = c.restack (.quote :: outer) position :=
  replay_bare .quote (fun _ => .quote) (fun child => by cases child <;> rfl) (fun _ => rfl)
    (fun _ _ more position hstack => step_text_quote hstack more position) "" hstack content run

/-! ## The content of a token -/

theorem eq_of_fits_token {draft : TokenDraft} {tag : Tag}
    (h : tag.fitsOn (.token draft :: outer) = true) : tag = .exception ∨ tag = .quote := by
  cases tag with
  | exception => exact .inl rfl
  | quote => exact .inr rfl
  | _ => cases h

/-- The content of a token gives the draft its parts, one after another. -/
theorem replay_token {draft : TokenDraft} (hstack : c.stack = .token draft :: outer)
    (content : Content) (run : replay step c content.events = .accepted next) :
    ∃ position, next =
      c.restack (.token (content.parts.foldl TokenDraft.take draft) :: outer) position := by
  induction content generalizing c draft with
  | empty =>
    cases run
    refine ⟨next.lastPosition, ?_⟩
    rw [Content.parts, List.foldl_nil, restack_of_stack_eq hstack]
    rfl
  | text data position rest ih =>
    obtain ⟨second, hsecond, run⟩ := replay_cons_eq_accepted run
    rw [step_text_token hstack] at hsecond
    cases hsecond
    obtain ⟨last, hlast⟩ := ih rfl run
    exact ⟨last, hlast⟩
  | element name attributes opened inner closed rest ihinner ihrest =>
    cases htag : Tag.ofName? name with
    | none =>
      have hname := Tag.ofName?_eq_none_iff.1 htag
      rw [Content.parts_unknown hname]
      exact ihrest (c := c.moved closed) hstack (replay_unknown hname run)
    | some tag =>
      obtain rfl := Tag.name_of_ofName? htag
      obtain ⟨first, second, third, hfirst, hsecond, hthird, hrest⟩ := exists_of_replay_element run
      obtain ⟨fits, -⟩ := fits_of_start (inIgnored_eq_false hstack rfl) hfirst
      rw [hstack] at fits
      rcases eq_of_fits_token fits with rfl | rfl
      · obtain rfl := eq_of_start_exception hstack hfirst
        obtain ⟨position, rfl⟩ := replay_exception rfl inner hsecond
        obtain rfl := eq_of_stop_exception rfl hthird
        obtain ⟨last, hlast⟩ := ihrest rfl hrest
        exact ⟨last, hlast⟩
      · obtain rfl := eq_of_start_quote hstack hfirst
        obtain ⟨position, rfl⟩ := replay_quote rfl inner hsecond
        obtain rfl := eq_of_stop_quote rfl hthird
        obtain ⟨last, hlast⟩ := ihrest rfl hrest
        exact ⟨last, hlast⟩

/-! ## Whole tokens -/

section Whole

variable {options : CompileOptions} {attributes : Attributes} {opened closed : Position}
  {content : Content}

/-- The end tag of a token hands the element over. -/
theorem eq_of_stop_token {draft : TokenDraft} (hstack : c.stack = .token draft :: outer)
    (hstep : c.step (.stop Tag.token.name closed) = .accepted next) :
    next = c.restack (ScopeStack.attach draft.written outer) closed := by
  obtain ⟨options, stack, phrases, output, last⟩ := c
  cases hstack
  obtain ⟨element, helement, hcloses⟩ := exists_of_check hstep
  cases hcloses
  rw [TokenDraft.eq_written_of_finish helement]
  rfl

/-- A start tag of a token opens a draft with its attributes, where a slot has been counted if the
token begins one, and then everything is ready for the element. -/
theorem exists_of_start_token (path : c.stack.IsPath) (hignored : c.inIgnored = false)
    (hstep : c.step (.start Tag.token.name attributes opened) = .accepted next) :
    ∃ (draft : TokenDraft) (stack : ScopeStack),
      TokenDraft.ofAttributes attributes c.stack.caseSensitive opened = .ok draft ∧
      next = c.restack (.token draft :: stack) opened ∧
      ∀ element, HandsOver element c.stack (ScopeStack.attach element stack) := by
  obtain ⟨fits, opens⟩ := opens_of_start path hignored hstep
  cases opens with
  | @token block pattern outer draft hstack hdraft =>
    refine ⟨draft, seat block pattern.countToken outer, hdraft, rfl, fun element => ?_⟩
    have hseat : c.stack = seat block pattern outer := hstack
    have hattach : ScopeStack.attach element (seat block pattern.countToken outer) =
        seat block (pattern.countToken.push (inBlock block element)) outer := by
      cases block <;> rfl
    rw [hseat, hattach]
    exact .slot block pattern outer
  | fresh fresh =>
    cases fresh with
    | @token draft hdraft apart =>
      refine ⟨draft, c.stack, hdraft, rfl, fun element => ?_⟩
      have place := tokenPlace_of_fits path fits
      generalize hstack : c.stack = stack at place
      cases place with
      | slot block pattern outer => exact absurd hstack (apart block pattern outer)
      | member members block pattern outer => exact .member members _
      | phrase phrase => exact .phrase phrase _
      | equivalence type elements feature => exact .equivalence type elements _

/-- A token that is accepted hands over the element that is read of its attributes and its content
and of nothing else but the case sensitivity of the pattern around it.  No other part of the
compiler changes. -/
theorem token_of_replay (reachable : c.Reachable options) (hignored : c.inIgnored = false)
    (run : replay step c
      (.start "token" attributes opened :: content.events ++ [.stop "token" closed]) =
        .accepted next) :
    ∃ stack, HandsOver (readToken attributes c.stack.caseSensitive content) c.stack stack ∧
      next = { c with stack, lastPosition := closed } := by
  obtain ⟨path, -⟩ := reachable.sound
  rw [List.cons_append] at run
  obtain ⟨first, hfirst, run⟩ := replay_cons_eq_accepted run
  obtain ⟨second, hsecond, run⟩ := exists_of_replay_append run
  obtain ⟨third, hthird, run⟩ := replay_cons_eq_accepted run
  cases run
  obtain ⟨draft, outer, hdraft, rfl, hands⟩ := exists_of_start_token path hignored hfirst
  obtain ⟨position, rfl⟩ := replay_token rfl content hsecond
  obtain rfl := eq_of_stop_token rfl hthird
  refine ⟨_, hands _, ?_⟩
  rw [TokenDraft.written_foldl_take hdraft]
  rfl

end Whole

end Compiler

/-- A case sensitive pattern with one token. -/
def tokenEvents : List Event :=
  [.start "rules" ⟨[]⟩ .unknown, .start "rule" ⟨[("id", "R")]⟩ .unknown,
    .start "pattern" ⟨[("case_sensitive", "yes")]⟩ .unknown] ++
    tagged "token" [] [.text "a" .unknown]

/-- Text around a match and two exceptions, one of them in front of an element without a meaning in
which a token stands. -/
def tokenContent : Content :=
  .text " b " .unknown <|
  .element "exception" ⟨[("scope", "next")]⟩ .unknown (.text " c" .unknown .empty) .unknown <|
  .element "match" ⟨[("no", " +01 ")]⟩ .unknown (.text "d" .unknown .empty) .unknown <|
  .element "exception" ⟨[("postag", "NN"), ("negate", "yes")]⟩ .unknown .empty .unknown <|
  .element "b" ⟨[]⟩ .unknown
    (.element "token" ⟨[("negate", "yes")]⟩ .unknown (.text "e" .unknown .empty) .unknown .empty)
    .unknown <|
  .text "f" .unknown .empty

/-- What is read of the content. -/
example : (readToken ⟨[("skip", "2")]⟩ true tokenContent).text = "b \\1f" ∧
    (readToken ⟨[("skip", "2")]⟩ true tokenContent).exceptions =
      [readException ⟨[("scope", "next")]⟩ " c",
        readException ⟨[("postag", "NN"), ("negate", "yes")]⟩ ""] := by
  decide +kernel

/-- The token is accepted behind the first one, whose reading is of no account to it. -/
theorem token_of_replay_sample :
    ∃ c next stack, replay Compiler.step (Compiler.new {}) tokenEvents = .accepted c ∧
      replay Compiler.step c (.start "token" ⟨[("skip", "2")]⟩ .unknown :: tokenContent.events ++
        [.stop "token" .unknown]) = .accepted next ∧
      HandsOver (readToken ⟨[("skip", "2")]⟩ true tokenContent) c.stack stack ∧
      next = { c with stack, lastPosition := .unknown } := by
  let c := (replay Compiler.step (Compiler.new {}) tokenEvents).state
  have before : replay Compiler.step (Compiler.new {}) tokenEvents = .accepted c :=
    Outcome.eq_accepted (by decide +kernel)
  have run : replay Compiler.step c (.start "token" ⟨[("skip", "2")]⟩ .unknown ::
      tokenContent.events ++ [.stop "token" .unknown]) = .accepted
        (replay Compiler.step c (.start "token" ⟨[("skip", "2")]⟩ .unknown ::
          tokenContent.events ++ [.stop "token" .unknown])).state :=
    Outcome.eq_accepted (by decide +kernel)
  have sensitive : c.stack.caseSensitive = true := by decide +kernel
  obtain ⟨stack, hands, hnext⟩ :=
    Compiler.token_of_replay (Compiler.Reachable.new.replay before) (by decide +kernel) run
  rw [sensitive] at hands
  exact ⟨c, _, stack, before, run, hands, hnext⟩

end GrammarRules
