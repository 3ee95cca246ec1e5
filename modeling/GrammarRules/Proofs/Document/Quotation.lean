import GrammarRules.Proofs.Document.Message

/-!
# What the numbers in a message quote

The elements of a rule get new numbers for every choice among the slots of its pattern, and a
reference to a slot becomes one to its last token.  The message is made once, for all choices, and
keeps the numbers that the author wrote (`Quotes`).  So a match in a message quotes the last token
of its slot just if no slot up to this one takes more than one token (`quotations_of_run`).
-/

namespace GrammarRules

/-! ## The numbers that a message shows -/

theorem exists_of_lt_placeholderCount {cs : List Char} {index : Nat}
    (h : index < placeholderCount cs) :
    ∃ before after, cs = before ++ '\\' :: after ∧ startsWithDigit after = true ∧
      placeholderCount before = index := by
  induction cs generalizing index with
  | nil => cases h
  | cons c cs ih =>
    by_cases hc : (c == '\\' && startsWithDigit cs) = true
    · obtain ⟨hbackslash, hdigit⟩ := Bool.and_eq_true_iff.1 hc
      obtain rfl := eq_of_beq hbackslash
      cases index with
      | zero => exact ⟨[], cs, rfl, hdigit, rfl⟩
      | succ index =>
        rw [placeholderCount, if_pos hc, Nat.add_comm 1] at h
        obtain ⟨before, after, rfl, hafter, rfl⟩ := ih (Nat.lt_of_succ_lt_succ h)
        have hbefore : startsWithDigit before = true := by
          rwa [startsWithDigit_append rfl] at hdigit
        refine ⟨'\\' :: before, after, rfl, hafter, ?_⟩
        rw [placeholderCount, hbefore]
        exact Nat.add_comm _ _
    · rw [placeholderCount, if_neg hc, Nat.zero_add] at h
      obtain ⟨before, after, rfl, hafter, rfl⟩ := ih h
      refine ⟨c :: before, after, rfl, hafter, ?_⟩
      rw [startsWithDigit_append rfl] at hc
      rw [placeholderCount, if_neg hc, Nat.zero_add]

/-- A placeholder whose match has a number is written with this number. -/
theorem MessageDraft.Spells.exists_shown {message : MessageDraft} {declared : List Match}
    {parts : List MessagePart} (h : message.Spells declared parts) {index number : Nat}
    {found : Match}
    (hfound : (resolveMessage message.segments declared).placeholders[index]? = some found)
    (hnumber : found.tokenRef = some number) :
    ∃ before after, (resolveMessage message.segments declared).text.toList =
        before ++ '\\' :: (Text.numeral number ++ after) ∧ placeholderCount before = index := by
  have hlt := (List.getElem?_eq_some_iff.1 hfound).1
  rw [h.speaks.length] at hlt
  obtain ⟨before, after, htext, hdigit, rfl⟩ := exists_of_lt_placeholderCount hlt
  obtain ⟨init, rest, -, rfl⟩ := h.exists_quote htext hdigit hfound hnumber
  have hnumeral := takeWhile_isDigit_numeral number (MessagePart.written rest)
  have hsplit := List.takeWhile_append_dropWhile (p := Text.isDigit)
    (l := Text.squeezeAfter (Text.numeral number ++ MessagePart.written rest))
  rw [hnumeral, List.append_assoc] at hsplit
  exact ⟨before, _, hsplit.symm ▸ htext, rfl⟩

/-- In a message with the matches `declared` those up to number `slots` have the numbers that
`physical` gives them, one after the other, and every match with a number stands where the message
shows this number. -/
structure Quotes (declared : List Match) (slots : Nat) (physical : Nat → Nat) (rule : Rule) :
    Prop where
  numbers : List.Forall₂
    (fun written placeholder => ∀ number, written.tokenRef = some number → number ≤ slots →
      placeholder.tokenRef = some (physical number))
    declared (rule.placeholders.filter (·.tokenRef.isSome))
  shown : ∀ (index : Nat) (placeholder : Match) (number : Nat),
    rule.placeholders[index]? = some placeholder → placeholder.tokenRef = some number →
    ∃ before after, rule.message.toList = before ++ '\\' :: (Text.numeral number ++ after) ∧
      placeholderCount before = index

/-- The numbers of matches that are the same in the message are the right ones only if they are not
to be changed. -/
theorem Quotes.iff_of_eq {declared : List Match} {slots : Nat} {physical : Nat → Nat} {rule : Rule}
    (h : Quotes declared slots id rule)
    (hdeclared : rule.placeholders.filter (·.tokenRef.isSome) = declared) :
    Quotes declared slots physical rule ↔
      ∀ written ∈ declared, ∀ number, written.tokenRef = some number → number ≤ slots →
        physical number = number := by
  have hnumbers : List.Forall₂
      (fun written placeholder => ∀ number, written.tokenRef = some number → number ≤ slots →
        placeholder.tokenRef = some (physical number)) declared declared ↔
      ∀ written ∈ declared, ∀ number, written.tokenRef = some number → number ≤ slots →
        physical number = number := by
    rw [List.forall₂_same]
    refine forall₂_congr fun written _ => forall₃_congr fun number hnumber _ => ?_
    rw [hnumber, Option.some.injEq]
    exact eq_comm
  constructor
  · intro hquotes
    exact hnumbers.1 (hdeclared ▸ hquotes.numbers)
  · intro hsame
    exact ⟨hdeclared.symm ▸ hnumbers.2 hsame, h.shown⟩

/-! ## The last token of a slot -/

namespace Piece

/-- A number is that of the last token of its slot if each slot up to it takes one token. -/
theorem extent_take_eq_iff {pieces : List Piece} (filled : Filled pieces) {number : Nat}
    (h : number ≤ pieces.length) :
    extent (pieces.take number) = number ↔
      ∀ piece ∈ pieces.take number, piece.elements.length = 1 := by
  induction number generalizing pieces with
  | zero => simp
  | succ number ih =>
    cases pieces with
    | nil => cases h
    | cons piece pieces =>
      have hpos : 1 ≤ piece.elements.length :=
        List.length_pos_iff.2 (filled piece List.mem_cons_self)
      have hlength : (pieces.take number).length = number :=
        List.length_take_of_le (Nat.le_of_succ_le_succ h)
      have hextent := SoundPieces.length_le_extent
        (fun p hp => filled.tail p (List.mem_of_mem_take hp) : Filled (pieces.take number))
      rw [List.take_succ_cons, extent_cons, List.forall_mem_cons,
        ← ih filled.tail (Nat.le_of_succ_le_succ h)]
      omega

/-- A reference that does not stand in a phrase becomes one to the last token of its slot, in 32
bits. -/
theorem correctedNumber_eq_extent {pieces : List Piece} (filled : Filled pieces) {index : Nat}
    (hout : ∀ span ∈ (layout pieces).spans, span.covers index = false) {number : Nat}
    (hpos : 1 ≤ number) (hle : number ≤ pieces.length) :
    correctedNumber (layout pieces).spans index number = word32 (extent (pieces.take number)) := by
  rw [correctedNumber_of_not_covers hout, layout, physicalNumber_spans filled hpos,
    Nat.sub_eq_zero_of_le hle, Nat.add_zero]

end Piece

/-! ## Runs -/

/-- A rule, up to its end tag, where a token and the message quote the slot behind a phrase of two
tokens. -/
def quotingEvents : List Event :=
  .start "rules" ⟨[]⟩ .unknown ::
    tagged "phrases" [] (tagged "phrase" [("id", "P")]
      (tagged "token" [] [.text "a" .unknown] ++ tagged "token" [] [.text "b" .unknown])) ++
    .start "rule" ⟨[("id", "R")]⟩ .unknown ::
      tagged "pattern" []
        (tagged "phraseref" [("idref", "P")] [] ++ tagged "token" [] [.text "c" .unknown] ++
          tagged "token" [] (tagged "match" [("no", "2")] [])) ++
      tagged "message" [] (tagged "match" [("no", "2")] [])

section Run

variable {options : CompileOptions} {events : List Event} {c : Compiler}

/-- The matches that a document writes into the message of its last rule. -/
def writtenMatches (options : CompileOptions) (events : List Event) : List Match :=
  (writtenMessage options events).filterMap MessagePart.declared?

/-- For every choice of alternatives a reference in the pattern becomes one to the last token of its
slot, in 32 bits, and a match in the message is one to the token with the number that was written.
Both quote the same tokens just if each slot up to those of the matches takes a single token. -/
theorem quotations_of_run
    (run : replay Compiler.step (Compiler.new options) events = .accepted c) :
    ∀ (index : Nat) (rule : Rule), c.rules[index]? = some rule →
      ∃ before indices, AddedAfter options events index before ∧
        (Slot.indexChoices ((writtenSlots options before).map Slot.width))[index -
          ruleCount options before]? = some indices ∧
        IsChoice (writtenSlots options before) indices rule.elements ∧
        (∀ number, 1 ≤ number → number ≤ (writtenSlots options before).length →
          ∀ place, (∀ span ∈ (Piece.layout (Slot.pick (writtenSlots options before) indices)).spans,
            span.covers place = false) →
          correctedNumber (Piece.layout (Slot.pick (writtenSlots options before) indices)).spans
              place number =
            word32
              (Piece.extent ((Slot.pick (writtenSlots options before) indices).take number))) ∧
        rule.placeholders.filter (·.tokenRef.isSome) = writtenMatches options before ∧
        Quotes (writtenMatches options before) (writtenSlots options before).length id rule ∧
        (Quotes (writtenMatches options before) (writtenSlots options before).length
            (fun number =>
              Piece.extent ((Slot.pick (writtenSlots options before) indices).take number)) rule ↔
          ∀ written ∈ writtenMatches options before, ∀ number, written.tokenRef = some number →
            number ≤ (writtenSlots options before).length →
            ∀ piece ∈ (Slot.pick (writtenSlots options before) indices).take number,
              piece.elements.length = 1) := by
  intro index rule hrule
  obtain ⟨origin⟩ := exists_origin run hrule
  obtain ⟨indices, hindices, hsound, hchoice⟩ := origin.exists_choice
  obtain ⟨message, declared, follows, htext, hplaceholders⟩ := origin.message
  have hdeclared : rule.placeholders.filter (·.tokenRef.isSome) =
      writtenMatches options origin.before := by
    rw [hplaceholders, follows.speaks.declared, writtenMatches]
  have hquotes : Quotes (writtenMatches options origin.before)
      (writtenSlots options origin.before).length id rule := by
    refine ⟨?_, fun place placeholder number hplaceholder hnumber => ?_⟩
    · rw [hdeclared]
      exact List.forall₂_same.2 fun _ _ _ hnumber _ => hnumber
    · rw [hplaceholders] at hplaceholder
      rw [htext]
      exact follows.exists_shown hplaceholder hnumber
  refine ⟨origin.before, indices, origin.added, hindices, hchoice,
    fun number hpos hle place hout => ?_, hdeclared, hquotes, ?_⟩
  · exact Piece.correctedNumber_eq_extent hsound.filled hout hpos (hchoice.length_pick.symm ▸ hle)
  · rw [hquotes.iff_of_eq hdeclared]
    refine forall₂_congr fun written _ => forall₃_congr fun number _ hle => ?_
    exact Piece.extent_take_eq_iff hsound.filled (hchoice.length_pick.symm ▸ hle)

/-- The message of the sample shows the number that was written, whatever the phrase before it
takes. -/
theorem quotations_of_run_sample :
    ∃ c rule before indices,
      replay Compiler.step (Compiler.new {}) (quotingEvents ++ [.stop "rule" .unknown]) =
        .accepted c ∧
      c.rules[0]? = some rule ∧ rule.message = "\\2" ∧
      AddedAfter {} (quotingEvents ++ [.stop "rule" .unknown]) 0 before ∧
      IsChoice (writtenSlots {} before) indices rule.elements ∧
      rule.placeholders.filter (·.tokenRef.isSome) = writtenMatches {} before ∧
      Quotes (writtenMatches {} before) (writtenSlots {} before).length id rule := by
  have run : replay Compiler.step (Compiler.new {}) (quotingEvents ++ [.stop "rule" .unknown]) =
      .accepted _ := rfl
  obtain ⟨before, indices, added, -, hchoice, -, hdeclared, hquotes, -⟩ :=
    quotations_of_run run 0 _ rfl
  exact ⟨_, _, before, indices, run, rfl, rfl, added, hchoice, hdeclared, hquotes⟩

end Run

/-- The token quotes the last token of its slot, the third of the rule, and the message quotes the
second. -/
theorem not_quotes_quotingEvents :
    ∃ c rule, replay Compiler.step (Compiler.new {}) (quotingEvents ++ [.stop "rule" .unknown]) =
        .accepted c ∧
      c.rules[0]? = some rule ∧ rule.elements.map Element.text = ["a", "b", "c", "\\3"] ∧
      rule.message = "\\2" ∧
      Slot.indexChoices ((writtenSlots {} quotingEvents).map Slot.width) = [[0, 0, 0]] ∧
      Piece.extent ((Slot.pick (writtenSlots {} quotingEvents) [0, 0, 0]).take 2) = 3 ∧
      ¬ Quotes (writtenMatches {} quotingEvents) (writtenSlots {} quotingEvents).length
        (fun number =>
          Piece.extent ((Slot.pick (writtenSlots {} quotingEvents) [0, 0, 0]).take number))
        rule := by
  have run : replay Compiler.step (Compiler.new {}) (quotingEvents ++ [.stop "rule" .unknown]) =
      .accepted _ := rfl
  have hwritten : writtenMatches {} quotingEvents =
      [{ tokenRef := some 2, messageOnly := true }] := rfl
  have hslots : (writtenSlots {} quotingEvents).length = 3 := rfl
  have hextent : Piece.extent ((Slot.pick (writtenSlots {} quotingEvents) [0, 0, 0]).take 2) = 3 :=
    rfl
  obtain ⟨rule, hrule, htexts, hmessage, hplaceholders⟩ :
      ∃ rule, (replay Compiler.step (Compiler.new {})
          (quotingEvents ++ [.stop "rule" .unknown])).state.rules[0]? = some rule ∧
        rule.elements.map Element.text = ["a", "b", "c", "\\3"] ∧ rule.message = "\\2" ∧
        rule.placeholders = [{ tokenRef := some 2, messageOnly := true }] :=
    ⟨_, rfl, rfl, rfl, rfl⟩
  refine ⟨_, rule, run, hrule, htexts, hmessage, rfl, hextent, fun hquotes => ?_⟩
  have hnumbers := hquotes.numbers
  rw [hwritten, hplaceholders, hslots] at hnumbers
  obtain ⟨hnumber, -⟩ := List.forall₂_cons.1 hnumbers
  have hsame := hnumber 2 rfl (by decide)
  rw [hextent] at hsame
  cases hsame

end GrammarRules
