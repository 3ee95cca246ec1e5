import GrammarRules.Proofs.Message.Placeholder

/-!
# Reading the placeholders of a message

A placeholder is read as a backslash with as many ASCII digits as follow.  The number of a match is
read right unless character data goes on with a digit.  Such data is refused right after a match,
but not if empty character data comes first; so there is one way in which a number is misread
(`MessageDraft.Follows.denote_iff`).
-/

namespace GrammarRules

/-- Every placeholder whose match has a number is read as this number. -/
def PlaceholdersDenote (message : String) (placeholders : List Match) : Prop :=
  ∀ before after found number, message.toList = before ++ '\\' :: after →
    startsWithDigit after = true → placeholders[placeholderCount before]? = some found →
    found.tokenRef = some number → Text.valueOf (after.takeWhile Text.isDigit) = number

namespace MessagePart

/-- A digit follows on a match, with empty character data between them. -/
def RunsOn (parts : List MessagePart) : Prop :=
  ∃ init declared rest, parts = init ++ .quote declared :: .data "" :: rest ∧
    startsWithDigit (written rest) = true

/-- If a digit follows on a match there is empty character data right after the match. -/
def Apart (parts : List MessagePart) : Prop :=
  ∀ init declared rest, parts = init ++ .quote declared :: rest →
    startsWithDigit (written rest) = true → ∃ later, rest = .data "" :: later

theorem apart_nil : Apart [] := fun init _ _ h => by simp at h

/-- A part without text is empty character data. -/
theorem eq_data_of_chars_eq_nil {part : MessagePart}
    (numbered : ∀ d, part = .quote d → ∃ number, d.tokenRef = some number)
    (h : part.chars = []) : part = .data "" := by
  cases part with
  | data text => rw [String.toList_eq_nil_iff.1 h]
  | opening | closing => exact absurd h (by decide)
  | quote d =>
    obtain ⟨number, hnumber⟩ := numbered d rfl
    rw [chars_quote hnumber] at h
    cases h

/-- A part that does not go on with a digit where the text ends in a match. -/
theorem Apart.concat {parts : List MessagePart} {part : MessagePart} (h : Apart parts)
    (numbered : ∀ d, .quote d ∈ parts → ∃ number, d.tokenRef = some number)
    (hpart : ∀ init d, parts = init ++ [.quote d] → startsWithDigit part.chars = false) :
    Apart (parts ++ [part]) := by
  intro init d rest hparts hdigit
  rcases List.eq_nil_or_concat' rest with rfl | ⟨later, last, rfl⟩
  · cases hdigit
  · have hsplit : parts ++ [part] = (init ++ .quote d :: later) ++ [last] := by
      rw [hparts, List.append_assoc, List.cons_append]
    obtain ⟨rfl, hlast⟩ := List.append_inj' hsplit rfl
    obtain rfl : part = last := List.cons.inj hlast |>.1
    rw [written_append] at hdigit
    cases hlater : later with
    | nil =>
      subst hlater
      have hpart := hpart init d rfl
      simp [hpart] at hdigit
    | cons first later' =>
      cases hchars : first.chars with
      | nil =>
        have hfirst : first = .data "" := by
          refine eq_data_of_chars_eq_nil (fun e he => numbered e ?_) hchars
          rw [hlater, he]
          simp
        exact ⟨later' ++ [part], by rw [hfirst]; rfl⟩
      | cons c cs =>
        have hsame : startsWithDigit (written later) = true := by
          rw [hlater, written_cons, hchars] at hdigit ⊢
          exact hdigit
        obtain ⟨rest, hrest⟩ := h init d later rfl hsame
        refine ⟨rest ++ [part], ?_⟩
        rw [← hlater, hrest, List.cons_append]

end MessagePart

namespace MessageDraft

variable {message : MessageDraft} {declared : List Match} {parts : List MessagePart}

/-- The draft spells the parts, knows if they end in a match, and has kept digits apart from
matches. -/
structure Follows (message : MessageDraft) (declared : List Match) (parts : List MessagePart) :
    Prop extends message.Spells declared parts where
  trailing : ∀ init d, parts = init ++ [.quote d] → message.trailingReference? ≠ none
  apart : MessagePart.Apart parts

theorem follows_empty : Follows {} [] [] where
  toSpells := spells_empty
  trailing init _ h := by simp at h
  apart := MessagePart.apart_nil

theorem Spells.exists_tokenRef (h : message.Spells declared parts) {d : Match}
    (hd : .quote d ∈ parts) : ∃ number, d.tokenRef = some number := by
  obtain ⟨number, hnumber, -⟩ := h.numbered d (by
    rw [h.declared_eq, List.mem_filterMap]
    exact ⟨.quote d, hd, rfl⟩)
  exact ⟨number, hnumber⟩

theorem Follows.addText {text : String} (h : message.Follows declared parts) (part : MessagePart)
    (hchars : part.chars = text.toList) (hpart : part.declared? = none)
    (apart : message.trailingReference? = none ∨ startsWithDigit text.toList = false) :
    (message.addText text).Follows declared (parts ++ [part]) where
  toSpells := h.toSpells.addText hchars hpart
  trailing init d hparts := by
    obtain ⟨-, hlast⟩ := List.append_inj' hparts rfl
    cases hlast
    cases hpart
  apart := by
    refine h.apart.concat (fun d => h.exists_tokenRef) fun init d hparts => ?_
    rw [hchars]
    exact apart.resolve_left (h.trailing init d hparts)

theorem Follows.addReference {d : Match} {number : Nat} (h : message.Follows declared parts)
    (hnumber : d.tokenRef = some number) (hpos : 1 ≤ number) :
    (message.addReference number).Follows (declared ++ [d]) (parts ++ [.quote d]) where
  toSpells := h.toSpells.addReference hnumber hpos
  trailing _ _ _ := nofun
  apart := by
    refine h.apart.concat (fun d => h.exists_tokenRef) fun _ _ _ => ?_
    rw [MessagePart.chars_quote hnumber]
    rfl

/-- What follows on the backslash of a match. -/
theorem exists_of_marked_quote {d : Match} {number : Nat} (hnumber : d.tokenRef = some number)
    {written rest : List (Char × MessagePart)}
    (hmarked : MessagePart.marked parts = written ++ ('\\', .quote d) :: rest) :
    ∃ init later, parts = init ++ .quote d :: later ∧
      rest.map Prod.fst = Text.numeral number ++ MessagePart.written later := by
  obtain ⟨init, later, xs, ys, hparts, hchars, -, hrest⟩ := MessagePart.exists_of_marked_eq hmarked
  rw [MessagePart.chars_quote hnumber] at hchars
  cases xs with
  | nil =>
    obtain ⟨-, rfl⟩ := List.cons.inj hchars
    exact ⟨init, later, hparts, hrest⟩
  | cons x xs =>
    -- A numeral has no backslash.
    obtain ⟨-, hnumeral⟩ := List.cons.inj hchars
    have hmem : '\\' ∈ Text.numeral number := by rw [hnumeral]; simp
    exact absurd (Text.isDigit_of_mem_numeral hmem) (by decide)

theorem takeWhile_isDigit_numeral (number : Nat) (cs : List Char) :
    (Text.squeezeAfter (Text.numeral number ++ cs)).takeWhile Text.isDigit =
      Text.numeral number ++ cs.takeWhile Text.isDigit := by
  rw [Text.takeWhile_squeezeAfter fun _ => Text.not_isDigit_of_isBlank]
  exact List.takeWhile_append_of_pos fun _ => Text.isDigit_of_mem_numeral

theorem takeWhile_isDigit_eq_nil_iff (cs : List Char) :
    cs.takeWhile Text.isDigit = [] ↔ startsWithDigit cs = false := by
  cases cs with
  | nil => simp [startsWithDigit]
  | cons c cs => cases hc : Text.isDigit c <;> simp [startsWithDigit, hc]

/-- Every match is a placeholder of the finished message. -/
theorem Spells.exists_placeholder (h : message.Spells declared parts) {init rest : List MessagePart}
    {d : Match} {number : Nat} (hparts : parts = init ++ .quote d :: rest)
    (hnumber : d.tokenRef = some number) :
    ∃ before, (resolveMessage message.segments declared).text.toList =
        before ++ '\\' :: Text.squeezeAfter (Text.numeral number ++ MessagePart.written rest) ∧
      (resolveMessage message.segments declared).placeholders[placeholderCount before]? =
        some d := by
  have hmarked : MessagePart.marked parts = MessagePart.marked init ++ ('\\', .quote d) ::
      ((Text.numeral number).map (·, .quote d) ++ MessagePart.marked rest) := by
    rw [hparts, MessagePart.marked_append, MessagePart.marked_cons, MessagePart.mark,
      MessagePart.chars_quote hnumber]
    rfl
  have hafter : ((Text.numeral number).map (·, MessagePart.quote d) ++
      MessagePart.marked rest).map Prod.fst = Text.numeral number ++ MessagePart.written rest := by
    rw [List.map_append, map_fst_map_mk, MessagePart.map_fst_marked]
  have hdigit := startsWithDigit_numeral number (MessagePart.written rest)
  have hwritten : MessagePart.written parts = MessagePart.written init ++ '\\' ::
      (Text.numeral number ++ MessagePart.written rest) := by
    rw [← MessagePart.map_fst_marked, hmarked, List.map_append, List.map_cons, hafter,
      MessagePart.map_fst_marked]
  obtain ⟨before, hsqueeze, -⟩ := Text.exists_squeeze_eq (c := '\\') rfl
    (MessagePart.written init) (Text.numeral number ++ MessagePart.written rest)
  refine ⟨before, ?_, ?_⟩
  · rw [h.text_eq, Text.toList_collapse, String.toList_ofList, hwritten, hsqueeze]
  · rw [placeholderCount_of_squeeze_eq hsqueeze hdigit, ← MessagePart.map_fst_marked]
    exact h.getElem?_placeholders hmarked (hafter ▸ hdigit)

/-- A placeholder whose match has a number is that of a match. -/
theorem Spells.exists_quote (h : message.Spells declared parts) {before after : List Char}
    {found : Match} {number : Nat}
    (htext : (resolveMessage message.segments declared).text.toList = before ++ '\\' :: after)
    (hdigit : startsWithDigit after = true)
    (hfound : (resolveMessage message.segments declared).placeholders[placeholderCount before]? =
      some found) (hnumber : found.tokenRef = some number) :
    ∃ init rest, parts = init ++ .quote found :: rest ∧
      after = Text.squeezeAfter (Text.numeral number ++ MessagePart.written rest) := by
  obtain ⟨written, part, rest, hmarked, -, rfl, hpart⟩ := h.exists_marked htext hdigit
  obtain rfl : part.placeholder = found := Option.some.inj (hpart.symm.trans hfound)
  rcases h.data_or_quote hmarked with ⟨text, rfl⟩ | ⟨d, -, rfl⟩
  · cases hnumber
  · obtain ⟨init, later, hparts, hrest⟩ := exists_of_marked_quote hnumber hmarked
    exact ⟨init, later, hparts, congrArg Text.squeezeAfter hrest⟩

/-- The placeholders are read right unless a digit follows on a match. -/
theorem Follows.denote_iff (h : message.Follows declared parts) :
    PlaceholdersDenote (resolveMessage message.segments declared).text
      (resolveMessage message.segments declared).placeholders ↔ ¬ MessagePart.RunsOn parts := by
  constructor
  · rintro hdenote ⟨init, d, rest, hparts, hdigit⟩
    have hd : d ∈ declared := by
      rw [h.declared_eq, hparts, List.mem_filterMap]
      exact ⟨.quote d, by simp, rfl⟩
    obtain ⟨number, hnumber, hpos⟩ := h.numbered d hd
    obtain ⟨before, htext, hfound⟩ := h.exists_placeholder hparts hnumber
    have hstarts := startsWithDigit_numeral number (MessagePart.written (.data "" :: rest))
    -- The number is read together with the digits that follow, and so it is a greater one.
    have hvalue := hdenote before _ d number htext
      ((startsWithDigit_squeezeAfter _).trans hstarts) hfound hnumber
    have hmore : (MessagePart.written rest).takeWhile Text.isDigit ≠ [] := by
      rw [ne_eq, takeWhile_isDigit_eq_nil_iff, hdigit]
      exact Bool.noConfusion
    rw [takeWhile_isDigit_numeral] at hvalue
    have hlt := Text.lt_valueOf_append ((Text.valueOf_numeral number).symm ▸ hpos) hmore
    rw [Text.valueOf_numeral] at hlt
    exact hlt.ne hvalue.symm
  · intro hapart before after found number htext hdigit hfound hnumber
    obtain ⟨init, rest, hparts, rfl⟩ := h.exists_quote htext hdigit hfound hnumber
    have hrest : startsWithDigit (MessagePart.written rest) = false := by
      rw [← Bool.not_eq_true]
      intro hrest
      obtain ⟨later, rfl⟩ := h.apart init found rest hparts hrest
      exact hapart ⟨init, found, later, hparts, hrest⟩
    rw [takeWhile_isDigit_numeral, (takeWhile_isDigit_eq_nil_iff _).2 hrest, List.append_nil,
      Text.valueOf_numeral]

end MessageDraft

end GrammarRules
