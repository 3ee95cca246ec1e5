import GrammarRules.Message.Draft
import GrammarRules.Proofs.Text.Collapse
import GrammarRules.Proofs.Text.Numeral
import Mathlib.Data.List.Chain

/-!
# Placeholders and where they come from

A message is written in parts: character data, the two tags of a suggestion, and matches.
`MessagePart.marked` is the text of the parts, each character with the part that it comes from.
`MessageDraft.Spells` ties a message in the making to its parts; from it
`MessageDraft.Spells.speaks` concludes what the placeholders of the finished message are.
-/

namespace GrammarRules

/-! ## The placeholders of a marked text -/

section Marks

variable {α β : Type}

theorem map_fst_map_mk (b : β) (as : List α) : (as.map (·, b)).map Prod.fst = as := by
  rw [List.map_map]
  exact List.map_id as

/-- The marks of the backslashes that have an ASCII digit right after them. -/
def placeholderMarks : List (Char × α) → List α
  | [] => []
  | (c, mark) :: rest =>
    (if c == '\\' && startsWithDigit (rest.map Prod.fst) then [mark] else []) ++
      placeholderMarks rest

theorem length_placeholderMarks (marked : List (Char × α)) :
    (placeholderMarks marked).length = placeholderCount (marked.map Prod.fst) := by
  induction marked with
  | nil => rfl
  | cons first rest ih =>
    rw [placeholderMarks, List.length_append, ih, List.map_cons, placeholderCount]
    split <;> rfl

theorem placeholderMarks_map (f : α → β) (marked : List (Char × α)) :
    placeholderMarks (marked.map fun p => (p.1, f p.2)) = (placeholderMarks marked).map f := by
  induction marked with
  | nil => rfl
  | cons first rest ih =>
    have hfst : (rest.map fun p => (p.1, f p.2)).map Prod.fst = rest.map Prod.fst := by
      rw [List.map_map]
      rfl
    rw [List.map_cons, placeholderMarks, placeholderMarks, ih, hfst, List.map_append]
    split <;> rfl

theorem startsWithDigit_append {xs ys : List Char} (h : startsWithDigit ys = false) :
    startsWithDigit (xs ++ ys) = startsWithDigit xs := by
  cases xs with
  | nil => exact h
  | cons x xs => rfl

/-- A text goes on with new placeholders unless digits follow. -/
theorem placeholderMarks_append (xs : List (Char × α)) {ys : List (Char × α)}
    (h : startsWithDigit (ys.map Prod.fst) = false) :
    placeholderMarks (xs ++ ys) = placeholderMarks xs ++ placeholderMarks ys := by
  induction xs with
  | nil => rfl
  | cons first xs ih =>
    rw [List.cons_append, placeholderMarks, placeholderMarks, ih, List.map_append,
      startsWithDigit_append h, List.append_assoc]

/-- There are no placeholders among digits. -/
theorem placeholderMarks_digits {ds : List (Char × α)} (h : ∀ p ∈ ds, Text.isDigit p.1 = true)
    (ys : List (Char × α)) : placeholderMarks (ds ++ ys) = placeholderMarks ys := by
  induction ds with
  | nil => rfl
  | cons first ds ih =>
    have hne : (first.1 == '\\') = false := by
      rw [beq_eq_false_iff_ne]
      rintro heq
      have := h first List.mem_cons_self
      rw [heq] at this
      cases this
    rw [List.cons_append, placeholderMarks, hne, Bool.false_and]
    exact ih fun p hp => h p (List.mem_cons_of_mem _ hp)

theorem startsWithDigit_numeral (number : Nat) (cs : List Char) :
    startsWithDigit (Text.numeral number ++ cs) = true := by
  obtain ⟨d, ds, hnumeral⟩ := List.exists_cons_of_ne_nil (Text.numeral_ne_nil number)
  have hd : d ∈ Text.numeral number := by rw [hnumeral]; exact List.mem_cons_self
  rw [hnumeral]
  exact Text.isDigit_of_mem_numeral hd

/-- A reference is one placeholder, whatever follows. -/
theorem placeholderMarks_reference (number : Nat) (mark : α) (rest : List (Char × α)) :
    placeholderMarks ((Segment.reference number).chars.map (·, mark) ++ rest) =
      mark :: placeholderMarks rest := by
  have hdigits : ∀ p ∈ (Text.numeral number).map (·, mark), Text.isDigit p.1 = true := by
    rw [List.forall_mem_map]
    exact fun d => Text.isDigit_of_mem_numeral
  have hfst : (((Text.numeral number).map (·, mark) ++ rest).map Prod.fst) =
      Text.numeral number ++ rest.map Prod.fst := by
    rw [List.map_append, map_fst_map_mk]
  rw [Segment.chars, List.map_cons, List.cons_append, placeholderMarks, hfst,
    startsWithDigit_numeral, placeholderMarks_digits hdigits]
  rfl

/-- A backslash before a digit, with what is around it. -/
theorem placeholderMarks_around (before : List (Char × α)) (mark : α) {after : List (Char × α)}
    (h : startsWithDigit (after.map Prod.fst) = true) :
    placeholderMarks (before ++ ('\\', mark) :: after) =
      placeholderMarks before ++ mark :: placeholderMarks after := by
  rw [placeholderMarks_append before rfl, placeholderMarks, h]
  rfl

theorem placeholderMarks_const (mark : α) (cs : List Char) :
    placeholderMarks (cs.map (·, mark)) = List.replicate (placeholderCount cs) mark := by
  rw [List.eq_replicate_iff, length_placeholderMarks, map_fst_map_mk]
  refine ⟨rfl, ?_⟩
  induction cs with
  | nil => exact List.forall_mem_nil _
  | cons c cs ih =>
    intro other hother
    rw [List.map_cons, placeholderMarks] at hother
    rcases List.mem_append.1 hother with hother | hother
    · split at hother
      · exact List.mem_singleton.1 hother
      · cases hother
    · exact ih other hother

end Marks

theorem placeholderCount_around (before : List Char) {after : List Char}
    (h : startsWithDigit after = true) :
    placeholderCount (before ++ '\\' :: after) =
      placeholderCount before + (placeholderCount after + 1) := by
  have hcount (cs : List Char) :
      placeholderCount cs = (placeholderMarks (cs.map (·, ()))).length := by
    rw [length_placeholderMarks, map_fst_map_mk]
  have hdigit : startsWithDigit ((after.map (·, ())).map Prod.fst) = true := by
    rw [map_fst_map_mk, h]
  rw [hcount, List.map_append, List.map_cons, placeholderMarks_around _ _ hdigit,
    List.length_append, List.length_cons, ← hcount, ← hcount]

/-! ## Collapsing white space -/

theorem startsWithDigit_squeezeAfter (cs : List Char) :
    startsWithDigit (Text.squeezeAfter cs) = startsWithDigit cs :=
  Text.any_head?_squeezeAfter (fun _ => Text.not_isDigit_of_isBlank) cs

theorem placeholderCount_squeezeAfter (cs : List Char) :
    placeholderCount (Text.squeezeAfter cs) = placeholderCount (Text.squeeze cs) := by
  rcases Text.squeezeAfter_eq cs with heq | heq
  · rw [heq]
  · rw [heq, placeholderCount]
    exact Nat.zero_add _

/-- Collapsing white space makes and destroys no placeholder. -/
theorem placeholderCount_squeeze (cs : List Char) :
    placeholderCount (Text.squeeze cs) = placeholderCount cs := by
  induction cs with
  | nil => rfl
  | cons c cs ih =>
    cases hc : Text.isBlank c with
    | true =>
      have hne : (c == '\\') = false := by
        rw [beq_eq_false_iff_ne]
        rintro rfl
        cases hc
      rw [Text.squeeze_blank hc, ih, placeholderCount, hne]
      exact (Nat.zero_add _).symm
    | false =>
      rw [Text.squeeze_ink hc, placeholderCount, placeholderCount, startsWithDigit_squeezeAfter,
        placeholderCount_squeezeAfter, ih]

/-- A placeholder comes after as many others as it did before the white space was collapsed. -/
theorem placeholderCount_of_squeeze_eq {xs ys before : List Char}
    (h : Text.squeeze (xs ++ '\\' :: ys) = before ++ '\\' :: Text.squeezeAfter ys)
    (hdigit : startsWithDigit ys = true) : placeholderCount before = placeholderCount xs := by
  have hcount := placeholderCount_squeeze (xs ++ '\\' :: ys)
  have hafter : startsWithDigit (Text.squeezeAfter ys) = true :=
    (startsWithDigit_squeezeAfter ys).trans hdigit
  rw [h, placeholderCount_around _ hdigit, placeholderCount_around _ hafter,
    placeholderCount_squeezeAfter, placeholderCount_squeeze] at hcount
  exact Nat.add_right_cancel hcount

/-! ## The parts of a message -/

/-- A part of a message as it is written. -/
inductive MessagePart where
  /-- Character data. -/
  | data (text : String)
  /-- A suggestion begins. -/
  | opening
  /-- A suggestion ends. -/
  | closing
  /-- A match. -/
  | quote (declared : Match)

namespace MessagePart

/-- The text of a part. -/
def chars : MessagePart → List Char
  | data text => text.toList
  | opening => "<suggestion>".toList
  | closing => "</suggestion>".toList
  | quote declared => (declared.tokenRef.map fun number => '\\' :: Text.numeral number).getD []

theorem chars_quote {declared : Match} {number : Nat} (h : declared.tokenRef = some number) :
    (quote declared).chars = '\\' :: Text.numeral number := by
  show (declared.tokenRef.map fun number => '\\' :: Text.numeral number).getD [] = _
  rw [h, Option.map_some, Option.getD_some]

/-- The match that the part declares. -/
def declared? : MessagePart → Option Match
  | quote declared => some declared
  | _ => none

/-- The match of a placeholder that stands in the part. -/
def placeholder (part : MessagePart) : Match := part.declared?.getD Match.anonymous

/-- The text of a sequence of parts. -/
def written (parts : List MessagePart) : List Char := parts.flatMap chars

/-- The text of a part, each character with the part. -/
def mark (part : MessagePart) : List (Char × MessagePart) := part.chars.map (·, part)

/-- The text of a sequence of parts, each character with its part. -/
def marked (parts : List MessagePart) : List (Char × MessagePart) := parts.flatMap mark

@[simp] theorem written_nil : written [] = [] := rfl

@[simp] theorem written_cons (part : MessagePart) (parts : List MessagePart) :
    written (part :: parts) = part.chars ++ written parts := rfl

@[simp] theorem written_append (before after : List MessagePart) :
    written (before ++ after) = written before ++ written after := List.flatMap_append

@[simp] theorem marked_cons (part : MessagePart) (parts : List MessagePart) :
    marked (part :: parts) = part.mark ++ marked parts := rfl

theorem marked_append (before after : List MessagePart) :
    marked (before ++ after) = marked before ++ marked after := List.flatMap_append

theorem map_declared?_concat (parts : List MessagePart) (part : MessagePart) :
    (marked (parts ++ [part])).map (fun p => (p.1, p.2.declared?)) =
      (marked parts).map (fun p => (p.1, p.2.declared?)) ++ part.chars.map (·, part.declared?) := by
  rw [marked, List.flatMap_append, List.map_append, List.flatMap_singleton, mark, List.map_map]
  rfl

theorem map_fst_marked (parts : List MessagePart) :
    (marked parts).map Prod.fst = written parts := by
  induction parts with
  | nil => rfl
  | cons part parts ih =>
    rw [marked_cons, written_cons, List.map_append, ih, mark, map_fst_map_mk]

/-- A character of the text stands in the part that it is marked with. -/
theorem exists_of_marked_eq {parts : List MessagePart} {before after : List (Char × MessagePart)}
    {c : Char} {part : MessagePart} (h : marked parts = before ++ (c, part) :: after) :
    ∃ init rest xs ys, parts = init ++ part :: rest ∧ part.chars = xs ++ c :: ys ∧
      before.map Prod.fst = written init ++ xs ∧ after.map Prod.fst = ys ++ written rest := by
  induction parts generalizing before with
  | nil => simp [marked] at h
  | cons first parts ih =>
    have hlater (before') (hbefore : before = first.mark ++ before')
        (h' : marked parts = before' ++ (c, part) :: after) :
        ∃ init rest xs ys, first :: parts = init ++ part :: rest ∧ part.chars = xs ++ c :: ys ∧
          before.map Prod.fst = written init ++ xs ∧ after.map Prod.fst = ys ++ written rest := by
      obtain ⟨init, rest, xs, ys, rfl, hchars, hxs, hys⟩ := ih h'
      refine ⟨first :: init, rest, xs, ys, rfl, hchars, ?_, hys⟩
      rw [hbefore, List.map_append, hxs, mark, map_fst_map_mk, written_cons, List.append_assoc]
    rw [marked_cons] at h
    rcases List.append_eq_append_iff.1 h with ⟨before', hbefore, h'⟩ | ⟨inside, hfirst, h'⟩
    · exact hlater before' hbefore h'
    · cases inside with
      | nil => exact hlater [] (by rw [hfirst]; simp) h'.symm
      | cons p inside =>
        obtain ⟨rfl, rfl⟩ := List.cons.inj h'
        obtain ⟨xs, rest, hchars, rfl, hrest⟩ := List.map_eq_append_iff.1 hfirst
        obtain ⟨d, ys, rfl, hd, rfl⟩ := List.map_eq_cons_iff.1 hrest
        cases hd
        refine ⟨[], parts, xs, ys, rfl, hchars, map_fst_map_mk _ xs, ?_⟩
        show (ys.map (·, part) ++ marked parts).map Prod.fst = _
        rw [List.map_append, map_fst_map_mk, map_fst_marked]

end MessagePart

/-! ## Segments and declared matches -/

/-- Whether the segment is a reference. -/
def Segment.isReference : Segment → Bool
  | .text _ => false
  | .reference _ => true

/-- How many of the segments are references. -/
def referenceCount : List Segment → Nat
  | [] => 0
  | .text _ :: rest => referenceCount rest
  | .reference _ :: rest => referenceCount rest + 1

theorem referenceCount_append (before after : List Segment) :
    referenceCount (before ++ after) = referenceCount before + referenceCount after := by
  fun_induction referenceCount before with
  | case1 => exact (Nat.zero_add _).symm
  | case2 text rest ih => exact ih
  | case3 number rest ih => rw [List.cons_append, referenceCount, ih, Nat.add_right_comm]

/-- No text follows on another one. -/
def Separated (segments : List Segment) : Prop :=
  segments.IsChain fun s t => s.isReference = true ∨ t.isReference = true

/-- The text of segments, where the characters of a reference have the match that it takes. -/
def markSegments : List Segment → List Match → List (Char × Option Match)
  | [], _ => []
  | .text text :: rest, declared => text.toList.map (·, none) ++ markSegments rest declared
  | .reference number :: rest, next :: declared =>
    (Segment.reference number).chars.map (·, some next) ++ markSegments rest declared
  | .reference number :: rest, [] =>
    (Segment.reference number).chars.map (·, none) ++ markSegments rest []

theorem map_fst_markSegments (segments : List Segment) (declared : List Match) :
    (markSegments segments declared).map Prod.fst = segments.flatMap Segment.chars := by
  fun_induction markSegments segments declared with
  | case1 => rfl
  | case2 _ _ _ ih | case3 _ _ _ _ ih | case4 _ _ ih =>
    rw [List.map_append, ih, map_fst_map_mk]
    rfl

/-- Segments in which every reference has its match are marked one part after the other. -/
theorem markSegments_append {segments : List Segment} {declared : List Match}
    (h : referenceCount segments = declared.length) (more : List Segment)
    (others : List Match) :
    markSegments (segments ++ more) (declared ++ others) =
      markSegments segments declared ++ markSegments more others := by
  fun_induction markSegments segments declared with
  | case1 declared =>
    obtain rfl := List.length_eq_zero_iff.1 h.symm
    rfl
  | case2 text rest declared ih =>
    rw [List.cons_append, markSegments, ih h, List.append_assoc]
  | case3 number rest next declared ih =>
    have hrest : referenceCount rest = declared.length := Nat.succ.inj h
    rw [List.cons_append, List.cons_append, markSegments, ih hrest, List.append_assoc]
  | case4 number rest ih => cases h

/-- What follows on a text does not begin with a digit. -/
theorem startsWithDigit_markSegments {text : String} {rest : List Segment}
    (separated : Separated (.text text :: rest)) (declared : List Match) :
    startsWithDigit ((markSegments rest declared).map Prod.fst) = false := by
  rw [map_fst_markSegments]
  cases rest with
  | nil => rfl
  | cons segment rest =>
    cases segment with
    | text other => simp [Separated, Segment.isReference] at separated
    | reference number => rfl

/-- The matches of a message are the marks of its placeholders. -/
theorem alignMatches_eq {segments : List Segment} {declared : List Match}
    (separated : Separated segments)
    (h : referenceCount segments = declared.length) :
    alignMatches segments declared =
      (placeholderMarks (markSegments segments declared)).map (·.getD Match.anonymous) := by
  fun_induction alignMatches segments declared with
  | case1 declared => rfl
  | case2 text rest declared ih =>
    rw [markSegments, placeholderMarks_append _ (startsWithDigit_markSegments separated declared),
      placeholderMarks_const, List.map_append, List.map_replicate, ih separated.tail h]
    rfl
  | case3 number rest next declared ih =>
    have hrest : referenceCount rest = declared.length := Nat.succ.inj h
    rw [markSegments, placeholderMarks_reference, List.map_cons, Option.getD_some,
      ih separated.tail hrest]
  | case4 number rest ih => cases h

/-- The matches that are no anonymous ones are those that were declared. -/
theorem filter_alignMatches {segments : List Segment} {declared : List Match}
    (h : referenceCount segments = declared.length)
    (numbered : ∀ d ∈ declared, d.tokenRef.isSome = true) :
    (alignMatches segments declared).filter (·.tokenRef.isSome) = declared := by
  fun_induction alignMatches segments declared with
  | case1 declared => exact (List.length_eq_zero_iff.1 h.symm).symm
  | case2 text rest declared ih =>
    rw [List.filter_append, ih h numbered, List.filter_replicate]
    rfl
  | case3 number rest next declared ih =>
    have hrest : referenceCount rest = declared.length := Nat.succ.inj h
    have hnext := numbered next List.mem_cons_self
    rw [List.filter_cons, if_pos hnext, ih hrest fun d hd => numbered d (List.mem_cons_of_mem _ hd)]
  | case4 number rest ih => cases h

/-! ## Messages in the making -/

namespace MessageDraft

variable {message : MessageDraft} {declared : List Match} {parts : List MessagePart}

/-- Text goes on with the text at the end, or else it is a segment of its own. -/
theorem segments_addText (message : MessageDraft) (text : String) :
    (∃ init last, message.segments = init ++ [.text last] ∧
      (message.addText text).segments = init ++ [.text (last ++ text)]) ∨
    (∀ segment ∈ message.segments.getLast?, segment.isReference = true) ∧
      (message.addText text).segments = message.segments ++ [.text text] := by
  obtain ⟨reversed⟩ := message
  cases reversed with
  | nil => exact .inr ⟨nofun, rfl⟩
  | cons last before =>
    cases last with
    | text last => exact .inl ⟨before.reverse, last, List.reverse_cons, List.reverse_cons⟩
    | reference number =>
      refine .inr ⟨fun segment hsegment => ?_, List.reverse_cons⟩
      rw [segments, List.getLast?_reverse] at hsegment
      cases hsegment
      rfl

theorem segments_addReference (message : MessageDraft) (number : Nat) :
    (message.addReference number).segments = message.segments ++ [.reference number] :=
  List.reverse_cons

/-- The segments are the parts, where the text between two matches is one segment, and the declared
matches are those of the parts. -/
structure Spells (message : MessageDraft) (declared : List Match) (parts : List MessagePart) :
    Prop where
  separated : Separated message.segments
  count : referenceCount message.segments = declared.length
  marked : markSegments message.segments declared =
    (MessagePart.marked parts).map fun p => (p.1, p.2.declared?)
  declared_eq : declared = parts.filterMap MessagePart.declared?
  numbered : ∀ d ∈ declared, ∃ number, d.tokenRef = some number ∧ 1 ≤ number

theorem spells_empty : Spells {} [] [] where
  separated := .nil
  count := rfl
  marked := rfl
  declared_eq := rfl
  numbered := List.forall_mem_nil _

theorem Spells.addText {text : String} {part : MessagePart} (h : message.Spells declared parts)
    (hchars : part.chars = text.toList) (hpart : part.declared? = none) :
    (message.addText text).Spells declared (parts ++ [part]) := by
  have hmarked : (MessagePart.marked (parts ++ [part])).map (fun p => (p.1, p.2.declared?)) =
      markSegments message.segments declared ++ text.toList.map (·, none) := by
    rw [MessagePart.map_declared?_concat, h.marked, hchars, hpart]
  have hdeclared : (parts ++ [part]).filterMap MessagePart.declared? = declared := by
    rw [List.filterMap_append, ← h.declared_eq]
    simp [hpart]
  have htext {segments} (hcount : referenceCount segments = declared.length) (t : String) :
      markSegments (segments ++ [.text t]) declared =
        markSegments segments declared ++ t.toList.map (·, none) := by
    have happend := markSegments_append hcount [.text t] []
    rw [List.append_nil] at happend
    simpa [markSegments] using happend
  have hcount := h.count
  have hseparated := h.separated
  rcases message.segments_addText text with ⟨init, last, hsegments, hadded⟩ | ⟨hlast, hadded⟩
  · rw [hsegments, referenceCount_append] at hcount
    rw [hsegments, Separated, List.isChain_append] at hseparated
    refine ⟨?_, ?_, ?_, hdeclared.symm, h.numbered⟩
    · rw [hadded, Separated, List.isChain_append]
      refine ⟨hseparated.1, .singleton _, fun s hs t ht => ?_⟩
      cases ht
      exact hseparated.2.2 s hs (.text last) rfl
    · rw [hadded, referenceCount_append]
      exact hcount
    · rw [hadded, hmarked, hsegments, htext hcount, htext hcount, String.toList_append,
        List.map_append, List.append_assoc]
  · refine ⟨?_, ?_, ?_, hdeclared.symm, h.numbered⟩
    · rw [hadded, Separated, List.isChain_append]
      exact ⟨hseparated, .singleton _, fun s hs _ _ => .inl (hlast s hs)⟩
    · rw [hadded, referenceCount_append]
      exact hcount
    · rw [hadded, hmarked, htext hcount]

theorem Spells.addReference {d : Match} {number : Nat} (h : message.Spells declared parts)
    (hnumber : d.tokenRef = some number) (hpos : 1 ≤ number) :
    (message.addReference number).Spells (declared ++ [d]) (parts ++ [.quote d]) where
  separated := by
    rw [segments_addReference, Separated, List.isChain_append]
    refine ⟨h.separated, .singleton _, fun _ _ t ht => ?_⟩
    cases ht
    exact .inr rfl
  count := by rw [segments_addReference, referenceCount_append, h.count, List.length_append]; rfl
  marked := by
    rw [segments_addReference, markSegments_append h.count, h.marked,
      MessagePart.map_declared?_concat, markSegments, markSegments, List.append_nil,
      MessagePart.chars_quote hnumber]
    rfl
  declared_eq := by
    rw [List.filterMap_append, ← h.declared_eq]
    rfl
  numbered other hother := by
    rcases List.mem_append.1 hother with hother | hother
    · exact h.numbered other hother
    · rw [List.mem_singleton.1 hother]
      exact ⟨number, hnumber, hpos⟩

end MessageDraft

/-! ## Finished messages -/

/-- What the text and the matches of a message have to do with the parts that were written. -/
structure Speaks (parts : List MessagePart) (message : String) (placeholders : List Match) :
    Prop where
  text : message = Text.collapse (String.ofList (MessagePart.written parts))
  /-- There is a match for every backslash with an ASCII digit right after it. -/
  length : placeholders.length = placeholderCount message.toList
  /-- Such a backslash stood in one of the parts, behind the same characters that are no blanks.
  Its match is anonymous if the part is character data, and otherwise the match of the part. -/
  placeholder : ∀ before after, message.toList = before ++ '\\' :: after →
    startsWithDigit after = true →
    ∃ written part rest found, MessagePart.marked parts = written ++ ('\\', part) :: rest ∧
      Text.ink before = Text.ink (written.map Prod.fst) ∧
      placeholders[placeholderCount before]? = some found ∧
      (found = Match.anonymous ↔ ∃ text, part = .data text) ∧
      ∀ declared, part = .quote declared → found = declared
  /-- The matches with a number are those that were declared, in this order. -/
  declared : placeholders.filter (·.tokenRef.isSome) = parts.filterMap MessagePart.declared?

namespace MessageDraft.Spells

variable {message : MessageDraft} {declared : List Match} {parts : List MessagePart}

theorem text_eq (h : message.Spells declared parts) :
    (resolveMessage message.segments declared).text =
      Text.collapse (String.ofList (MessagePart.written parts)) := by
  have hchars : message.segments.flatMap Segment.chars = MessagePart.written parts := by
    rw [← map_fst_markSegments _ declared, h.marked, List.map_map]
    exact MessagePart.map_fst_marked parts
  rw [← hchars]
  rfl

theorem filter_alignMatches (h : message.Spells declared parts) :
    (alignMatches message.segments declared).filter (·.tokenRef.isSome) = declared := by
  refine GrammarRules.filter_alignMatches h.count fun d hd => ?_
  obtain ⟨number, hnumber, -⟩ := h.numbered d hd
  rw [hnumber, Option.isSome_some]

/-- Without a placeholder there is no declared match to be kept. -/
theorem placeholders_eq_alignMatches (h : message.Spells declared parts) :
    (resolveMessage message.segments declared).placeholders =
      alignMatches message.segments declared := by
  have hdeclared := h.filter_alignMatches
  show (if (alignMatches message.segments declared).isEmpty then declared else _) = _
  split
  · next hempty =>
    rw [List.isEmpty_iff] at hempty
    rw [hempty] at hdeclared ⊢
    exact hdeclared.symm
  · rfl

/-- The matches of the finished message are those of the parts that its placeholders come from. -/
theorem placeholders_eq (h : message.Spells declared parts) :
    (resolveMessage message.segments declared).placeholders =
      (placeholderMarks (MessagePart.marked parts)).map MessagePart.placeholder := by
  rw [h.placeholders_eq_alignMatches, alignMatches_eq h.separated h.count, h.marked,
    placeholderMarks_map, List.map_map]
  rfl

/-- The match of a placeholder is that of its part. -/
theorem getElem?_placeholders (h : message.Spells declared parts)
    {written rest : List (Char × MessagePart)} {part : MessagePart}
    (hmarked : MessagePart.marked parts = written ++ ('\\', part) :: rest)
    (hdigit : startsWithDigit (rest.map Prod.fst) = true) :
    (resolveMessage message.segments declared).placeholders[placeholderCount
      (written.map Prod.fst)]? = some part.placeholder := by
  rw [h.placeholders_eq, hmarked, placeholderMarks_around _ _ hdigit, ← length_placeholderMarks,
    List.getElem?_map, List.getElem?_append_right le_rfl, Nat.sub_self]
  rfl

/-- A placeholder of the finished message stood in one of the parts. -/
theorem exists_marked (h : message.Spells declared parts) {before after : List Char}
    (htext : (resolveMessage message.segments declared).text.toList = before ++ '\\' :: after)
    (hdigit : startsWithDigit after = true) :
    ∃ written part rest, MessagePart.marked parts = written ++ ('\\', part) :: rest ∧
      Text.ink before = Text.ink (written.map Prod.fst) ∧
      after = Text.squeezeAfter (rest.map Prod.fst) ∧
      (resolveMessage message.segments declared).placeholders[placeholderCount before]? =
        some part.placeholder := by
  rw [h.text_eq, Text.toList_collapse, String.toList_ofList] at htext
  obtain ⟨xs, ys, hwritten, hink, rfl⟩ := Text.exists_of_squeeze_eq (c := '\\') rfl htext
  rw [startsWithDigit_squeezeAfter] at hdigit
  have hcount := placeholderCount_of_squeeze_eq (hwritten ▸ htext) hdigit
  rw [← MessagePart.map_fst_marked] at hwritten
  obtain ⟨written, tail, hmarked, rfl, htail⟩ := List.map_eq_append_iff.1 hwritten
  obtain ⟨⟨c, part⟩, rest, rfl, rfl, rfl⟩ := List.map_eq_cons_iff.1 htail
  exact ⟨written, part, rest, hmarked, hink, rfl, hcount ▸ h.getElem?_placeholders hmarked hdigit⟩

/-- A placeholder stands in character data or belongs to a match. -/
theorem data_or_quote (h : message.Spells declared parts) {written rest : List (Char × MessagePart)}
    {part : MessagePart} (hmarked : MessagePart.marked parts = written ++ ('\\', part) :: rest) :
    (∃ text, part = .data text) ∨ ∃ d ∈ declared, part = .quote d := by
  obtain ⟨init, later, xs, ys, hparts, hchars, -, -⟩ := MessagePart.exists_of_marked_eq hmarked
  have hmem : '\\' ∈ part.chars := by rw [hchars]; simp
  cases part with
  | data text => exact .inl ⟨text, rfl⟩
  | opening | closing => exact absurd hmem (by decide)
  | quote d =>
    refine .inr ⟨d, ?_, rfl⟩
    rw [h.declared_eq, hparts, List.mem_filterMap]
    exact ⟨.quote d, by simp, rfl⟩

theorem speaks (h : message.Spells declared parts) :
    Speaks parts (resolveMessage message.segments declared).text
      (resolveMessage message.segments declared).placeholders where
  text := h.text_eq
  length := by
    rw [h.placeholders_eq, h.text_eq, Text.toList_collapse, String.toList_ofList,
      placeholderCount_squeeze, List.length_map, length_placeholderMarks,
      MessagePart.map_fst_marked]
  declared := by rw [h.placeholders_eq_alignMatches, h.filter_alignMatches, ← h.declared_eq]
  placeholder before after htext hdigit := by
    obtain ⟨written, part, rest, hmarked, hink, -, hfound⟩ := h.exists_marked htext hdigit
    refine ⟨written, part, rest, part.placeholder, hmarked, hink, hfound, ?_, ?_⟩
    · rcases h.data_or_quote hmarked with ⟨text, rfl⟩ | ⟨d, hd, rfl⟩
      · exact iff_of_true rfl ⟨text, rfl⟩
      · obtain ⟨number, hnumber, -⟩ := h.numbered d hd
        refine iff_of_false (fun heq => ?_) nofun
        have hnone : d.tokenRef = none := congrArg Match.tokenRef heq
        rw [hnumber] at hnone
        cases hnone
    · rintro d rfl
      rfl

end MessageDraft.Spells

end GrammarRules
