import GrammarRules.Proofs.Text.Passage
import Mathlib.Data.List.Chain

/-!
# The words of a text and its normal form

`SplitsInto` says what the words of a text are: they have no blanks in them, they are as long as
they can be, and what is not in a word is a blank.  A text splits in exactly one way
(`splitsInto_iff`), which `words` computes.

A text is collapsed (`IsCollapsed`) if its only blanks are single spaces between other characters.
Collapsing leads to such a text (`isCollapsed_squeeze`), changes none that is one already
(`squeeze_eq_self_iff`) and keeps the words (`words_squeeze`): the collapsed texts stand for the
sequences of words, one for each (`squeeze_eq_squeeze_iff`).

What stands side by side without a blank stays so, and nothing else comes to stand side by side
(`standsIn_squeeze`).  In particular the references of a text stay, each with the digits that it has
(`referenceDigits_squeeze`).
-/

namespace GrammarRules.Text

/-! ## Splitting a text into words -/

/-- The words of a text in their order.  Blanks belong to no word, and a word goes on up to the next
blank or to the end of the text. -/
inductive SplitsInto : List Char → List (List Char) → Prop
  | nil : SplitsInto [] []
  | blank {c : Char} {cs : List Char} {ws : List (List Char)} (hc : isBlank c = true)
      (h : SplitsInto cs ws) : SplitsInto (c :: cs) ws
  | word {w rest : List Char} {ws : List (List Char)} (hne : w ≠ [])
      (hink : ∀ c ∈ w, isBlank c = false) (hend : rest.head?.all isBlank = true)
      (h : SplitsInto rest ws) : SplitsInto (w ++ rest) (w :: ws)

/-- A word with a blank behind it, or nothing, is the first word. -/
theorem words_append {w rest : List Char} (hne : w ≠ []) (hink : ∀ c ∈ w, isBlank c = false)
    (hend : rest.head?.all isBlank = true) : words (w ++ rest) = w :: words rest := by
  induction w with
  | nil => exact absurd rfl hne
  | cons c w ih =>
    obtain ⟨hc, hw⟩ := List.forall_mem_cons.1 hink
    rw [List.cons_append, words_ink hc]
    cases w with
    | nil => rw [List.nil_append, hend]
    | cons d w =>
      have hd : isBlank d = false := hw d List.mem_cons_self
      rw [ih (List.cons_ne_nil d w) hw, List.cons_append, List.head?_cons, Option.all_some, hd]

theorem SplitsInto.eq_words {cs : List Char} {ws : List (List Char)} (h : SplitsInto cs ws) :
    ws = words cs := by
  induction h with
  | nil => rfl
  | blank hc _ ih => rw [words_blank hc, ih]
  | word hne hink hend _ ih => rw [words_append hne hink hend, ih]

/-- A character that is no blank begins a word or belongs to the one that follows. -/
theorem SplitsInto.ink_cons {c : Char} {cs : List Char} {ws : List (List Char)}
    (h : SplitsInto cs ws) (hc : isBlank c = false) : ∃ ws', SplitsInto (c :: cs) ws' := by
  have hsingle : ∀ d ∈ [c], isBlank d = false := List.forall_mem_singleton.2 hc
  cases h with
  | nil => exact ⟨_, .word (List.cons_ne_nil c []) hsingle rfl .nil⟩
  | blank hd h => exact ⟨_, .word (List.cons_ne_nil c []) hsingle hd (.blank hd h)⟩
  | @word w rest _ _ hink hend h =>
    exact ⟨_, .word (List.cons_ne_nil c w) (List.forall_mem_cons.2 ⟨hc, hink⟩) hend h⟩

theorem exists_splitsInto (cs : List Char) : ∃ ws, SplitsInto cs ws := by
  induction cs with
  | nil => exact ⟨[], .nil⟩
  | cons c cs ih =>
    obtain ⟨ws, h⟩ := ih
    cases hc : isBlank c with
    | true => exact ⟨ws, .blank hc h⟩
    | false => exact h.ink_cons hc

/-- A text splits into words in one way. -/
theorem splitsInto_iff {cs : List Char} {ws : List (List Char)} :
    SplitsInto cs ws ↔ ws = words cs := by
  constructor
  · exact SplitsInto.eq_words
  · rintro rfl
    obtain ⟨ws, h⟩ := exists_splitsInto cs
    exact h.eq_words ▸ h

theorem SplitsInto.forall_mem {cs : List Char} {ws : List (List Char)} (h : SplitsInto cs ws) :
    ∀ w ∈ ws, w ≠ [] ∧ ∀ c ∈ w, isBlank c = false := by
  induction h with
  | nil => exact List.forall_mem_nil _
  | blank _ _ ih => exact ih
  | word hne hink _ _ ih => exact List.forall_mem_cons.2 ⟨⟨hne, hink⟩, ih⟩

/-- Words that are joined by spaces are the words of what they make up. -/
theorem splitsInto_unwords {ws : List (List Char)}
    (h : ∀ w ∈ ws, w ≠ [] ∧ ∀ c ∈ w, isBlank c = false) : SplitsInto (unwords ws) ws := by
  fun_induction unwords ws with
  | case1 => exact .nil
  | case2 w =>
    obtain ⟨hne, hink⟩ := h w List.mem_cons_self
    have hword : SplitsInto (w ++ []) [w] := .word hne hink rfl .nil
    rwa [List.append_nil] at hword
  | case3 w ws _ ih =>
    obtain ⟨⟨hne, hink⟩, hws⟩ := List.forall_mem_cons.1 h
    exact .word hne hink isBlank_space (.blank isBlank_space (ih hws))

/-- Collapsing keeps the words. -/
theorem words_squeeze (cs : List Char) : words (squeeze cs) = words cs := by
  have hwords : SplitsInto cs (words cs) := splitsInto_iff.2 rfl
  exact (splitsInto_unwords hwords.forall_mem).eq_words.symm

/-- Two texts collapse to the same if and only if they have the same words. -/
theorem squeeze_eq_squeeze_iff {cs ds : List Char} :
    squeeze cs = squeeze ds ↔ words cs = words ds := by
  constructor
  · intro h
    rw [← words_squeeze cs, h, words_squeeze ds]
  · intro h
    rw [squeeze, h, squeeze]

/-! ## Collapsed texts -/

/-- No blanks but spaces, each between two characters that are no blanks or, the first one, at the
beginning. -/
structure IsSpaced (cs : List Char) : Prop where
  ends : ∀ c ∈ cs.getLast?, isBlank c = false
  eq_space : ∀ c ∈ cs, isBlank c = true → c = ' '
  apart : cs.IsChain fun a b => isBlank a = false ∨ isBlank b = false

/-- No blanks but spaces, each between two characters that are no blanks. -/
structure IsCollapsed (cs : List Char) : Prop extends IsSpaced cs where
  begins : ∀ c ∈ cs.head?, isBlank c = false

theorem isCollapsed_nil : IsCollapsed [] where
  ends := by simp
  eq_space := List.forall_mem_nil _
  apart := .nil
  begins := by simp

theorem IsSpaced.tail {c : Char} {cs : List Char} (h : IsSpaced (c :: cs)) : IsSpaced cs where
  ends d hd := h.ends d (List.mem_getLast?_cons hd)
  eq_space d hd := h.eq_space d (List.mem_cons_of_mem c hd)
  apart := h.apart.tail

/-- Behind a character that is no blank a text may begin with a space. -/
theorem IsSpaced.ink_cons {c : Char} {cs : List Char} (h : IsSpaced cs) (hc : isBlank c = false) :
    IsCollapsed (c :: cs) where
  ends d hd := by
    cases cs with
    | nil =>
      obtain rfl : c = d := by simpa using hd
      exact hc
    | cons e es =>
      rw [List.getLast?_cons_cons] at hd
      exact h.ends d hd
  eq_space := by
    refine List.forall_mem_cons.2 ⟨fun hblank => ?_, h.eq_space⟩
    cases hc.symm.trans hblank
  apart := List.isChain_cons.2 ⟨fun _ _ => .inl hc, h.apart⟩
  begins d hd := by
    obtain rfl : c = d := by simpa using hd
    exact hc

theorem IsCollapsed.space_cons {cs : List Char} (h : IsCollapsed cs) (hne : cs ≠ []) :
    IsSpaced (' ' :: cs) where
  ends c hc := by
    rw [List.getLast?_cons_of_ne_nil hne] at hc
    exact h.ends c hc
  eq_space := List.forall_mem_cons.2 ⟨fun _ => rfl, h.eq_space⟩
  apart := List.isChain_cons.2 ⟨fun c hc => .inr (h.begins c hc), h.apart⟩

theorem isCollapsed_squeeze (cs : List Char) :
    IsCollapsed (squeeze cs) ∧ IsSpaced (squeezeAfter cs) := by
  induction cs with
  | nil => exact ⟨isCollapsed_nil, isCollapsed_nil.toIsSpaced⟩
  | cons c cs ih =>
    cases hc : isBlank c with
    | true =>
      rw [squeeze_blank hc, squeezeAfter_blank hc]
      refine ⟨ih.1, ?_⟩
      split
      · exact isCollapsed_nil.toIsSpaced
      · next hne => exact ih.1.space_cons hne
    | false =>
      have hcollapsed := ih.2.ink_cons hc
      rw [squeezeAfter_ink hc, squeeze_ink hc]
      exact ⟨hcollapsed, hcollapsed.toIsSpaced⟩

theorem IsSpaced.squeezeAfter_eq {cs : List Char} (h : IsSpaced cs) : squeezeAfter cs = cs := by
  induction cs with
  | nil => rfl
  | cons c cs ih =>
    have hrest := ih h.tail
    cases hc : isBlank c with
    | false => rw [squeezeAfter_ink hc, squeeze_ink hc, hrest]
    | true =>
      obtain rfl := h.eq_space c List.mem_cons_self hc
      -- Something comes after the space, and it is no blank.
      cases cs with
      | nil => cases h.ends ' ' rfl
      | cons d ds =>
        have hd : isBlank d = false :=
          (List.isChain_cons_cons.1 h.apart).1.resolve_left (by decide)
        rw [squeezeAfter_ink hd] at hrest
        rw [squeezeAfter_blank hc, hrest, if_neg (List.cons_ne_nil d ds)]

/-- A text stays as it is if and only if it is collapsed. -/
theorem squeeze_eq_self_iff {cs : List Char} : squeeze cs = cs ↔ IsCollapsed cs := by
  constructor
  · intro h
    rw [← h]
    exact (isCollapsed_squeeze cs).1
  · intro h
    cases cs with
    | nil => rfl
    | cons c cs => rw [← squeezeAfter_ink (h.begins c rfl), h.squeezeAfter_eq]

/-! ## Characters side by side -/

/-- The run stands in the text without a break, behind the given characters that are no blanks. -/
def StandsIn (before run cs : List Char) : Prop :=
  ∃ xs ys, cs = xs ++ (run ++ ys) ∧ ink xs = before

/-- A run at the beginning of what is left behind another character stood at the beginning. -/
theorem exists_of_squeezeAfter_eq {cs run after : List Char} (hink : ∀ c ∈ run, isBlank c = false)
    (h : squeezeAfter cs = run ++ after) : ∃ ys, cs = run ++ ys ∧ after = squeezeAfter ys := by
  induction run generalizing cs with
  | nil => exact ⟨cs, rfl, h.symm⟩
  | cons c run ih =>
    obtain ⟨hc, hrun⟩ := List.forall_mem_cons.1 hink
    cases cs with
    | nil => cases h
    | cons d ds =>
      cases hd : isBlank d with
      | true =>
        rw [squeezeAfter_blank hd] at h
        split at h
        · cases h
        · obtain ⟨rfl, -⟩ := List.cons.inj h
          cases hc
      | false =>
        rw [squeezeAfter_ink hd, squeeze_ink hd] at h
        obtain ⟨rfl, hrest⟩ := List.cons.inj h
        obtain ⟨ys, rfl, hafter⟩ := ih hrun hrest
        exact ⟨ys, rfl, hafter⟩

/-- Collapsing neither joins nor separates characters that are no blanks. -/
theorem standsIn_squeeze {before run cs : List Char} (hne : run ≠ [])
    (hrun : ∀ c ∈ run, isBlank c = false) :
    StandsIn before run (squeeze cs) ↔ StandsIn before run cs := by
  obtain ⟨c, run, rfl⟩ := List.exists_cons_of_ne_nil hne
  obtain ⟨hc, hrest⟩ := List.forall_mem_cons.1 hrun
  constructor
  · rintro ⟨xs, ys, h, rfl⟩
    obtain ⟨xs', tail, rfl, hink, htail⟩ := exists_of_squeeze_eq hc h
    obtain ⟨ys', rfl, -⟩ := exists_of_squeezeAfter_eq hrest htail.symm
    exact ⟨xs', ys', rfl, hink.symm⟩
  · rintro ⟨xs, ys, rfl, rfl⟩
    obtain ⟨xs', h, hink⟩ := exists_squeeze_eq hc xs (run ++ ys)
    rw [squeezeAfter_append hrest] at h
    exact ⟨xs', squeezeAfter ys, h, hink⟩

/-- The digits of the references of a text, in order. -/
def referenceDigits (cs : List Char) : List (List Char) :=
  (passage cs).references.map PassageReference.digits

theorem referenceDigits_char {c : Char} {cs : List Char}
    (h : c = '\\' → startsWithDecimal cs = false) :
    referenceDigits (c :: cs) = referenceDigits cs := by
  rw [referenceDigits, passage_char h]
  rfl

theorem referenceDigits_blank {c : Char} (h : isBlank c = true) (cs : List Char) :
    referenceDigits (c :: cs) = referenceDigits cs := by
  apply referenceDigits_char
  rintro rfl
  cases h

theorem referenceDigits_reference {digits rest : List Char} (hne : digits ≠ [])
    (h : ∀ c ∈ digits, isDecimal c = true) (hrest : startsWithDecimal rest = false) :
    referenceDigits ('\\' :: (digits ++ rest)) = digits :: referenceDigits rest := by
  rw [referenceDigits, passage_reference hne h hrest]
  rfl

theorem referenceDigits_squeezeAfter (cs : List Char) :
    referenceDigits (squeezeAfter cs) = referenceDigits (squeeze cs) := by
  rcases squeezeAfter_eq cs with heq | heq
  · rw [heq]
  · rw [heq, referenceDigits_blank isBlank_space]

/-- Collapsing makes and destroys no reference, and each keeps its digits. -/
theorem referenceDigits_squeeze (cs : List Char) :
    referenceDigits (squeeze cs) = referenceDigits cs := by
  induction cs using reference_induction with
  | nil => rfl
  | reference digits rest hne hdigits hrest ih =>
    have hink : ∀ c ∈ digits, isBlank c = false :=
      fun c hc => not_isBlank_of_isDecimal (hdigits c hc)
    have hrest' : startsWithDecimal (squeezeAfter rest) = false :=
      (startsWithDecimal_squeezeAfter rest).trans hrest
    rw [squeeze_ink rfl, squeezeAfter_append hink, referenceDigits_reference hne hdigits hrest',
      referenceDigits_reference hne hdigits hrest, referenceDigits_squeezeAfter, ih]
  | char c cs hc ih =>
    cases hblank : isBlank c with
    | true => rw [squeeze_blank hblank, referenceDigits_blank hblank, ih]
    | false =>
      rw [squeeze_ink hblank, referenceDigits_char hc, referenceDigits_char fun heq =>
        (startsWithDecimal_squeezeAfter cs).trans (hc heq), referenceDigits_squeezeAfter, ih]

/-! ## The normal form -/

/-- The words of a text are unique, and collapsing it gives the only text with these words that has
no blank at its ends and no other blanks than single spaces.  A second time changes nothing, and two
texts become the same if and only if they have the same words.  Characters that are no blanks stand
side by side afterwards where they did before and nowhere else, and so the references are the same
with the same digits. -/
theorem normalForm_collapse (s : String) :
    (∀ cs ws, SplitsInto cs ws ↔ ws = words cs) ∧
    IsCollapsed (collapse s).toList ∧
    words (collapse s).toList = words s.toList ∧
    (∀ t, collapse t = t ↔ IsCollapsed t.toList) ∧
    collapse (collapse s) = collapse s ∧
    (∀ t, collapse t = collapse s ↔ words t.toList = words s.toList) ∧
    (∀ before run, run ≠ [] → (∀ c ∈ run, isBlank c = false) →
      (StandsIn before run (collapse s).toList ↔ StandsIn before run s.toList)) ∧
    referenceDigits (collapse s).toList = referenceDigits s.toList := by
  have hcollapsed := (isCollapsed_squeeze s.toList).1
  have hself (t : String) : collapse t = t ↔ IsCollapsed t.toList := by
    rw [← String.toList_inj, toList_collapse, squeeze_eq_self_iff]
  have hsame (t : String) : collapse t = collapse s ↔ words t.toList = words s.toList := by
    rw [← String.toList_inj, toList_collapse, toList_collapse, squeeze_eq_squeeze_iff]
  refine ⟨fun _ _ => splitsInto_iff, ?_, ?_, hself, ?_, hsame, ?_, ?_⟩
  · rw [toList_collapse]
    exact hcollapsed
  · rw [toList_collapse, words_squeeze]
  · rw [hself, toList_collapse]
    exact hcollapsed
  · intro before run hne hrun
    rw [toList_collapse]
    exact standsIn_squeeze hne hrun
  · rw [toList_collapse, referenceDigits_squeeze]

/-- A reference stays one, and a backslash with a blank before its digit becomes none. -/
theorem normalForm_collapse_sample :
    (['\\', '1'] ≠ [] ∧ ∀ c ∈ ['\\', '1'], isBlank c = false) ∧
    collapse "\ta\\1\u2003 \\\u00A0 2\n" = "a\\1 \\ 2" ∧
    SplitsInto "\ta\\1\u2003 \\\u00A0 2\n".toList [['a', '\\', '1'], ['\\'], ['2']] ∧
    StandsIn ['a'] ['\\', '1'] (collapse "\ta\\1\u2003 \\\u00A0 2\n").toList ∧
    referenceDigits (collapse "\ta\\1\u2003 \\\u00A0 2\n").toList = [['1']] := by
  obtain ⟨hsplits, -, -, -, -, -, hstands, hdigits⟩ :=
    normalForm_collapse "\ta\\1\u2003 \\\u00A0 2\n"
  have hrun : ['\\', '1'] ≠ [] ∧ ∀ c ∈ ['\\', '1'], isBlank c = false :=
    ⟨List.cons_ne_nil _ _, List.forall_mem_cons.2 ⟨rfl, List.forall_mem_singleton.2 rfl⟩⟩
  refine ⟨hrun, by decide, (hsplits _ _).2 (by decide), ?_, ?_⟩
  · exact (hstands _ _ hrun.1 hrun.2).2 ⟨"\ta".toList, "\u2003 \\\u00A0 2\n".toList, rfl, rfl⟩
  · rw [hdigits]
    decide

end GrammarRules.Text
