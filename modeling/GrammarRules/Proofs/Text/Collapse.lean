import GrammarRules.Text.Blank

/-!
# Collapsing white space, character by character

`squeeze` is `collapse` on lists of characters.  A blank at the head of a text goes away
(`squeeze_blank`), and any other character stays and is followed by `squeezeAfter` of the rest
(`squeeze_ink`), which keeps one space if there was a blank and a word comes after it.  So every run
of characters that are no blanks is the same before and after (`takeWhile_squeezeAfter`), and the
characters that are no blanks are the same in the same order: what stands around one of them comes
of what stood around it (`exists_of_squeeze_eq`, `exists_squeeze_eq`).
-/

namespace GrammarRules.Text

/-- The words of a text with one space between neighbours. -/
def squeeze (cs : List Char) : List Char := unwords (words cs)

/-- What comes of a text that follows on a character that is no blank. -/
def squeezeAfter (cs : List Char) : List Char :=
  if cs.head?.any isBlank && !(words cs).isEmpty then ' ' :: squeeze cs else squeeze cs

theorem toList_collapse (s : String) : (collapse s).toList = squeeze s.toList :=
  String.toList_ofList

@[simp] theorem squeeze_nil : squeeze [] = [] := rfl

@[simp] theorem squeezeAfter_nil : squeezeAfter [] = [] := rfl

theorem squeeze_blank {c : Char} (h : isBlank c = true) (cs : List Char) :
    squeeze (c :: cs) = squeeze cs := by
  rw [squeeze, words_blank h, squeeze]

theorem unwords_cons_cons (c : Char) (w : List Char) (ws : List (List Char)) :
    unwords ((c :: w) :: ws) = c :: unwords (w :: ws) := by
  cases ws <;> rfl

/-- A character that is no blank begins a word or goes on with the first word of the rest. -/
theorem words_ink {c : Char} (h : isBlank c = false) (cs : List Char) :
    words (c :: cs) =
      match cs.head?.all isBlank, words cs with
      | false, w :: ws => (c :: w) :: ws
      | _, ws => [c] :: ws := by
  rw [words, h]
  rfl

theorem words_ink_ne_nil {c : Char} (h : isBlank c = false) (cs : List Char) :
    words (c :: cs) ≠ [] := by
  rw [words_ink h]
  split <;> exact List.cons_ne_nil _ _

theorem squeezeAfter_ink {c : Char} (h : isBlank c = false) (cs : List Char) :
    squeezeAfter (c :: cs) = squeeze (c :: cs) := by
  simp [squeezeAfter, h]

theorem squeeze_ink {c : Char} (h : isBlank c = false) (cs : List Char) :
    squeeze (c :: cs) = c :: squeezeAfter cs := by
  cases cs with
  | nil => simp [squeeze, words_ink h, words_nil, unwords]
  | cons d ds =>
    cases hd : isBlank d with
    | true =>
      rw [squeeze, words_ink h, squeezeAfter]
      cases hwords : words (d :: ds) <;> simp [hd, hwords, squeeze, unwords]
    | false =>
      obtain ⟨w, ws, hws⟩ := List.exists_cons_of_ne_nil (words_ink_ne_nil hd ds)
      rw [squeezeAfter_ink hd, squeeze, words_ink h, hws, squeeze, hws, List.head?_cons,
        Option.all_some, hd]
      exact unwords_cons_cons c w ws

theorem squeeze_eq_nil_iff (cs : List Char) : squeeze cs = [] ↔ words cs = [] := by
  induction cs with
  | nil => simp [words_nil]
  | cons c cs ih =>
    cases h : isBlank c with
    | true => rw [squeeze_blank h, words_blank h, ih]
    | false => simp [squeeze_ink h, words_ink_ne_nil h]

/-- Behind another character a blank leaves a space if a word comes after it. -/
theorem squeezeAfter_blank {c : Char} (h : isBlank c = true) (cs : List Char) :
    squeezeAfter (c :: cs) = if squeeze cs = [] then [] else ' ' :: squeeze cs := by
  rw [squeezeAfter, words_blank h, squeeze_blank h]
  by_cases hwords : words cs = []
  · simp [hwords, (squeeze_eq_nil_iff cs).2 hwords]
  · simp [h, hwords, squeeze_eq_nil_iff]

/-- Characters that are no blanks stay. -/
theorem squeezeAfter_append {ink : List Char} (h : ∀ c ∈ ink, isBlank c = false)
    (cs : List Char) : squeezeAfter (ink ++ cs) = ink ++ squeezeAfter cs := by
  induction ink with
  | nil => rfl
  | cons c ink ih =>
    have hc := h c List.mem_cons_self
    rw [List.cons_append, squeezeAfter_ink hc, squeeze_ink hc,
      ih fun d hd => h d (List.mem_cons_of_mem _ hd), List.cons_append]

/-- The squeezed text behind another character is the squeezed text, up to a space at its head. -/
theorem squeezeAfter_eq (cs : List Char) :
    squeezeAfter cs = squeeze cs ∨ squeezeAfter cs = ' ' :: squeeze cs := by
  unfold squeezeAfter
  split
  · exact .inr rfl
  · exact .inl rfl

/-- A run of characters that are no blanks is the same before and after. -/
theorem takeWhile_squeezeAfter {p : Char → Bool} (hp : ∀ c, isBlank c = true → p c = false)
    (cs : List Char) : (squeezeAfter cs).takeWhile p = cs.takeWhile p := by
  induction cs with
  | nil => rfl
  | cons c cs ih =>
    cases h : isBlank c with
    | true =>
      rw [squeezeAfter_blank h, List.takeWhile_cons_of_neg (by simp [hp c h])]
      split
      · rfl
      · exact List.takeWhile_cons_of_neg (by simp [hp ' ' isBlank_space])
    | false =>
      rw [squeezeAfter_ink h, squeeze_ink h, List.takeWhile_cons, List.takeWhile_cons, ih]

theorem any_head?_squeezeAfter {p : Char → Bool} (hp : ∀ c, isBlank c = true → p c = false)
    (cs : List Char) : (squeezeAfter cs).head?.any p = cs.head?.any p := by
  have hhead : ∀ xs : List Char, xs.head?.any p = !(xs.takeWhile p).isEmpty := by
    intro xs
    cases xs with
    | nil => rfl
    | cons x xs => cases hx : p x <;> simp [hx]
  rw [hhead, hhead, takeWhile_squeezeAfter hp]

/-! ## What stands around a character -/

/-- The characters of a text that are no blanks. -/
def ink (cs : List Char) : List Char := cs.filter (!isBlank ·)

theorem ink_cons_blank {c : Char} (h : isBlank c = true) (cs : List Char) :
    ink (c :: cs) = ink cs := List.filter_cons_of_neg (by simp [h])

theorem ink_cons {c : Char} (h : isBlank c = false) (cs : List Char) :
    ink (c :: cs) = c :: ink cs := List.filter_cons_of_pos (by simp [h])

/-- A character of the squeezed text that is no blank stood in the text, behind the same characters
that are no blanks. -/
theorem exists_of_squeeze_eq {cs before after : List Char} {c : Char} (hc : isBlank c = false)
    (h : squeeze cs = before ++ c :: after) :
    ∃ xs ys, cs = xs ++ c :: ys ∧ ink before = ink xs ∧ after = squeezeAfter ys := by
  induction cs generalizing before with
  | nil => simp at h
  | cons d ds ih =>
    cases hd : isBlank d with
    | true =>
      rw [squeeze_blank hd] at h
      obtain ⟨xs, ys, rfl, hink, hafter⟩ := ih h
      exact ⟨d :: xs, ys, rfl, hink.trans (ink_cons_blank hd xs).symm, hafter⟩
    | false =>
      rw [squeeze_ink hd] at h
      cases before with
      | nil =>
        obtain ⟨rfl, rfl⟩ := List.cons.inj h
        exact ⟨[], ds, rfl, rfl, rfl⟩
      | cons b before =>
        obtain ⟨rfl, hrest⟩ := List.cons.inj h
        -- A space may have come between, which is no ink.
        obtain ⟨before', hsqueeze, hbefore⟩ : ∃ before', squeeze ds = before' ++ c :: after ∧
            ink before = ink before' := by
          rcases squeezeAfter_eq ds with heq | heq
          · exact ⟨before, heq ▸ hrest, rfl⟩
          · rw [heq] at hrest
            cases before with
            | nil =>
              obtain ⟨rfl, -⟩ := List.cons.inj hrest
              cases hc
            | cons b before =>
              obtain ⟨rfl, hspace⟩ := List.cons.inj hrest
              exact ⟨before, hspace, ink_cons_blank isBlank_space before⟩
        obtain ⟨xs, ys, rfl, hink, hafter⟩ := ih hsqueeze
        refine ⟨d :: xs, ys, rfl, ?_, hafter⟩
        rw [ink_cons hd, ink_cons hd, hbefore, hink]

/-- A character that is no blank stays, behind the same characters that are no blanks. -/
theorem exists_squeeze_eq {c : Char} (hc : isBlank c = false) (xs ys : List Char) :
    ∃ before, squeeze (xs ++ c :: ys) = before ++ c :: squeezeAfter ys ∧ ink before = ink xs := by
  induction xs with
  | nil => exact ⟨[], squeeze_ink hc ys, rfl⟩
  | cons d xs ih =>
    obtain ⟨before, hsqueeze, hink⟩ := ih
    cases hd : isBlank d with
    | true =>
      refine ⟨before, (squeeze_blank hd _).trans hsqueeze, ?_⟩
      rw [hink, ink_cons_blank hd]
    | false =>
      rw [List.cons_append, squeeze_ink hd, ink_cons hd]
      rcases squeezeAfter_eq (xs ++ c :: ys) with heq | heq
      · exact ⟨d :: before, by rw [heq, hsqueeze]; rfl, by rw [ink_cons hd, hink]⟩
      · refine ⟨d :: ' ' :: before, by rw [heq, hsqueeze]; rfl, ?_⟩
        rw [ink_cons hd, ink_cons_blank isBlank_space, hink]

end GrammarRules.Text
