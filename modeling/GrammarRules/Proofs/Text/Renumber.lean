import GrammarRules.Proofs.Text.Collapse
import GrammarRules.Proofs.Text.Numeral

/-!
# Renumbering the references of a text

A text begins with a reference, with another character, or not at all, and `reference_induction`
takes it apart in this way.  Two texts are renumbered one after the other unless digits follow on
from one to the next (`renumber_append`), and a text that does not refer to the number stays
(`renumber_of_free`).  Renumbering replaces digits by digits, and so it does not matter whether the
white space is collapsed before or after (`renumber_squeeze`).
-/

namespace GrammarRules.Text

/-- Whether a text begins with a decimal digit. -/
def startsWithDecimal (cs : List Char) : Bool := cs.head?.any isDecimal

theorem startsWithDecimal_append {xs ys : List Char} (hxs : startsWithDecimal xs = false)
    (hys : startsWithDecimal ys = false) : startsWithDecimal (xs ++ ys) = false := by
  cases xs with
  | nil => exact hys
  | cons x xs => exact hxs

theorem startsWithDecimal_squeezeAfter (cs : List Char) :
    startsWithDecimal (squeezeAfter cs) = startsWithDecimal cs :=
  any_head?_squeezeAfter (fun _ => not_isDecimal_of_isBlank) cs

/-! ## Reading piece by piece -/

theorem readReferencesAfter_eq (skip : Nat) (cs : List Char) :
    readReferencesAfter skip cs = readReferences (cs.drop skip) := by
  induction cs generalizing skip with
  | nil => rw [List.drop_nil]; rfl
  | cons c cs ih =>
    cases skip with
    | zero => rfl
    | succ skip => exact ih skip

theorem leadingDecimals_append {digits rest : List Char} (h : ∀ c ∈ digits, isDecimal c = true)
    (hrest : startsWithDecimal rest = false) : leadingDecimals (digits ++ rest) = digits := by
  rw [leadingDecimals, List.takeWhile_append_of_pos h]
  cases rest with
  | nil => simp
  | cons c cs =>
    have hc : isDecimal c = false := hrest
    simp [hc]

theorem leadingDecimals_eq_nil {cs : List Char} (h : startsWithDecimal cs = false) :
    leadingDecimals cs = [] := by
  have happend := leadingDecimals_append (List.forall_mem_nil _) h
  exact happend

theorem readReferences_reference {digits rest : List Char} (hne : digits ≠ [])
    (h : ∀ c ∈ digits, isDecimal c = true) (hrest : startsWithDecimal rest = false) :
    readReferences ('\\' :: (digits ++ rest)) = .reference digits :: readReferences rest := by
  rw [readReferences, readReferencesAfter, leadingDecimals_append h hrest]
  simp only [hne, ne_eq, not_false_eq_true, and_self, if_true, readReferencesAfter_eq]
  rw [List.drop_left]

theorem readReferences_char {c : Char} {cs : List Char}
    (h : c = '\\' → startsWithDecimal cs = false) :
    readReferences (c :: cs) = .char c :: readReferences cs := by
  rw [readReferences, readReferencesAfter]
  refine if_neg ?_
  rintro ⟨hc, hne⟩
  exact hne (leadingDecimals_eq_nil (h hc))

/-- The digits that a text begins with, and what is behind them. -/
theorem exists_digits {cs : List Char} (h : startsWithDecimal cs = true) :
    ∃ digits rest, cs = digits ++ rest ∧ digits ≠ [] ∧ (∀ c ∈ digits, isDecimal c = true) ∧
      startsWithDecimal rest = false := by
  induction cs with
  | nil => cases h
  | cons c cs ih =>
    have hc : isDecimal c = true := h
    cases hcs : startsWithDecimal cs with
    | false => exact ⟨[c], cs, rfl, List.cons_ne_nil _ _, by simpa using hc, hcs⟩
    | true =>
      obtain ⟨digits, rest, rfl, -, hdigits, hrest⟩ := ih hcs
      exact ⟨c :: digits, rest, rfl, List.cons_ne_nil _ _, List.forall_mem_cons.2 ⟨hc, hdigits⟩,
        hrest⟩

/-- A text is empty, or begins with a reference, or begins with another character. -/
theorem reference_induction {P : List Char → Prop} (nil : P [])
    (reference : ∀ digits rest, digits ≠ [] → (∀ c ∈ digits, isDecimal c = true) →
      startsWithDecimal rest = false → P rest → P ('\\' :: (digits ++ rest)))
    (char : ∀ c cs, (c = '\\' → startsWithDecimal cs = false) → P cs → P (c :: cs))
    (cs : List Char) : P cs := by
  induction hn : cs.length using Nat.strongRecOn generalizing cs with
  | ind n ih =>
    subst hn
    cases cs with
    | nil => exact nil
    | cons c cs =>
      by_cases href : c = '\\' ∧ startsWithDecimal cs = true
      · obtain ⟨rfl, hdecimal⟩ := href
        obtain ⟨digits, rest, rfl, hne, hdigits, hrest⟩ := exists_digits hdecimal
        refine reference digits rest hne hdigits hrest (ih _ ?_ rest rfl)
        rw [List.length_cons, List.length_append]
        omega
      · refine char c cs (fun hc => ?_) (ih _ (Nat.lt_succ_self _) cs rfl)
        simpa [hc] using href

/-! ## Renumbering -/

/-- Give the references to `old` the number `new`. -/
def renumber (old new : Nat) (cs : List Char) : List Char :=
  writeReferences ((readReferences cs).map (·.rename old new))

theorem toList_renumberReference (text : String) (old new : Nat) :
    (renumberReference text old new).toList = renumber old new text.toList := String.toList_ofList

section Renumber

variable {old new : Nat}

@[simp] theorem renumber_nil : renumber old new [] = [] := rfl

/-- The digits of a reference after the renumbering. -/
def renamed (old new : Nat) (digits : List Char) : List Char :=
  if natural? natMax32 digits = some old then numeral new else digits

theorem renumber_reference {digits rest : List Char} (hne : digits ≠ [])
    (h : ∀ c ∈ digits, isDecimal c = true) (hrest : startsWithDecimal rest = false) :
    renumber old new ('\\' :: (digits ++ rest)) =
      '\\' :: (renamed old new digits ++ renumber old new rest) := by
  rw [renumber, readReferences_reference hne h hrest]
  rfl

theorem renumber_char {c : Char} {cs : List Char} (h : c = '\\' → startsWithDecimal cs = false) :
    renumber old new (c :: cs) = c :: renumber old new cs := by
  rw [renumber, readReferences_char h]
  rfl

/-- Two texts are renumbered one after the other unless digits follow on from one to the next. -/
theorem renumber_append (xs : List Char) {ys : List Char} (h : startsWithDecimal ys = false) :
    renumber old new (xs ++ ys) = renumber old new xs ++ renumber old new ys := by
  induction xs using reference_induction with
  | nil => rfl
  | reference digits rest hne hdigits hrest ih =>
    rw [List.cons_append, List.append_assoc, renumber_reference hne hdigits hrest,
      renumber_reference hne hdigits (startsWithDecimal_append hrest h), ih, List.cons_append,
      List.append_assoc]
  | char c cs hc ih =>
    rw [List.cons_append, renumber_char hc,
      renumber_char fun heq => startsWithDecimal_append (hc heq) h, ih, List.cons_append]

theorem renumber_eq_nil_iff (cs : List Char) : renumber old new cs = [] ↔ cs = [] := by
  induction cs using reference_induction with
  | nil => simp
  | reference digits rest hne hdigits hrest => simp [renumber_reference hne hdigits hrest]
  | char c cs hc => simp [renumber_char hc]

/-- A text without a reference to the number stays. -/
theorem renumber_of_free {cs : List Char}
    (h : ∀ digits, .reference digits ∈ readReferences cs → natural? natMax32 digits ≠ some old) :
    renumber old new cs = cs := by
  induction cs using reference_induction with
  | nil => rfl
  | reference digits rest hne hdigits hrest ih =>
    rw [readReferences_reference hne hdigits hrest] at h
    rw [renumber_reference hne hdigits hrest, renamed, if_neg (h digits List.mem_cons_self),
      ih fun ds hds => h ds (List.mem_cons_of_mem _ hds)]
  | char c cs hc ih =>
    rw [readReferences_char hc] at h
    rw [renumber_char hc, ih fun ds hds => h ds (List.mem_cons_of_mem _ hds)]

theorem isBlank_of_mem_renamed {digits : List Char} (h : ∀ c ∈ digits, isDecimal c = true)
    {c : Char} (hc : c ∈ renamed old new digits) : isBlank c = false := by
  unfold renamed at hc
  split at hc
  · exact not_isBlank_of_isDecimal (isDecimal_of_mem_numeral hc)
  · exact not_isBlank_of_isDecimal (h c hc)

/-- It does not matter whether the white space is collapsed before or after the renumbering. -/
theorem renumber_squeeze (cs : List Char) :
    renumber old new (squeeze cs) = squeeze (renumber old new cs) ∧
      renumber old new (squeezeAfter cs) = squeezeAfter (renumber old new cs) := by
  induction cs using reference_induction with
  | nil => exact ⟨rfl, rfl⟩
  | reference digits rest hne hdigits hrest ih =>
    have hink : isBlank '\\' = false := rfl
    have hdigits' : ∀ c ∈ digits, isBlank c = false :=
      fun c hc => not_isBlank_of_isDecimal (hdigits c hc)
    have hrest' : startsWithDecimal (squeezeAfter rest) = false :=
      (startsWithDecimal_squeezeAfter rest).trans hrest
    have hsqueeze : renumber old new (squeeze ('\\' :: (digits ++ rest))) =
        squeeze (renumber old new ('\\' :: (digits ++ rest))) := by
      rw [squeeze_ink hink, squeezeAfter_append hdigits', renumber_reference hne hdigits hrest',
        renumber_reference hne hdigits hrest, squeeze_ink hink,
        squeezeAfter_append fun c => isBlank_of_mem_renamed hdigits, ih.2]
    refine ⟨hsqueeze, ?_⟩
    rw [squeezeAfter_ink hink, hsqueeze, renumber_reference hne hdigits hrest,
      squeezeAfter_ink hink]
  | char c cs hc ih =>
    rw [renumber_char hc]
    cases hblank : isBlank c with
    | true =>
      rw [squeeze_blank hblank, squeeze_blank hblank, squeezeAfter_blank hblank,
        squeezeAfter_blank hblank, ← ih.1]
      refine ⟨rfl, ?_⟩
      -- A space is left on both sides or on neither, since no text becomes empty.
      by_cases hempty : squeeze cs = []
      · rw [hempty]
        rfl
      · rw [if_neg hempty, if_neg fun h => hempty ((renumber_eq_nil_iff _).1 h)]
        exact renumber_char fun heq => absurd heq (by decide)
    | false =>
      have hsqueeze : renumber old new (c :: squeezeAfter cs) =
          c :: squeezeAfter (renumber old new cs) := by
        rw [renumber_char fun heq => (startsWithDecimal_squeezeAfter cs).trans (hc heq), ih.2]
      rw [squeezeAfter_ink hblank, squeezeAfter_ink hblank, squeeze_ink hblank, squeeze_ink hblank]
      exact ⟨hsqueeze, hsqueeze⟩

end Renumber

end GrammarRules.Text
