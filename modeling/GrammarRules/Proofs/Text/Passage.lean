import GrammarRules.Proofs.Text.Renumber
import GrammarRules.Proofs.Text.Spelling

/-!
# A text as gaps and references

A `Passage` is a text taken apart: the characters before its first reference, and every reference
with the gap behind it.  `Passage.Reads` says what it takes to be a reading of a text: the parts
make up the text, the digits of a reference are as many as there are, and no gap has a reference in
it.  A text has exactly one reading (`reads_iff`), which `passage` computes.

Renumbering a text keeps its gaps and replaces the digits of a reference or keeps them
(`passage_renumber`), so it forms no new reference and joins or splits none.  Hence a number can
take another one's place on its way to a third (`renumber_renumber`).
-/

namespace GrammarRules.Text

/-- A reference with the characters behind it, up to the next reference. -/
structure PassageReference where
  digits : List Char
  gap : List Char
deriving DecidableEq, Inhabited

/-- The reference as it is written, with the gap. -/
def PassageReference.chars (r : PassageReference) : List Char := '\\' :: (r.digits ++ r.gap)

/-- A text taken apart at its references. -/
structure Passage where
  lead : List Char
  references : List PassageReference
deriving DecidableEq, Inhabited

/-- The text that the parts make up. -/
def Passage.chars (p : Passage) : List Char := p.lead ++ p.references.flatMap PassageReference.chars

/-! ## Readings -/

/-- No backslash has a decimal digit right after it. -/
def IsGap (cs : List Char) : Prop :=
  ∀ before after, cs = before ++ '\\' :: after → startsWithDecimal after = false

/-- There are digits, they are all that there are, and there is no reference in the gap. -/
structure PassageReference.IsSound (r : PassageReference) : Prop where
  digits_ne_nil : r.digits ≠ []
  isDecimal : ∀ c ∈ r.digits, isDecimal c = true
  ends : startsWithDecimal r.gap = false
  isGap : IsGap r.gap

/-- The passage is the text taken apart at each of its references. -/
structure Passage.Reads (p : Passage) (cs : List Char) : Prop where
  chars_eq : p.chars = cs
  isGap_lead : IsGap p.lead
  isSound : ∀ r ∈ p.references, r.IsSound

theorem isGap_nil : IsGap [] := by
  intro before after h
  simp at h

/-- A character makes a gap longer unless it is a backslash with a digit after it. -/
theorem isGap_cons {c : Char} {cs : List Char} :
    IsGap (c :: cs) ↔ (c = '\\' → startsWithDecimal cs = false) ∧ IsGap cs := by
  constructor
  · intro h
    refine ⟨?_, fun before after heq => h (c :: before) after (by rw [heq]; rfl)⟩
    rintro rfl
    exact h [] cs rfl
  · rintro ⟨hc, hcs⟩ before after heq
    cases before with
    | nil =>
      obtain ⟨rfl, rfl⟩ := List.cons.inj heq
      exact hc rfl
    | cons b before =>
      obtain ⟨-, rfl⟩ := List.cons.inj heq
      exact hcs before after rfl

/-! ## Reading a text -/

namespace Passage

/-- One character more at the beginning. -/
def consChar (c : Char) (p : Passage) : Passage := ⟨c :: p.lead, p.references⟩

/-- A reference more at the beginning. -/
def consReference (digits : List Char) (p : Passage) : Passage :=
  ⟨[], ⟨digits, p.lead⟩ :: p.references⟩

/-- The characters of a sequence of pieces gathered into gaps. -/
def ofPieces : List ReferencePiece → Passage
  | [] => ⟨[], []⟩
  | .char c :: pieces => (ofPieces pieces).consChar c
  | .reference digits :: pieces => (ofPieces pieces).consReference digits

theorem chars_consChar (c : Char) (p : Passage) : (p.consChar c).chars = c :: p.chars := rfl

theorem chars_consReference (digits : List Char) (p : Passage) :
    (p.consReference digits).chars = '\\' :: (digits ++ p.chars) := by
  simp [consReference, chars, PassageReference.chars]

/-- References begin with a backslash. -/
theorem startsWithDecimal_flatMap (references : List PassageReference) :
    startsWithDecimal (references.flatMap PassageReference.chars) = false := by
  cases references <;> rfl

end Passage

/-- The reading of a text. -/
def passage (cs : List Char) : Passage := .ofPieces (readReferences cs)

theorem passage_char {c : Char} {cs : List Char} (h : c = '\\' → startsWithDecimal cs = false) :
    passage (c :: cs) = (passage cs).consChar c := by
  rw [passage, readReferences_char h]
  rfl

theorem passage_reference {digits rest : List Char} (hne : digits ≠ [])
    (h : ∀ c ∈ digits, isDecimal c = true) (hrest : startsWithDecimal rest = false) :
    passage ('\\' :: (digits ++ rest)) = (passage rest).consReference digits := by
  rw [passage, readReferences_reference hne h hrest]
  rfl

/-- Where a text does not begin with a digit, what stands before its first reference does not. -/
theorem Passage.Reads.startsWithDecimal_lead {p : Passage} {cs : List Char} (h : p.Reads cs)
    (hcs : startsWithDecimal cs = false) : startsWithDecimal p.lead = false := by
  rw [← h.chars_eq, Passage.chars] at hcs
  cases hlead : p.lead with
  | nil => rfl
  | cons c lead =>
    rw [hlead] at hcs
    exact hcs

theorem passage_reads (cs : List Char) : (passage cs).Reads cs := by
  induction cs using reference_induction with
  | nil => exact ⟨rfl, isGap_nil, List.forall_mem_nil _⟩
  | reference digits rest hne hdigits hrest ih =>
    rw [passage_reference hne hdigits hrest]
    refine ⟨?_, isGap_nil, ?_⟩
    · rw [Passage.chars_consReference, ih.chars_eq]
    · have hends := ih.startsWithDecimal_lead hrest
      exact List.forall_mem_cons.2 ⟨⟨hne, hdigits, hends, ih.isGap_lead⟩, ih.isSound⟩
  | char c cs hc ih =>
    rw [passage_char hc]
    refine ⟨?_, ?_, ih.isSound⟩
    · rw [Passage.chars_consChar, ih.chars_eq]
    · exact isGap_cons.2 ⟨fun h => ih.startsWithDecimal_lead (hc h), ih.isGap_lead⟩

/-- A gap before a text that does not begin with a digit is read as characters. -/
theorem passage_gap_append {gap rest : List Char} (hgap : IsGap gap)
    (hrest : startsWithDecimal rest = false) :
    passage (gap ++ rest) = ⟨gap ++ (passage rest).lead, (passage rest).references⟩ := by
  induction gap with
  | nil => rfl
  | cons c gap ih =>
    obtain ⟨hc, hgap⟩ := isGap_cons.1 hgap
    rw [List.cons_append, passage_char fun h => startsWithDecimal_append (hc h) hrest, ih hgap]
    rfl

theorem passage_flatMap {references : List PassageReference}
    (h : ∀ r ∈ references, r.IsSound) :
    passage (references.flatMap PassageReference.chars) = ⟨[], references⟩ := by
  induction references with
  | nil => rfl
  | cons r references ih =>
    obtain ⟨hr, hreferences⟩ := List.forall_mem_cons.1 h
    have hrest := Passage.startsWithDecimal_flatMap references
    rw [List.flatMap_cons, PassageReference.chars, List.cons_append, List.append_assoc,
      passage_reference hr.digits_ne_nil hr.isDecimal (startsWithDecimal_append hr.ends hrest),
      passage_gap_append hr.isGap hrest, ih hreferences]
    simp [Passage.consReference]

/-- A text has one reading. -/
theorem reads_iff {p : Passage} {cs : List Char} : p.Reads cs ↔ p = passage cs := by
  constructor
  · intro h
    rw [← h.chars_eq, Passage.chars,
      passage_gap_append h.isGap_lead (Passage.startsWithDecimal_flatMap _),
      passage_flatMap h.isSound]
    simp
  · rintro rfl
    exact passage_reads cs

/-! ## Renumbering -/

theorem natural?_eq_some_iff {bound n : Nat} {cs : List Char} :
    natural? bound cs = some n ↔ Denotes cs n ∧ n ≤ bound := by
  rw [natural?, Option.filter_eq_some_iff, digits?_eq_some_iff]
  simp only [decide_eq_true_eq]

/-- The digits of a reference before and after `old` has become `new`.  Digits that denote no 32-bit
number are never replaced. -/
inductive Renames (old new : Nat) : List Char → List Char → Prop
  | replaced {digits : List Char} (h : Denotes digits old) (hbound : old ≤ natMax32) :
      Renames old new digits (numeral new)
  | kept {digits : List Char} (h : ¬ (Denotes digits old ∧ old ≤ natMax32)) :
      Renames old new digits digits

/-- The passage with `new` in the place of `old`. -/
def Passage.rename (old new : Nat) (p : Passage) : Passage :=
  ⟨p.lead, p.references.map fun r => ⟨renamed old new r.digits, r.gap⟩⟩

section Renumber

variable {old new : Nat}

theorem renames_renamed (digits : List Char) : Renames old new digits (renamed old new digits) := by
  unfold renamed
  split
  · next h =>
    rw [natural?_eq_some_iff] at h
    exact .replaced h.1 h.2
  · next h =>
    rw [natural?_eq_some_iff] at h
    exact .kept h

theorem renamed_ne_nil {digits : List Char} (h : digits ≠ []) : renamed old new digits ≠ [] := by
  unfold renamed
  split
  · exact numeral_ne_nil new
  · exact h

theorem isDecimal_of_mem_renamed {digits : List Char} (h : ∀ c ∈ digits, isDecimal c = true) :
    ∀ c ∈ renamed old new digits, isDecimal c = true := by
  intro c hc
  unfold renamed at hc
  split at hc
  · exact isDecimal_of_mem_numeral hc
  · exact h c hc

/-- A renumbered text begins as it did. -/
theorem startsWithDecimal_renumber (cs : List Char) :
    startsWithDecimal (renumber old new cs) = startsWithDecimal cs := by
  induction cs using reference_induction with
  | nil => rfl
  | reference digits rest hne hdigits hrest =>
    rw [renumber_reference hne hdigits hrest]
    rfl
  | char c cs hc =>
    rw [renumber_char hc]
    rfl

/-- Reading a renumbered text is reading the text and renaming its references. -/
theorem passage_renumber (cs : List Char) :
    passage (renumber old new cs) = (passage cs).rename old new := by
  induction cs using reference_induction with
  | nil => rfl
  | reference digits rest hne hdigits hrest ih =>
    have hrest' : startsWithDecimal (renumber old new rest) = false :=
      (startsWithDecimal_renumber rest).trans hrest
    rw [renumber_reference hne hdigits hrest, passage_reference hne hdigits hrest,
      passage_reference (renamed_ne_nil hne) (isDecimal_of_mem_renamed hdigits) hrest', ih]
    rfl
  | char c cs hc ih =>
    rw [renumber_char hc, passage_char hc,
      passage_char fun h => (startsWithDecimal_renumber cs).trans (hc h), ih]
    rfl

/-- A number that is renamed twice is renamed once. -/
theorem renamed_renamed {digits : List Char} (third : Nat) (hnew : new ≤ natMax32)
    (h : ¬ Denotes digits new) :
    renamed new third (renamed old new digits) = renamed old third digits := by
  by_cases hold : natural? natMax32 digits = some old
  · have hreplaced : renamed old new digits = numeral new := if_pos hold
    have hthird : renamed new third (numeral new) = numeral third := by
      simp [renamed, natural?_numeral, hnew]
    rw [hreplaced, hthird, renamed, if_pos hold]
  · have hkept : natural? natMax32 digits ≠ some new := by
      rw [ne_eq, natural?_eq_some_iff]
      exact fun hdenotes => h hdenotes.1
    rw [renamed, renamed, renamed, if_neg hold, if_neg hold, if_neg hkept]

/-- Where nothing refers to `new` yet, `old` can become `new` before it becomes a third number. -/
theorem renumber_renumber {cs : List Char} (third : Nat) (hnew : new ≤ natMax32)
    (h : ∀ r ∈ (passage cs).references, ¬ Denotes r.digits new) :
    renumber new third (renumber old new cs) = renumber old third cs := by
  induction cs using reference_induction with
  | nil => rfl
  | reference digits rest hne hdigits hrest ih =>
    rw [passage_reference hne hdigits hrest, Passage.consReference, List.forall_mem_cons] at h
    have hrest' : startsWithDecimal (renumber old new rest) = false :=
      (startsWithDecimal_renumber rest).trans hrest
    rw [renumber_reference hne hdigits hrest, renumber_reference hne hdigits hrest,
      renumber_reference (renamed_ne_nil hne) (isDecimal_of_mem_renamed hdigits) hrest',
      renamed_renamed third hnew h.1, ih h.2]
  | char c cs hc ih =>
    rw [passage_char hc, Passage.consChar] at h
    rw [renumber_char hc, renumber_char hc,
      renumber_char fun heq => (startsWithDecimal_renumber cs).trans (hc heq), ih h]

end Renumber

/-- A text has one reading, and the reading of the renumbered text has the same gaps in the same
order and reference by reference the new digits, or the digits that were there if these do not
denote the old number as one of 32 bits.  If the text does not refer to the new number, replacing
this in its turn comes to the same as replacing the old one right away. -/
theorem passage_renumberReference (text : String) (old new : Nat) :
    (∀ (cs : List Char) (p : Passage), p.Reads cs ↔ p = passage cs) ∧
    (passage (renumberReference text old new).toList).lead = (passage text.toList).lead ∧
    List.Forall₂ (fun r s => s.gap = r.gap ∧ Renames old new r.digits s.digits)
      (passage text.toList).references
      (passage (renumberReference text old new).toList).references ∧
    (new ≤ natMax32 → (∀ r ∈ (passage text.toList).references, ¬ Denotes r.digits new) →
      ∀ third, renumberReference (renumberReference text old new) new third =
        renumberReference text old third) := by
  rw [toList_renumberReference, passage_renumber]
  refine ⟨fun _ _ => reads_iff, rfl, ?_, fun hnew hfree third => ?_⟩
  · rw [Passage.rename, List.forall₂_map_right_iff, List.forall₂_same]
    exact fun r _ => ⟨rfl, renames_renamed r.digits⟩
  · apply String.toList_inj.1
    rw [toList_renumberReference, toList_renumberReference, toList_renumberReference]
    exact renumber_renumber third hnew hfree

/-- References side by side, a longer number and a backslash before a reference stay as they are
while the first token becomes the second and then the thirtieth. -/
theorem passage_renumberReference_sample :
    (2 ≤ natMax32 ∧ ∀ r ∈ (passage "\\1\\12|\\\\1a".toList).references, ¬ Denotes r.digits 2) ∧
    renumberReference "\\1\\12|\\\\1a" 1 2 = "\\2\\12|\\\\2a" ∧
    renumberReference (renumberReference "\\1\\12|\\\\1a" 1 2) 2 30 = "\\30\\12|\\\\30a" := by
  have hfree : ∀ r ∈ (passage "\\1\\12|\\\\1a".toList).references, ¬ Denotes r.digits 2 := by
    simp only [← digits?_eq_some_iff]
    decide
  obtain ⟨-, -, -, hthird⟩ := passage_renumberReference "\\1\\12|\\\\1a" 1 2
  refine ⟨⟨by decide, hfree⟩, by decide, ?_⟩
  rw [hthird (by decide) hfree 30]
  decide

end GrammarRules.Text
