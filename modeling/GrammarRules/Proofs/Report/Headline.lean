import GrammarRules.Proofs.Text.Numeral
import GrammarRules.Report.Diagnostic
import Mathlib.Data.List.Infix

/-!
# The headline of a report

`beforeLast?` finds the last occurrence of a mark (`prefix_of_beforeLast?_eq_some`,
`exists_beforeLast?_of_prefix`).  The location at the end of a printed error begins with the mark
that `headline` looks for and has no other bracket in it, so nothing that the error quotes before it
is taken for the location (`headline_append_location`).  Hence a printed error is the headline of
its report and the location.
-/

namespace GrammarRules

open RuleError (location)

/-! ## The last occurrence -/

section Mark

variable {mark : List Char}

/-- The mark stands behind what is found. -/
theorem prefix_of_beforeLast?_eq_some {cs before : List Char}
    (h : beforeLast? mark cs = some before) : before ++ mark <+: cs := by
  induction cs generalizing before with
  | nil => cases h
  | cons c cs ih =>
    unfold beforeLast? at h
    split at h
    · next found hfound =>
      cases h
      rw [List.cons_append, List.prefix_cons_inj]
      exact ih hfound
    · split at h
      · next hmark =>
        cases h
        exact List.isPrefixOf_iff_prefix.1 hmark
      · cases h

/-- An occurrence of the mark is found, or one behind it. -/
theorem exists_beforeLast?_of_prefix (hne : mark ≠ []) {cs other : List Char}
    (h : other ++ mark <+: cs) :
    ∃ before, beforeLast? mark cs = some before ∧ other.length ≤ before.length := by
  induction cs generalizing other with
  | nil =>
    have hmark := (List.append_eq_nil_iff.1 (List.prefix_nil.1 h)).2
    exact absurd hmark hne
  | cons c cs ih =>
    unfold beforeLast?
    cases other with
    | nil =>
      cases hcs : beforeLast? mark cs with
      | some before => exact ⟨c :: before, rfl, Nat.zero_le _⟩
      | none => exact ⟨[], if_pos (List.isPrefixOf_iff_prefix.2 h), Nat.le_refl 0⟩
    | cons d other =>
      rw [List.cons_append, List.cons_prefix_cons] at h
      obtain ⟨before, hbefore, hle⟩ := ih h.2
      refine ⟨c :: before, ?_, Nat.succ_le_succ hle⟩
      rw [hbefore]

end Mark

/-! ## The location -/

/-- The words that a location begins with. -/
def locationMark : List Char := " (line ".toList

/-- What a location has behind its bracket. -/
def locationRest (position : Position) : List Char :=
  "line ".toList ++ (Text.numeral position.line ++
    (", column ".toList ++ (Text.numeral position.column ++ [')'])))

theorem toList_location (position : Position) :
    (location position).toList = ' ' :: '(' :: locationRest position := by
  show (" (line " ++ position.line.repr ++ ", column " ++ position.column.repr ++ ")").toList = _
  simp only [String.toList_append, List.append_assoc]
  rfl

/-- There is one bracket in a location. -/
theorem not_mem_locationRest (position : Position) : '(' ∉ locationRest position := by
  have hnumeral := Text.not_mem_numeral (show Text.isDigit '(' = false by decide)
  simp [locationRest, hnumeral]

/-- The mark of a location stands at its beginning and nowhere else. -/
theorem eq_nil_of_prefix_location {position : Position} {extra : List Char}
    (h : extra ++ locationMark <+: (location position).toList) : extra = [] := by
  rw [toList_location] at h
  cases extra with
  | nil => rfl
  | cons c extra =>
    rw [List.cons_append, List.cons_prefix_cons] at h
    have hrest := h.2
    -- The bracket of the mark would be a second one.
    have hbracket : '(' ∈ locationRest position := by
      cases extra with
      | nil =>
        have hspace := (List.cons_prefix_cons.1 hrest).1
        exact absurd hspace (by decide)
      | cons d extra =>
        rw [List.cons_append, List.cons_prefix_cons] at hrest
        have hmem : '(' ∈ extra ++ locationMark := List.mem_append_right _ (by decide)
        exact hrest.2.subset hmem
    exact absurd hbracket (not_mem_locationRest position)

/-! ## The headline -/

/-- The headline of any text with a location behind it is the text. -/
theorem headline_append_location (text : String) (position : Position) :
    headline (text ++ location position) = text := by
  have hmark : text.toList ++ locationMark <+: (text ++ location position).toList := by
    rw [String.toList_append, toList_location, List.prefix_append_right_inj]
    exact ⟨_, rfl⟩
  obtain ⟨before, hbefore, hle⟩ := exists_beforeLast?_of_prefix (by decide) hmark
  have hfound := prefix_of_beforeLast?_eq_some hbefore
  rw [String.toList_append] at hfound
  -- What is found goes on behind the text, if it is not the text.
  obtain ⟨extra, hextra⟩ : text.toList <+: before :=
    List.prefix_of_prefix_length_le (List.prefix_append _ _)
      ((List.prefix_append _ _).trans hfound) hle
  rw [← hextra, List.append_assoc, List.prefix_append_right_inj] at hfound
  rw [eq_nil_of_prefix_location hfound, List.append_nil] at hextra
  have hheadline : beforeLast? " (line ".toList (text ++ location position).toList =
      some before := hbefore
  rw [headline, hheadline, ← hextra]
  exact String.ofList_toList

/-- A printed error is the headline of its report with the location behind it, and the headline is
the whole of what there is to say about the cause. -/
theorem text_eq_message_append (error : RuleError) :
    error.text = (Diagnostic.ofError error).message ++
      s!" (line {error.position.line}, column {error.position.column})" ∧
    (Diagnostic.ofError error).message = error.cause.message := by
  have hmessage : (Diagnostic.ofError error).message = error.cause.message :=
    headline_append_location error.cause.message error.position
  refine ⟨?_, hmessage⟩
  rw [hmessage]
  rfl

/-- A name that looks like a location is kept. -/
example :
    (Diagnostic.ofError ⟨.unknownPhrase "a (line 3, column 4)", ⟨1, 2, 1⟩⟩).message =
      "Reference to undefined phrase 'a (line 3, column 4)'" := by
  decide +kernel

end GrammarRules
