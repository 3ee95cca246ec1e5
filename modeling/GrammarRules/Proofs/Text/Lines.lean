import GrammarRules.Text.Blank
import Mathlib.Data.List.DropRight

/-!
# The lines of a text

`lines` cuts a text at its line feeds, so it has one line more than there are line feeds
(`length_lines`).  Parts of a text that each end in a line feed have their lines one after the other
(`lines_flatMap_append`), and they are lines as they are if and only if there is no line feed within
them (`length_flatMap_lines_iff`).  To drop the blanks at the end of the text is to drop those at
the end of the last part, if each part has something else in it (`lines_dropWhileEnd`).
-/

namespace GrammarRules.Text

/-- The lines of a text, without the line feeds between them. -/
def lines (cs : List Char) : List (List Char) := cs.splitOn '\n'

theorem lines_append (xs ys : List Char) : lines (xs ++ '\n' :: ys) = lines xs ++ lines ys :=
  List.splitOn_append_cons_self xs ys

theorem lines_of_not_mem {cs : List Char} (h : '\n' ∉ cs) : lines cs = [cs] :=
  List.splitOn_eq_singleton h

theorem length_lines (cs : List Char) : (lines cs).length = cs.count '\n' + 1 := by
  induction cs with
  | nil => rfl
  | cons c cs ih =>
    rw [lines, List.splitOn_cons_eq_if_modifyHead]
    by_cases h : c = '\n'
    · subst h
      simpa [lines] using ih
    · rw [if_neg (by simpa using h), List.length_modifyHead, List.count_cons_of_ne h]
      exact ih

/-- Parts with a line feed at the end of each have their lines one after the other. -/
theorem lines_flatMap_append (parts : List (List Char)) (rest : List Char) :
    lines (parts.flatMap (· ++ ['\n']) ++ rest) = parts.flatMap lines ++ lines rest := by
  induction parts with
  | nil => rfl
  | cons part parts ih =>
    have happend : (part :: parts).flatMap (· ++ ['\n']) ++ rest =
        part ++ '\n' :: (parts.flatMap (· ++ ['\n']) ++ rest) := by
      simp
    rw [happend, lines_append, ih, List.flatMap_cons, List.append_assoc]

/-- Parts without a line feed are lines as they are. -/
theorem flatMap_lines_eq_self {parts : List (List Char)} (h : ∀ part ∈ parts, '\n' ∉ part) :
    parts.flatMap lines = parts := by
  induction parts with
  | nil => rfl
  | cons part parts ih =>
    rw [List.forall_mem_cons] at h
    rw [List.flatMap_cons, lines_of_not_mem h.1, ih h.2]
    rfl

/-- There are as many lines as parts if and only if there is no line feed in the parts. -/
theorem length_flatMap_lines_iff {parts : List (List Char)} :
    (parts.flatMap lines).length = parts.length ↔ ∀ part ∈ parts, '\n' ∉ part := by
  have hlength : (parts.flatMap lines).length =
      parts.length + (parts.map (List.count '\n')).sum := by
    induction parts with
    | nil => rfl
    | cons part parts ih =>
      rw [List.flatMap_cons, List.length_append, length_lines, ih, List.map_cons, List.sum_cons,
        List.length_cons]
      omega
  rw [hlength, Nat.add_eq_left, List.sum_eq_zero_iff_forall_eq_nat]
  simp [List.count_eq_zero]

/-! ## Blanks at the end -/

/-- The parts without the blanks at the end of the last one. -/
def trimLast : List (List Char) → List (List Char)
  | [] => []
  | [part] => [dropWhileEnd isBlank part]
  | part :: next :: rest => part :: trimLast (next :: rest)

theorem length_trimLast (parts : List (List Char)) : (trimLast parts).length = parts.length := by
  fun_induction trimLast parts with
  | case1 => rfl
  | case2 part => rfl
  | case3 part next rest ih => exact congrArg (· + 1) ih

/-- Nothing is added to a part. -/
theorem exists_prefix_of_mem_trimLast {parts : List (List Char)} {part : List Char}
    (h : part ∈ trimLast parts) : ∃ whole ∈ parts, part <+: whole := by
  fun_induction trimLast parts with
  | case1 => cases h
  | case2 last =>
    obtain rfl := List.mem_singleton.1 h
    exact ⟨last, .head _, List.rdropWhile_prefix isBlank last⟩
  | case3 first next rest ih =>
    rcases List.mem_cons.1 h with rfl | h
    · exact ⟨_, .head _, List.prefix_rfl⟩
    · obtain ⟨whole, hwhole, hpart⟩ := ih h
      exact ⟨whole, .tail _ hwhole, hpart⟩

/-- What is dropped at the end of a text is dropped at the end of a part that does not go away. -/
theorem dropWhileEnd_append {p : Char → Bool} (front : List Char) {back : List Char}
    (h : ∃ c ∈ back, p c = false) :
    dropWhileEnd p (front ++ back) = front ++ dropWhileEnd p back := by
  have hkept : ¬ (back.reverse.dropWhile p).isEmpty := by
    rw [List.isEmpty_iff, List.dropWhile_eq_nil_iff]
    intro hall
    obtain ⟨c, hc, hp⟩ := h
    rw [hall c (List.mem_reverse.2 hc)] at hp
    cases hp
  rw [dropWhileEnd, List.reverse_append, List.dropWhile_append, if_neg hkept, List.reverse_append,
    List.reverse_reverse, dropWhileEnd]

/-- The lines of parts that end in a line feed each, without the blanks at the end of the text. -/
theorem lines_dropWhileEnd {parts : List (List Char)} (hne : parts ≠ [])
    (hink : ∀ part ∈ parts, ∃ c ∈ part, isBlank c = false) :
    lines (dropWhileEnd isBlank (parts.flatMap (· ++ ['\n']))) = (trimLast parts).flatMap lines := by
  fun_induction trimLast parts with
  | case1 => exact absurd rfl hne
  | case2 part =>
    have hend : dropWhileEnd isBlank (part ++ ['\n']) = dropWhileEnd isBlank part :=
      List.rdropWhile_concat_pos isBlank part '\n' rfl
    rw [List.flatMap_singleton, List.flatMap_singleton, hend]
  | case3 part next rest ih =>
    rw [List.forall_mem_cons] at hink
    have hrest : ∃ c ∈ (next :: rest).flatMap (· ++ ['\n']), isBlank c = false := by
      obtain ⟨c, hc, hblank⟩ := hink.2 next (.head _)
      refine ⟨c, ?_, hblank⟩
      rw [List.flatMap_cons]
      exact List.mem_append_left _ (List.mem_append_left _ hc)
    rw [List.flatMap_cons, dropWhileEnd_append _ hrest, List.append_assoc, List.singleton_append,
      lines_append, ih (List.cons_ne_nil _ _) hink.2, List.flatMap_cons]

end GrammarRules.Text
