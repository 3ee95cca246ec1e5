import GrammarRules.Proofs.Source.Scan

/-!
# Positions are what a scan of the source arrives at

`SourceFile.position` looks a byte offset up among the beginnings of the lines and then counts the
characters of one line.  It finds the line and the column that reading the source from its beginning
up to the offset arrives at (`position_eq_scan`): one line more than there are line feeds before the
offset, and one column more than there are characters behind the last of them.  So places that
differ have different positions, in the same order, and the line of a position has the character of
its place at its column.
-/

namespace GrammarRules

/-- There is nothing but line feeds and carriage returns up to the end of the line. -/
def EndsLine (cs : List Char) : Prop := ∀ d ∈ restOfLine cs, d = '\n' ∨ d = '\r'

/-- A place in a source that comes before another one. -/
def Position.Before (p q : Position) : Prop :=
  p.line < q.line ∨ p.line = q.line ∧ p.column < q.column

namespace SourceFile

/-! ## The search for the line -/

/-- If the lines that begin at or before an offset are the first `count` lines, the search finds
this number. -/
theorem lineAt_eq {lines : Array SourceLine} {offset count low high : Nat}
    (hlines : ∀ (index : Nat) (line : SourceLine), lines[index]? = some line →
      (line.start ≤ offset ↔ index < count))
    (hlow : low ≤ count) (hhigh : count ≤ high) (hsize : high ≤ lines.size) :
    lineAt lines offset low high = count := by
  fun_induction lineAt lines offset low high with
  | case1 low high hlt middle line hline hstart ih =>
    have := (hlines middle line hline).1 hstart
    exact ih (by omega) hhigh hsize
  | case2 low high hlt middle line hline hstart ih =>
    have : ¬ middle < count := fun h => hstart ((hlines middle line hline).2 h)
    exact ih hlow (by omega) (by omega)
  | case3 low high hlt middle hnone =>
    have := Array.getElem?_eq_none_iff.1 hnone
    omega
  | case4 low high hlt => omega

variable (source : SourceFile)

/-- Whether no character is cut at a byte offset. -/
def IsBoundary (offset : Nat) : Prop :=
  ∃ before after, source.content.toList = before ++ after ∧ byteLength before = offset

/-- The characters that begin before an offset; one beyond the end counts as the end. -/
def seen (offset : Nat) : List Char :=
  charsBefore (min offset source.byteSize) source.content.toList

theorem byteSize_eq : source.byteSize = byteLength source.content.toList := by
  rw [byteSize, ← utf8ByteSize_ofList, String.ofList_toList]

theorem getElem?_lines (index : Nat) :
    source.lines[index]? = (SourceLine.split 0 source.content.toList)[index]? := by
  rw [source.lines_eq, List.getElem?_toArray]

theorem lineCount_eq : source.lineCount = source.content.toList.count '\n' + 1 := by
  rw [lineCount, source.lines_eq, List.size_toArray]
  exact SourceLine.length_go 0 0 [] _

variable {source}

theorem start_le_iff {index offset : Nat} {line : SourceLine}
    (h : source.lines[index]? = some line) :
    line.start ≤ offset ↔ index ≤ (charsBefore offset source.content.toList).count '\n' := by
  rw [getElem?_lines] at h
  have hstart := SourceLine.start_le_iff_of_go offset (Nat.le_refl 0) h
  rwa [Nat.zero_add] at hstart

/-- There is a line for every number of line feeds that have been seen. -/
theorem exists_line (source : SourceFile) (offset : Nat) :
    ∃ line, source.lines[(source.seen offset).count '\n']? = some line ∧
      line.start ≤ min offset source.byteSize := by
  have hcount : (source.seen offset).count '\n' < source.lines.size := by
    have := (prefix_charsBefore (min offset source.byteSize) source.content.toList).sublist.count_le
      '\n'
    have hsize : source.lines.size = _ := source.lineCount_eq
    rw [hsize]
    exact Nat.lt_succ_of_le this
  have hline := Array.getElem?_eq_getElem hcount
  exact ⟨_, hline, (start_le_iff hline).2 (Nat.le_refl _)⟩

/-- The line of an offset is the one that the line feeds before it lead to. -/
theorem position_eq {offset : Nat} {line : SourceLine}
    (h : source.lines[(source.seen offset).count '\n']? = some line) :
    source.position offset =
      ⟨(source.seen offset).count '\n' + 1,
        line.column (min offset source.byteSize - line.start), min offset source.byteSize⟩ := by
  have hsize := (Array.getElem?_eq_some_iff.1 h).1
  have hline : lineAt source.lines (min offset source.byteSize) 0 source.lines.size =
      (source.seen offset).count '\n' + 1 :=
    lineAt_eq (fun index line hline => (start_le_iff hline).trans Nat.lt_succ_iff.symm)
      (Nat.zero_le _) hsize (Nat.le_refl _)
  rw [position, hline, Nat.add_sub_cancel, h]
  rfl

/-! ## Places where no character is cut -/

section Boundary

variable {before after : List Char} (h : source.content.toList = before ++ after)
include h

theorem min_byteLength : min (byteLength before) source.byteSize = byteLength before := by
  rw [byteSize_eq, h, byteLength_append]
  exact Nat.min_eq_left (Nat.le_add_right _ _)

theorem seen_byteLength : source.seen (byteLength before) = before := by
  rw [seen, min_byteLength h, h, charsBefore_append]

/-- The line with the place in it holds the last line before and the rest of the line behind it. -/
theorem exists_line_of_append :
    ∃ line, source.lines[before.count '\n']? = some line ∧
      line.chars = lastLine before ++ restOfLine after ∧
      line.start + byteLength (lastLine before) = byteLength before := by
  obtain ⟨start, hstart, hlength⟩ :=
    @SourceLine.getElem?_go 0 0 [] before after rfl List.not_mem_nil
  refine ⟨⟨start, lastLine before ++ restOfLine after⟩, ?_, rfl, ?_⟩
  · rw [getElem?_lines, h]
    exact hstart
  · simpa using hlength

/-- The position is where the characters before the place lead to. -/
theorem position_of_append :
    source.position (byteLength before) =
      ⟨before.count '\n' + 1, (lastLine before).length + 1, byteLength before⟩ := by
  obtain ⟨line, hline, hchars, hstart⟩ := exists_line_of_append h
  have hbytes : byteLength before - line.start = byteLength (lastLine before) := by omega
  have hfound : source.lines[(source.seen (byteLength before)).count '\n']? = some line := by
    rw [seen_byteLength h]
    exact hline
  rw [position_eq hfound, seen_byteLength h, min_byteLength h, hbytes, SourceLine.column, hchars,
    SourceLine.charCount?_append]
  rfl

end Boundary

/-- The line of the position has the character of the place at its column. -/
theorem exists_line?_of_append {before after : List Char} {c : Char}
    (h : source.content.toList = before ++ c :: after) (hc : ¬ EndsLine (c :: after)) :
    ∃ text, source.line? (before.count '\n' + 1) = some text ∧
      text.toList[(lastLine before).length]? = some c := by
  obtain ⟨line, hline, hchars, -⟩ := exists_line_of_append h
  obtain ⟨d, hd, hink⟩ : ∃ d ∈ restOfLine (c :: after), ¬ (d = '\n' ∨ d = '\r') := by
    simpa [EndsLine] using hc
  obtain ⟨xs, ys, hrest⟩ := List.append_of_mem hd
  rw [hrest, ← List.append_assoc] at hchars
  obtain ⟨kept, htext⟩ := line.exists_text_eq hchars (not_or.1 hink)
  -- The character is the first of the rest of the line, which goes on up to `d` at least.
  have hfirst : (xs ++ d :: kept)[0]? = some c := by
    have hhead : (xs ++ d :: ys)[0]? = some c := by
      rw [← hrest, restOfLine]
      split <;> rfl
    cases xs <;> exact hhead
  refine ⟨line.text, ?_, ?_⟩
  · rw [line?, if_neg (Nat.succ_ne_zero _), Nat.add_sub_cancel, hline]
    rfl
  · rw [htext, List.append_assoc, List.getElem?_append_right (Nat.le_refl _), Nat.sub_self]
    exact hfirst

/-- Of two places where no character is cut the first has the first position. -/
theorem position_before {low high : Nat} (hlow : source.IsBoundary low)
    (hhigh : source.IsBoundary high) (hlt : low < high) :
    (source.position low).Before (source.position high) := by
  obtain ⟨before, after, hbefore, rfl⟩ := hlow
  obtain ⟨further, rest, hfurther, rfl⟩ := hhigh
  have hshorter : before <+: further := by
    have hprefix : before <+: source.content.toList := ⟨after, hbefore.symm⟩
    rcases List.prefix_or_prefix_of_prefix hprefix ⟨rest, hfurther.symm⟩ with h | ⟨between, rfl⟩
    · exact h
    · rw [byteLength_append] at hlt
      omega
  obtain ⟨between, rfl⟩ := hshorter
  have hbetween : 0 < between.length := by
    apply List.length_pos_iff.2
    rintro rfl
    simp at hlt
  rw [position_of_append hbefore, position_of_append hfurther]
  by_cases hfeed : '\n' ∈ between
  · left
    show before.count '\n' + 1 < (before ++ between).count '\n' + 1
    have := List.count_pos_iff.2 hfeed
    rw [List.count_append]
    omega
  · right
    constructor
    · show before.count '\n' + 1 = (before ++ between).count '\n' + 1
      rw [List.count_append, List.count_eq_zero.2 hfeed]
    · show (lastLine before).length + 1 < (lastLine (before ++ between)).length + 1
      rw [lastLine_append hfeed, List.length_append]
      omega

theorem isSome_line?_iff {number : Nat} :
    (source.line? number).isSome ↔ 1 ≤ number ∧ number ≤ source.lineCount := by
  unfold line?
  by_cases h : number = 0
  · simp [h]
  · have hfound : source.lines[number - 1]?.isSome ↔ number - 1 < source.lineCount := by
      simp [Option.isSome_iff_exists, Array.getElem?_eq_some_iff, lineCount]
    rw [if_neg h, Option.isSome_map, hfound]
    omega

/-! ## Positions -/

/-- The position of any offset: the line is found among those that there are and begins at or before
the offset, and it is one more than the line feeds before the offset.  Where no character is cut,
the column is one more than the characters behind the last line feed, and the line has the character
of the place there, unless only the end of the line follows.  Places that differ have different
positions in the same order. -/
theorem position_eq_scan (source : SourceFile) (offset : Nat) :
    (∃ line, source.lines[(source.position offset).line - 1]? = some line ∧
      line.start ≤ (source.position offset).offset) ∧
    (source.position offset).offset = min offset source.byteSize ∧
    (source.position offset).line = 1 + (source.seen offset).count '\n' ∧
    1 ≤ (source.position offset).line ∧ (source.position offset).line ≤ source.lineCount ∧
    (source.IsBoundary (min offset source.byteSize) →
      (source.position offset).column = 1 + (lastLine (source.seen offset)).length) ∧
    (∃ text, source.line? (source.position offset).line = some text ∧
      ∀ before c after, source.content.toList = before ++ c :: after →
        byteLength before = min offset source.byteSize → ¬ EndsLine (c :: after) →
        text.toList[(source.position offset).column - 1]? = some c) ∧
    (∀ low high, source.IsBoundary low → source.IsBoundary high → low < high →
      (source.position low).Before (source.position high)) ∧
    ∀ number, (source.line? number).isSome ↔ 1 ≤ number ∧ number ≤ source.lineCount := by
  obtain ⟨line, hline, hstart⟩ := exists_line source offset
  have hposition := position_eq hline
  have hcount : (source.position offset).line = 1 + (source.seen offset).count '\n' := by
    rw [hposition, Nat.add_comm]
  have hoffset : (source.position offset).offset = min offset source.byteSize := by
    rw [hposition]
  have hle : (source.position offset).line ≤ source.lineCount := by
    have := (Array.getElem?_eq_some_iff.1 hline).1
    rw [hcount, lineCount]
    omega
  -- An offset beyond the end has the position of the end.
  have hmin : source.position offset = source.position (min offset source.byteSize) := by
    rw [position, position, Nat.min_assoc, Nat.min_self]
  refine ⟨⟨line, ?_, ?_⟩, hoffset, hcount, by omega, hle, ?_, ?_,
    fun low high => position_before, fun _ => isSome_line?_iff⟩
  · rw [hcount, Nat.add_sub_cancel_left]
    exact hline
  · rw [hoffset]
    exact hstart
  · rintro ⟨before, after, happend, hlength⟩
    have hseen : source.seen offset = before := by
      rw [seen, ← hlength, happend, charsBefore_append]
    rw [hmin, hseen, ← hlength, position_of_append happend]
    exact Nat.add_comm _ _
  · obtain ⟨text, htext⟩ := Option.isSome_iff_exists.1
      (isSome_line?_iff.2 ⟨by omega, hle⟩)
    refine ⟨text, htext, fun before c after happend hlength hink => ?_⟩
    obtain ⟨found, hfound, hchar⟩ := exists_line?_of_append happend hink
    rw [hmin, ← hlength, position_of_append happend] at htext ⊢
    obtain rfl := Option.some.inj (hfound.symm.trans htext)
    exact hchar

end SourceFile

/-- A source with a character of two bytes, two ends of lines and an empty last line. -/
def accentedSource : SourceFile := .ofContent "accented" "é\r\nab\n"

theorem isBoundary_accentedSource :
    accentedSource.IsBoundary 2 ∧ accentedSource.IsBoundary 5 :=
  ⟨⟨['é'], ['\r', '\n', 'a', 'b', '\n'], by decide, rfl⟩,
    ⟨['é', '\r', '\n', 'a'], ['b', '\n'], by decide, rfl⟩⟩

/-- The last letter is the second character of the second line, behind the end of the first. -/
theorem position_eq_scan_accentedSource :
    accentedSource.position 5 = ⟨2, 2, 5⟩ ∧
    1 + (lastLine (accentedSource.seen 5)).length = 2 ∧
    (∃ text, accentedSource.line? 2 = some text ∧ text.toList[1]? = some 'b') ∧
    (accentedSource.position 2).Before (accentedSource.position 5) := by
  obtain ⟨-, -, -, -, -, hcolumn, ⟨text, htext, hchar⟩, horder, -⟩ :=
    accentedSource.position_eq_scan 5
  have hposition : accentedSource.position 5 = ⟨2, 2, 5⟩ := by decide +kernel
  rw [hposition] at hcolumn htext hchar
  have hink : ¬ EndsLine ['b', '\n'] := fun h => by
    simpa using h 'b' (by decide)
  exact ⟨hposition, (hcolumn isBoundary_accentedSource.2).symm,
    ⟨text, htext, hchar ['é', '\r', '\n', 'a'] 'b' ['\n'] (by decide) (by decide) hink⟩,
    horder 2 5 isBoundary_accentedSource.1 isBoundary_accentedSource.2 (by decide)⟩

end GrammarRules
