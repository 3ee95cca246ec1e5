import GrammarRules.Proofs.Source.Position
import GrammarRules.Proofs.Text.Lines
import GrammarRules.Proofs.Text.Numeral
import GrammarRules.Report.Renderer

/-!
# The caret under a source line

A report without colors shows a source line behind a gutter with its number, and on the next line a
caret behind a gutter of the same form (`lines_render`).  Both gutters are aligned to four columns,
but a number with more digits takes more, and the gutter of the caret has no number in it.  So the
caret stands under its character up to line 9999 and to the left of it from there on
(`caretUnder_iff`).
-/

namespace GrammarRules

open Text (lines lines_of_not_mem numeral)

/-! ## Alignment -/

theorem length_alignRight (width : Nat) (text : String) :
    (alignRight width text).toList.length = max width text.toList.length := by
  rw [alignRight, repeated, String.toList_append, String.toList_ofList, List.length_append,
    List.length_replicate, ← String.length_toList]
  omega

/-- Besides the text there are nothing but spaces. -/
theorem mem_alignRight {width : Nat} {text : String} {c : Char}
    (h : c ∈ (alignRight width text).toList) : c = ' ' ∨ c ∈ text.toList := by
  rw [alignRight, repeated, String.toList_append, String.toList_ofList, List.mem_append] at h
  exact h.imp_left List.eq_of_mem_replicate

/-- What stands before the text of a source line. -/
def gutter (number : Nat) : List Char := (alignRight 4 number.repr).toList ++ " | ".toList

/-- What stands before the caret for a column. -/
def caretIndent (column : Nat) : List Char :=
  (alignRight 4 "").toList ++ (" | ".toList ++ List.replicate (column - 1) ' ')

theorem length_gutter (number : Nat) :
    (gutter number).length = max 4 (numeral number).length + 3 := by
  rw [gutter, List.length_append, length_alignRight]
  rfl

theorem length_caretIndent (column : Nat) : (caretIndent column).length = 7 + (column - 1) := by
  rw [caretIndent, List.length_append, List.length_append, length_alignRight,
    List.length_replicate, ← Nat.add_assoc]
  rfl

theorem not_mem_gutter (number : Nat) : '\n' ∉ gutter number := by
  intro h
  rcases List.mem_append.1 h with h | h
  · rcases mem_alignRight h with h | h
    · exact absurd h (by decide)
    · exact Text.not_mem_numeral (by decide) number h
  · revert h
    decide

theorem not_mem_caretIndent {c : Char} (hspace : c ≠ ' ') (hbar : c ≠ '|') (column : Nat) :
    c ∉ caretIndent column := by
  intro h
  rcases List.mem_append.1 h with h | h
  · rcases mem_alignRight h with h | h
    · exact hspace h
    · cases h
  · rcases List.mem_append.1 h with h | h
    · have hbars : " | ".toList = [' ', '|', ' '] := by decide
      rw [hbars] at h
      simp [hspace, hbar] at h
    · exact hspace (List.eq_of_mem_replicate h)

/-! ## The lines of a report -/

theorem SourceFile.not_mem_line? {source : SourceFile} {number : Nat} {text : String}
    (h : source.line? number = some text) : '\n' ∉ text.toList := by
  unfold SourceFile.line? at h
  split at h
  · cases h
  · obtain ⟨line, hline, rfl⟩ := Option.map_eq_some_iff.1 h
    rw [SourceFile.getElem?_lines] at hline
    exact SourceLine.not_mem_text
      (SourceLine.not_mem_dropLast_of_mem_go List.not_mem_nil (List.mem_of_getElem? hline))

namespace Diagnostic

variable {options : RenderOptions} {d : Diagnostic} {source : SourceFile} {place : Span}

/-- What a report has above the source line. -/
def above (options : RenderOptions) (d : Diagnostic) (source : SourceFile) (place : Span) : String :=
  d.header options ++ locationLine (some source) place

/-- The lines of a report on a source. -/
def reportLines (options : RenderOptions) (d : Diagnostic) (source : SourceFile) :
    List (List Char) :=
  lines (d.render options (some source)).toList

/-- How many lines there are above the source line. -/
def linesAbove (options : RenderOptions) (d : Diagnostic) (source : SourceFile) (place : Span) :
    Nat :=
  (above options d source place).toList.count '\n'

theorem render_eq {text : String} (hsource : options.source = true)
    (hplace : d.place? = some place) (hline : source.line? place.start.line = some text) :
    d.render options (some source) =
      above options d source place ++
        (sourceLine place.start.line text ++ caretLine options d.severity place) ++
          if options.help then d.helpLine options else "" := by
  have hsnippet : d.snippet options (some source) place =
      sourceLine place.start.line text ++ caretLine options d.severity place := by
    rw [snippet, Option.bind_some, hline]
  rw [render, hplace]
  dsimp only
  rw [if_pos hsource, hsnippet, above, ← String.append_assoc]

theorem toList_sourceLine (number : Nat) (text : String) :
    (sourceLine number text).toList = gutter number ++ text.toList ++ ['\n'] := by
  show (alignRight 4 number.repr ++ " | " ++ text ++ "\n").toList = _
  simp only [String.toList_append]
  rfl

/-- Without colors and for a place of no width there is one caret. -/
theorem toList_caretLine (hcolors : options.colors = false) (severity : Severity)
    (position : Position) :
    (caretLine options severity (.point position)).toList =
      caretIndent position.column ++ ['^'] ++ ['\n'] := by
  have hwidth : max 1 (position.column - position.column) = 1 := by omega
  have hcaret : options.paint severity (repeated 1 '^') = "^" := by
    rw [RenderOptions.paint.eq_def, hcolors]
    rfl
  show (alignRight 4 "" ++ " | " ++ repeated (position.column - 1) ' ' ++
    options.paint severity (repeated (max 1 (position.column - position.column)) '^') ++
      "\n").toList = _
  rw [hwidth, hcaret]
  simp only [String.toList_append, caretIndent, repeated, String.toList_ofList, List.append_assoc]
  rfl

/-- Header and place end in a line feed. -/
theorem exists_above (options : RenderOptions) (d : Diagnostic) (source : SourceFile)
    (place : Span) : ∃ upper, (above options d source place).toList = upper ++ ['\n'] := by
  refine ⟨(d.header options ++ " --> " ++ source.name ++ ":" ++ place.start.line.repr ++ ":" ++
    place.start.column.repr).toList, ?_⟩
  show (d.header options ++ (" --> " ++ source.name ++ ":" ++ place.start.line.repr ++ ":" ++
    place.start.column.repr ++ "\n")).toList = _
  simp only [String.toList_append, List.append_assoc]
  rfl

/-- Behind header and place come the source line and then the line with the caret. -/
theorem lines_render {text : String} {position : Position} (hcolors : options.colors = false)
    (hsource : options.source = true) (hplace : d.place? = some (.point position))
    (hline : source.line? position.line = some text) :
    (reportLines options d source)[linesAbove options d source (.point position)]? =
        some (gutter position.line ++ text.toList) ∧
      (reportLines options d source)[linesAbove options d source (.point position) + 1]? =
        some (caretIndent position.column ++ ['^']) := by
  obtain ⟨upper, hupper⟩ := exists_above options d source (.point position)
  have hshown : '\n' ∉ gutter position.line ++ text.toList := by
    rw [List.mem_append, not_or]
    exact ⟨not_mem_gutter _, SourceFile.not_mem_line? hline⟩
  have hunder : '\n' ∉ caretIndent position.column ++ ['^'] := by
    rw [List.mem_append, not_or]
    exact ⟨not_mem_caretIndent (by decide) (by decide) _, by decide⟩
  have htext : (d.render options (some source)).toList =
      [upper, gutter position.line ++ text.toList, caretIndent position.column ++ ['^']].flatMap
        (· ++ ['\n']) ++ (if options.help then d.helpLine options else "").toList := by
    rw [render_eq hsource hplace hline, String.toList_append, String.toList_append,
      String.toList_append, hupper, toList_caretLine hcolors]
    simp [Span.point, toList_sourceLine]
  have hlines : reportLines options d source = lines upper ++
      (gutter position.line ++ text.toList) :: (caretIndent position.column ++ ['^']) ::
        lines (if options.help then d.helpLine options else "").toList := by
    rw [reportLines, htext, Text.lines_flatMap_append]
    simp [lines_of_not_mem hshown, lines_of_not_mem hunder]
  have habove : linesAbove options d source (.point position) = (lines upper).length := by
    rw [linesAbove, hupper, Text.length_lines, List.count_append]
    rfl
  rw [hlines, habove]
  simp

/-! ## Where the caret stands -/

/-- The report shows the text of a source line, and right under it one caret, which stands under the
character at `column` of the text, counted from zero. -/
def CaretUnder (options : RenderOptions) (d : Diagnostic) (source : SourceFile) (place : Span)
    (text : String) (column : Nat) : Prop :=
  ∃ before under : List Char,
    (reportLines options d source)[linesAbove options d source place]? =
      some (before ++ text.toList) ∧
    (reportLines options d source)[linesAbove options d source place + 1]? = some under ∧
    under.count '^' = 1 ∧ under.idxOf '^' = before.length + column

theorem count_caret (column : Nat) : (caretIndent column ++ ['^']).count '^' = 1 := by
  rw [List.count_append, List.count_eq_zero.2 (not_mem_caretIndent (by decide) (by decide) column)]
  rfl

theorem idxOf_caret (column : Nat) :
    (caretIndent column ++ ['^']).idxOf '^' = 7 + (column - 1) := by
  rw [List.idxOf_append_of_notMem (not_mem_caretIndent (by decide) (by decide) column),
    length_caretIndent]
  rfl

/-- A line number takes four columns up to 9999. -/
theorem length_gutter_eq_iff (number : Nat) : (gutter number).length = 7 ↔ number < 10000 := by
  have hdigits : (numeral number).length ≤ 4 ↔ number < 10000 := by
    have hrepr : number.repr.length ≤ 4 ↔ number < 10000 := Nat.length_repr_le_iff (by decide)
    rw [numeral, String.length_toList, hrepr]
  rw [length_gutter, ← hdigits]
  omega

/-- The caret stands under its character in the first 9999 lines and in no other. -/
theorem caretUnder_iff {text : String} {position : Position} {column : Nat}
    (hcolors : options.colors = false) (hsource : options.source = true)
    (hplace : d.place? = some (.point position))
    (hline : source.line? position.line = some text) (hcolumn : position.column = column + 1) :
    CaretUnder options d source (.point position) text column ↔ position.line < 10000 := by
  obtain ⟨hshown, hunder⟩ := lines_render hcolors hsource hplace hline
  rw [← length_gutter_eq_iff]
  constructor
  · rintro ⟨before, under, hbefore, hbelow, -, hcaret⟩
    rw [hshown] at hbefore
    rw [hunder] at hbelow
    have hgutter := List.append_cancel_right (Option.some.inj hbefore)
    rw [← Option.some.inj hbelow, idxOf_caret, hcolumn, ← hgutter] at hcaret
    omega
  · intro hwidth
    refine ⟨_, _, hshown, hunder, count_caret _, ?_⟩
    rw [idxOf_caret, hcolumn, hwidth]
    rfl

/-- A report without colors on the position of a character that is not at the end of its line: it
shows the line, and right under it one caret.  The character stands behind the gutter, which is as
wide as the line number and has seven columns at least, and the caret behind seven columns.  So the
caret is under the character up to line 9999 and to the left of it from there on. -/
theorem caret_of_position {before after : List Char} {c : Char} {position : Position}
    (hcontent : source.content.toList = before ++ c :: after) (hink : ¬ EndsLine (c :: after))
    (hposition : position = source.position (byteLength before))
    (hspan : d.span = some (.point position)) (hcolors : options.colors = false)
    (hsource : options.source = true) :
    ∃ text : String, source.line? position.line = some text ∧
      text.toList[position.column - 1]? = some c ∧
      (∃ shown under : List Char,
        (reportLines options d source)[linesAbove options d source (.point position)]? =
          some shown ∧
        (reportLines options d source)[linesAbove options d source (.point position) + 1]? =
          some under ∧
        shown[max 4 (numeral position.line).length + 3 + (position.column - 1)]? = some c ∧
        under.count '^' = 1 ∧ under.idxOf '^' = 7 + (position.column - 1)) ∧
      (CaretUnder options d source (.point position) text (position.column - 1) ↔
        position.line < 10000) := by
  rw [SourceFile.position_of_append hcontent] at hposition
  obtain ⟨text, htext, hchar⟩ := SourceFile.exists_line?_of_append hcontent hink
  have hline : source.line? position.line = some text := by rw [hposition, htext]
  have hcolumn : position.column = (position.column - 1) + 1 := by
    rw [hposition]
    rfl
  have hplace : d.place? = some (.point position) := by
    have hknown : (Span.point position).isUnknown = false := by
      rw [hposition]
      rfl
    rw [place?, hspan, Option.filter_some, hknown]
    rfl
  have hcharacter : text.toList[position.column - 1]? = some c := by
    rw [hposition]
    exact hchar
  obtain ⟨hshown, hunder⟩ := lines_render hcolors hsource hplace hline
  refine ⟨text, hline, hcharacter, ⟨_, _, hshown, hunder, ?_, count_caret _, idxOf_caret _⟩,
    caretUnder_iff hcolors hsource hplace hline hcolumn⟩
  rw [← length_gutter, List.getElem?_append_right (Nat.le_add_right _ _), Nat.add_sub_cancel_left]
  exact hcharacter

end Diagnostic

/-! ## Two sources -/

/-- An error at a position. -/
def pointedError (position : Position) : Diagnostic :=
  { severity := .error
    code := "R0103"
    message := "Only backward references are possible"
    help := ""
    span := some (.point position) }

/-- In the second line the caret is under the character. -/
theorem caret_of_position_accentedSource :
    accentedSource.content.toList = ['é', '\r', '\n', 'a'] ++ 'b' :: ['\n'] ∧
    ¬ EndsLine ['b', '\n'] ∧ accentedSource.position 5 = ⟨2, 2, 5⟩ ∧
    ∃ text : String, accentedSource.line? 2 = some text ∧ text.toList[1]? = some 'b' ∧
      (pointedError (accentedSource.position 5)).CaretUnder { colors := false } accentedSource
        (.point (accentedSource.position 5)) text 1 := by
  have hcontent : accentedSource.content.toList = ['é', '\r', '\n', 'a'] ++ 'b' :: ['\n'] := by
    decide
  have hink : ¬ EndsLine ['b', '\n'] := fun h => by simpa using h 'b' (by decide)
  have hposition : (⟨2, 2, 5⟩ : Position) = accentedSource.position 5 := by decide +kernel
  obtain ⟨text, htext, hchar, -, hcaret⟩ :=
    @Diagnostic.caret_of_position { colors := false } (pointedError ⟨2, 2, 5⟩) accentedSource _ _ _ _
      hcontent hink hposition rfl rfl rfl
  rw [← hposition]
  exact ⟨hcontent, hink, rfl, text, htext, hchar, hcaret.2 (by decide)⟩

/-- A source with a letter behind a number of empty lines. -/
def sourceBelow (emptyLines : Nat) : SourceFile :=
  .ofContent "rules.xml" (String.ofList (List.replicate emptyLines '\n' ++ ['x']))

theorem toList_sourceBelow (emptyLines : Nat) :
    (sourceBelow emptyLines).content.toList = List.replicate emptyLines '\n' ++ ['x'] :=
  String.toList_ofList

theorem lastLine_replicate (emptyLines : Nat) : lastLine (List.replicate emptyLines '\n') = [] := by
  cases emptyLines with
  | zero => rfl
  | succ n => rw [List.replicate_succ', lastLine_append_lineFeed, lastLine_eq_self List.not_mem_nil]

theorem position_sourceBelow (emptyLines : Nat) :
    (sourceBelow emptyLines).position emptyLines = ⟨emptyLines + 1, 1, emptyLines⟩ := by
  have hbytes : byteLength (List.replicate emptyLines '\n') = emptyLines := by
    induction emptyLines with
    | zero => rfl
    | succ n ih =>
      rw [List.replicate_succ, byteLength_cons, ih, Nat.add_comm]
      rfl
  have hposition := SourceFile.position_of_append (toList_sourceBelow emptyLines)
  rw [hbytes, lastLine_replicate, List.count_replicate_self] at hposition
  exact hposition

theorem exists_line?_sourceBelow (emptyLines : Nat) :
    ∃ text : String, (sourceBelow emptyLines).line? (emptyLines + 1) = some text ∧
      text.toList[0]? = some 'x' := by
  have hink : ¬ EndsLine ['x'] := fun h => by simpa using h 'x' (by decide)
  have hline := SourceFile.exists_line?_of_append (toList_sourceBelow emptyLines) hink
  rw [lastLine_replicate, List.count_replicate_self] at hline
  exact hline

/-- The caret is under the letter as long as fewer than 9999 empty lines come before it. -/
theorem caretUnder_sourceBelow_iff {emptyLines : Nat} {text : String}
    (h : (sourceBelow emptyLines).line? (emptyLines + 1) = some text) :
    (pointedError ((sourceBelow emptyLines).position emptyLines)).CaretUnder { colors := false }
        (sourceBelow emptyLines) (.point ((sourceBelow emptyLines).position emptyLines)) text 0 ↔
      emptyLines + 1 < 10000 := by
  rw [position_sourceBelow]
  exact @Diagnostic.caretUnder_iff { colors := false } (pointedError ⟨emptyLines + 1, 1, emptyLines⟩)
    (sourceBelow emptyLines) text ⟨emptyLines + 1, 1, emptyLines⟩ 0 rfl rfl rfl h rfl

/-- In line 10000 the caret is not under the character. -/
theorem not_caretUnder_sourceBelow :
    (sourceBelow 9999).position 9999 = ⟨10000, 1, 9999⟩ ∧
    ∃ text : String, (sourceBelow 9999).line? 10000 = some text ∧ text.toList[0]? = some 'x' ∧
      ¬ (pointedError ((sourceBelow 9999).position 9999)).CaretUnder { colors := false }
        (sourceBelow 9999) (.point ((sourceBelow 9999).position 9999)) text 0 := by
  obtain ⟨text, htext, hchar⟩ := exists_line?_sourceBelow 9999
  refine ⟨position_sourceBelow 9999, text, htext, hchar, fun h => ?_⟩
  exact absurd ((caretUnder_sourceBelow_iff htext).1 h) (by decide)

end GrammarRules
