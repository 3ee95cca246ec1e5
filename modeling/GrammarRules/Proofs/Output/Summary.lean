import GrammarRules.Output.Summary
import GrammarRules.Proofs.Document.Naming
import GrammarRules.Proofs.Rule.Name
import GrammarRules.Proofs.Text.Lines

/-!
# The lines of a summary

A summary prints one text for each file and one for each of its rules (`printedTexts`), and each of
them ends in a line feed but the last, which ends where its blanks begin.  Ids are printed as they
are and messages have their blanks put in order, so a printed text is one line unless there is a
line feed in the id of its rule (`mem_summaryText_iff`), and a summary has as many lines as there
are files and rules if and only if no printed text has a line feed in it (`lines_summarize`).
-/

namespace GrammarRules

open Text (lines trimLast isBlank)

/-! ## What is printed -/

/-- What is printed for a file. -/
def CompiledRules.summaryText (file : String) (compiled : CompiledRules) : List Char :=
  file.toList ++ (": ".toList ++ (Text.numeral compiled.rules.length ++ " rule(s)".toList))

/-- What is printed for a rule. -/
def Rule.summaryText (rule : Rule) : List Char :=
  "  ".toList ++ (alignLeft summaryWidth rule.displayName).toList ++ ' ' :: rule.message.toList

/-- What is printed for a file and for its rules. -/
def CompiledRules.summaryTexts (file : String) (compiled : CompiledRules) : List (List Char) :=
  compiled.summaryText file :: compiled.rules.map Rule.summaryText

/-- What is printed for files, one after another. -/
def summaryTexts (files : Table CompiledRules) : List (List Char) :=
  files.entries.flatMap fun entry => entry.2.summaryTexts entry.1

/-- What is printed, without the blanks at the end of the summary. -/
def printedTexts (files : Table CompiledRules) : List (List Char) := trimLast (summaryTexts files)

/-- How many files and rules there are. -/
def itemCount (files : Table CompiledRules) : Nat :=
  files.entries.length + (files.entries.map fun entry => entry.2.rules.length).sum

theorem Rule.toList_summaryLine (rule : Rule) :
    rule.summaryLine.toList = rule.summaryText ++ ['\n'] := by
  show ("  " ++ alignLeft summaryWidth rule.displayName ++ " " ++ rule.message ++ "\n").toList = _
  simp only [String.toList_append, summaryText, List.append_assoc]
  rfl

theorem CompiledRules.toList_summary (file : String) (compiled : CompiledRules) :
    (compiled.summary file).toList = (compiled.summaryTexts file).flatMap (· ++ ['\n']) := by
  have hrules : (String.join (compiled.rules.map Rule.summaryLine)).toList =
      (compiled.rules.map Rule.summaryText).flatMap (· ++ ['\n']) := by
    rw [String.toList_join, List.flatMap_map, List.flatMap_map]
    exact List.flatMap_congr fun rule _ => rule.toList_summaryLine
  show (file ++ ": " ++ compiled.rules.length.repr ++ " rule(s)\n" ++
    String.join (compiled.rules.map Rule.summaryLine)).toList = _
  rw [String.toList_append, hrules, summaryTexts, List.flatMap_cons]
  simp only [String.toList_append, summaryText, List.append_assoc]
  rfl

theorem toList_summarize (files : Table CompiledRules) :
    (summarize files).toList =
      Text.dropWhileEnd isBlank ((summaryTexts files).flatMap (· ++ ['\n'])) := by
  have hjoin : (String.join (files.entries.map fun entry => entry.2.summary entry.1)).toList =
      (summaryTexts files).flatMap (· ++ ['\n']) := by
    rw [String.toList_join, List.flatMap_map, summaryTexts, List.flatMap_assoc]
    exact List.flatMap_congr fun entry _ => entry.2.toList_summary entry.1
  show (Text.trimEnd (String.join (files.entries.map fun entry =>
    entry.2.summary entry.1))).toList = _
  rw [Text.trimEnd, String.toList_ofList, hjoin]

theorem length_printedTexts (files : Table CompiledRules) :
    (printedTexts files).length = itemCount files := by
  rw [printedTexts, Text.length_trimLast, summaryTexts, itemCount]
  induction files.entries with
  | nil => rfl
  | cons entry entries ih =>
    rw [List.flatMap_cons, List.length_append, ih, CompiledRules.summaryTexts, List.length_cons,
      List.length_map, List.length_cons, List.map_cons, List.sum_cons]
    omega

/-! ## Line feeds in what is printed -/

theorem CompiledRules.not_mem_summaryText {file : String} (h : '\n' ∉ file.toList)
    (compiled : CompiledRules) : '\n' ∉ compiled.summaryText file := by
  simp only [summaryText, List.mem_append, not_or]
  exact ⟨h, by decide, Text.not_mem_numeral (by decide) _, by decide⟩

/-- There is a line feed in what is printed for a rule if and only if there is one in its id. -/
theorem Rule.mem_summaryText_iff {rule : Rule} (h : rule.Presentable) :
    '\n' ∈ rule.summaryText ↔ '\n' ∈ rule.id.toList := by
  have hmessage : '\n' ∉ rule.message.toList := fun hmem =>
    absurd (h.message _ hmem rfl) (by decide)
  have hmarks : '\n' ∉ groupMark rule.subId ++ variantMark rule.variant := fun hmem =>
    absurd (not_isBlank_of_mem_marks hmem) (by decide)
  have hpadding : '\n' ∉ List.replicate (summaryWidth - rule.displayName.length) ' ' := fun hmem =>
    absurd (List.eq_of_mem_replicate hmem) (by decide)
  rw [List.mem_append, not_or] at hmarks
  simp [summaryText, alignLeft, repeated, toList_displayName_eq, hmessage, hmarks, hpadding]

/-- Something can be seen of every text that is printed. -/
theorem exists_ink_of_mem_summaryTexts {file : String} {compiled : CompiledRules}
    (h : ∀ rule ∈ compiled.rules, rule.Presentable) {text : List Char}
    (htext : text ∈ compiled.summaryTexts file) : ∃ c ∈ text, isBlank c = false := by
  rcases List.mem_cons.1 htext with rfl | htext
  · refine ⟨'r', ?_, rfl⟩
    simp [CompiledRules.summaryText]
  · obtain ⟨rule, hrule, rfl⟩ := List.mem_map.1 htext
    obtain ⟨c, hc, hblank⟩ : ∃ c ∈ rule.id.toList, isBlank c = false := by
      have hid := (h rule hrule).id
      rw [Text.isAllBlank, List.all_eq_false] at hid
      simpa using hid
    refine ⟨c, ?_, hblank⟩
    simp [Rule.summaryText, alignLeft, Rule.toList_displayName_eq, hc]

/-! ## Summaries of compiled files -/

/-- What some source is compiled to, however its markup is read. -/
def CompiledRules.IsCompiled (compiled : CompiledRules) : Prop :=
  ∃ read convert, ∃ (source : SourceFile) (options : CompileOptions),
    source.compileWith read convert options = .ok compiled

theorem CompiledRules.isCompiled_of_compileSource {source : SourceFile} {options : CompileOptions}
    {compiled : CompiledRules} (h : compileSource source options = .ok compiled) :
    compiled.IsCompiled :=
  ⟨Markup.readMarkup, Markup.PlacedPiece.event, source, options, h⟩

theorem CompiledRules.IsCompiled.presentable {compiled : CompiledRules} (h : compiled.IsCompiled)
    {rule : Rule} (hrule : rule ∈ compiled.rules) : rule.Presentable := by
  obtain ⟨read, convert, source, options, hcompile⟩ := h
  obtain ⟨events, c, run, -, rfl⟩ := exists_run_of_compileWith hcompile
  exact Rule.presentable_of_run run hrule

/-- A summary of compiled files prints a text for each file and one for each of its rules, in their
order, and all of them have something in them that can be seen.  The lines of the summary are the
lines of these texts, and there are as many as files and rules if and only if there is no line feed
in the texts.  So they are the texts themselves if there is no line feed in the ids of the rules. -/
theorem lines_summarize {files : Table CompiledRules} (hne : files.entries ≠ [])
    (hnames : ∀ entry ∈ files.entries, '\n' ∉ entry.1.toList)
    (hcompiled : ∀ entry ∈ files.entries, entry.2.IsCompiled) :
    (printedTexts files).length = itemCount files ∧
    lines (summarize files).toList = (printedTexts files).flatMap lines ∧
    ((lines (summarize files).toList).length = itemCount files ↔
      ∀ text ∈ printedTexts files, '\n' ∉ text) ∧
    ((∀ entry ∈ files.entries, ∀ rule ∈ entry.2.rules, '\n' ∉ rule.id.toList) →
      lines (summarize files).toList = printedTexts files) := by
  have hink : ∀ text ∈ summaryTexts files, ∃ c ∈ text, isBlank c = false := by
    intro text htext
    obtain ⟨entry, hentry, htext⟩ := List.mem_flatMap.1 htext
    exact exists_ink_of_mem_summaryTexts (fun rule => (hcompiled entry hentry).presentable) htext
  have htexts : summaryTexts files ≠ [] := by
    obtain ⟨entry, entries, hentries⟩ := List.exists_cons_of_ne_nil hne
    rw [summaryTexts, hentries, List.flatMap_cons]
    exact List.cons_ne_nil _ _
  have hlines : lines (summarize files).toList = (printedTexts files).flatMap lines := by
    rw [toList_summarize, Text.lines_dropWhileEnd htexts hink, printedTexts]
  refine ⟨length_printedTexts files, hlines, ?_, fun hids => ?_⟩
  · rw [hlines, ← length_printedTexts]
    exact Text.length_flatMap_lines_iff
  · rw [hlines]
    refine Text.flatMap_lines_eq_self fun text htext => ?_
    obtain ⟨whole, hwhole, hpart⟩ := Text.exists_prefix_of_mem_trimLast htext
    obtain ⟨entry, hentry, hwhole⟩ := List.mem_flatMap.1 hwhole
    refine fun hmem => absurd (hpart.subset hmem) ?_
    rcases List.mem_cons.1 hwhole with rfl | hwhole
    · exact entry.2.not_mem_summaryText (hnames entry hentry)
    · obtain ⟨rule, hrule, rfl⟩ := List.mem_map.1 hwhole
      rw [Rule.mem_summaryText_iff ((hcompiled entry hentry).presentable hrule)]
      exact hids entry hentry rule hrule

/-! ## Two sources -/

/-- A document with a rule that has the id of its group and a message over two lines. -/
def groupedRule : SourceFile :=
  .ofContent "rules.xml" ("<rules><rulegroup id='G'><rule id=' '><pattern><token/></pattern>" ++
    "<message>a\n b</message></rule></rulegroup></rules>")

/-- Under two names it takes four lines. -/
theorem lines_summarize_groupedRule :
    ∃ compiled, compileSource groupedRule {} = .ok compiled ∧
      lines (summarize ⟨[("a.xml", compiled), ("b.xml", compiled)]⟩).toList =
        printedTexts ⟨[("a.xml", compiled), ("b.xml", compiled)]⟩ ∧
      (lines (summarize ⟨[("a.xml", compiled), ("b.xml", compiled)]⟩).toList).length = 4 := by
  have hids : (compileSource groupedRule {}).toOption.map (·.rules.map Rule.id) = some ["G"] := by
    decide +kernel
  cases hcompile : compileSource groupedRule {} with
  | error error =>
    rw [hcompile] at hids
    cases hids
  | ok compiled =>
    rw [hcompile] at hids
    obtain ⟨rule, hrules, hid⟩ := List.map_eq_singleton_iff.1 (Option.some.inj hids)
    have hcompiled := CompiledRules.isCompiled_of_compileSource hcompile
    obtain ⟨hlength, -, -, hlines⟩ :=
      @lines_summarize ⟨[("a.xml", compiled), ("b.xml", compiled)]⟩ (List.cons_ne_nil _ _)
        (by simp) (by simp [hcompiled])
    have htexts := hlines (by simp [hrules, hid])
    refine ⟨compiled, rfl, htexts, ?_⟩
    rw [htexts, hlength]
    simp [itemCount, hrules]

/-- A document with a rule that has a line feed in its id. -/
def brokenName : SourceFile :=
  .ofContent "rules.xml" "<rules><rule id='A&#10;B'><pattern><token/></pattern></rule></rules>"

/-- There is one file and one rule, and there are three lines. -/
theorem not_lines_summarize_brokenName :
    ∃ compiled, compileSource brokenName {} = .ok compiled ∧
      itemCount ⟨[("rules.xml", compiled)]⟩ = 2 ∧
      (lines (summarize ⟨[("rules.xml", compiled)]⟩).toList).length = 3 := by
  have hcounts : (compileSource brokenName {}).toOption.map (fun compiled =>
      (itemCount ⟨[("rules.xml", compiled)]⟩,
        (lines (summarize ⟨[("rules.xml", compiled)]⟩).toList).length)) = some (2, 3) := by
    decide +kernel
  cases hcompile : compileSource brokenName {} with
  | error error =>
    rw [hcompile] at hcounts
    cases hcounts
  | ok compiled =>
    rw [hcompile] at hcounts
    obtain ⟨hitems, hlength⟩ := Prod.mk.inj (Option.some.inj hcounts)
    exact ⟨compiled, rfl, hitems, hlength⟩

end GrammarRules
