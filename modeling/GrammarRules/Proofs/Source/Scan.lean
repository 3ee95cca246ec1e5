import GrammarRules.Source.File
import Mathlib.Data.List.DropRight

/-!
# Reading a source from left to right

`charsBefore` are the characters of a text that begin before a byte offset, `lastLine` those behind
the last line feed and `restOfLine` those up to the next.  `SourceLine.split` cuts a text so that
the line with a place in it is the one whose number is that of the line feeds before the place, it
holds the last line of what is before and the rest of the line behind it (`getElem?_go`), and it is
the last line that begins at or before the place (`start_le_iff_of_go`).
-/

namespace GrammarRules

/-! ## Bytes and characters -/

@[simp] theorem byteLength_nil : byteLength [] = 0 := rfl

@[simp] theorem byteLength_cons (c : Char) (cs : List Char) :
    byteLength (c :: cs) = c.utf8Size + byteLength cs := rfl

@[simp] theorem byteLength_append (cs ds : List Char) :
    byteLength (cs ++ ds) = byteLength cs + byteLength ds := by
  induction cs with
  | nil => simp
  | cons c cs ih => simp [ih, Nat.add_assoc]

@[simp] theorem byteLength_reverse (cs : List Char) : byteLength cs.reverse = byteLength cs := by
  induction cs with
  | nil => rfl
  | cons c cs ih => simp [ih, Nat.add_comm]

theorem utf8ByteSize_ofList (cs : List Char) : (String.ofList cs).utf8ByteSize = byteLength cs := by
  induction cs with
  | nil => rfl
  | cons c cs ih =>
    rw [String.ofList_cons, String.utf8ByteSize_append, String.utf8ByteSize_singleton, ih,
      byteLength_cons]

/-! ## What is before a place and behind it -/

/-- The characters that begin before a byte offset. -/
def charsBefore (offset : Nat) : List Char → List Char
  | [] => []
  | c :: cs => if offset = 0 then [] else c :: charsBefore (offset - c.utf8Size) cs

/-- The characters behind the last line feed. -/
def lastLine (cs : List Char) : List Char := cs.rtakeWhile (· != '\n')

/-- The characters up to the first line feed, which is the last of them. -/
def restOfLine : List Char → List Char
  | [] => []
  | c :: cs => if c = '\n' then [c] else c :: restOfLine cs

@[simp] theorem charsBefore_zero (cs : List Char) : charsBefore 0 cs = [] := by
  cases cs <;> rfl

theorem charsBefore_cons {offset : Nat} (h : 0 < offset) (c : Char) (cs : List Char) :
    charsBefore offset (c :: cs) = c :: charsBefore (offset - c.utf8Size) cs :=
  if_neg (Nat.ne_of_gt h)

/-- Where no character is cut these are all the characters up to there. -/
theorem charsBefore_append (before after : List Char) :
    charsBefore (byteLength before) (before ++ after) = before := by
  induction before with
  | nil => exact charsBefore_zero after
  | cons c before ih =>
    have := c.utf8Size_pos
    rw [List.cons_append, byteLength_cons, charsBefore_cons (by omega), Nat.add_sub_cancel_left, ih]

theorem prefix_charsBefore (offset : Nat) (cs : List Char) : charsBefore offset cs <+: cs := by
  induction cs generalizing offset with
  | nil => exact List.prefix_refl []
  | cons c cs ih =>
    rw [charsBefore]
    split
    · exact List.nil_prefix
    · exact (List.prefix_cons_inj c).2 (ih _)

/-- A line feed among the characters begins the last line anew. -/
theorem lastLine_append_lineFeed (cs ds : List Char) :
    lastLine (cs ++ '\n' :: ds) = lastLine ds := by
  induction ds using List.reverseRecOn with
  | nil => simp [lastLine]
  | append_singleton ds d ih =>
    rw [← List.cons_append, ← List.append_assoc, lastLine, lastLine, List.rtakeWhile_concat,
      List.rtakeWhile_concat]
    split
    · exact congrArg (· ++ [d]) ih
    · rfl

theorem lastLine_eq_self {cs : List Char} (h : '\n' ∉ cs) : lastLine cs = cs := by
  refine List.rtakeWhile_eq_self_iff.2 fun c hc => ?_
  rw [bne_iff_ne]
  rintro rfl
  exact h hc

theorem lastLine_append {cs ds : List Char} (h : '\n' ∉ ds) :
    lastLine (cs ++ ds) = lastLine cs ++ ds := by
  induction ds using List.reverseRecOn with
  | nil => simp
  | append_singleton ds d ih =>
    rw [List.mem_append, not_or, List.mem_singleton] at h
    rw [← List.append_assoc, lastLine,
      List.rtakeWhile_concat_pos _ _ _ (by simpa using Ne.symm h.2), ← List.append_assoc, ← ih h.1,
      lastLine]

/-! ## The lines of a text -/

namespace SourceLine

theorem length_go (begun here : Nat) (line cs : List Char) :
    (split.go begun here line cs).length = cs.count '\n' + 1 := by
  induction cs generalizing begun here line with
  | nil => rfl
  | cons c cs ih =>
    rw [split.go]
    by_cases h : c = '\n'
    · simp [h, ih]
    · simp [h, ih]

/-- The line that is being read goes on up to the next line feed. -/
theorem getElem?_zero_go (begun here : Nat) (line cs : List Char) :
    (split.go begun here line cs)[0]? = some ⟨begun, line.reverse ++ restOfLine cs⟩ := by
  induction cs generalizing here line with
  | nil => simp [split.go, restOfLine]
  | cons c cs ih =>
    rw [split.go, restOfLine]
    by_cases h : c = '\n'
    · simp [h]
    · simp [h, ih]

/-- The line with a place in it, where `line` is what has been read of the first line. -/
theorem getElem?_go {begun here : Nat} {line : List Char} (before after : List Char)
    (hhere : begun + byteLength line = here) (hline : '\n' ∉ line) :
    ∃ start, (split.go begun here line (before ++ after))[before.count '\n']? =
        some ⟨start, lastLine (line.reverse ++ before) ++ restOfLine after⟩ ∧
      start + byteLength (lastLine (line.reverse ++ before)) = here + byteLength before := by
  induction before generalizing begun here line with
  | nil =>
    have hlast : lastLine (line.reverse ++ []) = line.reverse := by
      rw [List.append_nil]
      exact lastLine_eq_self fun h => hline (List.mem_reverse.1 h)
    refine ⟨begun, ?_, ?_⟩
    · rw [hlast]
      exact getElem?_zero_go begun here line after
    · rw [hlast, byteLength_reverse, hhere]
      rfl
  | cons c before ih =>
    rw [List.cons_append, split.go]
    by_cases h : c = '\n'
    · subst h
      obtain ⟨start, hstart, hlength⟩ :=
        @ih (here + '\n'.utf8Size) (here + '\n'.utf8Size) [] rfl List.not_mem_nil
      rw [List.reverse_nil, List.nil_append] at hstart hlength
      refine ⟨start, ?_, ?_⟩
      · rw [lastLine_append_lineFeed]
        simpa using hstart
      · rw [lastLine_append_lineFeed, byteLength_cons]
        omega
    · have hnext : begun + byteLength (c :: line) = here + c.utf8Size := by
        rw [byteLength_cons]
        omega
      have hmem : '\n' ∉ c :: line := by
        simp [hline, Ne.symm h]
      obtain ⟨start, hstart, hlength⟩ := ih hnext hmem
      rw [List.reverse_cons, List.append_assoc, List.singleton_append] at hstart hlength
      refine ⟨start, ?_, ?_⟩
      · rw [if_neg h, List.count_cons_of_ne h]
        exact hstart
      · rw [hlength, byteLength_cons, Nat.add_assoc]

/-- The lines that begin at or before a place are those up to the number of the line feeds before
it. -/
theorem start_le_iff_of_go {begun here index : Nat} {line cs : List Char} {found : SourceLine}
    (offset : Nat) (hbegun : begun ≤ here)
    (h : (split.go begun here line cs)[index]? = some found) :
    found.start ≤ here + offset ↔ index ≤ (charsBefore offset cs).count '\n' := by
  induction cs generalizing begun here offset index line with
  | nil =>
    cases index with
    | zero =>
      cases h
      simpa using Nat.le_add_right_of_le hbegun
    | succ index => cases h
  | cons c cs ih =>
    have hsize := c.utf8Size_pos
    -- The first line began before, whatever comes.
    cases index with
    | zero =>
      rw [getElem?_zero_go] at h
      cases h
      simpa using Nat.le_add_right_of_le hbegun
    | succ index =>
      rw [split.go] at h
      by_cases hc : c = '\n'
      · subst hc
        rw [if_pos rfl, List.getElem?_cons_succ] at h
        have hnext := fun offset => ih offset (Nat.le_refl _) h
        rcases Nat.eq_zero_or_pos offset with rfl | hpos
        · have hzero := hnext 0
          rw [charsBefore_zero, List.count_nil] at hzero ⊢
          cases index with
          | zero =>
            rw [getElem?_zero_go] at h
            cases h
            dsimp only
            omega
          | succ index => omega
        · rw [charsBefore_cons hpos, List.count_cons_self, Nat.add_le_add_iff_right,
            ← hnext (offset - '\n'.utf8Size)]
          have hone : '\n'.utf8Size = 1 := rfl
          omega
      · rw [if_neg hc] at h
        have hnext := fun offset => ih offset (Nat.le_add_right_of_le hbegun) h
        by_cases hpast : c.utf8Size ≤ offset
        · rw [charsBefore_cons (by omega), List.count_cons_of_ne hc, ← hnext]
          omega
        · -- Before the end of the character there is no line feed yet.
          have hzero := hnext 0
          have hcount : (charsBefore offset (c :: cs)).count '\n' = 0 := by
            rcases Nat.eq_zero_or_pos offset with rfl | hpos
            · simp
            · rw [charsBefore_cons hpos, List.count_cons_of_ne hc,
                Nat.sub_eq_zero_of_le (Nat.le_of_not_le hpast)]
              simp
          rw [charsBefore_zero, List.count_nil] at hzero
          rw [hcount]
          omega

/-! ## The text of a line -/

/-- What stands before a character that is no line feed and no carriage return stays when the end of
the line is cut off, and so does this character. -/
theorem exists_text_eq (line : SourceLine) {before after : List Char} {d : Char}
    (hline : line.chars = before ++ d :: after) (hd : d ≠ '\n' ∧ d ≠ '\r') :
    ∃ kept, line.text.toList = before ++ d :: kept := by
  have hstop : (d :: before.reverse).dropWhile (fun c => c == '\n' || c == '\r') =
      d :: before.reverse := List.dropWhile_cons_of_neg (by simpa using hd)
  refine ⟨(after.reverse.dropWhile fun c => c == '\n' || c == '\r').reverse, ?_⟩
  rw [text, String.toList_ofList, hline, List.reverse_append, List.reverse_cons, List.append_assoc,
    List.singleton_append, List.dropWhile_append, hstop]
  split
  · next hempty =>
    rw [List.isEmpty_iff.1 hempty]
    simp
  · simp

/-- A line has a line feed at its end only. -/
theorem not_mem_dropLast_of_mem_go {begun here : Nat} {line cs : List Char} {found : SourceLine}
    (hline : '\n' ∉ line) (h : found ∈ split.go begun here line cs) :
    '\n' ∉ found.chars.dropLast := by
  induction cs generalizing begun here line with
  | nil =>
    obtain rfl := List.mem_singleton.1 h
    exact fun hmem => hline (List.mem_reverse.1 (List.dropLast_subset _ hmem))
  | cons c cs ih =>
    rw [split.go] at h
    by_cases hc : c = '\n'
    · rw [if_pos hc, List.mem_cons] at h
      rcases h with rfl | h
      · show '\n' ∉ (c :: line).reverse.dropLast
        rw [List.reverse_cons, List.dropLast_concat, List.mem_reverse]
        exact hline
      · exact ih List.not_mem_nil h
    · rw [if_neg hc] at h
      have hnext : '\n' ∉ c :: line := by simp [hline, Ne.symm hc]
      exact ih hnext h

/-- There is no line feed in the text of a line. -/
theorem not_mem_text {line : SourceLine} (h : '\n' ∉ line.chars.dropLast) :
    '\n' ∉ line.text.toList := by
  rw [text, String.toList_ofList]
  show '\n' ∉ line.chars.rdropWhile fun c => c == '\n' || c == '\r'
  cases hchars : line.chars using List.reverseRecOn with
  | nil => exact List.not_mem_nil
  | append_singleton front last =>
    rw [hchars, List.dropLast_concat] at h
    by_cases hlast : last = '\n'
    · rw [List.rdropWhile_concat_pos _ _ _ (by simp [hlast])]
      exact fun hmem => h ((List.rdropWhile_prefix _ _).subset hmem)
    · have hmem : '\n' ∉ front ++ [last] := by simp [h, Ne.symm hlast]
      exact fun hfound => hmem ((List.rdropWhile_prefix _ _).subset hfound)

/-- All characters are counted up to a place where none is cut. -/
theorem charCount?_append (before after : List Char) :
    charCount? (byteLength before) (before ++ after) = some before.length := by
  induction before with
  | nil => cases after <;> rfl
  | cons c before ih =>
    obtain ⟨bytes, hbytes⟩ : ∃ bytes, c.utf8Size + byteLength before = bytes + 1 :=
      ⟨c.utf8Size + byteLength before - 1, by have := c.utf8Size_pos; omega⟩
    rw [byteLength_cons, List.cons_append, hbytes, charCount?, ← hbytes,
      if_pos (Nat.le_add_right _ _), Nat.add_sub_cancel_left, ih]
    · rfl
    · exact Nat.succ_ne_zero bytes

end SourceLine

end GrammarRules
