import GrammarRules.Text.Blank
import GrammarRules.Text.Reference

/-!
# Numerals as they are written

`numeral n` consists of ASCII digits, at least one, and denotes `n` (`valueOf_numeral`).  More
digits behind a numeral make it denote a greater number (`lt_valueOf_append`).  An ASCII digit is a
decimal digit, and neither a backslash nor a blank is one.
-/

namespace GrammarRules.Text

/-! ## Classes of characters -/

theorem isDigit_eq (c : Char) : isDigit c = c.isDigit := rfl

theorem isDecimal_of_isDigit {c : Char} (h : isDigit c = true) : isDecimal c = true := by
  rw [isDigit, Bool.and_eq_true, decide_eq_true_eq, decide_eq_true_eq] at h
  have hlow : 48 ≤ c.toNat := h.1
  have hhigh : c.toNat ≤ 57 := h.2
  rw [isDecimal, List.any_eq_true]
  exact ⟨48, List.mem_cons_self, by simp only [decide_eq_true_eq, Bool.and_eq_true]; omega⟩

/-- The code points of the blanks. -/
def blankCodes : List Nat :=
  [0x9, 0xA, 0xB, 0xC, 0xD, 0x20, 0x85, 0xA0, 0x1680, 0x2000, 0x2001, 0x2002, 0x2003, 0x2004,
   0x2005, 0x2006, 0x2007, 0x2008, 0x2009, 0x200A, 0x2028, 0x2029, 0x202F, 0x205F, 0x3000]

theorem toNat_mem_blankCodes {c : Char} (h : isBlank c = true) : c.toNat ∈ blankCodes := by
  simp only [isBlank, Bool.or_eq_true, Bool.and_eq_true, decide_eq_true_eq, beq_iff_eq] at h
  simp only [blankCodes, List.mem_cons, List.not_mem_nil, or_false]
  omega

theorem not_isDecimal_of_isBlank {c : Char} (h : isBlank c = true) : isDecimal c = false := by
  have hcodes : ∀ n ∈ blankCodes,
      (decimalZeros.any fun first => first ≤ n && n ≤ first + 9) = false := by decide
  exact hcodes _ (toNat_mem_blankCodes h)

theorem not_isDigit_of_isBlank {c : Char} (h : isBlank c = true) : isDigit c = false := by
  rw [← Bool.not_eq_true]
  intro hdigit
  have hdecimal := isDecimal_of_isDigit hdigit
  rw [not_isDecimal_of_isBlank h] at hdecimal
  cases hdecimal

theorem not_isBlank_of_isDecimal {c : Char} (h : isDecimal c = true) : isBlank c = false := by
  rw [← Bool.not_eq_true]
  intro hblank
  rw [not_isDecimal_of_isBlank hblank] at h
  cases h

/-! ## Numerals -/

theorem isDigit_of_mem_numeral {n : Nat} {c : Char} (h : c ∈ numeral n) : isDigit c = true := by
  rw [numeral, Nat.toList_repr] at h
  exact (isDigit_eq c).trans (Nat.isDigit_of_mem_toDigits (by decide) (by decide) h)

theorem isDecimal_of_mem_numeral {n : Nat} {c : Char} (h : c ∈ numeral n) : isDecimal c = true :=
  isDecimal_of_isDigit (isDigit_of_mem_numeral h)

theorem not_mem_numeral {c : Char} (h : isDigit c = false) (n : Nat) : c ∉ numeral n := by
  intro hmem
  rw [isDigit_of_mem_numeral hmem] at h
  cases h

theorem numeral_ne_nil (n : Nat) : numeral n ≠ [] := by
  rw [numeral, Nat.toList_repr]
  exact Nat.toDigits_ne_nil

theorem valueOf_numeral (n : Nat) : valueOf (numeral n) = n := by
  have h := Nat.ofDigitChars_ten_toDigits (n := n)
  rw [Nat.ofDigitChars_eq_foldl, ← Nat.toList_repr] at h
  exact h

theorem numeral_injective {m n : Nat} (h : numeral m = numeral n) : m = n := by
  rw [← valueOf_numeral m, h, valueOf_numeral n]

/-- A numeral denotes a number if there is one within the bound. -/
theorem natural?_numeral (bound n : Nat) :
    natural? bound (numeral n) = if n ≤ bound then some n else none := by
  have hdigits : digits? (numeral n) = some n := by
    have hall : (numeral n).all isDigit = true :=
      List.all_eq_true.2 fun c hc => isDigit_of_mem_numeral hc
    simp [digits?, numeral_ne_nil, hall, valueOf_numeral]
  rw [natural?, hdigits, Option.filter_some]
  simp only [decide_eq_true_eq]

theorem le_foldl_digits (ds : List Char) (m : Nat) :
    m ≤ ds.foldl (fun n c => 10 * n + digitValue c) m := by
  induction ds generalizing m with
  | nil => exact Nat.le_refl m
  | cons d ds ih => exact Nat.le_trans (by omega) (ih (10 * m + digitValue d))

/-- More digits make a greater number. -/
theorem lt_valueOf_append {ds es : List Char} (hpos : 0 < valueOf ds) (hes : es ≠ []) :
    valueOf ds < valueOf (ds ++ es) := by
  obtain ⟨e, rest, rfl⟩ := List.exists_cons_of_ne_nil hes
  calc valueOf ds < 10 * valueOf ds + digitValue e := by omega
    _ ≤ rest.foldl (fun n c => 10 * n + digitValue c) (10 * valueOf ds + digitValue e) :=
      le_foldl_digits rest _
    _ = valueOf (ds ++ e :: rest) := by rw [valueOf, valueOf, List.foldl_append, List.foldl_cons]

end GrammarRules.Text
