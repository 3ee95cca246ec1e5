import GrammarRules.Proofs.Text.Numeral
import Mathlib.Data.List.Forall2
import Mathlib.Data.List.Induction
import Mathlib.Data.List.TakeWhile

/-!
# Numbers and names as an author may write them

`Unsigned` is the grammar of the numbers that an attribute may hold where a token is quoted: ASCII
digits, leading zeros among them, behind an optional plus sign.  `int64?` reads just these as
positive numbers, as long as they are within its bounds (`int64?_eq_some_natCast_iff`).
`SameUpToCase` compares two names letter by letter and takes an ASCII capital for its small letter,
which is what it means to compare them after `lowerAscii` (`sameUpToCase_iff`).  What `trim` leaves
is empty for the blank texts only (`trim_eq_empty_iff`).
-/

namespace GrammarRules.Text

/-! ## Numbers -/

/-- A list of ASCII digits, at least one, and the number that it denotes. -/
inductive Denotes : List Char → Nat → Prop where
  | digit {c : Char} (hc : isDigit c = true) : Denotes [c] (digitValue c)
  | concat {cs : List Char} {n : Nat} {c : Char} (h : Denotes cs n) (hc : isDigit c = true) :
      Denotes (cs ++ [c]) (10 * n + digitValue c)

/-- A number without a minus sign: digits, and before them a plus sign or nothing. -/
def Unsigned (cs : List Char) (n : Nat) : Prop :=
  ∃ digits, (cs = digits ∨ cs = '+' :: digits) ∧ Denotes digits n

theorem Denotes.isDigit_of_mem {cs : List Char} {n : Nat} (h : Denotes cs n) :
    ∀ c ∈ cs, isDigit c = true := by
  induction h with
  | digit hc =>
    intro c hmem
    rwa [List.mem_singleton.1 hmem]
  | concat h hc ih =>
    intro c hmem
    rcases List.mem_append.1 hmem with hmem | hmem
    · exact ih c hmem
    · rwa [List.mem_singleton.1 hmem]

theorem Denotes.ne_nil {cs : List Char} {n : Nat} (h : Denotes cs n) : cs ≠ [] := by
  cases h <;> simp

theorem valueOf_concat (cs : List Char) (c : Char) :
    valueOf (cs ++ [c]) = 10 * valueOf cs + digitValue c := by
  rw [valueOf, List.foldl_append, List.foldl_cons, List.foldl_nil, valueOf]

theorem Denotes.valueOf_eq {cs : List Char} {n : Nat} (h : Denotes cs n) : valueOf cs = n := by
  induction h with
  | digit hc => simp [valueOf]
  | concat h hc ih => rw [valueOf_concat, ih]

theorem denotes_valueOf {cs : List Char} (hne : cs ≠ []) (hdigits : ∀ c ∈ cs, isDigit c = true) :
    Denotes cs (valueOf cs) := by
  induction cs using List.reverseRecOn with
  | nil => exact absurd rfl hne
  | append_singleton cs c ih =>
    have hc : isDigit c = true := hdigits c (by simp)
    rw [valueOf_concat]
    by_cases hcs : cs = []
    · subst hcs
      have h : Denotes [c] (digitValue c) := .digit hc
      simpa [valueOf] using h
    · exact .concat (ih hcs fun d hd => hdigits d (List.mem_append_left _ hd)) hc

theorem digits?_eq_some_iff {cs : List Char} {n : Nat} : digits? cs = some n ↔ Denotes cs n := by
  unfold digits?
  constructor
  · intro h
    split at h
    · cases h
    · rename_i hcond
      rw [Bool.not_eq_true, Bool.or_eq_false_iff, List.isEmpty_eq_false_iff, Bool.not_eq_false',
        List.all_eq_true] at hcond
      cases h
      exact denotes_valueOf hcond.1 hcond.2
  · intro h
    have hcond : (cs.isEmpty || !cs.all isDigit) = false := by
      rw [Bool.or_eq_false_iff, List.isEmpty_eq_false_iff, Bool.not_eq_false', List.all_eq_true]
      exact ⟨h.ne_nil, h.isDigit_of_mem⟩
    rw [hcond, h.valueOf_eq]
    rfl

/-- A sign is no digit. -/
theorem Denotes.not_cons {c : Char} {cs : List Char} {n : Nat} (hc : isDigit c = false) :
    ¬ Denotes (c :: cs) n := by
  intro h
  have hdigit := h.isDigit_of_mem c List.mem_cons_self
  rw [hc] at hdigit
  cases hdigit

theorem signed?_minus (ds : List Char) :
    signed? ('-' :: ds) = (digits? ds).map fun n : Nat => -(n : Int) := by
  rw [signed?]
  cases digits? ds <;> rfl

theorem signed?_plus (ds : List Char) :
    signed? ('+' :: ds) = (digits? ds).map fun n : Nat => (n : Int) := by
  rw [signed?]
  cases digits? ds <;> rfl

theorem signed?_of_no_sign {cs : List Char} (hminus : ∀ ds, cs ≠ '-' :: ds)
    (hplus : ∀ ds, cs ≠ '+' :: ds) : signed? cs = (digits? cs).map fun n : Nat => (n : Int) := by
  rw [signed?]
  · cases digits? cs <;> rfl
  · exact hminus
  · exact hplus

theorem map_digits?_eq_some_iff {cs : List Char} {n : Nat} :
    ((digits? cs).map fun m : Nat => (m : Int)) = some (n : Int) ↔ Denotes cs n := by
  rw [Option.map_eq_some_iff, ← digits?_eq_some_iff]
  constructor
  · rintro ⟨m, hm, hcast⟩
    rwa [← Int.ofNat.inj hcast]
  · intro h
    exact ⟨n, h, rfl⟩

theorem Unsigned.ne_nil {cs : List Char} {n : Nat} (h : Unsigned cs n) : cs ≠ [] := by
  obtain ⟨digits, rfl | rfl, hdenotes⟩ := h
  · exact hdenotes.ne_nil
  · exact List.cons_ne_nil _ _

/-- `signed?` reads the unsigned numbers as what they denote, and takes no other text for a number
that is positive. -/
theorem signed?_eq_some_natCast_iff {cs : List Char} {n : Nat} (hn : 1 ≤ n) :
    signed? cs = some (n : Int) ↔ Unsigned cs n := by
  by_cases hminus : ∃ ds, cs = '-' :: ds
  · -- a minus sign makes no positive number, and it is neither a digit nor a plus sign
    obtain ⟨ds, rfl⟩ := hminus
    rw [signed?_minus, Option.map_eq_some_iff]
    constructor
    · rintro ⟨m, -, hm⟩
      omega
    · rintro ⟨digits, rfl | hds, h⟩
      · exact absurd h (Denotes.not_cons rfl)
      · cases hds
  by_cases hplus : ∃ ds, cs = '+' :: ds
  · obtain ⟨ds, rfl⟩ := hplus
    rw [signed?_plus, map_digits?_eq_some_iff]
    constructor
    · intro h
      exact ⟨ds, .inr rfl, h⟩
    · rintro ⟨digits, rfl | hds, h⟩
      · exact absurd h (Denotes.not_cons rfl)
      · cases hds
        exact h
  · rw [not_exists] at hminus hplus
    rw [signed?_of_no_sign hminus hplus, map_digits?_eq_some_iff]
    constructor
    · intro h
      exact ⟨cs, .inl rfl, h⟩
    · rintro ⟨digits, rfl | hds, h⟩
      · exact h
      · exact absurd hds (hplus digits)

/-- A positive number within 64 bits is read as what is written. -/
theorem int64?_eq_some_natCast_iff {cs : List Char} {n : Nat} (hn : 1 ≤ n)
    (hbound : n ≤ 9223372036854775807) : int64? cs = some (n : Int) ↔ Unsigned cs n := by
  rw [int64?, integer?, Option.filter_eq_some_iff, signed?_eq_some_natCast_iff hn]
  have hrange : (decide (-9223372036854775808 ≤ (n : Int)) &&
      decide ((n : Int) ≤ 9223372036854775807)) = true := by
    rw [Bool.and_eq_true, decide_eq_true_eq, decide_eq_true_eq]
    omega
  simp only [hrange, and_true]

/-! ## Names -/

/-- Two letters of which one may be the ASCII capital of the other. -/
inductive SameLetter : Char → Char → Prop where
  | refl (c : Char) : SameLetter c c
  | capital {c d : Char} (hc : c.isUpper = true) (h : d.toNat = c.toNat + 32) : SameLetter c d
  | small {c d : Char} (hd : d.isUpper = true) (h : c.toNat = d.toNat + 32) : SameLetter c d

/-- Two names that differ in nothing but ASCII capitals. -/
def SameUpToCase (a b : String) : Prop := List.Forall₂ SameLetter a.toList b.toList

theorem isUpper_iff (c : Char) : c.isUpper = true ↔ 65 ≤ c.toNat ∧ c.toNat ≤ 90 := by
  show decide (c.val ≥ 'A'.val ∧ c.val ≤ 'Z'.val) = true ↔ 65 ≤ c.toNat ∧ c.toNat ≤ 90
  rw [decide_eq_true_eq]
  exact Iff.rfl

theorem toNat_toLower (c : Char) :
    c.toLower.toNat = if c.isUpper then c.toNat + 32 else c.toNat := by
  unfold Char.toLower
  split
  · rename_i h
    have hbounds : 65 ≤ c.toNat ∧ c.toNat ≤ 90 := h
    rw [if_pos ((isUpper_iff c).2 hbounds)]
    show (c.val + 32).toNat = c.val.toNat + 32
    rw [UInt32.toNat_add]
    exact Nat.mod_eq_of_lt (show c.toNat + 32 < _ by omega)
  · rename_i h
    have hupper : ¬ c.isUpper = true := fun hupper => h ((isUpper_iff c).1 hupper)
    rw [if_neg hupper]

theorem sameLetter_iff {c d : Char} : SameLetter c d ↔ c.toLower = d.toLower := by
  rw [← Char.toNat_inj, toNat_toLower, toNat_toLower]
  constructor
  · intro h
    cases h with
    | refl => rfl
    | capital hc h => 
      have hd : ¬ d.isUpper = true := by
        rw [isUpper_iff] at hc ⊢
        omega
      rw [if_pos hc, if_neg hd, h]
    | small hd h =>
      have hc : ¬ c.isUpper = true := by
        rw [isUpper_iff] at hd ⊢
        omega
      rw [if_pos hd, if_neg hc, h]
  · intro h
    split at h <;> split at h
    · rw [Char.toNat_inj.1 (Nat.add_right_cancel h)]
      exact .refl d
    · rename_i hc hd
      exact .capital hc h.symm
    · rename_i hc hd
      exact .small hd h
    · rw [Char.toNat_inj.1 h]
      exact .refl d

theorem sameUpToCase_iff {a b : String} : SameUpToCase a b ↔ lowerAscii a = lowerAscii b := by
  have hletters : SameLetter = fun c d => c.toLower = d.toLower :=
    funext fun c => funext fun d => propext sameLetter_iff
  rw [lowerAscii, lowerAscii, String.ofList_inj, ← List.forall₂_eq_eq_eq,
    List.forall₂_map_left_iff, List.forall₂_map_right_iff, SameUpToCase, hletters]

/-! ## Blank texts -/

theorem dropWhileEnd_eq_nil_iff {p : Char → Bool} {cs : List Char} :
    dropWhileEnd p cs = [] ↔ ∀ c ∈ cs, p c = true := by
  rw [dropWhileEnd, List.reverse_eq_nil_iff, List.dropWhile_eq_nil_iff]
  simp only [List.mem_reverse]

/-- Nothing is left of a text without its blanks at both ends if there is nothing but blanks. -/
theorem trim_eq_empty_iff (s : String) : trim s = "" ↔ isAllBlank s = true := by
  rw [trim, isAllBlank, List.all_eq_true, ← String.toList_eq_nil_iff, String.toList_ofList,
    dropWhileEnd_eq_nil_iff]
  constructor
  · intro h
    -- what is left begins with a character that is no blank, so nothing is left
    rw [← List.dropWhile_eq_nil_iff]
    by_contra hne
    have hhead := List.head_dropWhile_not isBlank hne
    rw [h _ (List.head_mem hne)] at hhead
    cases hhead
  · intro h c hc
    exact h c ((List.dropWhile_sublist _).subset hc)

end GrammarRules.Text
