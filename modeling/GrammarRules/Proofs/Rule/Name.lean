import GrammarRules.Proofs.Text.Numeral
import GrammarRules.Rule.Basic

/-!
# Reading the name of a rule

The name to show for a rule of a group is its id with the number of the rule and that of the variant
behind it, and the id may have brackets and number signs of its own.  Read from its end, though, the
name gives all three away (`Rule.displayName_inj`): the digits at the end are the number of the
variant or there are none, and before them and their sign stands the number in brackets.
-/

namespace GrammarRules

/-- A list that ends with members of a class after one that is not in it can be taken apart there in
one way only. -/
theorem append_cons_inj_of_class {α : Type} {p : α → Bool} {xs ys as bs : List α} {x y : α}
    (hx : p x = false) (hy : p y = false) (has : ∀ a ∈ as, p a = true)
    (hbs : ∀ b ∈ bs, p b = true) (h : xs ++ x :: as = ys ++ y :: bs) :
    xs = ys ∧ x = y ∧ as = bs := by
  have hend {c : α} {front back : List α} (hc : p c = false)
      (hback : ∀ a ∈ front ++ c :: back, p a = true) : False := by
    have := hback c (List.mem_append_right _ List.mem_cons_self)
    rw [hc] at this
    cases this
  rcases List.append_eq_append_iff.1 h with ⟨middle, rfl, hmiddle⟩ | ⟨middle, rfl, hmiddle⟩
  · cases middle with
    | nil =>
      obtain ⟨rfl, rfl⟩ := List.cons.inj hmiddle
      exact ⟨(List.append_nil xs).symm, rfl, rfl⟩
    | cons first rest =>
      obtain ⟨-, rfl⟩ := List.cons.inj hmiddle
      exact (hend hy has).elim
  · cases middle with
    | nil =>
      obtain ⟨rfl, rfl⟩ := List.cons.inj hmiddle
      exact ⟨List.append_nil ys, rfl, rfl⟩
    | cons first rest =>
      obtain ⟨-, rfl⟩ := List.cons.inj hmiddle
      exact (hend hx hbs).elim

namespace Rule

/-- The id and the number in the group as they stand in a name. -/
def bracketed (id : String) (number : Nat) : List Char :=
  id.toList ++ '[' :: Text.numeral number

/-- The number of a variant with its sign, if there is one. -/
def variantMark (variant : Option Nat) : List Char :=
  (variant.map fun n => '#' :: Text.numeral n).getD []

/-- The number in the group in its brackets, if there is one. -/
def groupMark (subId : Option Nat) : List Char :=
  (subId.map fun n => '[' :: Text.numeral n ++ [']']).getD []

/-- Behind the id come the two numbers with their signs. -/
theorem toList_displayName_eq (rule : Rule) :
    rule.displayName.toList = rule.id.toList ++ groupMark rule.subId ++ variantMark rule.variant := by
  have hnumber :
      ((rule.subId.map fun n => s!"[{n}]").getD "").toList = groupMark rule.subId := by
    cases rule.subId with
    | none => rfl
    | some n =>
      show (s!"[{n}]").toList = _
      rw [String.toList_append, String.toList_append]
      rfl
  have hvariant :
      ((rule.variant.map fun n => s!"#{n}").getD "").toList = variantMark rule.variant := by
    cases rule.variant with
    | none => rfl
    | some n => exact String.toList_append
  rw [displayName, String.toList_append, String.toList_append, hnumber, hvariant]

theorem toList_displayName {rule : Rule} {number : Nat} (h : rule.subId = some number) :
    rule.displayName.toList = bracketed rule.id number ++ ']' :: variantMark rule.variant := by
  rw [toList_displayName_eq, h]
  simp [bracketed, groupMark]

/-- There are no blanks in the numbers and their signs. -/
theorem not_isBlank_of_mem_marks {rule : Rule} {c : Char}
    (h : c ∈ groupMark rule.subId ++ variantMark rule.variant) : Text.isBlank c = false := by
  have hdigit {n : Nat} (h : c ∈ Text.numeral n) : Text.isBlank c = false :=
    Text.not_isBlank_of_isDecimal (Text.isDecimal_of_mem_numeral h)
  rcases List.mem_append.1 h with h | h
  · cases hsubId : rule.subId with
    | none =>
      rw [hsubId] at h
      cases h
    | some n =>
      rw [hsubId, groupMark, Option.map_some, Option.getD_some, List.mem_append, List.mem_cons,
        List.mem_singleton] at h
      rcases h with (rfl | h) | rfl
      · rfl
      · exact hdigit h
      · rfl
  · cases hvariant : rule.variant with
    | none =>
      rw [hvariant] at h
      cases h
    | some n =>
      rw [hvariant, variantMark, Option.map_some, Option.getD_some, List.mem_cons] at h
      rcases h with rfl | h
      · rfl
      · exact hdigit h

theorem bracketed_inj {id id' : String} {m n : Nat} (h : bracketed id m = bracketed id' n) :
    id = id' ∧ m = n := by
  obtain ⟨hid, -, hnumber⟩ := append_cons_inj_of_class (p := Text.isDigit) (by decide) (by decide)
    (fun _ => Text.isDigit_of_mem_numeral) (fun _ => Text.isDigit_of_mem_numeral) h
  exact ⟨String.toList_inj.1 hid, Text.numeral_injective hnumber⟩

/-- No digit stands behind a bracket, and all that stands behind a number sign are digits. -/
theorem variantMark_inj {xs ys : List Char} {variant variant' : Option Nat}
    (h : xs ++ ']' :: variantMark variant = ys ++ ']' :: variantMark variant') :
    xs = ys ∧ variant = variant' := by
  have hbracket : Text.isDigit ']' = false := by decide
  have hsign : Text.isDigit '#' = false := by decide
  have hdigits {n : Nat} : ∀ c ∈ Text.numeral n, Text.isDigit c = true :=
    fun _ => Text.isDigit_of_mem_numeral
  cases variant with
  | none =>
    cases variant' with
    | none => exact ⟨List.append_cancel_right h, rfl⟩
    | some n =>
      rw [List.append_cons ys] at h
      have hmark := (append_cons_inj_of_class hbracket hsign (List.forall_mem_nil _) hdigits h).2.1
      exact absurd hmark (by decide)
  | some m =>
    rw [List.append_cons xs] at h
    cases variant' with
    | none =>
      have hmark := (append_cons_inj_of_class hsign hbracket hdigits (List.forall_mem_nil _) h).2.1
      exact absurd hmark (by decide)
    | some n =>
      rw [List.append_cons ys] at h
      obtain ⟨hfront, -, hnumber⟩ := append_cons_inj_of_class hsign hsign hdigits hdigits h
      exact ⟨List.append_cancel_right hfront, congrArg some (Text.numeral_injective hnumber)⟩

/-- Rules of groups that have the same name have the same id and the same number in their groups,
and are the same variant of their patterns. -/
theorem displayName_inj {rule rule' : Rule} {m n : Nat} (hm : rule.subId = some m)
    (hn : rule'.subId = some n) (h : rule.displayName = rule'.displayName) :
    rule.id = rule'.id ∧ m = n ∧ rule.variant = rule'.variant := by
  have hchars := congrArg String.toList h
  rw [toList_displayName hm, toList_displayName hn] at hchars
  obtain ⟨hbracketed, hvariant⟩ := variantMark_inj hchars
  obtain ⟨hid, hnumber⟩ := bracketed_inj hbracketed
  exact ⟨hid, hnumber, hvariant⟩

end Rule

end GrammarRules
