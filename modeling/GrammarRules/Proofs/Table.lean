import GrammarRules.Table
import Mathlib.Tactic.SplitIfs

/-!
# The entries of a table

What is found in a table is one of its entries (`mem_of_find?`), and inserting a value adds at most
one entry (`mem_insert`).  It is found under its name (`find?_insert_self`); what is under the other
names (`find?_insert_of_ne`), the names (`contains_insert`) and their order (`keys_insert`) stay.
`Sets` says so of two tables.
-/

namespace GrammarRules.Table

variable {α : Type} {t : Table α} {name : String} {value : α} {entry : String × α}

theorem mem_of_find? (h : t.find? name = some value) : (name, value) ∈ t.entries := by
  obtain ⟨before, after, heq, -⟩ := List.lookup_eq_some_iff.1 h
  rw [heq]
  exact List.mem_append_right _ List.mem_cons_self

theorem mem_insertEntry {entries : List (String × α)} (h : entry ∈ insertEntry name value entries) :
    entry ∈ entries ∨ entry = (name, value) := by
  induction entries with
  | nil => exact .inr (List.mem_singleton.1 h)
  | cons first rest ih =>
    rw [insertEntry] at h
    split_ifs at h with hkey
    · rcases List.mem_cons.1 h with rfl | h
      · exact .inr (by rw [beq_iff_eq.1 hkey])
      · exact .inl (List.mem_cons_of_mem _ h)
    · rcases List.mem_cons.1 h with rfl | h
      · exact .inl List.mem_cons_self
      · exact (ih h).imp_left (List.mem_cons_of_mem _)

theorem mem_insert (h : entry ∈ (t.insert name value).entries) :
    entry ∈ t.entries ∨ entry = (name, value) := mem_insertEntry h

theorem lookup_insertEntry_self (name : String) (value : α) (entries : List (String × α)) :
    (insertEntry name value entries).lookup name = some value := by
  induction entries with
  | nil => exact List.lookup_cons_self
  | cons first rest ih =>
    rw [insertEntry]
    split_ifs with hkey
    · rw [beq_iff_eq.1 hkey, List.lookup_cons_self]
    · rw [List.lookup_cons, beq_eq_false_iff_ne.2 fun h => hkey (beq_iff_eq.2 h.symm)]
      exact ih

theorem lookup_insertEntry_of_ne {other : String} (h : other ≠ name)
    (entries : List (String × α)) :
    (insertEntry name value entries).lookup other = entries.lookup other := by
  induction entries with
  | nil => rw [insertEntry, List.lookup_cons, beq_eq_false_iff_ne.2 h]
  | cons first rest ih =>
    rw [insertEntry]
    split_ifs with hkey
    · have hfirst : (other == first.1) = false :=
        beq_eq_false_iff_ne.2 fun heq => h (heq.trans (beq_iff_eq.1 hkey))
      rw [List.lookup_cons, List.lookup_cons, hfirst]
    · rw [List.lookup_cons, List.lookup_cons, ih]

theorem map_fst_insertEntry (name : String) (value : α) (entries : List (String × α)) :
    (insertEntry name value entries).map Prod.fst =
      if (entries.lookup name).isSome then entries.map Prod.fst
      else entries.map Prod.fst ++ [name] := by
  induction entries with
  | nil => rfl
  | cons first rest ih =>
    rw [insertEntry, List.lookup_cons]
    by_cases hkey : first.1 = name
    · simp [hkey]
    · have hname : (name == first.1) = false := beq_eq_false_iff_ne.2 (Ne.symm hkey)
      rw [if_neg (by simpa using hkey), hname, List.map_cons, List.map_cons, ih]
      split_ifs <;> rfl

theorem find?_insert_self (t : Table α) (name : String) (value : α) :
    (t.insert name value).find? name = some value := lookup_insertEntry_self name value t.entries

theorem find?_insert_of_ne {other : String} (h : other ≠ name) :
    (t.insert name value).find? other = t.find? other := lookup_insertEntry_of_ne h t.entries

theorem contains_insert {other : String} :
    (t.insert name value).contains other = true ↔ other = name ∨ t.contains other = true := by
  by_cases h : other = name
  · subst h
    simp [contains, find?_insert_self]
  · simp [contains, find?_insert_of_ne h, h]

theorem contains_insertIfNew {other : String} :
    (t.insertIfNew name value).contains other = true ↔ other = name ∨ t.contains other = true := by
  by_cases h : t.contains name = true
  · rw [insertIfNew, if_pos h]
    exact ⟨.inr, fun hother => hother.elim (fun heq => heq ▸ h) id⟩
  · rw [insertIfNew, if_neg h]
    by_cases hname : other = name
    · simp [contains, find?, hname]
    · simp [contains, find?, hname]

/-- A new name comes last. -/
theorem keys_insert (t : Table α) (name : String) (value : α) :
    (t.insert name value).keys = if t.contains name then t.keys else t.keys ++ [name] :=
  map_fst_insertEntry name value t.entries

/-- The second table has the value under the name, which comes last if it is new, and under every
other name what the first table has. -/
structure Sets (before : Table α) (name : String) (value : α) (after : Table α) : Prop where
  self : after.find? name = some value
  others : ∀ other, other ≠ name → after.find? other = before.find? other
  keys : after.keys = if before.contains name then before.keys else before.keys ++ [name]

theorem sets_insert (t : Table α) (name : String) (value : α) :
    t.Sets name value (t.insert name value) where
  self := t.find?_insert_self name value
  others _ h := find?_insert_of_ne h
  keys := t.keys_insert name value

end GrammarRules.Table
