import GrammarRules.Proofs.Rule.Finish
import GrammarRules.Proofs.Rule.Name
import Mathlib.Data.List.Nodup

/-!
# The rules of a group

A rule tag in a group gives rise to an `IsFamily`: the rules for the variants of its pattern, all
with the id of the group and one number in it.  `IsFamilies` are those of several rule tags, whose
numbers follow on each other.  The rules of families are in the order of their numbers, which leave
nothing out, and no two of them have the same name to show (`IsFamilies.nodup_displayName`).  The
numbers say where one family ends and the next begins (`IsFamilies.eq_of_flatten_eq`).
-/

namespace GrammarRules

/-- The rules that one rule tag in a group gives rise to. -/
structure IsFamily (id : String) (number : Nat) (rules : List Rule) : Prop where
  ne_nil : rules ≠ []
  groupId : ∀ rule ∈ rules, rule.groupId = some id
  subId : ∀ rule ∈ rules, rule.subId = some number
  variants : (rules.map Rule.variant).Nodup

/-- The rules that rule tags in a group give rise to, when `seen` have been counted before. -/
def IsFamilies (id : String) (seen : Nat) (families : List (List Rule)) : Prop :=
  ∀ index family, families[index]? = some family → IsFamily id (seen + index + 1) family

theorem RuleDraft.isFamily_rulesOf (draft : RuleDraft) {context : RuleContext}
    {pattern : PatternDraft} {id : String} {number : Nat} (hid : context.groupId = some id)
    (hnumber : context.subId = some number) (hvariants : pattern.variants ≠ []) :
    IsFamily id number (draft.rulesOf context pattern) where
  ne_nil := mt List.mapIdx_eq_nil_iff.1 hvariants
  groupId rule hrule := by
    obtain ⟨index, hindex, rfl⟩ := List.mem_mapIdx.1 hrule
    exact hid
  subId rule hrule := by
    obtain ⟨index, hindex, rfl⟩ := List.mem_mapIdx.1 hrule
    exact hnumber
  variants := by
    rw [List.nodup_iff_getElem?_ne_getElem?]
    intro i j hij hj
    rw [List.length_map, rulesOf, List.length_mapIdx] at hj
    -- There are two variants at least, so they are numbered.
    have hnumber (k : Nat) : variantNumber pattern.variants.length k = some (k + 1) :=
      if_pos (by omega)
    have hvariant {k : Nat} (hk : k < pattern.variants.length) :
        ((draft.rulesOf context pattern).map Rule.variant)[k]? = some (some (k + 1)) := by
      rw [List.getElem?_map, rulesOf, List.getElem?_mapIdx, List.getElem?_eq_getElem hk, ← hnumber]
      rfl
    rw [hvariant (hij.trans hj), hvariant hj]
    simpa using hij.ne

theorem isFamilies_nil (id : String) (seen : Nat) : IsFamilies id seen [] := nofun

theorem isFamilies_cons {id : String} {seen : Nat} {family : List Rule}
    {families : List (List Rule)} :
    IsFamilies id seen (family :: families) ↔
      IsFamily id (seen + 1) family ∧ IsFamilies id (seen + 1) families := by
  constructor
  · intro h
    refine ⟨h 0 family rfl, fun index other hother => ?_⟩
    have := h (index + 1) other hother
    rwa [Nat.add_right_comm seen 1 index]
  · rintro ⟨hfamily, hfamilies⟩ index other hother
    cases index with
    | zero =>
      obtain rfl := Option.some.inj hother
      exact hfamily
    | succ index =>
      have := hfamilies index other hother
      rwa [Nat.add_right_comm seen 1 index] at this

namespace IsFamilies

variable {id : String} {seen : Nat} {families families' : List (List Rule)}

theorem append (h : IsFamilies id seen families)
    (h' : IsFamilies id (seen + families.length) families') :
    IsFamilies id seen (families ++ families') := by
  induction families generalizing seen with
  | nil => exact h'
  | cons family families ih =>
    obtain ⟨hfamily, hfamilies⟩ := isFamilies_cons.1 h
    refine isFamilies_cons.2 ⟨hfamily, ih hfamilies ?_⟩
    rwa [Nat.add_assoc, Nat.add_comm 1]

/-- The number of a rule is one of those that come after `seen`. -/
theorem exists_subId (h : IsFamilies id seen families) {rule : Rule}
    (hrule : rule ∈ families.flatten) :
    ∃ number, rule.subId = some number ∧ seen < number ∧ number ≤ seen + families.length := by
  obtain ⟨family, hfamily, hmem⟩ := List.mem_flatten.1 hrule
  obtain ⟨index, hindex⟩ := List.getElem?_of_mem hfamily
  obtain ⟨hlt, -⟩ := List.getElem?_eq_some_iff.1 hindex
  exact ⟨_, (h index family hindex).subId rule hmem, by omega, by omega⟩

/-- What holds in every family and of rules with increasing numbers holds of all in their order. -/
theorem pairwise (h : IsFamilies id seen families) {R : Rule → Rule → Prop}
    (within : ∀ number family, IsFamily id number family → family.Pairwise R)
    (across : ∀ rule rule' m n, rule.subId = some m → rule'.subId = some n → m < n → R rule rule') :
    families.flatten.Pairwise R := by
  induction families generalizing seen with
  | nil => exact .nil
  | cons family families ih =>
    obtain ⟨hfamily, hfamilies⟩ := isFamilies_cons.1 h
    rw [List.flatten_cons, List.pairwise_append]
    refine ⟨within _ family hfamily, ih hfamilies, fun rule hrule rule' hrule' => ?_⟩
    obtain ⟨number, hnumber, hlt, -⟩ := hfamilies.exists_subId hrule'
    exact across rule rule' _ number (hfamily.subId rule hrule) hnumber hlt

/-- The rules are in the order of their numbers. -/
theorem sorted (h : IsFamilies id seen families) :
    (families.flatten.filterMap Rule.subId).Pairwise (· ≤ ·) := by
  rw [List.pairwise_filterMap]
  refine h.pairwise (fun number family hfamily => ?_) fun rule rule' m n hm hn hlt => ?_
  · refine List.pairwise_of_forall_mem_list fun rule hrule rule' hrule' m hm n hn => ?_
    obtain rfl := Option.some.inj ((hfamily.subId rule hrule).symm.trans hm)
    obtain rfl := Option.some.inj ((hfamily.subId rule' hrule').symm.trans hn)
    exact Nat.le_refl _
  · intro m' hm' n' hn'
    obtain rfl := Option.some.inj (hm.symm.trans hm')
    obtain rfl := Option.some.inj (hn.symm.trans hn')
    exact hlt.le

/-- No number is left out. -/
theorem mem_subId_iff (h : IsFamilies id seen families) (number : Nat) :
    number ∈ families.flatten.filterMap Rule.subId ↔
      seen < number ∧ number ≤ seen + families.length := by
  rw [List.mem_filterMap]
  constructor
  · rintro ⟨rule, hrule, hnumber⟩
    obtain ⟨_, hsubId, hbounds⟩ := h.exists_subId hrule
    obtain rfl := Option.some.inj (hsubId.symm.trans hnumber)
    exact hbounds
  · rintro ⟨hlt, hle⟩
    have hindex : number - seen - 1 < families.length := by omega
    have hfamily := h _ _ (List.getElem?_eq_getElem hindex)
    obtain ⟨rule, hrule⟩ := List.exists_mem_of_ne_nil _ hfamily.ne_nil
    refine ⟨rule, List.mem_flatten.2 ⟨_, List.getElem_mem hindex, hrule⟩, ?_⟩
    rw [hfamily.subId rule hrule]
    congr 1
    omega

/-- The names to show are different. -/
theorem nodup_displayName (h : IsFamilies id seen families) :
    (families.flatten.map Rule.displayName).Nodup := by
  rw [List.Nodup, List.pairwise_map]
  refine h.pairwise (fun number family hfamily => ?_) fun rule rule' m n hm hn hlt hname => ?_
  · refine (List.pairwise_map.1 hfamily.variants).imp_of_mem fun hrule hrule' hvariant hname => ?_
    have hsame := Rule.displayName_inj (hfamily.subId _ hrule) (hfamily.subId _ hrule') hname
    exact hvariant hsame.2.2
  · exact hlt.ne (Rule.displayName_inj hm hn hname).2.1

/-- The first family are the rules with the first number. -/
theorem filter_flatten_cons {family : List Rule} (hfamily : IsFamily id (seen + 1) family)
    (hfamilies : IsFamilies id (seen + 1) families) :
    (family :: families).flatten.filter (fun rule => rule.subId == some (seen + 1)) = family := by
  rw [List.flatten_cons, List.filter_append, List.filter_eq_self.2, List.filter_eq_nil_iff.2,
    List.append_nil]
  · intro rule hrule
    obtain ⟨number, hnumber, hlt, -⟩ := hfamilies.exists_subId hrule
    rw [hnumber, beq_iff_eq, Option.some.injEq]
    exact hlt.ne'
  · intro rule hrule
    rw [hfamily.subId rule hrule, beq_self_eq_true]

/-- The numbers tell where a family ends. -/
theorem eq_of_flatten_eq (h : IsFamilies id seen families) (h' : IsFamilies id seen families')
    (hflatten : families.flatten = families'.flatten) : families = families' := by
  induction families generalizing seen families' with
  | nil =>
    cases families' with
    | nil => rfl
    | cons family' families' =>
      have hne := (isFamilies_cons.1 h').1.ne_nil
      exact absurd (List.append_eq_nil_iff.1 hflatten.symm).1 hne
  | cons family families ih =>
    obtain ⟨hfamily, hfamilies⟩ := isFamilies_cons.1 h
    cases families' with
    | nil => exact absurd (List.append_eq_nil_iff.1 hflatten).1 hfamily.ne_nil
    | cons family' families' =>
      obtain ⟨hfamily', hfamilies'⟩ := isFamilies_cons.1 h'
      obtain rfl : family = family' := by
        rw [← filter_flatten_cons hfamily hfamilies, hflatten,
          filter_flatten_cons hfamily' hfamilies']
      rw [ih hfamilies hfamilies' (List.append_cancel_left hflatten)]

end IsFamilies

end GrammarRules
