import GrammarRules.Markup.Event

/-!
# Properly nested events

`Nested` is the grammar of events: text, and elements whose end tag has the name of their start tag
and whose content is nested again.  `openAfter` is how a machine sees to the same thing: it keeps
the names of the elements that are open.  The two agree (`nested_iff`).  `childCount` counts the
elements of a name that stand directly among nested events (`Nested.childCount_element`).
-/

namespace GrammarRules

/-- Every end tag closes the innermost open element and has its name, and every element is
closed. -/
inductive Nested : List Event → Prop
  | nil : Nested []
  | text (text : String) (position : Position) {rest : List Event} (hrest : Nested rest) :
      Nested (.text text position :: rest)
  | element (name : String) (attributes : Attributes) (opened closed : Position)
      {content rest : List Event} (hcontent : Nested content) (hrest : Nested rest) :
      Nested (.start name attributes opened :: content ++ .stop name closed :: rest)

/-- The names of the elements that are open after the events, innermost first, where `names` are
those that are open before; none if an end tag does not close the innermost element. -/
def openAfter : List String → List Event → Option (List String)
  | names, [] => some names
  | names, .start name _ _ :: events => openAfter (name :: names) events
  | names, .text _ _ :: events => openAfter names events
  | [], .stop _ _ :: _ => none
  | innermost :: names, .stop name _ :: events =>
    if innermost = name then openAfter names events else none

/-- Nested events leave the same elements open. -/
theorem Nested.openAfter_append {events : List Event} (h : Nested events) (names : List String)
    (after : List Event) : openAfter names (events ++ after) = openAfter names after := by
  induction h generalizing names after with
  | nil => rfl
  | text text position hrest ih => exact ih names after
  | element name attributes opened closed hcontent hrest ihcontent ihrest =>
    rw [List.append_assoc, List.cons_append, openAfter, ihcontent, List.cons_append, openAfter,
      if_pos rfl, ihrest]

/-- The events close the elements with these names, innermost first; what stands between the end
tags and after them is nested. -/
def Unwinds : List String → List Event → Prop
  | [], events => Nested events
  | name :: names, events => ∃ content closed rest, events = content ++ .stop name closed :: rest ∧
      Nested content ∧ Unwinds names rest

/-- What may stand before nested events may stand before events that close elements. -/
theorem Unwinds.prepend {names : List String} {events : List Event} (h : Unwinds names events)
    (before : List Event) (hbefore : ∀ rest, Nested rest → Nested (before ++ rest)) :
    Unwinds names (before ++ events) := by
  cases names with
  | nil => exact hbefore events h
  | cons name names =>
    obtain ⟨content, closed, rest, rfl, hcontent, hrest⟩ := h
    exact ⟨before ++ content, closed, rest, (List.append_assoc _ _ _).symm,
      hbefore content hcontent, hrest⟩

theorem unwinds_of_openAfter {names : List String} {events : List Event}
    (h : openAfter names events = some []) : Unwinds names events := by
  induction events generalizing names with
  | nil =>
    obtain rfl := Option.some.inj h
    exact .nil
  | cons event events ih =>
    cases event with
    | start name attributes opened =>
      obtain ⟨content, closed, rest, rfl, hcontent, hrest⟩ := ih h
      have hunwinds := hrest.prepend
        (.start name attributes opened :: content ++ [.stop name closed])
        fun rest hnested => by
          rw [List.append_assoc]
          exact .element name attributes opened closed hcontent hnested
      rwa [List.append_assoc] at hunwinds
    | text text position => exact (ih h).prepend [.text text position] fun _ => .text text position
    | stop name closed =>
      cases names with
      | nil => cases h
      | cons innermost names =>
        rw [openAfter] at h
        split at h
        · next hname =>
          subst hname
          exact ⟨[], closed, events, rfl, .nil, ih h⟩
        · cases h

theorem nested_iff {events : List Event} : Nested events ↔ openAfter [] events = some [] := by
  refine ⟨fun h => ?_, unwinds_of_openAfter⟩
  have hopen := h.openAfter_append [] []
  rwa [List.append_nil] at hopen

/-- What remains of nested events after nested events is nested. -/
theorem Nested.of_append {before after : List Event} (hbefore : Nested before)
    (h : Nested (before ++ after)) : Nested after := by
  rw [nested_iff, hbefore.openAfter_append] at h
  exact nested_iff.2 h

/-! ## Elements among nested events -/

/-- How many elements with this name stand directly among the events, inside of `depth` elements
that have been opened. -/
def childCount (name : String) : Nat → List Event → Nat
  | _, [] => 0
  | depth, .start other _ _ :: events =>
    (if depth = 0 ∧ other = name then 1 else 0) + childCount name (depth + 1) events
  | depth, .text _ _ :: events => childCount name depth events
  | depth, .stop _ _ :: events => childCount name (depth - 1) events

section Count

variable {content : List Event} (name : String)

theorem Nested.childCount_append (h : Nested content) (depth : Nat) (after : List Event) :
    childCount name depth (content ++ after) =
      childCount name depth content + childCount name depth after := by
  induction h generalizing depth after with
  | nil => exact (Nat.zero_add _).symm
  | text text position hrest ih => exact ih depth after
  | element other attributes opened closed hcontent hrest ihcontent ihrest =>
    rw [List.append_assoc, List.cons_append, List.cons_append, List.cons_append, childCount,
      childCount, ihcontent, ihcontent, childCount, childCount, Nat.add_sub_cancel, ihrest]
    omega

/-- Nothing in an element stands directly among the events around it. -/
theorem Nested.childCount_succ (h : Nested content) (depth : Nat) :
    childCount name (depth + 1) content = 0 := by
  induction h generalizing depth with
  | nil => rfl
  | text text position hrest ih => exact ih depth
  | element other attributes opened closed hcontent hrest ihcontent ihrest =>
    rw [List.cons_append, childCount, hcontent.childCount_append, ihcontent, childCount,
      Nat.add_sub_cancel, ihrest, if_neg fun h => Nat.succ_ne_zero depth h.1]

theorem Nested.childCount_element (h : Nested content) (other : String) (attributes : Attributes)
    (opened closed : Position) (rest : List Event) :
    childCount name 0 (.start other attributes opened :: content ++ .stop other closed :: rest) =
      (if other = name then 1 else 0) + childCount name 0 rest := by
  rw [List.cons_append, childCount, h.childCount_append, h.childCount_succ, childCount]
  simp

end Count

end GrammarRules
