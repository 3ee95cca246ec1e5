import GrammarRules.Proofs.Markup.Nesting

/-!
# The content of an element as a tree

Nested events are the events of a `Content`, which has the text and the elements that stand directly
in an element, in order, and in each element its content again (`nested_iff_exists_events`).  So
what an element means can be said by recursion over its content, and an end tag need not be looked
for.
-/

namespace GrammarRules

/-- What stands in an element, from its start tag to its end tag. -/
inductive Content where
  | empty
  | text (data : String) (position : Position) (rest : Content)
  | element (name : String) (attributes : Attributes) (opened : Position) (inner : Content)
      (closed : Position) (rest : Content)

namespace Content

/-- The events of the content, in order. -/
def events : Content → List Event
  | empty => []
  | text data position rest => .text data position :: rest.events
  | element name attributes opened inner closed rest =>
    .start name attributes opened :: inner.events ++ .stop name closed :: rest.events

theorem nested_events (content : Content) : Nested content.events := by
  induction content with
  | empty => exact .nil
  | text data position rest ih => exact .text data position ih
  | element name attributes opened inner closed rest ihinner ihrest =>
    exact .element name attributes opened closed ihinner ihrest

/-- The text that stands directly in the element. -/
def ownText : Content → String
  | empty => ""
  | text data _ rest => data ++ rest.ownText
  | element _ _ _ _ _ rest => rest.ownText

end Content

/-- The nested events are the events of contents. -/
theorem nested_iff_exists_events {events : List Event} :
    Nested events ↔ ∃ content : Content, content.events = events := by
  constructor
  · intro h
    induction h with
    | nil => exact ⟨.empty, rfl⟩
    | text text position hrest ih =>
      obtain ⟨rest, rfl⟩ := ih
      exact ⟨.text text position rest, rfl⟩
    | element name attributes opened closed hcontent hrest ihcontent ihrest =>
      obtain ⟨inner, rfl⟩ := ihcontent
      obtain ⟨rest, rfl⟩ := ihrest
      exact ⟨.element name attributes opened inner closed rest, rfl⟩
  · rintro ⟨content, rfl⟩
    exact content.nested_events

end GrammarRules
