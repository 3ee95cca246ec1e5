/-!
# The elements of a rule file

A `Tag` is an element that the compiler interprets.  `Tag.parents` is the grammar: the elements in
which a tag may stand.  Only `rules` has no parent and stands at the root of the document.
-/

namespace GrammarRules

/-- An element that has a meaning in a rule file. -/
inductive Tag where
  | rules
  | category
  | phrases
  | phrase
  | includePhrases
  | phraseRef
  | unification
  | equivalence
  | ruleGroup
  | rule
  | pattern
  | andGroup
  | unify
  | feature
  | featureType
  | token
  | exception
  | quote
  | message
  | short
  | suggestion
  | sample
  | marker
deriving DecidableEq, Inhabited

namespace Tag

/-- The name of the element. -/
def name : Tag → String
  | rules => "rules"
  | category => "category"
  | phrases => "phrases"
  | phrase => "phrase"
  | includePhrases => "includephrases"
  | phraseRef => "phraseref"
  | unification => "unification"
  | equivalence => "equivalence"
  | ruleGroup => "rulegroup"
  | rule => "rule"
  | pattern => "pattern"
  | andGroup => "and"
  | unify => "unify"
  | feature => "feature"
  | featureType => "type"
  | token => "token"
  | exception => "exception"
  | quote => "match"
  | message => "message"
  | short => "short"
  | suggestion => "suggestion"
  | sample => "example"
  | marker => "marker"

/-- All tags. -/
def all : List Tag :=
  [rules, category, phrases, phrase, includePhrases, phraseRef, unification, equivalence, ruleGroup,
   rule, pattern, andGroup, unify, feature, featureType, token, exception, quote, message, short,
   suggestion, sample, marker]

/-- The tag of an element with this name, if the compiler interprets it. -/
def ofName? (name : String) : Option Tag := all.find? (·.name == name)

/-- The elements in which a tag may stand; none for the root of the document. -/
def parents : Tag → List Tag
  | rules => []
  | category | phrases | unification => [rules]
  | phrase => [phrases]
  | includePhrases => [phrase]
  | phraseRef => [includePhrases, pattern]
  | equivalence => [unification]
  | ruleGroup => [rules, category]
  | rule => [rules, category, ruleGroup]
  | pattern | message | short | sample => [rule]
  | andGroup => [pattern, unify]
  | unify => [pattern]
  | feature => [unify]
  | featureType => [feature]
  | token => [pattern, andGroup, unify, phrase, equivalence]
  | exception => [token]
  | quote => [token, message, suggestion]
  | suggestion => [message]
  | marker => [sample]

/-- Whether a tag may stand in `parent`, where none is the root of the document. -/
def mayStandIn (tag : Tag) : Option Tag → Bool
  | none => tag.parents.isEmpty
  | some parent => tag.parents.contains parent

theorem mem_all (tag : Tag) : tag ∈ all := by cases tag <;> decide

theorem ofName?_name (tag : Tag) : ofName? tag.name = some tag := by cases tag <;> decide

theorem name_of_ofName? {name : String} {tag : Tag} (h : ofName? name = some tag) :
    tag.name = name := by
  simpa using List.find?_some h

theorem ofName?_eq_none_iff {name : String} :
    ofName? name = none ↔ ∀ tag : Tag, tag.name ≠ name := by
  simp [ofName?, mem_all]

end Tag

end GrammarRules
