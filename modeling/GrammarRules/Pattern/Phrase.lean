import GrammarRules.Rule.Basic
import GrammarRules.Rule.Error

/-!
# Phrases in the making

A phrase has alternatives.  Those it takes over from other phrases come first, in the order in which
they were included; the tokens written in the phrase itself are one more alternative at the end.
Every element of a finished phrase carries the name of the phrase.
-/

namespace GrammarRules

/-- A phrase whose tag is open. -/
structure PhraseDraft where
  id : String
  included : Alternatives := []
  /-- The tokens written in the phrase itself. -/
  written : List Element := []
deriving Inhabited

namespace PhraseDraft

/-- How many tokens have been written in the phrase. -/
def completed (draft : PhraseDraft) : Nat := draft.written.length

/-- Add a token. -/
def push (draft : PhraseDraft) (element : Element) : PhraseDraft :=
  { draft with written := draft.written ++ [element] }

/-- Take over the alternatives of another phrase. -/
def includeAll (draft : PhraseDraft) (alternatives : Alternatives) : PhraseDraft :=
  { draft with included := draft.included ++ alternatives }

/-- The alternatives that have a token, each element with the name of the phrase. -/
def alternatives (draft : PhraseDraft) : Alternatives :=
  ((draft.included ++ [draft.written]).filter fun elements => !elements.isEmpty).map
    (·.map fun element => { element with phrase := some draft.id })

/-- The phrase that a closed tag amounts to. -/
def finish (draft : PhraseDraft) (position : Position) : Except RuleError Alternatives :=
  if draft.alternatives.isEmpty then fail (.emptyPhrase draft.id) position
  else .ok draft.alternatives

end PhraseDraft

end GrammarRules
