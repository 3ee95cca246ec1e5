import GrammarRules.Rule.Attribute

/-!
# Marker ranges

A pattern may ask for a part of its tokens to be marked, counting from both of its ends.
`parseMarker` reads the two attributes and sees to their signs; `checkMarker` compares them with the
number of tokens once that is known.
-/

namespace GrammarRules

/-- The marker range that the attributes of a pattern ask for. -/
def parseMarker (attributes : Attributes) (position : Position) :
    Except RuleError MarkerRange := do
  let fromStart ← attributes.int32 "pattern" "mark_from" position
  let fromEnd ← attributes.int32 "pattern" "mark_to" position
  if fromStart < 0 then
    fail (.invalidAttribute "pattern" "mark_from" (toString fromStart)) position
  else if fromEnd > 0 then
    fail (.invalidAttribute "pattern" "mark_to" (toString fromEnd)) position
  else return { fromStart, fromEnd }

/-- Refuse a range that leaves a pattern of `tokenCount` slots and `surplus` further tokens. -/
def checkMarker (tokenCount surplus : Nat) (marker : MarkerRange) (position : Position) :
    Except RuleError Unit :=
  let total : Int := (tokenCount : Int) + surplus
  if marker.fromStart ≥ total then
    fail (.positionOutOfRange .start marker.fromStart tokenCount) position
  else if total + marker.fromEnd < 0 then
    fail (.positionOutOfRange .stop marker.fromEnd tokenCount) position
  else .ok ()

end GrammarRules
