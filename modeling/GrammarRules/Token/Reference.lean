import GrammarRules.Rule.Attribute

/-!
# Matches

A `match` tag quotes a token by its number.  In a token it may only quote a token that is complete,
in a message any.  `resolveMatch` reads its attributes; of several faults the first in this order
counts: no number, a bad number, a number ahead, a bad case conversion, a bad choice of skipped
tokens.
-/

namespace GrammarRules

/-- The case conversion with this name, in small or capital letters. -/
def CaseConversion.ofName? (name : String) : Option CaseConversion :=
  match Text.lowerAscii name with
  | "none" => some .keep
  | "startlower" => some .startLower
  | "startupper" => some .startUpper
  | "alllower" => some .allLower
  | "allupper" => some .allUpper
  | _ => none

/-- The choice of skipped tokens with this name, in small or capital letters. -/
def SkippedTokens.ofName? (name : String) : Option SkippedTokens :=
  match Text.lowerAscii name with
  | "none" => some .omitted
  | "following" => some .following
  | "all" => some .all
  | _ => none

/-- Where a match stands. -/
inductive MatchPlace where
  /-- In a message; what is in a suggestion shapes the suggestion. -/
  | message (inSuggestion : Bool)
  /-- In a token with `completed` tokens before it. -/
  | token (completed : Nat)
deriving DecidableEq, Inhabited

/-- The number of the quoted token: at least one and at most 32 bits. -/
def referenceNumber (attributes : Attributes) (position : Position) : Except RuleError Nat :=
  match (attributes.find? "no").map Text.trim with
  | none => fail .emptyReference position
  | some value =>
    if value == "" then fail .emptyReference position
    else
      match Text.int64? value.toList with
      | some n =>
        if 1 ≤ n ∧ n ≤ Text.natMax32 then .ok n.toNat
        else fail (.invalidReference value) position
      | none => fail (.invalidReference value) position

/-- Read an attribute whose value has to be one of a few names. -/
def choice {α : Type} (attributes : Attributes) (name : String) (missing : α)
    (ofName? : String → Option α) (position : Position) : Except RuleError α :=
  match attributes.find? name with
  | none => .ok missing
  | some value =>
    match ofName? value with
    | some result => .ok result
    | none => fail (.invalidAttribute "match" name value) position

/-- Refuse a token that quotes itself or a token after it. -/
def MatchPlace.check (place : MatchPlace) (number : Nat) (position : Position) :
    Except RuleError Unit :=
  match place with
  | .token completed =>
    if number > completed then fail (.forwardReference number completed) position else .ok ()
  | .message _ => .ok ()

/-- The match with the given attributes at the given place. -/
def resolveMatch (attributes : Attributes) (place : MatchPlace) (position : Position) :
    Except RuleError Match := do
  let number ← referenceNumber attributes position
  place.check number position
  let caseConversion ←
    choice attributes "case_conversion" .keep CaseConversion.ofName? position
  let includeSkipped ←
    choice attributes "include_skipped" .omitted SkippedTokens.ofName? position
  return {
    tokenRef := some number
    posTag := attributes.find? "postag"
    posReplace := attributes.find? "postag_replace"
    posRegexp := attributes.isYes "postag_regexp"
    regexMatch := attributes.find? "regexp_match"
    regexReplace := attributes.find? "regexp_replace"
    caseConversion
    includeSkipped
    setPos := attributes.isYes "setpos"
    messageOnly := place != .message true }

end GrammarRules
