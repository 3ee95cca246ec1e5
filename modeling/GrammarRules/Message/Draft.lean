import GrammarRules.Rule.Basic
import GrammarRules.Text.Blank
import GrammarRules.Text.Reference

/-!
# Messages and their placeholders

A message is a sequence of literal texts and references, one reference for each match.  In the
finished text a backslash before a digit is a placeholder, whether it came from a reference or was
written by hand.  `resolveMessage` lines up the placeholders with the declared matches: a reference
takes the next declared match, and a placeholder written by hand gets an anonymous one.
-/

namespace GrammarRules

/-- A part of a message. -/
inductive Segment where
  | text (text : String)
  | reference (number : Nat)
deriving DecidableEq, Inhabited

/-- The part as it stands in the finished text, before blanks are put in order. -/
def Segment.chars : Segment → List Char
  | .text literal => literal.toList
  | .reference number => '\\' :: Text.numeral number

/-! ## Collecting a message -/

/-- A message in the making; its parts are kept last first. -/
structure MessageDraft where
  reversed : List Segment := []
deriving DecidableEq, Inhabited

namespace MessageDraft

/-- The parts in the order of the text. -/
def segments (draft : MessageDraft) : List Segment := draft.reversed.reverse

/-- Add text.  It becomes one part with the text it follows on. -/
def addText (draft : MessageDraft) (text : String) : MessageDraft :=
  match draft.reversed with
  | .text last :: before => ⟨.text (last ++ text) :: before⟩
  | parts => ⟨.text text :: parts⟩

/-- Add a reference. -/
def addReference (draft : MessageDraft) (number : Nat) : MessageDraft :=
  ⟨.reference number :: draft.reversed⟩

/-- The number of the reference that the message ends with, if it ends with one. -/
def trailingReference? (draft : MessageDraft) : Option Nat :=
  match draft.reversed with
  | .reference number :: _ => some number
  | _ => none

/-- Whether there is no part. -/
def isEmpty (draft : MessageDraft) : Bool := draft.reversed.isEmpty

end MessageDraft

/-! ## Placeholders -/

/-- Whether a text begins with an ASCII digit. -/
def startsWithDigit (cs : List Char) : Bool := cs.head?.any Text.isDigit

/-- How many backslashes of a text have an ASCII digit right after them. -/
def placeholderCount : List Char → Nat
  | [] => 0
  | c :: cs => (if c == '\\' && startsWithDigit cs then 1 else 0) + placeholderCount cs

/-- The matches of a message in the order of the text, where `declared` are the matches that the
references have not used yet. -/
def alignMatches : List Segment → List Match → List Match
  | [], _ => []
  | .text text :: rest, declared =>
    List.replicate (placeholderCount text.toList) Match.anonymous ++ alignMatches rest declared
  | .reference _ :: rest, next :: declared => next :: alignMatches rest declared
  | .reference _ :: rest, [] => alignMatches rest []

/-- A finished message text and the matches of its placeholders. -/
structure ResolvedMessage where
  text : String
  placeholders : List Match
deriving DecidableEq, Inhabited

/-- Finish a message.  If there is no placeholder in it, all the declared matches are kept. -/
def resolveMessage (segments : List Segment) (declared : List Match) : ResolvedMessage :=
  let aligned := alignMatches segments declared
  { text := Text.collapse (String.ofList (segments.flatMap Segment.chars))
    placeholders := if aligned.isEmpty then declared else aligned }

end GrammarRules
