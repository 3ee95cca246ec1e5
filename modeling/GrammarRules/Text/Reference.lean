import GrammarRules.Text.Digit
import GrammarRules.Text.Numeral

/-!
# References written into a text

A backslash with a run of decimal digits after it is a reference.  `readReferences` reads a text as
a sequence of characters and references, where a reference takes as many digits as there are;
`writeReferences` puts the sequence back together.  `renumberReference` reads, gives one number a
new value wherever it is referred to, and writes.
-/

namespace GrammarRules.Text

/-- A piece of a text: a character of its own, or the digits of a reference. -/
inductive ReferencePiece where
  | char (c : Char)
  | reference (digits : List Char)
deriving DecidableEq, Inhabited

/-- The piece as it is written. -/
def ReferencePiece.chars : ReferencePiece → List Char
  | .char c => [c]
  | .reference digits => '\\' :: digits

/-- The digits that a text begins with. -/
def leadingDecimals (cs : List Char) : List Char := cs.takeWhile isDecimal

/-- Read a text with `skip` characters at its head passed over. -/
def readReferencesAfter (skip : Nat) : List Char → List ReferencePiece
  | [] => []
  | c :: cs =>
    match skip with
    | skip + 1 => readReferencesAfter skip cs
    | 0 =>
      let digits := leadingDecimals cs
      if c = '\\' ∧ digits ≠ [] then
        .reference digits :: readReferencesAfter digits.length cs
      else .char c :: readReferencesAfter 0 cs

/-- The pieces of a text. -/
def readReferences (cs : List Char) : List ReferencePiece := readReferencesAfter 0 cs

/-- The text of a sequence of pieces. -/
def writeReferences (pieces : List ReferencePiece) : List Char :=
  pieces.flatMap ReferencePiece.chars

/-- The digits of a number. -/
def numeral (n : Nat) : List Char := n.repr.toList

/-- Give a reference to `old` the number `new`.  Digits that denote no 32-bit number denote no
token. -/
def ReferencePiece.rename (old new : Nat) : ReferencePiece → ReferencePiece
  | .reference digits =>
    .reference (if natural? natMax32 digits = some old then numeral new else digits)
  | piece => piece

/-- Replace `\old` by `\new` wherever it stands, but not as the beginning of a longer number. -/
def renumberReference (text : String) (old new : Nat) : String :=
  String.ofList (writeReferences ((readReferences text.toList).map (·.rename old new)))

end GrammarRules.Text
