/-!
# Decimal numerals

Numbers in attributes are written with ASCII digits.  `natural?` reads an unsigned numeral,
`integer?` one with an optional sign; both take the bounds of the result and refuse a numeral
beyond them, so no number is ever cut down to an accepted one.
-/

namespace GrammarRules.Text

/-- The ten ASCII digits. -/
def isDigit (c : Char) : Bool := '0' ≤ c && c ≤ '9'

/-- What an ASCII digit stands for. -/
def digitValue (c : Char) : Nat := c.toNat - '0'.toNat

/-- The number that a list of digits denotes, most significant first. -/
def valueOf (digits : List Char) : Nat := digits.foldl (fun n c => 10 * n + digitValue c) 0

/-- The number denoted by a non-empty list of digits. -/
def digits? (cs : List Char) : Option Nat :=
  if cs.isEmpty || !cs.all isDigit then none else some (valueOf cs)

/-- A non-empty run of digits that denotes a number up to `bound`. -/
def natural? (bound : Nat) (cs : List Char) : Option Nat := (digits? cs).filter (· ≤ bound)

/-- An optional sign and a non-empty run of digits. -/
def signed? : List Char → Option Int
  | '-' :: cs => (digits? cs).map fun n => -(n : Int)
  | '+' :: cs => (digits? cs).map fun n => (n : Int)
  | cs => (digits? cs).map fun n => (n : Int)

/-- A signed numeral that denotes a number from `low` to `high`. -/
def integer? (low high : Int) (cs : List Char) : Option Int :=
  (signed? cs).filter fun n => low ≤ n && n ≤ high

/-- A numeral of a 32-bit signed integer. -/
def int32? (cs : List Char) : Option Int := integer? (-2147483648) 2147483647 cs

/-- A numeral of a 64-bit signed integer. -/
def int64? (cs : List Char) : Option Int :=
  integer? (-9223372036854775808) 9223372036854775807 cs

/-- The greatest 32-bit unsigned integer. -/
def natMax32 : Nat := 4294967295

/-- The text with its ASCII capitals made small. -/
def lowerAscii (s : String) : String := String.ofList (s.toList.map Char.toLower)

end GrammarRules.Text
