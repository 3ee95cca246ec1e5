import GrammarRules.Toml.Quoted
import GrammarRules.Toml.Value

/-!
# Numbers and dates in TOML

Low lines may stand between digits.  Integers have 64 bits.  A value that begins like a date or a
time must be one, so `readNumeric?` looks for those first, then for floating-point numbers and last
for integers.
-/

namespace GrammarRules.Toml

/-! ## Digits -/

/-- Digits and single low lines between them, without the low lines. -/
def digitRun (isDigit : Char → Bool) : List Char → List Char × List Char
  | [] => ([], [])
  | c :: cs =>
    if isDigit c then
      let (digits, rest) := digitRun isDigit cs
      (c :: digits, rest)
    else if c = '_' ∧ cs.head?.any isDigit then digitRun isDigit cs
    else ([], c :: cs)

/-- Digits that begin with one. -/
def digitRun? (isDigit : Char → Bool) (cs : List Char) : Option (List Char × List Char) :=
  if cs.head?.any isDigit then some (digitRun isDigit cs) else none

/-- A sign, where none stands for plus. -/
def readSign : List Char → Bool × List Char
  | '+' :: cs => (false, cs)
  | '-' :: cs => (true, cs)
  | cs => (false, cs)

/-- A decimal number without needless zeros, and whether it is negative. -/
def readDecimal? (cs : List Char) : Option (Bool × List Char × List Char) :=
  let (negative, cs) := readSign cs
  match cs with
  | '0' :: rest => some (negative, ['0'], rest)
  | _ => (digitRun? Text.isDigit cs).map fun (digits, rest) => (negative, digits, rest)

/-! ## Integers -/

/-- The integer if it has 64 bits. -/
def boundedInteger? (n : Int) : Option TomlValue :=
  if -9223372036854775808 ≤ n ∧ n ≤ 9223372036854775807 then some (.integer n) else none

/-- The digit in a number system with this base. -/
def digitIn? (base : Nat) (c : Char) : Option Nat := (hexDigit? c).filter (· < base)

/-- An integer in a number system with this base, after the letter that names the system. -/
def readInBase? (base : Nat) (cs : List Char) : Option (TomlValue × List Char) := do
  let (digits, rest) ← digitRun? (fun c => (digitIn? base c).isSome) cs
  let value := (digits.filterMap (digitIn? base)).foldl (fun n d => base * n + d) 0
  return (← boundedInteger? value, rest)

/-- An integer. -/
def readInteger? (cs : List Char) : Option (TomlValue × List Char) :=
  match cs with
  | '0' :: 'x' :: rest => readInBase? 16 rest
  | '0' :: 'o' :: rest => readInBase? 8 rest
  | '0' :: 'b' :: rest => readInBase? 2 rest
  | _ => do
    let (negative, digits, rest) ← readDecimal? cs
    let value : Int := Text.valueOf digits
    return (← boundedInteger? (if negative then -value else value), rest)

/-! ## Floating-point numbers -/

/-- Whether `digits` times ten to the power of `scale` is rounded to a finite number: whether it is
less than the middle between the greatest number of 64 bits and the next power of two. -/
def isFinite (digits : List Char) (scale : Int) : Bool :=
  let significant := digits.dropWhile (· = '0')
  let magnitude := significant.length + scale
  if significant.isEmpty ∨ magnitude < 309 then true
  else if magnitude > 309 then false
  else
    let value := Text.valueOf significant
    let bound := Nat.pow 2 1024 - Nat.pow 2 970
    if scale ≥ 0 then value * Nat.pow 10 scale.toNat < bound
    else value < bound * Nat.pow 10 (-scale).toNat

/-- The part after the point, with its point. -/
def readFraction? : List Char → Option (List Char × List Char)
  | '.' :: cs => digitRun? Text.isDigit cs
  | _ => none

/-- An exponent, with its letter. -/
def readExponent? : List Char → Option (Int × List Char)
  | c :: cs =>
    if c = 'e' ∨ c = 'E' then
      let (negative, cs) := readSign cs
      (digitRun? Text.isDigit cs).map fun (digits, rest) =>
        let value : Int := Text.valueOf digits
        (if negative then -value else value, rest)
    else none
  | [] => none

/-- Infinity or not a number. -/
def readSpecial? (cs : List Char) : Option (TomlValue × List Char) :=
  let cs := (readSign cs).2
  if ['i', 'n', 'f'].isPrefixOf cs ∨ ['n', 'a', 'n'].isPrefixOf cs then some (.float, cs.drop 3)
  else none

/-- A number with a fraction, an exponent or both.  Too great a number is a fault. -/
def readFloat? (cs : List Char) : Option (TomlValue × List Char) := do
  let (negative, digits, rest) ← readDecimal? cs
  let fraction := readFraction? rest
  let after := (fraction.map Prod.snd).getD rest
  let exponent := readExponent? after
  let places := (fraction.map fun part => part.1).getD []
  let scale := (exponent.map Prod.fst).getD 0 - places.length
  if (fraction.isNone && exponent.isNone) || !(negative || isFinite (digits ++ places) scale) then
    none
  else some (.float, (exponent.map Prod.snd).getD after)

/-! ## Dates and times -/

/-- A number of so many digits from `low` to `high`. -/
def readField? (count low high : Nat) (cs : List Char) : Option (Nat × List Char) := do
  let digits := cs.take count
  let value ← Text.digits? digits
  if digits.length = count ∧ low ≤ value ∧ value ≤ high then some (value, cs.drop count) else none

/-- The rest after a mark. -/
def readMark? (mark : Char) : List Char → Option (List Char)
  | c :: cs => if c = mark then some cs else none
  | [] => none

/-- The days of a month. -/
def daysIn (year month : Nat) : Nat :=
  if month = 2 then
    if year % 4 = 0 ∧ (year % 100 ≠ 0 ∨ year % 400 = 0) then 29 else 28
  else if [4, 6, 9, 11].contains month then 30
  else 31

/-- The rest after a date. -/
def readDate? (cs : List Char) : Option (List Char) := do
  let (year, cs) ← readField? 4 0 9999 cs
  let (month, cs) ← readField? 2 1 12 (← readMark? '-' cs)
  let (_, cs) ← readField? 2 1 (daysIn year month) (← readMark? '-' cs)
  return cs

/-- The rest after a time of day. -/
def readTime? (cs : List Char) : Option (List Char) := do
  let (_, cs) ← readField? 2 0 23 cs
  let (_, cs) ← readField? 2 0 59 (← readMark? ':' cs)
  let (_, cs) ← readField? 2 0 60 (← readMark? ':' cs)
  match cs with
  | '.' :: c :: rest =>
    if Text.isDigit c then return rest.dropWhile Text.isDigit else return cs
  | _ => return cs

/-- The rest after a difference to universal time, which may be missing. -/
def readOffset? (cs : List Char) : Option (List Char) :=
  match cs with
  | [] => some []
  | c :: rest =>
    if c = 'Z' ∨ c = 'z' then some rest
    else if c = '+' ∨ c = '-' then do
      let (_, cs) ← readField? 2 0 23 rest
      let (_, cs) ← readField? 2 0 59 (← readMark? ':' cs)
      return cs
    else some cs

/-- A date, a time or both. -/
def readDatetime? (cs : List Char) : Option (TomlValue × List Char) :=
  match readDate? cs with
  | some after =>
    let time :=
      match after with
      | c :: rest => if ['T', 't', ' '].contains c then readTime? rest else none
      | [] => none
    match time with
    | some after => (readOffset? after).map fun rest => (.datetime, rest)
    | none => some (.datetime, after)
  | none => (readTime? cs).map fun rest => (.datetime, rest)

/-- A value that begins with a digit or a sign, or a number with a name. -/
def readNumeric? (cs : List Char) : Option (TomlValue × List Char) :=
  readDatetime? cs <|> readFloat? cs <|> readSpecial? cs <|> readInteger? cs

end GrammarRules.Toml
