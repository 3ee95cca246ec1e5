import GrammarRules.Text.Numeral

/-!
# Quoted texts in TOML

Texts in double quotes have escapes, texts in single quotes have none.  Each kind comes on one line
and, in tripled quotes, on several; a line break right after the opening quotes does not belong to
the text, and up to two quotes may stand directly before the closing ones.  `readQuoted?` reads any
of them, `readQuotedKey?` those on one line.
-/

namespace GrammarRules.Toml

/-- Whether a character may stand in a text or a comment as it is: no control character other than a
tab. -/
def isPlain (c : Char) : Bool := c == '\t' || (c.toNat ≥ 0x20 && c.toNat ≠ 0x7F)

/-- Spaces and tabs. -/
def isSpace (c : Char) : Bool := c == ' ' || c == '\t'

/-- The rest after the spaces and tabs that come next. -/
def skipSpaces (cs : List Char) : List Char := cs.dropWhile isSpace

/-- The rest after the line break that comes next. -/
def newline? : List Char → Option (List Char)
  | '\n' :: cs => some cs
  | '\r' :: '\n' :: cs => some cs
  | _ => none

/-- The rest without a line break at its beginning. -/
def skipNewline (cs : List Char) : List Char := (newline? cs).getD cs

/-- The rest after all blanks and line breaks that come next. -/
def skipLines : Nat → List Char → List Char
  | 0, cs => cs
  | fuel + 1, cs =>
    match newline? cs with
    | some rest => skipLines fuel rest
    | none =>
      match cs with
      | c :: rest => if isSpace c then skipLines fuel rest else cs
      | [] => []

/-! ## Escapes -/

/-- The value of a hexadecimal digit. -/
def hexDigit? (c : Char) : Option Nat :=
  if Text.isDigit c then some (Text.digitValue c)
  else if 'a' ≤ c ∧ c ≤ 'f' then some (c.toNat - 87)
  else if 'A' ≤ c ∧ c ≤ 'F' then some (c.toNat - 55)
  else none

/-- A character given by a number of hexadecimal digits. -/
def readCodePoint? (count : Nat) (cs : List Char) : Option (Char × List Char) := do
  let digits ← (cs.take count).mapM hexDigit?
  let code := digits.foldl (fun n d => 16 * n + d) 0
  if digits.length = count ∧ code.isValidChar then some (Char.ofNat code, cs.drop count)
  else none

/-- The character of an escape, after the backslash. -/
def readEscape? : List Char → Option (Char × List Char)
  | 'b' :: cs => some ('\x08', cs)
  | 't' :: cs => some ('\t', cs)
  | 'n' :: cs => some ('\n', cs)
  | 'f' :: cs => some ('\x0c', cs)
  | 'r' :: cs => some ('\r', cs)
  | '"' :: cs => some ('"', cs)
  | '\\' :: cs => some ('\\', cs)
  | 'u' :: cs => readCodePoint? 4 cs
  | 'U' :: cs => readCodePoint? 8 cs
  | _ => none

/-- The rest after a line break that is escaped together with the blanks around it, after the
backslash. -/
def escapedNewline? (cs : List Char) : Option (List Char) :=
  (newline? (skipSpaces cs)).map fun rest => skipLines rest.length rest

/-! ## Texts -/

/-- A text with escapes on one line, after its opening quote. -/
def readLine? : Nat → List Char → Option (List Char × List Char)
  | 0, _ => none
  | _, [] => none
  | fuel + 1, c :: cs =>
    if c = '"' then some ([], cs)
    else do
      let (c, cs) ← if c = '\\' then readEscape? cs else if isPlain c then some (c, cs) else none
      let (text, rest) ← readLine? fuel cs
      return (c :: text, rest)

/-- A text without escapes on one line, after its opening quote. -/
def readLiteralLine? : List Char → Option (List Char × List Char)
  | [] => none
  | c :: cs =>
    if c = '\x27' then some ([], cs)
    else if isPlain c then (readLiteralLine? cs).map fun (text, rest) => (c :: text, rest)
    else none

/-- The quotes of a text directly before its closing quotes, where `cs` follows three quotes. -/
def readClosing (quote : Char) (cs : List Char) : List Char × List Char :=
  let extra := ((cs.take 2).takeWhile (· = quote)).length
  (cs.take extra, cs.drop extra)

/-- A text on several lines, after its opening quotes. -/
def readLines? (quote : Char) (escapes : Bool) : Nat → List Char → Option (List Char × List Char)
  | 0, _ => none
  | fuel + 1, cs =>
    if cs.take 3 = [quote, quote, quote] then some (readClosing quote (cs.drop 3))
    else
      match newline? cs with
      | some after => (readLines? quote escapes fuel after).map fun (text, rest) =>
          ('\n' :: text, rest)
      | none =>
        match cs with
        | [] => none
        | c :: cs =>
          if escapes && c == '\\' then
            match escapedNewline? cs with
            | some after => readLines? quote escapes fuel after
            | none => do
              let (c, after) ← readEscape? cs
              let (text, rest) ← readLines? quote escapes fuel after
              return (c :: text, rest)
          else if isPlain c then
            (readLines? quote escapes fuel cs).map fun (text, rest) => (c :: text, rest)
          else none

/-- A text in quotes of any kind. -/
def readQuoted? (cs : List Char) : Option (List Char × List Char) :=
  match cs with
  | '"' :: '"' :: '"' :: rest => readLines? '"' true cs.length (skipNewline rest)
  | '\x27' :: '\x27' :: '\x27' :: rest => readLines? '\x27' false cs.length (skipNewline rest)
  | '"' :: rest => readLine? cs.length rest
  | '\x27' :: rest => readLiteralLine? rest
  | _ => none

/-- A key in quotes. -/
def readQuotedKey? (cs : List Char) : Option (List Char × List Char) :=
  match cs with
  | '"' :: rest => readLine? cs.length rest
  | '\x27' :: rest => readLiteralLine? rest
  | _ => none

end GrammarRules.Toml
