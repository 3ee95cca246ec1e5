import GrammarRules.Output.Datum
import GrammarRules.Text.Printable

/-!
# RON

`Ron.write` writes a datum in the object notation RON: records in parentheses with bare field
names, maps in braces, names without quotes, and `Some(…)` around optional values.  The pretty
layout puts every item on a line of its own, four spaces further in, with a comma after the last.
-/

namespace GrammarRules.Ron

/-- The digits of a number in base sixteen, in small letters. -/
def hexadecimal (n : Nat) : List Char := Nat.toDigits 16 n

/-- A character of a text.  Both kinds of quotes, backslashes and characters that do not show are
escaped. -/
def escape (c : Char) : List Char :=
  if c.toNat = 0 then ['\\', '0']
  else if c = '\t' then ['\\', 't']
  else if c = '\r' then ['\\', 'r']
  else if c = '\n' then ['\\', 'n']
  else if c = '\\' ∨ c = '"' ∨ c = '\x27' then ['\\', c]
  else if Text.isPrintable c then [c]
  else ['\\', 'u', '\x7b'] ++ hexadecimal c.toNat ++ ['\x7d']

/-- A text in quotes. -/
def quoted (text : String) : String :=
  String.ofList ('"' :: (text.toList.flatMap escape ++ ['"']))

/-- Enclose items in brackets, one to a line in the pretty layout. -/
def enclose (layout : Layout) (depth : Nat) (first last : String) (items : List String) : String :=
  if items.isEmpty then first ++ last
  else
    let trailing :=
      match layout with
      | .compact => ""
      | .pretty => ","
    first ++ layout.newline 4 (depth + 1) ++
      ("," ++ layout.newline 4 (depth + 1)).intercalate items ++ trailing ++
      layout.newline 4 depth ++ last

mutual

/-- A value that begins `depth` levels in. -/
def writeAt (layout : Layout) (depth : Nat) : Datum → String
  | .bool value => if value then "true" else "false"
  | .int value => toString value
  | .text value => quoted value
  | .name value => value
  | .present value => "Some(" ++ writeAt layout depth value ++ ")"
  | .list items => enclose layout depth "[" "]" (writeItems layout (depth + 1) items)
  | .record fields => enclose layout depth "(" ")" (writeFields layout (depth + 1) fields)
  | .map entries => enclose layout depth "\x7b" "\x7d" (writeEntries layout (depth + 1) entries)

/-- The items of a list. -/
def writeItems (layout : Layout) (depth : Nat) : List Datum → List String
  | [] => []
  | item :: rest => writeAt layout depth item :: writeItems layout depth rest

/-- The fields of a record. -/
def writeFields (layout : Layout) (depth : Nat) : List (String × Datum) → List String
  | [] => []
  | (field, value) :: rest =>
    (field ++ ":" ++ layout.gap ++ writeAt layout depth value) :: writeFields layout depth rest

/-- The entries of a map. -/
def writeEntries (layout : Layout) (depth : Nat) : List (String × Datum) → List String
  | [] => []
  | (key, value) :: rest =>
    (quoted key ++ ":" ++ layout.gap ++ writeAt layout depth value) ::
      writeEntries layout depth rest

end

/-- The datum as RON. -/
def write (layout : Layout) (datum : Datum) : String := writeAt layout 0 datum

end GrammarRules.Ron
