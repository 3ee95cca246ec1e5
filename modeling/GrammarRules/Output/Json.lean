import GrammarRules.Output.Datum

/-!
# JSON

`Json.write` writes a datum as JSON.  Names are written as texts, records and maps as objects.  The
pretty layout puts every item and every member on a line of its own, two spaces further in.
-/

namespace GrammarRules.Json

/-- A hexadecimal digit in small letters. -/
def hexDigit (n : Nat) : Char := Char.ofNat (if n < 10 then n + 48 else n + 87)

/-- A character of a text.  Quotes, backslashes and control characters are escaped. -/
def escape (c : Char) : List Char :=
  if c = '"' then ['\\', '"']
  else if c = '\\' then ['\\', '\\']
  else if c = '\n' then ['\\', 'n']
  else if c = '\r' then ['\\', 'r']
  else if c = '\t' then ['\\', 't']
  else if c.toNat = 0x8 then ['\\', 'b']
  else if c.toNat = 0xC then ['\\', 'f']
  else if c.toNat < 0x20 then
    ['\\', 'u', '0', '0', hexDigit (c.toNat / 16), hexDigit (c.toNat % 16)]
  else [c]

/-- A text in quotes. -/
def quoted (text : String) : String :=
  String.ofList ('"' :: (text.toList.flatMap escape ++ ['"']))

/-- Enclose items in brackets, one to a line in the pretty layout. -/
def enclose (layout : Layout) (depth : Nat) (first last : String) (items : List String) : String :=
  if items.isEmpty then first ++ last
  else
    first ++ layout.newline 2 (depth + 1) ++
      ("," ++ layout.newline 2 (depth + 1)).intercalate items ++ layout.newline 2 depth ++ last

mutual

/-- A value that begins `depth` levels in. -/
def writeAt (layout : Layout) (depth : Nat) : Datum → String
  | .bool value => if value then "true" else "false"
  | .int value => toString value
  | .text value => quoted value
  | .name value => quoted value
  | .present value => writeAt layout depth value
  | .list items => enclose layout depth "[" "]" (writeItems layout (depth + 1) items)
  | .record fields => enclose layout depth "\x7b" "\x7d" (writeMembers layout (depth + 1) fields)
  | .map entries => enclose layout depth "\x7b" "\x7d" (writeMembers layout (depth + 1) entries)

/-- The items of a list. -/
def writeItems (layout : Layout) (depth : Nat) : List Datum → List String
  | [] => []
  | item :: rest => writeAt layout depth item :: writeItems layout depth rest

/-- The members of an object. -/
def writeMembers (layout : Layout) (depth : Nat) : List (String × Datum) → List String
  | [] => []
  | (key, value) :: rest =>
    (quoted key ++ ":" ++ layout.gap ++ writeAt layout depth value) ::
      writeMembers layout depth rest

end

/-- The datum as JSON. -/
def write (layout : Layout) (datum : Datum) : String := writeAt layout 0 datum

end GrammarRules.Json
