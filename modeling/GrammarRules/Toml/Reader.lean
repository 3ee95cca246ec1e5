import GrammarRules.Toml.Number

/-!
# Reading TOML documents

`readToml` reads a document line by line: comments, headers, and keys with their values.  Each line
that says something is entered into the table of the whole document at once, so the first fault in
the order of the text is the one that is reported.
-/

namespace GrammarRules.Toml

/-- How deeply values may be nested and how many parts a key may have. -/
def nestingLimit : Nat := 80

/-- The result of a reader that may find nothing. -/
def require {α : Type} (result : Option α) : Except TomlError α :=
  match result with
  | some value => .ok value
  | none => .error .malformed

/-! ## Keys -/

/-- The characters of a key without quotes. -/
def isBareKey (c : Char) : Bool := c.isAlphanum || c == '-' || c == '_'

/-- One part of a key. -/
def readKeyPart? (cs : List Char) : Option (String × List Char) :=
  match cs with
  | [] => none
  | c :: _ =>
    if c = '"' ∨ c = '\x27' then
      (readQuotedKey? cs).map fun (text, rest) => (String.ofList text, rest)
    else if isBareKey c then
      some (String.ofList (cs.takeWhile isBareKey), cs.dropWhile isBareKey)
    else none

/-- The parts of a key, with blanks around them. -/
def readKeyParts : Nat → List Char → Except TomlError (List String × List Char)
  | 0, _ => .error .tooDeep
  | fuel + 1, cs => do
    let (part, rest) ← require (readKeyPart? (skipSpaces cs))
    match skipSpaces rest with
    | '.' :: after =>
      let (parts, rest) ← readKeyParts fuel after
      return (part :: parts, rest)
    | rest => return ([part], rest)

/-- A key. -/
def readKey (cs : List Char) : Except TomlError (List String × List Char) :=
  readKeyParts (nestingLimit - 1) cs

/-! ## Values -/

/-- How a value is read. -/
abbrev ValueReader := List Char → Except TomlError (TomlValue × List Char)

/-- The rest after a comment up to the end of its line. -/
def skipComment (cs : List Char) : List Char :=
  match cs with
  | '#' :: rest => rest.dropWhile isPlain
  | _ => cs

/-- The rest after blanks, comments and line breaks.  A comment must end at a line break. -/
def skipFiller : Nat → List Char → List Char
  | 0, cs => cs
  | fuel + 1, cs =>
    let cs := skipSpaces cs
    match newline? (skipComment cs) with
    | some rest => skipFiller fuel rest
    | none => cs

/-- The items of an array after its opening bracket. -/
def readItems (readValue : ValueReader) : Nat → List Char →
    Except TomlError (List TomlValue × List Char)
  | 0, _ => .error .malformed
  | fuel + 1, cs =>
    match skipFiller cs.length cs with
    | ']' :: rest => .ok ([], rest)
    | cs => do
      let (item, rest) ← readValue cs
      match skipFiller rest.length rest with
      | ',' :: rest =>
        let (items, rest) ← readItems readValue fuel rest
        return (item :: items, rest)
      | ']' :: rest => return ([item], rest)
      | _ => .error .malformed

/-- A key, an equals sign and a value. -/
def readAssignment (readValue : ValueReader) (cs : List Char) :
    Except TomlError ((List String × TomlValue) × List Char) := do
  let (path, rest) ← readKey cs
  match rest with
  | '=' :: rest =>
    let (value, rest) ← readValue (skipSpaces rest)
    return ((path, value), skipSpaces rest)
  | _ => .error .malformed

/-- The entries of a table between braces, after one of them or after the opening brace. -/
def readEntries (readValue : ValueReader) : Nat → TomlValue.Entries → List Char →
    Except TomlError (TomlValue × List Char)
  | 0, _, _ => .error .malformed
  | fuel + 1, entries, cs => do
    let ((path, value), rest) ← readAssignment readValue cs
    let entries ← TomlValue.assign path value .inline entries
    match rest with
    | ',' :: rest => readEntries readValue fuel entries rest
    | '\x7d' :: rest => return (.table .inline entries, rest)
    | _ => .error .malformed

/-- A table between braces, after the opening one. -/
def readInlineTable (readValue : ValueReader) (cs : List Char) :
    Except TomlError (TomlValue × List Char) :=
  match skipSpaces cs with
  | '\x7d' :: rest => .ok (.table .inline [], rest)
  | _ => readEntries readValue cs.length [] cs

/-- A value, with so many levels of arrays and tables left. -/
def readValue : Nat → ValueReader
  | _, [] => .error .malformed
  | depth, c :: cs =>
    if c = '"' ∨ c = '\x27' then
      (require (readQuoted? (c :: cs))).map fun (text, rest) => (.text (String.ofList text), rest)
    else if c = '[' then
      match depth with
      | 0 => .error .tooDeep
      | depth + 1 =>
        (readItems (readValue depth) (cs.length + 1) cs).map fun (items, rest) =>
          (.array items, rest)
    else if c = '\x7b' then
      match depth with
      | 0 => .error .tooDeep
      | depth + 1 => readInlineTable (readValue depth) cs
    else if ['t', 'r', 'u', 'e'].isPrefixOf (c :: cs) then .ok (.boolean true, cs.drop 3)
    else if ['f', 'a', 'l', 's', 'e'].isPrefixOf (c :: cs) then .ok (.boolean false, cs.drop 4)
    else require (readNumeric? (c :: cs))

/-! ## Documents -/

/-- What a document says up to some line, and the path of the table that was begun last. -/
structure DocumentState where
  entries : TomlValue.Entries := []
  current : List String := []
deriving Inhabited

/-- The rest after the end of a line, before which there may be a comment. -/
def endLine? (cs : List Char) : Option (List Char) :=
  match skipComment (skipSpaces cs) with
  | [] => some []
  | rest => newline? rest

/-- Read a line, with a header or a key if it has anything but a comment. -/
def readLine (state : DocumentState) (cs : List Char) :
    Except TomlError (DocumentState × List Char) := do
  match cs with
  | '[' :: '[' :: rest =>
    let (path, rest) ← readKey rest
    let after ← require ((readMark? ']' rest).bind (readMark? ']'))
    let after ← require (endLine? after)
    return (⟨← TomlValue.beginTables path state.entries, path⟩, after)
  | '[' :: rest =>
    let (path, rest) ← readKey rest
    let after ← require (readMark? ']' rest)
    let after ← require (endLine? after)
    return (⟨← TomlValue.beginTable path state.entries, path⟩, after)
  | _ =>
    match endLine? cs with
    | some rest => return (state, rest)
    | none =>
      let ((path, value), rest) ← readAssignment (readValue (nestingLimit - 1)) cs
      let after ← require (endLine? rest)
      return ({ state with
        entries := ← TomlValue.assignIn state.current path value state.entries }, after)

/-- Read all lines. -/
def readDocument : Nat → DocumentState → List Char → Except TomlError TomlValue.Entries
  | 0, state, _ => .ok state.entries
  | fuel + 1, state, cs =>
    match skipSpaces cs with
    | [] => .ok state.entries
    | cs => do
      let (state, rest) ← readLine state cs
      readDocument fuel state rest

end GrammarRules.Toml

namespace GrammarRules

/-- The table that a document describes.  A byte order mark at its beginning does not count. -/
def readToml (content : String) : Except TomlError TomlValue :=
  let cs := content.toList
  let cs := if cs.head? = some '\ufeff' then cs.drop 1 else cs
  (Toml.readDocument cs.length {} cs).map fun entries => .table .header entries

end GrammarRules
