import GrammarRules.Source.Position

/-!
# Source files

A `SourceFile` is a name and a content, with the content cut into lines.  Lines end after a line
feed, so there is one line more than there are line feeds.  `SourceFile.position` turns a byte
offset into a line and a column by looking up the line that holds the offset and then counting the
characters of that line alone.
-/

namespace GrammarRules

/-- The number of bytes that a list of characters takes in UTF-8. -/
def byteLength (cs : List Char) : Nat := cs.foldr (fun c n => c.utf8Size + n) 0

/-- One line of a source, with the line feed that ends it. -/
structure SourceLine where
  start : Nat
  chars : List Char
deriving DecidableEq, Inhabited

namespace SourceLine

/-- The lines of a text that begins at byte offset `start`. -/
def split (start : Nat) (cs : List Char) : List SourceLine :=
  go start start [] cs
where
  /-- `line` holds the characters read since the line began, last first. -/
  go (begun here : Nat) (line : List Char) : List Char → List SourceLine
    | [] => [⟨begun, line.reverse⟩]
    | c :: cs =>
      let next := here + c.utf8Size
      if c = '\n' then ⟨begun, (c :: line).reverse⟩ :: go next next [] cs
      else go begun next (c :: line) cs

/-- The number of characters in the first `bytes` bytes, or none if a character is cut there. -/
def charCount? : Nat → List Char → Option Nat
  | 0, _ => some 0
  | _, [] => none
  | bytes, c :: cs =>
    if c.utf8Size ≤ bytes then (charCount? (bytes - c.utf8Size) cs).map (· + 1) else none

/-- The column of the place `bytes` bytes into the line.  Inside a character, where there is no
character to count, it goes by bytes. -/
def column (line : SourceLine) (bytes : Nat) : Nat :=
  (charCount? bytes line.chars).getD bytes + 1

/-- The line without the line feeds and carriage returns at its end. -/
def text (line : SourceLine) : String :=
  String.ofList (line.chars.reverse.dropWhile fun c => c == '\n' || c == '\r').reverse

end SourceLine

/-- A named text with its lines. -/
structure SourceFile where
  name : String
  content : String
  lines : Array SourceLine
  lines_eq : lines = (SourceLine.split 0 content.toList).toArray

namespace SourceFile

/-- The source with the given name and content. -/
def ofContent (name content : String) : SourceFile :=
  ⟨name, content, (SourceLine.split 0 content.toList).toArray, rfl⟩

/-- The number of lines. -/
def lineCount (source : SourceFile) : Nat := source.lines.size

/-- The length in bytes. -/
def byteSize (source : SourceFile) : Nat := source.content.utf8ByteSize

/-- The number of lines among those with index from `low` up to `high` that begin at or before
`offset`, provided all lines below `low` do and none from `high` on does. -/
def lineAt (lines : Array SourceLine) (offset low high : Nat) : Nat :=
  if low < high then
    let middle := (low + high) / 2
    match lines[middle]? with
    | some line =>
      if line.start ≤ offset then lineAt lines offset (middle + 1) high
      else lineAt lines offset low middle
    | none => low
  else low
termination_by high - low

/-- The position of a byte offset; one beyond the end counts as the end. -/
def position (source : SourceFile) (offset : Nat) : Position :=
  let offset := min offset source.byteSize
  let line := lineAt source.lines offset 0 source.lines.size
  let start := (source.lines[line - 1]?.map SourceLine.start).getD 0
  let column := (source.lines[line - 1]?.map (·.column (offset - start))).getD (offset + 1)
  ⟨line, column, offset⟩

/-- The text of a line, counted from one, without its end. -/
def line? (source : SourceFile) (number : Nat) : Option String :=
  if number = 0 then none else source.lines[number - 1]?.map SourceLine.text

end SourceFile

end GrammarRules
