import GrammarRules.Regex.Syntax
import GrammarRules.Text.Blank
import GrammarRules.Text.Letter
import GrammarRules.Text.Numeral

/-!
# Parsing regular expressions

The parser reads from left to right with two stacks, one for open groups and one for open classes.
In extended mode blanks and comments between the parts of an expression do not count.  Every round
of the two loops takes at least one character, so the length of the pattern bounds them.
-/

namespace GrammarRules.Regex

/-! ## The cursor -/

/-- What is left of a pattern, and whether it is in extended mode. -/
structure Cursor where
  rest : List Char
  extended : Bool := false
deriving Inhabited

/-- Drop blanks and comments, where `inComment` tells whether a comment is open. -/
def dropIgnored (inComment : Bool) : List Char → List Char
  | [] => []
  | c :: cs =>
    if inComment then dropIgnored (c != '\n') cs
    else if Text.isBlank c then dropIgnored false cs
    else if c = '#' then dropIgnored true cs
    else c :: cs

namespace Cursor

/-- Move over one character. -/
def advance (cursor : Cursor) : Cursor := { cursor with rest := cursor.rest.drop 1 }

/-- In extended mode, move over blanks and comments. -/
def skip (cursor : Cursor) : Cursor :=
  if cursor.extended then { cursor with rest := dropIgnored false cursor.rest } else cursor

/-- Move over one character and what may follow it in extended mode. -/
def next (cursor : Cursor) : Cursor := cursor.advance.skip

/-- The next character. -/
def head? (cursor : Cursor) : Option Char := cursor.rest.head?

/-- The character after the next one. -/
def second? (cursor : Cursor) : Option Char := (cursor.rest.drop 1).head?

/-- The character after the next one, over blanks in extended mode. -/
def secondSpaced? (cursor : Cursor) : Option Char :=
  if cursor.extended then
    let after := (cursor.rest.drop 1).dropWhile Text.isBlank
    let after := if after.head? == some '#' then (after.drop 1).dropWhile Text.isBlank else after
    if after.isEmpty then cursor.second? else after.head?
  else cursor.second?

/-- Move over a text if it comes next. -/
def take? (cursor : Cursor) (text : List Char) : Option Cursor :=
  if text.isPrefixOf cursor.rest then
    some { cursor with rest := cursor.rest.drop text.length }
  else none

/-- Move over the longest run of characters that satisfy `p`. -/
def skipWhile (cursor : Cursor) (p : Char → Bool) : Cursor :=
  { cursor with rest := cursor.rest.dropWhile p }

/-- Take characters that satisfy `p`, with what extended mode allows between them. -/
def takeSpaced (p : Char → Bool) : Nat → Cursor → List Char × Cursor
  | 0, cursor => ([], cursor)
  | fuel + 1, cursor =>
    match cursor.head? with
    | some c =>
      if p c then
        let (taken, last) := takeSpaced p fuel cursor.next
        (c :: taken, last)
      else ([], cursor)
    | none => ([], cursor)

/-- The characters that satisfy `p` and come next. -/
def takeAll (cursor : Cursor) (p : Char → Bool) : List Char × Cursor :=
  takeSpaced p cursor.rest.length cursor

end Cursor

/-! ## Numbers and escapes -/

/-- A decimal number with blanks around it. -/
def parseDecimal (cursor : Cursor) : Option (Except RegexFault Nat) × Cursor :=
  let (digits, after) := (cursor.skipWhile Text.isBlank).takeAll Text.isDigit
  let after := after.skipWhile Text.isBlank
  let value :=
    if digits.isEmpty then none
    else
      match Text.natural? Text.natMax32 digits with
      | some n => some (.ok n)
      | none => some (.error .numberTooLarge)
  (value, after)

/-- What a hexadecimal digit stands for. -/
def hexValue? (c : Char) : Option Nat :=
  if '0' ≤ c ∧ c ≤ '9' then some (c.toNat - 48)
  else if 'a' ≤ c ∧ c ≤ 'f' then some (c.toNat - 87)
  else if 'A' ≤ c ∧ c ≤ 'F' then some (c.toNat - 55)
  else none

/-- The character with a hexadecimal number. -/
def hexChar (digits : List Nat) : Except RegexFault Char :=
  let code := digits.foldl (fun n d => if n > 0x110000 then n else 16 * n + d) 0
  if code.isValidChar then .ok (Char.ofNat code) else .error .notACharacter

/-- A fixed number of hexadecimal digits. -/
def parseHexDigits : Nat → Cursor → Except RegexFault (List Nat × Cursor)
  | 0, cursor => .ok ([], cursor)
  | count + 1, cursor =>
    match cursor.head? with
    | none => .error .escapeAtEnd
    | some c =>
      match hexValue? c with
      | none => .error .badHexDigit
      | some d => do
        let (ds, last) ← parseHexDigits count cursor.next
        return (d :: ds, last)

/-- A character given by its number, after the letter that says how many digits it has. -/
def parseHex (digits : Nat) (cursor : Cursor) : Except RegexFault (Literal × Cursor) := do
  let cursor := cursor.next
  match cursor.head? with
  | none => .error .escapeAtEnd
  | some '\x7b' =>
    let (number, after) := cursor.next.takeAll (hexValue? · |>.isSome)
    match after.head? with
    | none => .error .escapeAtEnd
    | some '\x7d' =>
      if number.isEmpty then .error .noHexDigit
      else return (⟨← hexChar (number.filterMap hexValue?), false⟩, after.next)
    | some _ => .error .badHexDigit
  | some _ =>
    let (number, after) ← parseHexDigits digits cursor
    let c ← hexChar number
    return (⟨c, digits == 2⟩, after)

/-- Split at the first occurrence of one of two marks, the first of which is sought first. -/
def splitAtMark? (mark : List Char) : List Char → Option (List Char × List Char)
  | [] => none
  | c :: cs =>
    if mark.isPrefixOf (c :: cs) then some ([], (c :: cs).drop mark.length)
    else (splitAtMark? mark cs).map fun (before, after) => (c :: before, after)

/-- The query that stands between the braces of a property. -/
def propertyQuery (text : List Char) : PropertyQuery :=
  let valued (parts : List Char × List Char) : PropertyQuery :=
    .valued (String.ofList parts.1) (String.ofList parts.2)
  ((splitAtMark? ['!', '='] text <|> splitAtMark? [':'] text <|> splitAtMark? ['='] text).map
    valued).getD (.named (String.ofList text))

/-- A property, after the letter `p`. -/
def parseProperty (cursor : Cursor) : Except RegexFault (PropertyQuery × Cursor) :=
  let cursor := cursor.next
  match cursor.head? with
  | none => .error .escapeAtEnd
  | some '\x7b' =>
    let (text, after) := cursor.next.takeAll (· ≠ '\x7d')
    if after.rest.isEmpty then .error .escapeAtEnd
    else .ok (propertyQuery text, after.advance)
  | some c =>
    if c = '\\' then .error .badProperty
    else .ok (.named (String.singleton c), cursor.next)

/-- The characters with a special meaning, which an escape takes away. -/
def isMeta (c : Char) : Bool :=
  ['\\', '.', '+', '*', '?', '(', ')', '|', '[', ']', '\x7b', '\x7d', '^', '$', '#', '&', '-',
    '~'].contains c

/-- The characters that may be escaped without need: all of ASCII but letters, digits and angle
brackets. -/
def isEscapable (c : Char) : Bool :=
  isMeta c || (c.toNat < 128 && !c.isAlphanum && c != '<' && c != '>')

/-- Something that stands for one character or for a place between characters. -/
inductive Primitive where
  | literal (literal : Literal)
  | dot
  | assertion
  | property (query : PropertyQuery) (negated : Bool)
  | perl (kind : PerlClass) (negated : Bool)
deriving Inhabited

/-- As a regular expression of its own. -/
def Primitive.toRegex : Primitive → Regex
  | .literal l => .literal l
  | .dot => .dot
  | .assertion => .assertion
  | .property query negated => .property query negated
  | .perl kind negated => .perl kind negated

/-- As an item of a class. -/
def Primitive.toItem : Primitive → Except RegexFault ClassSet
  | .literal l => .ok (.literal l)
  | .property query negated => .ok (.property query negated)
  | .perl kind negated => .ok (.perl kind negated)
  | .dot | .assertion => .error .badClassEscape

/-- As an end of a range. -/
def Primitive.toEnd : Primitive → Except RegexFault Literal
  | .literal l => .ok l
  | _ => .error .badClassRange

/-- What may follow `\b` in braces.  If no word does, the brace belongs to a repetition. -/
def parseWordBoundary (cursor : Cursor) : Except RegexFault Cursor :=
  let isWordChar (c : Char) : Bool := c.isAlpha || c == '-'
  if cursor.head? ≠ some '\x7b' then .ok cursor
  else
    match cursor.next.head? with
    | none => .error .badWordBoundary
    | some c =>
      if !isWordChar c then .ok cursor
      else
        let (word, after) := cursor.next.takeAll isWordChar
        if after.head? ≠ some '\x7d' then .error .badWordBoundary
        else if ["start", "end", "start-half", "end-half"].contains (String.ofList word) then
          .ok after.advance
        else .error .badWordBoundary

/-- The characters with an escape of their own. -/
def specialEscape? : Char → Option Char
  | 'a' => some '\x07'
  | 'f' => some '\x0c'
  | 't' => some '\t'
  | 'n' => some '\n'
  | 'r' => some '\r'
  | 'v' => some '\x0b'
  | _ => none

/-- An escape, at its backslash. -/
def parseEscape (cursor : Cursor) : Except RegexFault (Primitive × Cursor) := do
  let cursor := cursor.advance
  match cursor.head? with
  | none => .error .escapeAtEnd
  | some c =>
    let after := cursor.advance
    if Text.isDigit c then .error .backReference
    else if c = 'x' then (parseHex 2 cursor).map fun (l, rest) => (.literal l, rest)
    else if c = 'u' then (parseHex 4 cursor).map fun (l, rest) => (.literal l, rest)
    else if c = 'U' then (parseHex 8 cursor).map fun (l, rest) => (.literal l, rest)
    else if c = 'p' ∨ c = 'P' then
      (parseProperty cursor).map fun (query, rest) => (.property query (c == 'P'), rest)
    else if c = 'd' ∨ c = 'D' then .ok (.perl .digit (c == 'D'), after)
    else if c = 's' ∨ c = 'S' then .ok (.perl .space (c == 'S'), after)
    else if c = 'w' ∨ c = 'W' then .ok (.perl .word (c == 'W'), after)
    else if isEscapable c then .ok (.literal ⟨c, false⟩, after)
    else if c = 'A' ∨ c = 'z' ∨ c = 'B' ∨ c = '<' ∨ c = '>' then .ok (.assertion, after)
    else if c = 'b' then (parseWordBoundary after).map fun rest => (.assertion, rest)
    else
      match specialEscape? c with
      | some special => .ok (.literal ⟨special, false⟩, after)
      | none => .error .unknownEscape

/-! ## Classes -/

/-- An open bracket with the items of the class around it, or an operator with its left side. -/
inductive ClassFrame where
  | opened (outer : List ClassSet) (negated : Bool)
  | operator (operator : SetOperator) (left : ClassSet)
deriving Inhabited

/-- A named class between colons, if there is one at the bracket. -/
def parseAsciiClass? (cursor : Cursor) : Option (ClassSet × Cursor) := do
  let inside ← cursor.take? ['[', ':']
  let (negated, inside) := ((inside.take? ['^']).map fun rest => (true, rest)).getD (false, inside)
  let name := inside.rest.takeWhile (· ≠ ':')
  let after ← (inside.skipWhile (· ≠ ':')).take? [':', ']']
  let kind ← AsciiClass.ofName? (String.ofList name)
  return (.ascii kind negated, after)

/-- Leading dashes of a class are literals. -/
def leadingDashes : Nat → Cursor → List ClassSet × Cursor
  | 0, cursor => ([], cursor)
  | fuel + 1, cursor =>
    if cursor.head? = some '-' then
      let (dashes, last) := leadingDashes fuel cursor.next
      (.literal ⟨'-', false⟩ :: dashes, last)
    else ([], cursor)

/-- The beginning of a class, at its bracket: whether it is negated, and the items that are literals
only because they come first. -/
def parseClassOpen (cursor : Cursor) : Except RegexFault ((Bool × List ClassSet) × Cursor) := do
  let cursor := cursor.next
  let negated := cursor.head? == some '^'
  let cursor := if negated then cursor.next else cursor
  let (dashes, cursor) := leadingDashes cursor.rest.length cursor
  match cursor.head? with
  | none => .error .classNotClosed
  | some c =>
    if dashes.isEmpty ∧ c = ']' then
      let after := cursor.next
      if after.rest.isEmpty then .error .classNotClosed
      else return ((negated, [.literal ⟨']', false⟩]), after)
    else return ((negated, dashes), cursor)

/-- A character of a class or an escape. -/
def parseClassItem (cursor : Cursor) : Except RegexFault (Primitive × Cursor) :=
  match cursor.head? with
  | none => .error .classNotClosed
  | some '\\' => parseEscape cursor
  | some c => .ok (.literal ⟨c, false⟩, cursor.advance)

/-- An item of a class, or a range of which it is the lower end. -/
def parseClassRange (cursor : Cursor) : Except RegexFault (ClassSet × Cursor) := do
  let (low, cursor) ← parseClassItem cursor
  let cursor := cursor.skip
  if cursor.rest.isEmpty then .error .classNotClosed
  else if cursor.head? ≠ some '-' ∨ cursor.secondSpaced? = some ']' ∨
      cursor.secondSpaced? = some '-' then
    return (← low.toItem, cursor)
  else
    let cursor := cursor.next
    if cursor.rest.isEmpty then .error .classNotClosed
    else
      let (high, cursor) ← parseClassItem cursor
      let low ← low.toEnd
      let high ← high.toEnd
      if low.char ≤ high.char then return (.range low high, cursor)
      else .error .classOutOfOrder

/-- Combine a right side with the operator that waits for it, if one does. -/
def applyOperator (right : ClassSet) : List ClassFrame → ClassSet × List ClassFrame
  | .operator operator left :: frames => (.combined operator left right, frames)
  | frames => (right, frames)

/-- Put an operator on the stack, with the items before it on its left. -/
def pushOperator (operator : SetOperator) (items : List ClassSet) (frames : List ClassFrame) :
    List ClassFrame :=
  let (left, frames) := applyOperator (ClassSet.ofItems items.reverse) frames
  .operator operator left :: frames

/-- The operator that comes next, if one does. -/
def setOperator? (cursor : Cursor) : Option (SetOperator × Cursor) :=
  ((cursor.take? ['&', '&']).map fun rest => (.intersection, rest)) <|>
  ((cursor.take? ['-', '-']).map fun rest => (.difference, rest)) <|>
  ((cursor.take? ['~', '~']).map fun rest => (.symmetricDifference, rest))

/-- Read a class, with the items of the innermost bracket in `items`, last first. -/
def parseClassLoop : Nat → List ClassFrame → List ClassSet → Cursor →
    Except RegexFault (Regex × Cursor)
  | 0, _, _, _ => .error .classNotClosed
  | fuel + 1, frames, items, cursor => do
    let cursor := cursor.skip
    match cursor.head? with
    | none => .error .classNotClosed
    | some '[' =>
      match (if frames.isEmpty then none else parseAsciiClass? cursor) with
      | some (item, after) => parseClassLoop fuel frames (item :: items) after
      | none =>
        let ((negated, first), after) ← parseClassOpen cursor
        parseClassLoop fuel (.opened items negated :: frames) first.reverse after
    | some ']' =>
      match applyOperator (ClassSet.ofItems items.reverse) frames with
      | (inner, .opened outer negated :: frames) =>
        if frames.isEmpty then return (.bracketed negated inner, cursor.advance)
        else parseClassLoop fuel frames (.bracketed negated inner :: outer) cursor.advance
      | _ => .error .classNotClosed
    | some _ =>
      match setOperator? cursor with
      | some (operator, after) =>
        parseClassLoop fuel (pushOperator operator items frames) [] after
      | none =>
        let (item, after) ← parseClassRange cursor
        parseClassLoop fuel frames (item :: items) after

/-- A bracketed class, at its bracket. -/
def parseClass (cursor : Cursor) : Except RegexFault (Regex × Cursor) :=
  parseClassLoop (cursor.rest.length + 1) [] [] cursor

/-! ## Groups -/

/-- An open group with what stands before it, or the branches of an alternation so far. -/
inductive GroupFrame where
  | group (before : List Regex) (flags : FlagList) (captures : Bool) (extended : Bool)
  | branches (branches : List Regex)
deriving Inhabited

/-- The state of the parser: names of groups, open groups and the parts of the innermost one, last
first. -/
structure ParserState where
  names : List String := []
  frames : List GroupFrame := []
  parts : List Regex := []
  cursor : Cursor
deriving Inhabited

/-- Flags up to a colon or a closing parenthesis.  `negated` tells whether a dash has been read and
`dangling` whether it was the last thing read. -/
def parseFlagLoop : Nat → FlagList → Bool → Bool → Cursor →
    Except RegexFault (FlagList × Cursor)
  | 0, _, _, _, _ => .error .flagsAtEnd
  | fuel + 1, given, negated, dangling, cursor =>
    match cursor.head? with
    | none => .error .flagsAtEnd
    | some c =>
      if c = ':' ∨ c = ')' then
        if dangling then .error .danglingNegation else .ok (given, cursor)
      else if c = '-' then
        if negated then .error .repeatedFlag
        else if cursor.advance.rest.isEmpty then .error .flagsAtEnd
        else parseFlagLoop fuel given true true cursor.advance
      else
        match Flag.ofLetter? c with
        | none => .error .unknownFlag
        | some flag =>
          if given.any (·.1 == flag) then .error .repeatedFlag
          else if cursor.advance.rest.isEmpty then .error .flagsAtEnd
          else parseFlagLoop fuel (given ++ [(flag, !negated)]) negated false cursor.advance

/-- The characters that the name of a group may begin with. -/
def isNameStart (c : Char) : Bool := c == '_' || Text.isLetter c

/-- The characters that may follow in the name of a group. -/
def isNameChar (c : Char) : Bool :=
  isNameStart c || Text.isNumber c || c == '.' || c == '[' || c == ']'

/-- The name of a group, after the angle bracket that opens it. -/
def parseGroupName (names : List String) (cursor : Cursor) : Except RegexFault (String × Cursor) :=
  let name := cursor.rest.takeWhile (· ≠ '>')
  let isBad :=
    match name with
    | [] => false
    | c :: cs => !isNameStart c || !cs.all isNameChar
  let after := cursor.skipWhile (· ≠ '>')
  if isBad then .error .badName
  else if after.rest.isEmpty then .error .nameNotClosed
  else if name.isEmpty then .error .emptyName
  else if names.contains (String.ofList name) then .error .duplicateName
  else .ok (String.ofList name, after.advance)

/-- Open a group. -/
def ParserState.openGroup (state : ParserState) (flags : FlagList) (captures : Bool)
    (cursor : Cursor) : ParserState :=
  let extended := (flags.setting? .extended).getD cursor.extended
  { state with
    frames := .group state.parts flags captures cursor.extended :: state.frames
    parts := []
    cursor := { cursor with extended } }

/-- What an opening parenthesis begins: a group, or flags for the rest of the group around it. -/
def parseGroup (state : ParserState) : Except RegexFault ParserState := do
  let cursor := state.cursor.next
  let isLookAround := [['?', '='], ['?', '!'], ['?', '<', '='], ['?', '<', '!']].any fun start =>
    (cursor.take? start).isSome
  if isLookAround then .error .lookAround
  else
    match cursor.take? ['?', 'P', '<'] <|> cursor.take? ['?', '<'] with
    | some inside =>
      let (name, after) ← parseGroupName state.names inside
      return { state.openGroup [] true after with names := name :: state.names }
    | none =>
      match cursor.take? ['?'] with
      | none => return state.openGroup [] true cursor
      | some inside =>
        if inside.rest.isEmpty then .error .groupNotClosed
        else
          let (given, after) ← parseFlagLoop inside.rest.length [] false false inside
          if after.head? = some ':' then return state.openGroup given false after.advance
          else if given.isEmpty then .error .repetitionWithoutOperand
          else
            let extended := (given.setting? .extended).getD after.extended
            return { state with
              parts := .flags given :: state.parts
              cursor := { after.advance with extended } }

/-- End a branch of an alternation. -/
def ParserState.endBranch (state : ParserState) : ParserState :=
  let branch := ofParts state.parts.reverse
  match state.frames with
  | .branches branches :: frames =>
    { state with frames := .branches (branch :: branches) :: frames, parts := [] }
  | frames => { state with frames := .branches [branch] :: frames, parts := [] }

/-- The content of the innermost group, and the frames around its branches. -/
def ParserState.content (state : ParserState) : Regex × List GroupFrame :=
  let last := ofParts state.parts.reverse
  match state.frames with
  | .branches branches :: frames => (.alternation (last :: branches).reverse, frames)
  | frames => (last, frames)

/-- Close the innermost group. -/
def ParserState.closeGroup (state : ParserState) : Except RegexFault ParserState :=
  match state.content with
  | (inner, .group before given captures extended :: frames) =>
    .ok { state with
      frames
      parts := .group given captures inner :: before
      cursor := { state.cursor.advance with extended } }
  | _ => .error .groupNotOpened

/-- The expression that is complete at the end of the pattern. -/
def ParserState.result (state : ParserState) : Except RegexFault Regex :=
  match state.content with
  | (regex, []) => .ok regex
  | _ => .error .groupNotClosed

/-! ## Repetitions -/

/-- Repeat the last part.  A question mark at the cursor makes no difference to what is accepted and
is passed over. -/
def ParserState.repeatLast (state : ParserState) (low : Nat) (high : Option Nat)
    (cursor : Cursor) : Except RegexFault ParserState :=
  let cursor := if cursor.head? = some '?' then cursor.advance else cursor
  match state.parts with
  | operand :: before =>
    if operand.isRepeatable then
      .ok { state with parts := .repetition low high operand :: before, cursor }
    else .error .repetitionWithoutOperand
  | [] => .error .repetitionWithoutOperand

/-- The counts of a repetition, after the opening brace. -/
def parseCounts (cursor : Cursor) : Except RegexFault ((Nat × Option Nat) × Cursor) := do
  let require (count : Option (Except RegexFault Nat)) : Except RegexFault Nat :=
    count.getD (.error .repetitionWithoutCount)
  if cursor.rest.isEmpty then .error .repetitionNotClosed
  let (low, cursor) := parseDecimal cursor
  match cursor.head? with
  | none => .error .repetitionNotClosed
  | some ',' =>
    let cursor := cursor.next
    match cursor.head? with
    | none => .error .repetitionNotClosed
    | some '\x7d' => return ((← require low, none), cursor)
    | some _ =>
      let low ← require low
      let (high, cursor) := parseDecimal cursor
      return ((low, some (← require high)), cursor)
  | some _ =>
    let count ← require low
    return ((count, some count), cursor)

/-- A counted repetition, at its brace. -/
def parseCountedRepetition (state : ParserState) : Except RegexFault ParserState := do
  if !state.parts.head?.any isRepeatable then .error .repetitionWithoutOperand
  let ((low, high), cursor) ← parseCounts state.cursor.next
  if cursor.head? ≠ some '\x7d' then .error .repetitionNotClosed
  else if high.any (· < low) then .error .repetitionOutOfOrder
  else state.repeatLast low high cursor.next

/-! ## Whole patterns -/

/-- Read one part, at a character that is there. -/
def parsePart (state : ParserState) (c : Char) : Except RegexFault ParserState := do
  let push (part : Regex) (cursor : Cursor) : ParserState :=
    { state with parts := part :: state.parts, cursor }
  if c = '(' then parseGroup state
  else if c = ')' then state.closeGroup
  else if c = '|' then return { state.endBranch with cursor := state.cursor.advance }
  else if c = '[' then
    let (part, cursor) ← parseClass state.cursor
    return push part cursor
  else if c = '?' then state.repeatLast 0 (some 1) state.cursor.advance
  else if c = '*' then state.repeatLast 0 none state.cursor.advance
  else if c = '+' then state.repeatLast 1 none state.cursor.advance
  else if c = '\x7b' then parseCountedRepetition state
  else if c = '\\' then
    let (primitive, cursor) ← parseEscape state.cursor
    return push primitive.toRegex cursor
  else if c = '.' then return push .dot state.cursor.advance
  else if c = '^' ∨ c = '$' then return push .assertion state.cursor.advance
  else return push (.literal ⟨c, false⟩) state.cursor.advance

/-- Read parts up to the end of the pattern. -/
def parseLoop : Nat → ParserState → Except RegexFault Regex
  | 0, state => state.result
  | fuel + 1, state =>
    let state := { state with cursor := state.cursor.skip }
    match state.cursor.head? with
    | none => state.result
    | some c => do parseLoop fuel (← parsePart state c)

/-- How deeply the parts of an expression may be nested. -/
def depthLimit : Nat := 250

/-- Parse a pattern. -/
def parse (pattern : String) : Except RegexFault Regex := do
  let cs := pattern.toList
  let regex ← parseLoop (cs.length + 1) { cursor := { rest := cs } }
  if regex.depth > depthLimit then .error .tooDeep else return regex

end GrammarRules.Regex
