/-!
# Regular expressions

`Regex` is the syntax tree of a regular expression and `ClassSet` that of a bracketed class.
Literals remember whether they were written as a byte, because outside of Unicode mode that makes a
difference.  `RegexFault` is what can be wrong with an expression.
-/

namespace GrammarRules

/-- What is wrong with a regular expression. -/
inductive RegexFault where
  | groupNotOpened
  | groupNotClosed
  | lookAround
  | backReference
  | repetitionWithoutOperand
  | repetitionNotClosed
  | repetitionWithoutCount
  | repetitionOutOfOrder
  | numberTooLarge
  | escapeAtEnd
  | unknownEscape
  | badHexDigit
  | noHexDigit
  | notACharacter
  | unknownProperty
  | badProperty
  | badWordBoundary
  | classNotClosed
  | classOutOfOrder
  | badClassRange
  | badClassEscape
  | unknownFlag
  | repeatedFlag
  | flagsAtEnd
  | danglingNegation
  | emptyName
  | badName
  | nameNotClosed
  | duplicateName
  | tooDeep
  | tooLarge
  | unicodeNotAllowed
  | invalidUtf8
deriving DecidableEq, Inhabited

/-- The fault in words. -/
def RegexFault.message : RegexFault → String
  | groupNotOpened => "unopened group"
  | groupNotClosed => "unclosed group"
  | lookAround => "look-around, including look-ahead and look-behind, is not supported"
  | backReference => "backreferences are not supported"
  | repetitionWithoutOperand => "repetition operator missing expression"
  | repetitionNotClosed => "unclosed counted repetition"
  | repetitionWithoutCount => "repetition quantifier expects a valid decimal"
  | repetitionOutOfOrder =>
    "invalid repetition count range, the start must be <= the end"
  | numberTooLarge => "decimal literal invalid"
  | escapeAtEnd => "incomplete escape sequence, reached end of pattern prematurely"
  | unknownEscape => "unrecognized escape sequence"
  | badHexDigit => "invalid hexadecimal digit"
  | noHexDigit => "hexadecimal literal empty"
  | notACharacter => "hexadecimal literal is not a Unicode scalar value"
  | unknownProperty => "Unicode property not found"
  | badProperty => "invalid Unicode character class"
  | badWordBoundary => "special word boundary assertion is unclosed or has an invalid character"
  | classNotClosed => "unclosed character class"
  | classOutOfOrder => "invalid character class range, the start must be <= the end"
  | badClassRange => "invalid range boundary, must be a literal"
  | badClassEscape => "invalid escape sequence found in character class"
  | unknownFlag => "unrecognized flag"
  | repeatedFlag => "duplicate flag"
  | flagsAtEnd => "expected flag but got end of regex"
  | danglingNegation => "dangling flag negation operator"
  | emptyName => "empty capture group name"
  | badName => "invalid capture group character"
  | nameNotClosed => "unclosed capture group name"
  | duplicateName => "duplicate capture group name"
  | tooDeep => "exceed the maximum number of nested parentheses/brackets"
  | tooLarge => "compiled regex exceeds size limit"
  | unicodeNotAllowed => "Unicode not allowed here"
  | invalidUtf8 => "pattern can match invalid UTF-8"

namespace Regex

/-- A switch in a list of flags. -/
inductive Flag where
  | caseInsensitive
  | multiLine
  | dotMatchesNewLine
  | swapGreed
  | unicode
  | crlf
  | extended
deriving DecidableEq, Inhabited

/-- The flag with this letter. -/
def Flag.ofLetter? : Char → Option Flag
  | 'i' => some caseInsensitive
  | 'm' => some multiLine
  | 's' => some dotMatchesNewLine
  | 'U' => some swapGreed
  | 'u' => some unicode
  | 'R' => some crlf
  | 'x' => some extended
  | _ => none

/-- Flags in the order in which they are written, each with whether it is switched on. -/
abbrev FlagList := List (Flag × Bool)

/-- What a list of flags does to one of them, if anything. -/
def FlagList.setting? (flags : FlagList) (flag : Flag) : Option Bool :=
  (flags.find? fun item => item.1 == flag).map Prod.snd

/-- The classes with a letter of their own. -/
inductive PerlClass where
  | digit
  | space
  | word
deriving DecidableEq, Inhabited

/-- The classes with a name between colons. -/
inductive AsciiClass where
  | alnum
  | alpha
  | ascii
  | blank
  | cntrl
  | digit
  | graph
  | lower
  | print
  | punct
  | space
  | upper
  | word
  | xdigit
deriving DecidableEq, Inhabited

/-- The class with this name. -/
def AsciiClass.ofName? : String → Option AsciiClass
  | "alnum" => some alnum
  | "alpha" => some alpha
  | "ascii" => some ascii
  | "blank" => some blank
  | "cntrl" => some cntrl
  | "digit" => some digit
  | "graph" => some graph
  | "lower" => some lower
  | "print" => some print
  | "punct" => some punct
  | "space" => some space
  | "upper" => some upper
  | "word" => some word
  | "xdigit" => some xdigit
  | _ => none

/-- A query for a Unicode property: a name, or a property and a value. -/
inductive PropertyQuery where
  | named (name : String)
  | valued (property value : String)
deriving DecidableEq, Inhabited

/-- A character, and whether it was written as a byte. -/
structure Literal where
  char : Char
  isByte : Bool := false
deriving DecidableEq, Inhabited

/-- How two sets of a class are combined. -/
inductive SetOperator where
  | intersection
  | difference
  | symmetricDifference
deriving DecidableEq, Inhabited

/-- The content of a bracketed class. -/
inductive ClassSet where
  | literal (literal : Literal)
  | range (low high : Literal)
  | ascii (kind : AsciiClass) (negated : Bool)
  | property (query : PropertyQuery) (negated : Bool)
  | perl (kind : PerlClass) (negated : Bool)
  | bracketed (negated : Bool) (inner : ClassSet)
  | union (items : List ClassSet)
  | combined (operator : SetOperator) (left right : ClassSet)
deriving Inhabited

end Regex

/-- A regular expression. -/
inductive Regex where
  | empty
  /-- Flags that hold for the rest of the group. -/
  | flags (flags : Regex.FlagList)
  | literal (literal : Regex.Literal)
  | dot
  | assertion
  | property (query : Regex.PropertyQuery) (negated : Bool)
  | perl (kind : Regex.PerlClass) (negated : Bool)
  | bracketed (negated : Bool) (inner : Regex.ClassSet)
  | repetition (low : Nat) (high : Option Nat) (operand : Regex)
  /-- A group, with the flags that hold inside it, and whether it captures. -/
  | group (flags : Regex.FlagList) (captures : Bool) (inner : Regex)
  | alternation (branches : List Regex)
  | concat (parts : List Regex)
deriving Inhabited

namespace Regex

/-- Several parts one after the other. -/
def ofParts : List Regex → Regex
  | [] => empty
  | [part] => part
  | parts => concat parts

/-- Whether a repetition may follow. -/
def isRepeatable : Regex → Bool
  | empty | flags _ => false
  | _ => true

/-- Several items side by side. -/
def ClassSet.ofItems : List ClassSet → ClassSet
  | [item] => item
  | items => union items

/-! ## Depth -/

mutual

/-- How deeply brackets, unions and operators are nested. -/
def ClassSet.depth : ClassSet → Nat
  | .bracketed _ inner => inner.depth + 1
  | .union [] => 0
  | .union items => classDepth items + 1
  | .combined _ left right => max left.depth right.depth + 1
  | _ => 0

/-- The greatest depth among items. -/
def classDepth : List ClassSet → Nat
  | [] => 0
  | item :: rest => max item.depth (classDepth rest)

end

mutual

/-- How deeply groups, repetitions, alternations, sequences and classes are nested. -/
def depth : Regex → Nat
  | .bracketed _ inner => inner.depth + 1
  | .repetition _ _ operand => operand.depth + 1
  | .group _ _ inner => inner.depth + 1
  | .alternation branches => listDepth branches + 1
  | .concat parts => listDepth parts + 1
  | _ => 0

/-- The greatest depth among expressions. -/
def listDepth : List Regex → Nat
  | [] => 0
  | part :: rest => max part.depth (listDepth rest)

end

end Regex

end GrammarRules
