import GrammarRules.Regex.Parser
import GrammarRules.Regex.Property

/-!
# Valid regular expressions

A pattern that can be parsed still has a fault if it asks for a property that is not known, if it
could match a part of a character, or if it is too large.  Only outside of Unicode mode can a class
hold bytes, and then a text stays whole only as long as every class keeps to ASCII; a class that is
negated never does.  `Regex.fault?` puts these checks together.
-/

namespace GrammarRules.Regex

/-! ## Unicode mode -/

/-- Whether Unicode mode is on after flags. -/
def FlagList.unicodeMode (given : FlagList) (unicode : Bool) : Bool :=
  (given.setting? .unicode).getD unicode

/-- A property must be known, and there are none outside of Unicode mode. -/
def PropertyQuery.check (query : PropertyQuery) (unicode : Bool) : Except RegexFault Unit :=
  if !unicode then .error .unicodeNotAllowed
  else if query.size?.isSome then .ok ()
  else .error .unknownProperty

/-- Outside of Unicode mode a literal beyond ASCII may not be written as a byte. -/
def Literal.check (literal : Literal) (unicode : Bool) : Except RegexFault Unit :=
  if !unicode && literal.isByte && literal.char.toNat ≥ 128 then .error .invalidUtf8 else .ok ()

/-- In a class outside of Unicode mode a literal must be in ASCII. -/
def Literal.checkInClass (literal : Literal) (unicode : Bool) : Except RegexFault Unit :=
  if unicode || literal.char.toNat < 128 then .ok ()
  else if literal.isByte then .error .invalidUtf8
  else .error .unicodeNotAllowed

/-- A negated class has characters beyond ASCII and needs Unicode mode. -/
def checkNegation (negated unicode : Bool) : Except RegexFault Unit :=
  if negated && !unicode then .error .invalidUtf8 else .ok ()

mutual

/-- The first fault in the content of a class. -/
def ClassSet.check (unicode : Bool) : ClassSet → Except RegexFault Unit
  | .literal single => single.checkInClass unicode
  | .range low high => do
    low.checkInClass unicode
    high.checkInClass unicode
  | .ascii _ negated => checkNegation negated unicode
  | .property query _ => query.check unicode
  | .perl _ negated => checkNegation negated unicode
  | .bracketed negated inner => do
    inner.check unicode
    checkNegation negated unicode
  | .union items => checkItems unicode items
  | .combined _ left right => do
    left.check unicode
    right.check unicode

/-- The first fault in the items of a class. -/
def checkItems (unicode : Bool) : List ClassSet → Except RegexFault Unit
  | [] => .ok ()
  | item :: rest => do
    item.check unicode
    checkItems unicode rest

end

mutual

/-- The first fault of an expression, or whether Unicode mode is on after it. -/
def check (unicode : Bool) : Regex → Except RegexFault Bool
  | .empty | .assertion => .ok unicode
  | .flags given => .ok (FlagList.unicodeMode given unicode)
  | .literal single => do
    single.check unicode
    return unicode
  | .dot => if unicode then .ok unicode else .error .invalidUtf8
  | .property query _ => do
    query.check unicode
    return unicode
  | .perl _ negated => do
    checkNegation negated unicode
    return unicode
  | .bracketed negated inner => do
    inner.check unicode
    checkNegation negated unicode
    return unicode
  | .repetition _ _ operand => operand.check unicode
  | .group given _ inner => do
    let _ ← inner.check (FlagList.unicodeMode given unicode)
    return unicode
  | .alternation branches => checkInOrder unicode branches
  | .concat parts => checkInOrder unicode parts

/-- The first fault of expressions one after the other. -/
def checkInOrder (unicode : Bool) : List Regex → Except RegexFault Bool
  | [] => .ok unicode
  | part :: rest => do
    let unicode ← part.check unicode
    checkInOrder unicode rest

end

/-! ## Size -/

/-- The size of a step over one byte. -/
def stepSize : Nat := 32

/-- The size of the set of nearly all characters. -/
def wideSetSize : Nat := 1000

/-- The size of a class with a letter of its own. -/
def PerlClass.size (kind : PerlClass) (negated : Bool) : Nat :=
  match kind, negated with
  | .digit, false => 4812
  | .digit, true => 12036
  | .space, false => 680
  | .space, true => 1924
  | .word, false => 49696
  | .word, true => 46176

/-- The size of a set with this inner size, which is negated or not. -/
def negatedSize (negated : Bool) (size : Nat) : Nat :=
  if negated then size + wideSetSize else size

mutual

/-- About the size of the content of a class. -/
def ClassSet.size : ClassSet → Nat
  | .literal single => single.char.utf8Size * stepSize
  | .range low high => if high.char.toNat < 128 then 8 else stepSize * (low.char.utf8Size + 4)
  | .ascii _ negated => negatedSize negated 64
  | .property query _ => query.size?.getD 0
  | .perl kind negated => kind.size negated
  | .bracketed negated inner => negatedSize negated inner.size
  | .union items => itemsSize items
  | .combined _ left right => left.size + right.size

/-- About the size of the items of a class. -/
def itemsSize : List ClassSet → Nat
  | [] => 0
  | item :: rest => item.size + itemsSize rest

end

mutual

/-- Whether an expression matches no more than the empty text. -/
def isZeroWidth : Regex → Bool
  | .empty | .flags _ | .assertion => true
  | .repetition _ high operand => high == some 0 || operand.isZeroWidth
  | .group _ _ inner => inner.isZeroWidth
  | .alternation branches => allZeroWidth branches
  | .concat parts => allZeroWidth parts
  | _ => false

/-- Whether expressions match no more than the empty text. -/
def allZeroWidth : List Regex → Bool
  | [] => true
  | part :: rest => part.isZeroWidth && allZeroWidth rest

end

/-- The size of a repetition with an operand of this size: a copy of the operand for every time it
is repeated at most, or at least if there is no limit, and a choice before every copy that may be
left out. -/
def repetitionSize (low : Nat) (high : Option Nat) (size : Nat) : Nat :=
  match high with
  | some high => low * size + (high - low) * (size + 40)
  | none => max low 1 * size + 40

mutual

/-- About the number of bytes that an expression takes when it is compiled. -/
def size : Regex → Nat
  | .empty | .flags _ => 0
  | .literal single => single.char.utf8Size * stepSize
  | .dot => wideSetSize
  | .assertion => stepSize
  | .property query _ => query.size?.getD 0
  | .perl kind negated => kind.size negated
  | .bracketed negated inner => stepSize + negatedSize negated inner.size
  | .repetition low high operand =>
    if operand.isZeroWidth then operand.size else repetitionSize low high operand.size
  | .group _ captures inner => inner.size + if captures then 2 * stepSize else 0
  | .alternation branches => totalSize branches + stepSize
  | .concat parts => totalSize parts

/-- About the number of bytes that expressions take together. -/
def totalSize : List Regex → Nat
  | [] => 0
  | part :: rest => part.size + totalSize rest

end

/-- The greatest size of an expression: ten mebibytes. -/
def sizeLimit : Nat := 10485760

/-! ## All checks -/

/-- Parse a pattern and check it. -/
def validate (pattern : String) : Except RegexFault Unit := do
  let regex ← parse pattern
  let _ ← regex.check true
  if regex.size > sizeLimit then .error .tooLarge else .ok ()

/-- What is wrong with a pattern in words, if anything is. -/
def fault? (pattern : String) : Option String :=
  match validate pattern with
  | .ok _ => none
  | .error fault => some fault.message

end GrammarRules.Regex
