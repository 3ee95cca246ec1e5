import GrammarRules.Source.File

/-!
# Character references

In text and in attribute values `&` begins a reference that runs to the next semicolon: one of the
five named entities, or the number of a character.  `expand` replaces every reference by the
character it stands for, and reports the first that stands for none.  Places are given as byte
offsets into the text that is expanded.
-/

namespace GrammarRules.Markup

/-- Why a number does not refer to a character. -/
inductive CharRefError where
  | sign
  | empty
  | badDigit
  | tooLarge
  | null
  | notACharacter (code : Nat)
deriving DecidableEq, Inhabited

/-- The error in words. -/
def CharRefError.message : CharRefError → String
  | sign => "unexpected number sign"
  | empty => "cannot parse integer from empty string"
  | badDigit => "invalid digit found in string"
  | tooLarge => "number too large to fit in target type"
  | null => "0x0 character is not permitted in XML"
  | notACharacter code => s!"`{code}` is not a valid codepoint"

/-- Why a reference cannot be expanded. -/
inductive EntityError where
  /-- No semicolon between this ampersand and the next one or the end. -/
  | unterminated (start stop : Nat)
  | unknown (start stop : Nat) (name : String)
  | charRef (error : CharRefError)
deriving DecidableEq, Inhabited

/-- The error in words. -/
def EntityError.message : EntityError → String
  | unterminated start stop =>
    s!"Error while escaping character at range {start}..{stop}: Cannot find ';' after '&'"
  | unknown start stop name => s!"at {start}..{stop}: unrecognized entity `{name}`"
  | charRef error => s!"invalid character reference: {error.message}"

/-! ## Numbers of characters -/

/-- What a digit stands for in a base up to sixteen. -/
def radixDigit? (radix : Nat) (c : Char) : Option Nat :=
  let value? :=
    if '0' ≤ c ∧ c ≤ '9' then some (c.toNat - '0'.toNat)
    else if 'a' ≤ c ∧ c ≤ 'f' then some (c.toNat - 'a'.toNat + 10)
    else if 'A' ≤ c ∧ c ≤ 'F' then some (c.toNat - 'A'.toNat + 10)
    else none
  value?.filter (· < radix)

/-- Read digits on from `value`; the first that is no digit or leaves 32 bits decides the error. -/
def radixValue (radix value : Nat) : List Char → Except CharRefError Nat
  | [] => .ok value
  | c :: cs =>
    match radixDigit? radix c with
    | none => .error .badDigit
    | some digit =>
      let next := value * radix + digit
      if next < 4294967296 then radixValue radix next cs else .error .tooLarge

/-- The number of a character reference: decimal, or hexadecimal after an `x`. -/
def charRefNumber (name : List Char) : Except CharRefError Nat :=
  let (radix, digits) :=
    match name with
    | 'x' :: rest => (16, rest)
    | _ => (10, name)
  match digits with
  | [] => .error .empty
  | '+' :: _ | '-' :: _ => .error .sign
  | _ => radixValue radix 0 digits

/-- The character that the number after `#` refers to. -/
def charRef (name : List Char) : Except CharRefError Char := do
  let code ← charRefNumber name
  if code = 0 then .error .null
  else if code.isValidChar then .ok (Char.ofNat code)
  else .error (.notACharacter code)

/-! ## Whole texts -/

/-- The character of a named entity. -/
def namedEntity? (name : List Char) : Option Char :=
  if name = ['l', 't'] then some '<'
  else if name = ['g', 't'] then some '>'
  else if name = ['a', 'm', 'p'] then some '&'
  else if name = ['a', 'p', 'o', 's'] then some '\x27'
  else if name = ['q', 'u', 'o', 't'] then some '"'
  else none

/-- The character for what stands between an ampersand at byte `start` and its semicolon. -/
def entity (start : Nat) (name : List Char) : Except EntityError Char :=
  match name with
  | '#' :: number => (charRef number).mapError .charRef
  | _ =>
    match namedEntity? name with
    | some c => .ok c
    | none => .error (.unknown (start + 1) (start + 1 + byteLength name) (String.ofList name))

/-- The two characters that matter while a semicolon is looked for. -/
def isEntityMark (c : Char) : Bool := c == '&' || c == ';'

theorem length_dropWhile_le (p : Char → Bool) (cs : List Char) :
    (cs.dropWhile p).length ≤ cs.length := by
  induction cs with
  | nil => simp
  | cons c cs ih =>
    rw [List.dropWhile_cons]
    split <;> simp only [List.length_cons] <;> omega

/-- Expand the references in a text of `length` bytes from byte `offset` on. -/
def expandFrom (length offset : Nat) : List Char → Except EntityError (List Char)
  | [] => .ok []
  | c :: cs =>
    if c = '&' then
      match _h : cs.dropWhile (!isEntityMark ·) with
      | ';' :: rest => do
        let name := cs.takeWhile (!isEntityMark ·)
        let expanded ← entity offset name
        return expanded :: (← expandFrom length (offset + byteLength name + 2) rest)
      | _ => .error (.unterminated offset length)
    else do
      return c :: (← expandFrom length (offset + c.utf8Size) cs)
termination_by cs => cs.length
decreasing_by
  · have h := length_dropWhile_le (!isEntityMark ·) cs
    rw [_h] at h
    simp only [List.length_cons] at h ⊢
    omega
  · simp

/-- The text with every reference replaced by its character. -/
def expand (cs : List Char) : Except EntityError (List Char) := expandFrom (byteLength cs) 0 cs

end GrammarRules.Markup
