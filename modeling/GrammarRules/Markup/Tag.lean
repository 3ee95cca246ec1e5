import GrammarRules.Markup.Entity
import GrammarRules.Markup.Event

/-!
# Start tags

What stands between `<` and `>` of a start tag is a name and a list of attributes, each a key, an
equals sign and a quoted value.  `StartTag.attributes` reads them from left to right and stops at
the first fault.  Places are byte offsets into the content of the tag.
-/

namespace GrammarRules.Markup

/-- The white space of the markup itself. -/
def isSpace (c : Char) : Bool := c == ' ' || c == '\t' || c == '\r' || c == '\n'

/-- Why the attributes of a tag cannot be read. -/
inductive TagError where
  | missingEquals (place : Nat)
  | missingValue (place : Nat)
  | unquotedValue (place : Nat)
  | missingQuote (place : Nat) (quote : Char)
  | duplicate (place previous : Nat)
  | entity (error : EntityError)
deriving DecidableEq, Inhabited

/-- The error in words. -/
def TagError.message : TagError → String
  | missingEquals place =>
    s!"position {place}: attribute key must be directly followed by `=` or space"
  | missingValue place => s!"position {place}: `=` must be followed by an attribute value"
  | unquotedValue place =>
    s!"position {place}: attribute value must be enclosed in `\"` or `'`"
  | missingQuote place quote =>
    s!"position {place}: missing closing quote `{quote}` in attribute value"
  | duplicate place previous =>
    s!"position {place}: duplicated attribute, previous declaration at position {previous}"
  | entity error => error.message

/-- The content of a start tag, cut at the end of the name. -/
structure StartTag where
  name : List Char
  rest : List Char
deriving DecidableEq, Inhabited

/-- The name of a tag ends at the first white space. -/
def StartTag.ofContent (content : List Char) : StartTag :=
  ⟨content.takeWhile (!isSpace ·), content.dropWhile (!isSpace ·)⟩

/-- An attribute as it is written. -/
structure RawAttribute where
  place : Nat
  key : List Char
  value : List Char
deriving DecidableEq, Inhabited

/-- A text and the byte offset at which it begins. -/
structure Placed where
  place : Nat
  chars : List Char

/-- Move over the longest part whose characters all satisfy `p`. -/
def Placed.skip (p : Char → Bool) (text : Placed) : Placed :=
  ⟨text.place + byteLength (text.chars.takeWhile p), text.chars.dropWhile p⟩

theorem Placed.length_skip_le (p : Char → Bool) (text : Placed) :
    (text.skip p).chars.length ≤ text.chars.length :=
  length_dropWhile_le p text.chars

/-- The equals sign after a key that ends at the head of `text`; the result is what follows it. -/
def equalsSign (text : Placed) : Except TagError Placed :=
  let text := text.skip isSpace
  match text.chars with
  | '=' :: cs => .ok ⟨text.place + 1, cs⟩
  | _ => .error (.missingEquals text.place)

/-- The quoted value that `text` begins with, and what follows its closing quote. -/
def quotedValue (text : Placed) : Except TagError (List Char × Placed) :=
  let text := text.skip isSpace
  match text.chars with
  | [] => .error (.missingValue text.place)
  | c :: cs =>
    if c = '"' ∨ c = '\x27' then
      let value := cs.takeWhile (· ≠ c)
      match cs.dropWhile (· ≠ c) with
      | _ :: rest => .ok (value, ⟨text.place + 2 + byteLength value, rest⟩)
      | [] => .error (.missingQuote (text.place + 1 + byteLength cs) c)
    else .error (.unquotedValue text.place)

/-- The attribute at the head of `text`, of which `first` is the first character of the key. -/
def rawAttribute (seen : List RawAttribute) (first : Char) (text : Placed) :
    Except TagError (RawAttribute × Placed) := do
  let inKey (c : Char) : Bool := !(c == '=' || isSpace c)
  let place := text.place - first.utf8Size
  let key := first :: text.chars.takeWhile inKey
  let afterEquals ← equalsSign (text.skip inKey)
  match seen.find? (·.key == key) with
  | some previous => .error (.duplicate place previous.place)
  | none => do
    let (value, rest) ← quotedValue afterEquals
    return (⟨place, key, value⟩, rest)

theorem equalsSign_length {text rest : Placed} (h : equalsSign text = .ok rest) :
    rest.chars.length ≤ text.chars.length := by
  unfold equalsSign at h
  have hs := text.length_skip_le isSpace
  dsimp only at h
  split at h
  next cs hcs =>
    cases h
    rw [hcs] at hs
    simp only [List.length_cons] at hs ⊢
    omega
  next => cases h

theorem quotedValue_length {text rest : Placed} {value : List Char}
    (h : quotedValue text = .ok (value, rest)) : rest.chars.length ≤ text.chars.length := by
  unfold quotedValue at h
  have hs := text.length_skip_le isSpace
  dsimp only at h
  split at h
  next => cases h
  next c cs hcs =>
    split at h
    next =>
      split at h
      next d more hd =>
        cases h
        have hq := length_dropWhile_le (fun x => decide (x ≠ c)) cs
        rw [hcs] at hs
        rw [hd] at hq
        simp only [List.length_cons] at hs hq ⊢
        omega
      next => cases h
    next => cases h

theorem rawAttribute_length {seen : List RawAttribute} {first : Char} {text rest : Placed}
    {attr : RawAttribute} (h : rawAttribute seen first text = .ok (attr, rest)) :
    rest.chars.length ≤ text.chars.length := by
  unfold rawAttribute at h
  simp only [bind, Except.bind, pure, Except.pure] at h
  split at h
  next => cases h
  next after hafter =>
    split at h
    next => cases h
    next =>
      split at h
      next => cases h
      next pair hpair =>
        cases h
        have h₁ := equalsSign_length hafter
        have h₂ := quotedValue_length hpair
        have h₃ := text.length_skip_le fun c => !(c == '=' || isSpace c)
        omega

/-- Read the attributes at the head of `text`, with those before it in `seen`, last first. -/
def readAttributes (seen : List RawAttribute) (attributes : Attributes) (text : Placed) :
    Except TagError Attributes :=
  match _h : (text.skip isSpace).chars with
  | [] => .ok attributes
  | first :: cs =>
    let start : Placed := ⟨(text.skip isSpace).place + first.utf8Size, cs⟩
    match _h' : rawAttribute seen first start with
    | .error error => .error error
    | .ok (attr, rest) =>
      match expand attr.value with
      | .error error => .error (.entity error)
      | .ok value =>
        readAttributes (attr :: seen)
          (attributes.insert (String.ofList attr.key) (String.ofList value)) rest
termination_by text.chars.length
decreasing_by
  have h₁ := text.length_skip_le isSpace
  have h₂ := rawAttribute_length _h'
  rw [_h] at h₁
  simp only [start, List.length_cons] at h₁ h₂
  omega

/-- The attributes of a tag, with the references in their values expanded. -/
def StartTag.attributes (tag : StartTag) : Except TagError Attributes :=
  readAttributes [] Table.empty ⟨byteLength tag.name, tag.rest⟩

end GrammarRules.Markup
