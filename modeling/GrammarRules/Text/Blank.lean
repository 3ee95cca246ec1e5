/-!
# White space

`isBlank` is the Unicode property `White_Space`.  Everything a rule author writes between tags is
read through three functions built on it: `trim` removes the blanks at both ends, `words` cuts a
text into its maximal blank-free pieces, and `collapse` writes those pieces back with one space
between neighbours.
-/

namespace GrammarRules.Text

/-- The Unicode property `White_Space`. -/
def isBlank (c : Char) : Bool :=
  let n := c.toNat
  (0x9 ≤ n && n ≤ 0xD) || n == 0x20 || n == 0x85 || n == 0xA0 || n == 0x1680 ||
    (0x2000 ≤ n && n ≤ 0x200A) || n == 0x2028 || n == 0x2029 || n == 0x202F || n == 0x205F ||
    n == 0x3000

theorem isBlank_space : isBlank ' ' = true := rfl

/-! ## Trimming -/

/-- Drop the longest suffix whose members all satisfy `p`. -/
def dropWhileEnd (p : Char → Bool) (cs : List Char) : List Char :=
  (cs.reverse.dropWhile p).reverse

/-- The text without blanks at its end. -/
def trimEnd (s : String) : String :=
  String.ofList (dropWhileEnd isBlank s.toList)

/-- The text without blanks at its two ends. -/
def trim (s : String) : String :=
  String.ofList (dropWhileEnd isBlank (s.toList.dropWhile isBlank))

/-- Nothing but blanks, or nothing at all. -/
def isAllBlank (s : String) : Bool := s.toList.all isBlank

/-! ## Words -/

/-- The maximal blank-free pieces of a text, in order. -/
def words : List Char → List (List Char)
  | [] => []
  | c :: cs =>
    if isBlank c then words cs
    else
      match cs.head?.all isBlank, words cs with
      | false, w :: ws => (c :: w) :: ws
      | _, ws => [c] :: ws

/-- Pieces joined by a single space. -/
def unwords : List (List Char) → List Char
  | [] => []
  | [w] => w
  | w :: ws => w ++ ' ' :: unwords ws

/-- Every run of blanks becomes one space, and none is left at the ends. -/
def collapse (s : String) : String := String.ofList (unwords (words s.toList))

theorem words_nil : words [] = [] := rfl

theorem words_blank {c : Char} (h : isBlank c = true) (cs : List Char) :
    words (c :: cs) = words cs := by
  simp [words, h]

end GrammarRules.Text
