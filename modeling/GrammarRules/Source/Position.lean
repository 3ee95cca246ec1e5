/-!
# Positions in a source

A `Position` is a line and a column, both counted from one, with the byte offset they came from.
Line zero is no line: such a position, `Position.unknown`, stands for a place that is not known.
A `Span` runs from one position to another.
-/

namespace GrammarRules

/-- A place in a source text. -/
structure Position where
  line : Nat
  column : Nat
  offset : Nat := 0
deriving DecidableEq, Inhabited

namespace Position

/-- The position of something that has no place in a source. -/
def unknown : Position := ⟨0, 0, 0⟩

/-- Whether the position is no place at all. -/
def isUnknown (p : Position) : Bool := p.line == 0

/-- Line and column with a colon between them. -/
def text (p : Position) : String := s!"{p.line}:{p.column}"

end Position

/-- The stretch from `start` up to `stop`. -/
structure Span where
  start : Position
  stop : Position
deriving DecidableEq, Inhabited

namespace Span

/-- The span of no width at a position. -/
def point (p : Position) : Span := ⟨p, p⟩

/-- Whether the span has no place in a source. -/
def isUnknown (s : Span) : Bool := s.start.isUnknown

/-- Both ends in brackets. -/
def text (s : Span) : String := s!"[{s.start.text} - {s.stop.text}]"

end Span

end GrammarRules
