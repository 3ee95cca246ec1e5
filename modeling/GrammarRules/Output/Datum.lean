/-!
# Data to be written out

A `Datum` is what the formats for compiled rules have in common: numbers, texts, names from a fixed
list, optional values, lists, records with known fields and maps with arbitrary keys.  An optional
value that is missing is left out together with its field, so there is a constructor only for one
that is present.
-/

namespace GrammarRules

/-- A value as the output formats see it. -/
inductive Datum where
  | bool (value : Bool)
  | int (value : Int)
  | text (value : String)
  /-- One of a fixed list of names. -/
  | name (value : String)
  /-- An optional value that is present. -/
  | present (value : Datum)
  | list (items : List Datum)
  | record (fields : List (String × Datum))
  | map (entries : List (String × Datum))
deriving Inhabited

namespace Datum

/-- The number of an index or a count. -/
def nat (n : Nat) : Datum := .int n

/-- A field that is left out if its value is missing. -/
def optional {α : Type} (field : String) (value : Option α) (datum : α → Datum) :
    List (String × Datum) :=
  match value with
  | some value => [(field, .present (datum value))]
  | none => []

/-- A field that is left out if its list is empty. -/
def nonempty {α : Type} (field : String) (items : List α) (datum : α → Datum) :
    List (String × Datum) :=
  if items.isEmpty then [] else [(field, .list (items.map datum))]

end Datum

/-- Whether to spread a value over several lines. -/
inductive Layout where
  | compact
  | pretty
deriving DecidableEq, Inhabited

namespace Layout

/-- The start of a new line `depth` levels in, for levels of `width` spaces. -/
def newline (layout : Layout) (width depth : Nat) : String :=
  match layout with
  | .compact => ""
  | .pretty => "\n" ++ String.ofList (List.replicate (width * depth) ' ')

/-- The space after a colon. -/
def gap : Layout → String
  | .compact => ""
  | .pretty => " "

end Layout

end GrammarRules
