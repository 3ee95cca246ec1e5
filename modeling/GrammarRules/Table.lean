/-!
# Insertion-ordered tables

A `Table` maps names to values and remembers the order in which the names first came.  Inserting
under a name that is present replaces its value where it stands.
-/

namespace GrammarRules

/-- Named values in the order in which their names were first inserted. -/
structure Table (α : Type) where
  entries : List (String × α) := []

namespace Table

variable {α β : Type}

instance : Inhabited (Table α) := ⟨{}⟩

/-- The table with no entry. -/
def empty : Table α := {}

/-- The value under a name. -/
def find? (t : Table α) (name : String) : Option α := t.entries.lookup name

/-- Whether a name has a value. -/
def contains (t : Table α) (name : String) : Bool := (t.find? name).isSome

/-- Replace the value of the entry with this name, or put a new entry last. -/
def insertEntry (name : String) (value : α) : List (String × α) → List (String × α)
  | [] => [(name, value)]
  | (key, old) :: rest =>
    if key == name then (key, value) :: rest else (key, old) :: insertEntry name value rest

/-- The table with `value` under `name`. -/
def insert (t : Table α) (name : String) (value : α) : Table α :=
  ⟨insertEntry name value t.entries⟩

/-- The table with a value under `name`: the one it has, or else `value`. -/
def insertIfNew (t : Table α) (name : String) (value : α) : Table α :=
  if t.contains name then t else ⟨t.entries ++ [(name, value)]⟩

/-- The table of the given pairs, inserted from first to last. -/
def ofList (pairs : List (String × α)) : Table α :=
  pairs.foldl (fun t p => t.insert p.1 p.2) empty

/-- The names, in order. -/
def keys (t : Table α) : List String := t.entries.map Prod.fst

/-- Whether there is no entry. -/
def isEmpty (t : Table α) : Bool := t.entries.isEmpty

end Table

end GrammarRules
