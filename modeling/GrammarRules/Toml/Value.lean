import GrammarRules.Table

/-!
# Values of a TOML document

A `TomlValue` keeps what tells values of different types apart, and of texts, integers and Booleans
also the value itself.  A table remembers how it was written, because that decides what may still be
added to it: `TomlValue.updateTable` follows a path of keys and makes the tables on it that are not
there yet.
-/

namespace GrammarRules

/-- What is wrong with a TOML document. -/
inductive TomlError where
  | malformed
  | duplicateKey (key : String)
  | tooDeep
deriving DecidableEq, Inhabited

/-- The fault in words. -/
def TomlError.message : TomlError → String
  | malformed => "not a TOML document"
  | duplicateKey key => s!"duplicate key: {key}"
  | tooDeep => "recursion limit exceeded"

/-- How a table was written. -/
inductive TableOrigin where
  /-- Between braces. -/
  | inline
  /-- As the first part of a key with dots. -/
  | dotted
  /-- As the first part of a header. -/
  | implied
  /-- By a header of its own. -/
  | header
deriving DecidableEq, Inhabited

/-- A value. -/
inductive TomlValue where
  | text (value : String)
  | integer (value : Int)
  | float
  | boolean (value : Bool)
  | datetime
  | array (items : List TomlValue)
  /-- Tables with the same header in double brackets. -/
  | tables (items : List TomlValue)
  | table (origin : TableOrigin) (entries : List (String × TomlValue))
deriving Inhabited

namespace TomlValue

/-- The entries of a table. -/
abbrev Entries := List (String × TomlValue)

/-- What a path of keys belongs to. -/
inductive Route where
  | key
  | header
deriving DecidableEq, Inhabited

/-- The origin of tables that are made on the way. -/
def Route.origin : Route → TableOrigin
  | key => .dotted
  | header => .implied

/-- Whether a path may go through a table.  Keys with dots may not add to a table that has a header
of its own, and nothing adds to a table between braces. -/
def Route.mayEnter : Route → TableOrigin → Bool
  | key, origin => origin == .dotted || origin == .implied
  | header, origin => origin != .inline

/-- Change the table at the end of a path.  A path leads through the last of several tables with the
same header. -/
def updateTable (route : Route)
    (change : TableOrigin → Entries → Except TomlError Entries) :
    List String → TableOrigin → Entries → Except TomlError Entries
  | [], origin, entries => change origin entries
  | key :: path, _, entries => do
    let child ←
      match entries.lookup key with
      | none => (table route.origin) <$> updateTable route change path route.origin []
      | some (table origin inner) =>
        if route.mayEnter origin then (table origin) <$> updateTable route change path origin inner
        else .error (.duplicateKey key)
      | some (tables items) =>
        match items.getLast? with
        | some (table origin inner) =>
          (fun last => tables (items.dropLast ++ [table origin last])) <$>
            updateTable route change path origin inner
        | _ => .error (.duplicateKey key)
      | some _ => .error (.duplicateKey key)
    return Table.insertEntry key child entries

/-- Put a value under a key that is new.  The parts of a key with dots before the last one must all
be tables written that way. -/
def assign (path : List String) (value : TomlValue) (origin : TableOrigin) (entries : Entries) :
    Except TomlError Entries :=
  match path.reverse with
  | [] => .error .malformed
  | key :: parents =>
    let add (origin : TableOrigin) (entries : Entries) : Except TomlError Entries :=
      if (origin == .dotted) == parents.isEmpty then .error (.duplicateKey key)
      else if (entries.lookup key).isSome then .error (.duplicateKey key)
      else .ok (entries ++ [(key, value)])
    updateTable .key add parents.reverse origin entries

/-- Begin the table of a header.  It may have been implied before, but not written. -/
def beginTable (path : List String) (entries : Entries) : Except TomlError Entries :=
  match path.reverse with
  | [] => .error .malformed
  | key :: parents =>
    let add (_ : TableOrigin) (entries : Entries) : Except TomlError Entries :=
      match entries.lookup key with
      | none => .ok (entries ++ [(key, table .header [])])
      | some (table .implied inner) => .ok (Table.insertEntry key (table .header inner) entries)
      | some _ => .error (.duplicateKey key)
    updateTable .header add parents.reverse .header entries

/-- Begin one more table of a header in double brackets. -/
def beginTables (path : List String) (entries : Entries) : Except TomlError Entries :=
  match path.reverse with
  | [] => .error .malformed
  | key :: parents =>
    let add (_ : TableOrigin) (entries : Entries) : Except TomlError Entries :=
      match entries.lookup key with
      | none => .ok (entries ++ [(key, tables [table .header []])])
      | some (tables items) =>
        .ok (Table.insertEntry key (tables (items ++ [table .header []])) entries)
      | some _ => .error (.duplicateKey key)
    updateTable .header add parents.reverse .header entries

/-- Put a value under a key in the table that was begun last. -/
def assignIn (current path : List String) (value : TomlValue) (entries : Entries) :
    Except TomlError Entries :=
  updateTable .header (assign path value) current .header entries

end TomlValue

end GrammarRules
