import GrammarRules.Files.Access
import GrammarRules.Table

/-!
# Disks in memory

A `Disk` is a directory whose files are at hand.  `Disk.access` makes it the place where files are
kept, for programs that are run without touching any other.  Paths lead from that directory; there
is nothing above it.
-/

namespace GrammarRules

/-- A file or a directory. -/
inductive DiskNode where
  | file (content : ByteArray)
  | directory (children : List (String × DiskNode))
deriving Inhabited

/-- The entries of the directory that paths start from. -/
structure Disk where
  children : List (String × DiskNode) := []
deriving Inhabited

namespace DiskNode

mutual

/-- The names in a node. -/
def tree : DiskNode → FileTree
  | .file _ => .file
  | .directory children => .directory (childTrees children)

/-- The names in each child of a directory. -/
def childTrees : List (String × DiskNode) → List (String × FileTree)
  | [] => []
  | (name, node) :: rest => (name, node.tree) :: childTrees rest

end

/-- The node at the end of a path. -/
def find? (node : DiskNode) : List String → Except FileError DiskNode
  | [] => .ok node
  | name :: path =>
    match node with
    | file _ => .error .notDirectory
    | directory children =>
      match children.lookup name with
      | some child => child.find? path
      | none => .error .notFound

/-- Put a file at the end of a path, where a file or nothing may stand before. -/
def put (content : ByteArray) : List String → DiskNode → Except FileError DiskNode
  | _, file _ => .error .notDirectory
  | [], directory _ => .error .isDirectory
  | [name], directory children =>
    match children.lookup name with
    | some (directory _) => .error .isDirectory
    | _ => .ok (directory (Table.insertEntry name (file content) children))
  | name :: path, directory children =>
    match children.lookup name with
    | none => .error .notFound
    | some child => do
      let changed ← put content path child
      return directory (Table.insertEntry name changed children)

/-- Make the directories of a path that are not there. -/
def makeDirectory : List String → DiskNode → DiskNode
  | [], node => node
  | _, file content => file content
  | name :: path, directory children =>
    let child := (children.lookup name).getD (directory [])
    directory (Table.insertEntry name (makeDirectory path child) children)

end DiskNode

namespace Disk

/-- The directory that paths start from. -/
def root (disk : Disk) : DiskNode := .directory disk.children

/-- The disk whose first directory is this node. -/
def ofRoot : DiskNode → Disk
  | .directory children => ⟨children⟩
  | .file _ => {}

/-! ## Paths -/

/-- The names of a path, last first, after those in `above`. -/
def simplify (above : List String) : List String → Option (List String)
  | [] => some above
  | name :: rest =>
    if name = "" ∨ name = "." then simplify above rest
    else if name = ".." then
      match above with
      | [] => none
      | _ :: above => simplify above rest
    else simplify (name :: above) rest

/-- The names that a path leads through, and whether its end must be a directory. -/
def parsePath (path : String) : Except FileError (List String × Bool) :=
  let names := path.splitOn "/"
  if path = "" ∨ names.head? = some "" then .error .notFound
  else
    match simplify [] names with
    | some reversed =>
      .ok (reversed.reverse, [some "", some ".", some ".."].contains names.getLast?)
    | none => .error .notFound

/-! ## Operations -/

/-- The node at a path. -/
def find? (disk : Disk) (path : String) : Except FileError DiskNode := do
  let (names, mustBeDirectory) ← parsePath path
  match ← disk.root.find? names with
  | .file content => if mustBeDirectory then .error .notDirectory else return .file content
  | node => return node

/-- The content of a file. -/
def bytes (disk : Disk) (path : String) : Except FileError ByteArray := do
  match ← disk.find? path with
  | .file content => return content
  | .directory _ => .error .isDirectory

/-- The text of a file. -/
def read (disk : Disk) (path : String) : Except FileError String := do
  match String.fromUTF8? (← disk.bytes path) with
  | some text => return text
  | none => .error .notText

/-- Put a file at a path. -/
def write (disk : Disk) (path : String) (content : ByteArray) : Except FileError Disk := do
  let (names, mustBeDirectory) ← parsePath path
  if mustBeDirectory then .error .isDirectory
  else return ofRoot (← disk.root.put content names)

/-- The disk with a file or, if the path ends in a slash, a directory at a path, and with all
directories that lead to it. -/
def add (disk : Disk) (path : String) (content : ByteArray) : Disk :=
  match parsePath path with
  | .error _ => disk
  | .ok (names, isDirectory) =>
    if isDirectory then ofRoot (disk.root.makeDirectory names)
    else
      let prepared := disk.root.makeDirectory names.dropLast
      match prepared.put content names with
      | .ok root => ofRoot root
      | .error _ => disk

/-- A disk as the place where files are kept. -/
def access : FileAccess (StateM Disk) where
  look path := do return (← get).find? path |>.toOption.map DiskNode.tree
  read path := do return (← get).read path
  write path text := do
    match (← get).write path text.toUTF8 with
    | .ok disk =>
      set disk
      return .ok ()
    | .error error => return .error error

end Disk

end GrammarRules
