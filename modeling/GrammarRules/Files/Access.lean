/-!
# Files

`FileAccess` is what the library asks of the place where files are kept, in any monad: what stands
at a path, the text of a file, and to write a file.  `FileTree` is what stands at a path, down to
the names of all files, and `FileTree.ruleFiles` lists the rule files in it.
-/

namespace GrammarRules

/-- Why a file cannot be read or written. -/
inductive FileError where
  | notFound
  | notDirectory
  | isDirectory
  | notText
  | other (message : String)
deriving DecidableEq, Inhabited

/-- The fault in words. -/
def FileError.message : FileError → String
  | notFound => "No such file or directory (os error 2)"
  | notDirectory => "Not a directory (os error 20)"
  | isDirectory => "Is a directory (os error 21)"
  | notText => "stream did not contain valid UTF-8"
  | other message => message

/-! ## Paths -/

/-- The path of `name` in the directory at `base`.  A path from the root stays as it is. -/
def joinPath (base name : String) : String :=
  if base == "" || name.toList.head? == some '/' then name
  else if base.toList.getLast? == some '/' then base ++ name
  else base ++ "/" ++ name

/-- The last part of a path. -/
def fileName (path : String) : List Char :=
  (path.toList.reverse.takeWhile (· ≠ '/')).reverse

/-- Whether the name of a file ends in `.xml`, after something that comes before it. -/
def isRuleFile (path : String) : Bool :=
  let name := fileName path
  ".xml".toList.isSuffixOf name && name.length > 4

/-! ## Trees -/

/-- What stands at a path. -/
inductive FileTree where
  | file
  | directory (children : List (String × FileTree))
  /-- Something that can be neither read nor entered. -/
  | other
deriving Inhabited

namespace FileTree

/-- Whether it is a file. -/
def isFile : FileTree → Bool
  | file => true
  | _ => false

/-- Put the lists that belong to names in the order of the names, and join them. -/
def inOrder (lists : List (String × List String)) : List String :=
  (lists.mergeSort fun a b => decide (a.1 ≤ b.1)).flatMap Prod.snd

mutual

/-- The rule files of a tree at a path, a directory before what follows it. -/
def ruleFiles (path : String) : FileTree → List String
  | .file => if isRuleFile path then [path] else []
  | .directory children => inOrder (childRuleFiles path children)
  | .other => []

/-- The rule files below each child of a directory. -/
def childRuleFiles (path : String) : List (String × FileTree) → List (String × List String)
  | [] => []
  | (name, tree) :: rest =>
    (name, tree.ruleFiles (joinPath path name)) :: childRuleFiles path rest

end

end FileTree

/-- What the library asks of the place where files are kept. -/
structure FileAccess (m : Type → Type) where
  /-- What stands at a path, if anything does. -/
  look : String → m (Option FileTree)
  /-- The text of a file. -/
  read : String → m (Except FileError String)
  /-- Make a file with this text, or replace its text. -/
  write : String → String → m (Except FileError Unit)

end GrammarRules
