import GrammarRules.Command.Run

/-!
# The command line

The program on the files of the machine it runs on.
-/

namespace GrammarRules

/-- A fault of the file system as a fault of a file. -/
def FileError.ofSystem : IO.Error → FileError
  | .noFileOrDirectory _ _ _ => .notFound
  | .inappropriateType _ code details =>
    if code = 20 then .notDirectory
    else if code = 21 then .isDirectory
    else .other details
  | error => .other (toString error)

/-- The names in a directory entry.  Links are not followed. -/
partial def treeOfEntry (entry : IO.FS.DirEntry) : IO FileTree := do
  match (← entry.path.symlinkMetadata).type with
  | .file => return .file
  | .dir =>
    let children ← (← entry.path.readDir).toList.mapM fun child => do
      return (child.fileName, ← treeOfEntry child)
    return .directory children
  | _ => return .other

/-- What stands at a path. -/
def lookAt (path : String) : IO (Option FileTree) := do
  try
    let place ← IO.FS.realPath path
    match (← place.metadata).type with
    | .file => return some .file
    | .dir =>
      let children ← (← place.readDir).toList.mapM fun child => do
        return (child.fileName, ← treeOfEntry child)
      return some (.directory children)
    | _ => return some .other
  catch _ => return none

/-- The files of the machine. -/
def machineFiles : FileAccess IO where
  look := lookAt
  read path := do
    try
      match String.fromUTF8? (← IO.FS.readBinFile path) with
      | some text => return .ok text
      | none => return .error .notText
    catch error => return .error (.ofSystem error)
  write path text := do
    try
      IO.FS.writeFile path text
      return .ok ()
    catch error => return .error (.ofSystem error)

end GrammarRules

/-- Run the program. -/
def main (arguments : List String) : IO UInt32 := do
  let environment : GrammarRules.Environment :=
    { xdgConfigHome := ← IO.getEnv "XDG_CONFIG_HOME"
      home := ← IO.getEnv "HOME"
      appData := ← IO.getEnv "APPDATA" }
  let colors ← (← IO.getStderr).isTty
  let outcome ← GrammarRules.runCommand GrammarRules.machineFiles environment colors arguments
  IO.eprint outcome.stderr
  IO.print outcome.stdout
  return outcome.exitCode.toUInt32
