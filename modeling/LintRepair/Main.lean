import LintRepair.CommandLine.Run
import LintRepair.Tree.Difference

/-!
The program on the files of a computer: it reads the project into a tree, runs on that, and
writes back what has changed. All commands run in the shell of this library.
-/

namespace LintRepair.Main

open CommandLine

/-- Reads what a directory entry stands for. A link leads to where it ends. -/
partial def load (entry : IO.FS.DirEntry) : IO Node := do
  match (← entry.path.symlinkMetadata).type with
  | .dir =>
    let children ← entry.path.readDir
    return .dir (← children.toList.mapM fun child => return (child.fileName, ← load child))
  | .symlink =>
    try
      return .link (toString (← IO.FS.realPath entry.path))
    catch _ => return .link "/"
  | _ => return .file (← IO.FS.readBinFile entry.path)

/-- The names that lead to an absolute path. -/
def placeOf (path : String) : List String :=
  (Path.mk path).components.filterMap fun
    | .name text => some text
    | _ => none

/-- The path that a request is about. -/
def target : Request → Option Path
  | .fix path | .fixCatch path | .scan path _ | .init path _ => some path
  | .version | .help _ => none

/-- The tree with a directory and what is at a path. -/
def loadTree (directory : String) (path : Path) : IO Node := do
  let tree := (Node.dir []).graft (placeOf directory) (.dir [])
  try
    let real := toString (← IO.FS.realPath path.text)
    let tree := tree.graft (placeOf real) (← load ⟨"/", real⟩)
    if tree.pathExists (placeOf directory) path then return tree
    else
      let spelled := ((Path.mk directory).join path).normalize.text
      return tree.graft (placeOf spelled) (.link real)
  catch _ => return tree

def pathText (place : List String) : String := "/" ++ String.intercalate "/" place

/-- Makes the files of the computer those of a tree. -/
def store (old new : Node) : IO Unit := do
  for place in old.removed new do
    IO.FS.removeFile (pathText place)
  for (place, bytes) in old.written new do
    IO.FS.createDirAll (pathText place.dropLast)
    IO.FS.writeBinFile (pathText place) bytes

def runProgram (args : List String) : IO UInt32 := do
  let directory := toString (← IO.currentDir)
  let path := (readRequest args).bind target
  let tree ← loadTree directory (path.getD ⟨"."⟩)
  let colored := (← IO.getEnv "NO_COLOR").isNone && (← (← IO.getStdout).isTty)
  let outcome := CommandLine.run colored tree (placeOf directory) args
  store tree outcome.tree
  (← IO.getStdout).putStr outcome.stdout
  (← IO.getStderr).putStr outcome.stderr
  return outcome.exit.toUInt32

end LintRepair.Main

def main (args : List String) : IO UInt32 := LintRepair.Main.runProgram args
