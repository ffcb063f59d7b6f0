import LintRepair.Path.Scope
import LintRepair.Tree.Access

/-!
Changing one file of a tree. All edits of sources go through `patch`, which
stays inside the scope and writes only what differs.
-/

namespace LintRepair

inductive Outcome where
  /-- The content differed and was written. -/
  | changed
  /-- The edit gives the same content. -/
  | unchanged
  /-- The edit does not find what it looks for. -/
  | noMatch
  /-- The file is out of scope or cannot be read as text. A failed write counts here too, but in a
  tree no write fails after a read of the same file. -/
  | skipped
  deriving DecidableEq, Repr

def Outcome.name : Outcome → String
  | changed => "changed"
  | unchanged => "unchanged"
  | noMatch => "no-match"
  | skipped => "skipped"

/-- One try to change the file at a resolved path. -/
structure Attempt where
  target : Path
  outcome : Outcome
  deriving DecidableEq, Repr

/-- The text of the file at a path. -/
def Node.readText? (tree : Node) (path : Path) : Option String :=
  match tree.read [] path with
  | .ok bytes => String.fromUTF8? bytes
  | .error _ => none

/-- Tries to change the file at a path. What can be read of a tree can be written, so the last fault
does not occur here; a disk with permissions would give it. -/
def patch (scope : Scope) (tree : Node) (path : Path) (edit : String → Option String) :
    Attempt × Node :=
  let target := scope.resolve path
  if !scope.admits target then (⟨target, .skipped⟩, tree)
  else
    match tree.readText? target with
    | none => (⟨target, .skipped⟩, tree)
    | some content =>
      match edit content with
      | none => (⟨target, .noMatch⟩, tree)
      | some updated =>
        if updated = content then (⟨target, .unchanged⟩, tree)
        else
          match tree.write [] target updated.toUTF8 with
          | .ok tree => (⟨target, .changed⟩, tree)
          | .error _ => (⟨target, .skipped⟩, tree)

end LintRepair
