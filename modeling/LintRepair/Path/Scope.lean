import LintRepair.Path.Normal
import LintRepair.Text.Scan

/-!
The part of a file tree that a run may change: what lies at or below a root
and is not excluded.
-/

namespace LintRepair

/-- Does the spelling of `path` below `root` contain an excluded text? A path that is not below
`root` is judged by its whole spelling, and an empty entry excludes nothing. -/
def isExcluded (root path : Path) (exclude : List String) : Bool :=
  let spelling := ((path.below? root).getD path.text).toList
  exclude.any fun entry => !entry.isEmpty && occursIn entry.toList spelling

structure Scope where
  root : Path
  exclude : List String
  deriving Repr

namespace Scope

def ofRoot (root : Path) (exclude : List String) : Scope := ⟨root.normalize, exclude⟩

/-- The normal form of a path as seen from the root. -/
def resolve (s : Scope) (path : Path) : Path :=
  if path.isAbsolute then path.normalize else (s.root.join path).normalize

/-- May the file at this resolved path be changed? -/
def admits (s : Scope) (resolved : Path) : Bool :=
  resolved.startsWith s.root && !isExcluded s.root resolved s.exclude

end Scope

end LintRepair
