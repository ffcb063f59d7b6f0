import LintRepair.Path.Basic

/-!
The normal form of a path: `.` and `..` are resolved by the spelling alone,
without looking at any file tree.
-/

namespace LintRepair.Path

/-- Adds a component to the components so far, the last of which comes first. -/
def pushComponent : List Component → Component → List Component
  | done, .here => done
  | .name _ :: done, .parent => done
  | .root :: done, .parent => .root :: done
  | done, c => c :: done

def normalComponents (components : List Component) : List Component :=
  (components.foldl pushComponent []).reverse

def normalize (p : Path) : Path := ofComponents (normalComponents p.components)

end LintRepair.Path
