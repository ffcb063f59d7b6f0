import LintRepair.Path.Scope
import LintRepair.Tree.Access

/-!
Walking a file tree for source files.
-/

namespace LintRepair

/-- What makes a file a source file. -/
structure SourceFilter where
  extensions : List String
  exclude : List String

namespace SourceFilter

/-- What stands behind the last dot of a name, unless the name has no other dot and starts with
it. -/
def extension? (name : String) : Option String :=
  let reversed := name.toList.reverse
  match reversed.dropWhile (· ≠ '.') with
  | _ :: _ :: _ => some (.ofList (reversed.takeWhile (· ≠ '.')).reverse)
  | _ => none

/-- Is the extension of this name one of those wanted, which may be written with leading dots? -/
def wants (f : SourceFilter) (name : String) : Bool :=
  match extension? name with
  | none => false
  | some extension => f.extensions.any fun wanted => wanted.toList.dropWhile (· == '.') == extension.toList

/-- Is what has these names below the root left out of the walk? -/
def prunes (f : SourceFilter) (below : List String) : Bool :=
  below.getLast? == some ".git" ||
    f.exclude.any fun entry =>
      !entry.isEmpty && occursIn entry.toList (String.intercalate "/" below).toList

end SourceFilter

namespace Node

mutual

/-- The names below the root of every source file at or under a node. Links are neither listed nor
followed, and nothing under a node that is left out is looked at. -/
def sources (f : SourceFilter) (below : List String) : Node → List (List String)
  | .file _ => if below.getLast?.any f.wants then [below] else []
  | .link _ => []
  | .dir entries => sourcesIn f below entries

def sourcesIn (f : SourceFilter) (below : List String) :
    List (String × Node) → List (List String)
  | [] => []
  | (name, node) :: entries =>
    (if f.prunes (below ++ [name]) then [] else sources f (below ++ [name]) node) ++
      sourcesIn f below entries

end

/-- The order of the walk's answer: by names, from the root down. -/
def namesLe : List String → List String → Bool
  | [], _ => true
  | _ :: _, [] => false
  | a :: as, b :: bs => if a == b then namesLe as bs else a < b

/-- The source files under a directory by their names below it, in ascending order. A root that is
itself a file is its own only source file, if its extension is wanted and it is no link. -/
def sourceFiles (tree : Node) (root : Path) (f : SourceFilter) : List Path :=
  match tree.locate [] root with
  | .error _ => []
  | .ok place =>
    match tree.at? place with
    | some (.file _) =>
      if root.fileName?.any f.wants && !tree.isLink [] root then [root] else []
    | some node =>
      ((node.sources f []).mergeSort namesLe).map fun below =>
        root.join ⟨String.intercalate "/" below⟩
    | none => []

end Node

end LintRepair
