import LintRepair.Tree.Basic

/-!
The files of a tree, and how two trees differ in them.
-/

namespace LintRepair

namespace Node

mutual

/-- All files with their places. -/
def files : Node → List (List String × ByteArray)
  | .file bytes => [([], bytes)]
  | .link _ => []
  | .dir entries => filesOfEntries entries

def filesOfEntries : List (String × Node) → List (List String × ByteArray)
  | [] => []
  | (name, n) :: rest => (n.files.map fun f => (name :: f.1, f.2)) ++ filesOfEntries rest

end

/-- The files that `new` has and `old` has not, or not with this content. -/
def written (old new : Node) : List (List String × ByteArray) :=
  new.files.filter fun f => old.bytesAt? f.1 != some f.2

/-- The places of the files that `old` has and `new` has not. -/
def removed (old new : Node) : List (List String) :=
  (old.files.filter fun f => (new.bytesAt? f.1).isNone).map Prod.fst

/-- Puts a node at a place and makes the directories that lead there. -/
def graft (tree : Node) (place : List String) (new : Node) : Node :=
  let withParents := (List.range place.length).foldl (fun (tree : Node) n =>
    if (tree.at? (place.take n)).isSome then tree else tree.put (place.take n) (.dir [])) tree
  withParents.put place new

end Node

end LintRepair
