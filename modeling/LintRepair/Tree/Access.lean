import LintRepair.Path.Basic
import LintRepair.Tree.Basic

/-!
Access to a file tree by path, following symbolic links.
-/

namespace LintRepair

/-- Why the file system refuses. -/
inductive Fault where
  | noEntry
  | alreadyThere
  | notDirectory
  | isDirectory
  | notEmpty
  | tooManyLinks
  | invalid
  deriving DecidableEq, Repr

namespace Fault

def number : Fault → Nat
  | noEntry => 2
  | alreadyThere => 17
  | notDirectory => 20
  | isDirectory => 21
  | invalid => 22
  | notEmpty => 39
  | tooManyLinks => 40

def text : Fault → String
  | noEntry => "No such file or directory"
  | alreadyThere => "File exists"
  | notDirectory => "Not a directory"
  | isDirectory => "Is a directory"
  | invalid => "Invalid argument"
  | notEmpty => "Directory not empty"
  | tooManyLinks => "Too many levels of symbolic links"

def message (f : Fault) : String := s!"{f.text} (os error {f.number})"

end Fault

/-- Where a path leads: to something that is there, or to a free name in a directory. -/
inductive Spot where
  | taken (place : List String)
  | free (directory : List String) (name : String)
  deriving DecidableEq, Repr

/-- One move in a tree. A trailing slash stays, in a directory. -/
inductive Move where
  | stay
  | up
  | down (name : String)
  deriving DecidableEq, Repr

namespace Move

def ofPiece? (piece : List Char) : Option Move :=
  if piece.isEmpty then none
  else if piece = ['.'] then some stay
  else if piece = ['.', '.'] then some up
  else some (down (.ofList piece))

def ofText (text : String) : List Move :=
  let pieces := Path.pieces text.toList
  pieces.filterMap ofPiece? ++ if pieces.length > 1 && pieces.getLast?.any List.isEmpty then [stay] else []

end Move

namespace Node

/-- How many links one look-up follows. -/
def linkLimit : Nat := 40

/-- Follows moves from a place. `followLast` tells whether a link in the last position is
followed too. -/
def follow (tree : Node) (followLast : Bool) (links : Nat) (place : List String) :
    List Move → Except Fault Spot
  | [] => .ok (.taken place)
  | .stay :: rest =>
    match tree.at? place with
    | some (.dir _) => follow tree followLast links place rest
    | _ => .error .notDirectory
  | .up :: rest =>
    match tree.at? place with
    | some (.dir _) => follow tree followLast links place.dropLast rest
    | _ => .error .notDirectory
  | .down name :: rest =>
    match tree.at? place with
    | some (.dir entries) =>
      match entries.lookup name with
      | none => if rest.isEmpty then .ok (.free place name) else .error .noEntry
      | some (.link target) =>
        if rest.isEmpty && !followLast then .ok (.taken (place ++ [name]))
        else
          match links with
          | 0 => .error .tooManyLinks
          | links + 1 =>
            let start := if (Path.mk target).isAbsolute then [] else place
            follow tree followLast links start (Move.ofText target ++ rest)
      | some _ => follow tree followLast links (place ++ [name]) rest
    | _ => .error .notDirectory
termination_by moves => (links, moves.length)

/-- Where a path leads, seen from a directory. -/
def spot (tree : Node) (followLast : Bool) (directory : List String) (path : Path) :
    Except Fault Spot :=
  if path.text.isEmpty then .error .noEntry
  else
    let start := if path.isAbsolute then [] else directory
    tree.follow followLast linkLimit start (Move.ofText path.text)

/-- The place of what is there. -/
def locate (tree : Node) (directory : List String) (path : Path) : Except Fault (List String) :=
  match tree.spot true directory path with
  | .ok (.taken place) => .ok place
  | .ok (.free _ _) => .error .noEntry
  | .error fault => .error fault

def pathExists (tree : Node) (directory : List String) (path : Path) : Bool :=
  (tree.locate directory path).toBool

def isDirectory (tree : Node) (directory : List String) (path : Path) : Bool :=
  match tree.locate directory path with
  | .ok place => match tree.at? place with
    | some (.dir _) => true
    | _ => false
  | .error _ => false

/-- Is the path itself a link, wherever that leads? -/
def isLink (tree : Node) (directory : List String) (path : Path) : Bool :=
  match tree.spot false directory path with
  | .ok (.taken place) => match tree.at? place with
    | some (.link _) => true
    | _ => false
  | _ => false

/-- The absolute path without links of what is there. -/
def canonicalize (tree : Node) (directory : List String) (path : Path) : Except Fault Path :=
  (tree.locate directory path).map fun place => .ofComponents (.root :: place.map .name)

def read (tree : Node) (directory : List String) (path : Path) : Except Fault ByteArray :=
  match tree.locate directory path with
  | .error fault => .error fault
  | .ok place =>
    match tree.at? place with
    | some (.file bytes) => .ok bytes
    | some (.dir _) => .error .isDirectory
    | _ => .error .noEntry

/-- Makes `bytes` the content of a file, which is made if it is not there. The faults are those of
the path; a file that is there takes any bytes. -/
def write (tree : Node) (directory : List String) (path : Path) (bytes : ByteArray) :
    Except Fault Node :=
  match tree.spot true directory path with
  | .error fault => .error fault
  | .ok (.free parent name) => .ok (tree.put (parent ++ [name]) (.file bytes))
  | .ok (.taken place) =>
    match tree.at? place with
    | some (.dir _) => .error .isDirectory
    | _ => .ok (tree.put place (.file bytes))

end Node

end LintRepair
