/-!
File trees as values. A place in a tree is the list of names that lead to it.

A tree has no owners, permissions or limits, and no device below it that could fail.
So access to it is refused only for what the tree holds, and a file that can be read
can be written.
-/

namespace LintRepair

inductive Node where
  | file (bytes : ByteArray)
  | link (target : String)
  | dir (entries : List (String × Node))
  deriving Inhabited

namespace Node

def child? (n : Node) (name : String) : Option Node :=
  match n with
  | .dir entries => entries.lookup name
  | _ => none

def at? (n : Node) : List String → Option Node
  | [] => some n
  | name :: place => (n.child? name).bind (·.at? place)

/-- Replaces the entry with this name, or adds it. -/
def setEntry (name : String) (new : Node) : List (String × Node) → List (String × Node)
  | [] => [(name, new)]
  | entry :: entries =>
    if entry.1 == name then (name, new) :: entries else entry :: setEntry name new entries

/-- Puts `new` at a place. Directories on the way have to be there. -/
def put (n : Node) (place : List String) (new : Node) : Node :=
  match place with
  | [] => new
  | name :: place =>
    match n with
    | .dir entries =>
      match place, entries.lookup name with
      | [], _ => .dir (setEntry name new entries)
      | place, some child => .dir (setEntry name (child.put place new) entries)
      | _, none => .dir entries
    | other => other

/-- Takes away what is at a place. -/
def erase (n : Node) (place : List String) : Node :=
  match place with
  | [] => n
  | name :: place =>
    match n with
    | .dir entries =>
      match place, entries.lookup name with
      | [], _ => .dir (entries.filter (·.1 != name))
      | place, some child => .dir (setEntry name (child.erase place) entries)
      | _, none => .dir entries
    | other => other

/-- The bytes of the file at a place. -/
def bytesAt? (n : Node) (place : List String) : Option ByteArray :=
  match n.at? place with
  | some (.file bytes) => some bytes
  | _ => none

end Node

end LintRepair
