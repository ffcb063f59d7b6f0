import LintRepair.Text.Bytes
import LintRepair.Text.Digit
import LintRepair.Tree.Access

/-!
What a utility works on, and what utilities have in common.
-/

namespace LintRepair.Shell

/-- A utility at work. -/
structure Job where
  tree : Node
  directory : List String
  /-- What can be read from the standard input, and how much of it has been. -/
  input : Bytes
  consumed : Nat
  /-- What was printed on which descriptor, last piece first. -/
  printed : List (Nat × Bytes)
  status : Nat

abbrev Work := StateM Job

abbrev Utility := List Bytes → Work Unit

/-- The text of a message. -/
def bytes (s : String) : Bytes := .ofString s

namespace Work

def print (text : Bytes) : Work Unit := modify fun j => { j with printed := (1, text) :: j.printed }

def complain (text : Bytes) : Work Unit :=
  modify fun j => { j with printed := (2, text) :: j.printed }

def exit (status : Nat) : Work Unit := modify fun j => { j with status }

/-- Complains in a line of its own and fails. -/
def fail (status : Nat) (name : String) (message : Bytes) : Work Unit := do
  complain (bytes name ++ bytes ": " ++ message ++ ['\n'])
  exit status

/-- Complains about a use that the utility does not know. -/
def usage (status : Nat) (name : String) (message : Bytes) : Work Unit := do
  fail status name message
  complain (bytes s!"Try '{name} --help' for more information.\n")

def badOption (status : Nat) (name : String) (c : Char) : Work Unit :=
  usage status name (bytes "invalid option -- '" ++ [c] ++ ['\''])

/-- Reads all that is left of the standard input. -/
def readInput : Work Bytes := modifyGet fun j =>
  (j.input.drop j.consumed, { j with consumed := max j.consumed j.input.length })

def toPath (name : Bytes) : Path := ⟨name.toText⟩

/-- How much of a file without end is read. -/
def endlessSize : Nat := 1048576

/-- Reads a file. -/
def readFile (name : Bytes) : Work (Except Fault Bytes) := do
  if name == bytes "/dev/null" then return .ok []
  else if name == bytes "/dev/zero" then return .ok (List.replicate endlessSize '\x00')
  else if name == bytes "/dev/stdin" then return .ok (← readInput)
  else
    let j ← get
    return (j.tree.read j.directory (toPath name)).map .ofArray

/-- Reads a file, or the standard input if its name is a dash. -/
def readOperand (name : Bytes) : Work (Except Fault Bytes) := do
  if name == ['-'] then return .ok (← readInput) else readFile name

/-- Replaces the tree by what a change gives; tells why the change is refused. -/
def change (f : Node → List String → Except Fault Node) : Work (Option Fault) := do
  let j ← get
  match f j.tree j.directory with
  | .ok tree =>
    set { j with tree }
    return none
  | .error fault => return some fault

def writeFile (name content : Bytes) : Work (Option Fault) :=
  if name == bytes "/dev/null" then return none
  else change fun tree directory => tree.write directory (toPath name) content.toArray

end Work

/-! Options. -/

/-- Options with their values, and the operands. -/
structure Options where
  flags : List (Char × Bytes)
  operands : List Bytes

namespace Options

def has (o : Options) (c : Char) : Bool := o.flags.any (·.1 == c)

def value? (o : Options) (c : Char) : Option Bytes := (o.flags.filter (·.1 == c)).getLast?.map Prod.snd

def values (o : Options) (c : Char) : List Bytes := (o.flags.filter (·.1 == c)).map Prod.snd

/-- The letters of one argument. The answer holds the letter that still needs a value. -/
def letters (plain valued : String) : Bytes → Except Char (List (Char × Bytes) × Option Char)
  | [] => .ok ([], none)
  | c :: rest =>
    if valued.toList.contains c then
      if rest.isEmpty then .ok ([], some c) else .ok ([(c, rest)], none)
    else if plain.toList.contains c then
      (letters plain valued rest).map fun (more, open_) => ((c, []) :: more, open_)
    else .error c

/-- Reads options anywhere among the operands. The letters in `valued` take a value. -/
def read (plain valued : String) : List Bytes → Except Char Options
  | [] => .ok ⟨[], []⟩
  | ['-', '-'] :: rest => .ok ⟨[], rest⟩
  | arg :: rest =>
    match arg with
    | '-' :: c :: more =>
      match letters plain valued (c :: more) with
      | .error c => .error c
      | .ok (flags, none) =>
        (read plain valued rest).map fun o => { o with flags := flags ++ o.flags }
      | .ok (flags, some open_) =>
        match rest with
        | value :: rest =>
          (read plain valued rest).map fun o => { o with flags := flags ++ (open_, value) :: o.flags }
        | [] => .error open_
    | _ => (read plain valued rest).map fun o => { o with operands := arg :: o.operands }

end Options

/-- Puts a character in front of lines; the flag tells whether the last one ends in a line
feed. -/
def addToLines (c : Char) : List Bytes × Bool → List Bytes × Bool
  | ([], _) => if c == '\n' then ([[]], true) else ([[c]], false)
  | (line :: lines, ended) =>
    if c == '\n' then ([] :: line :: lines, ended) else ((c :: line) :: lines, ended)

/-- The lines of a text without their line feeds, and whether the last one had one. -/
def linesOf (text : Bytes) : List Bytes × Bool := text.foldr addToLines ([], true)

def joinLines (lines : List Bytes) : Bytes := lines.flatMap (· ++ ['\n'])

/-- The text cut behind every line feed. -/
def rawLinesOf (text : Bytes) : List Bytes :=
  let (lines, ended) := linesOf text
  match lines.reverse with
  | [] => []
  | last :: before =>
    (before.reverse.map (· ++ ['\n'])) ++ [if ended then last ++ ['\n'] else last]

def decimal (n : Nat) : Bytes := (toString n).toList

def padLeft (width : Nat) (text : Bytes) : Bytes :=
  List.replicate (width - text.length) ' ' ++ text

end LintRepair.Shell
