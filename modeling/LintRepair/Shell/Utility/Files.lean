import LintRepair.Shell.Glob
import LintRepair.Shell.Utility.Basic

/-!
Utilities that make, move and list files.
-/

namespace LintRepair.Shell

def quote (name : Bytes) : Bytes := '\'' :: name ++ ['\'']

/-- The name that a path ends in. -/
def lastName (path : Bytes) : Bytes :=
  let path := (path.reverse.dropWhile (· == '/')).reverse
  (path.reverse.takeWhile (· != '/')).reverse

/-- What is at a path; a link at its end is not followed. -/
def entryAt (tree : Node) (directory : List String) (name : Bytes) :
    Except Fault (List String × Node) :=
  match tree.spot false directory (Work.toPath name) with
  | .ok (.taken place) =>
    match tree.at? place with
    | some n => .ok (place, n)
    | none => .error .noEntry
  | .ok (.free _ _) => .error .noEntry
  | .error fault => .error fault

def isDir : Node → Bool
  | .dir _ => true
  | _ => false

/-- Takes files away. -/
def rm : Utility := fun args =>
  match Options.read "rRfdv" "" args with
  | .error c => Work.badOption 1 "rm" c
  | .ok o => do
    if o.operands.isEmpty && ! o.has 'f' then Work.usage 1 "rm" (bytes "missing operand")
    for name in o.operands do
      let j ← get
      match entryAt j.tree j.directory name with
      | .error .noEntry =>
        if ! o.has 'f' then
          Work.fail 1 "rm" (bytes "cannot remove " ++ quote name ++ bytes ": No such file or directory")
      | .error .notDirectory =>
        if ! o.has 'f' then
          Work.fail 1 "rm" (bytes "cannot remove " ++ quote name ++ bytes ": Not a directory")
      | .error fault =>
        Work.fail 1 "rm" (bytes "cannot remove " ++ quote name ++ bytes s!": {fault.text}")
      | .ok (place, n) =>
        if isDir n && ! (o.has 'r' || o.has 'R') then
          Work.fail 1 "rm" (bytes "cannot remove " ++ quote name ++ bytes ": Is a directory")
        else set { j with tree := j.tree.erase place }

/-- The paths that lead to a path, shortest first. -/
def ancestry (path : Bytes) : List Bytes :=
  ((List.range path.length).filter fun i => i > 0 && path[i]? == some '/').map path.take ++ [path]

/-- Makes directories. -/
def mkdir : Utility := fun args =>
  match Options.read "pv" "m" args with
  | .error c => Work.badOption 1 "mkdir" c
  | .ok o => do
    if o.operands.isEmpty then Work.usage 1 "mkdir" (bytes "missing operand")
    for operand in o.operands do
      let operand := match (operand.reverse.dropWhile (· == '/')).reverse with
        | [] => operand
        | trimmed => trimmed
      let mut stopped := false
      for name in (if o.has 'p' then ancestry operand else [operand]) do
        if ! stopped then
          let j ← get
          let refuse (why : String) : Work Unit :=
            Work.fail 1 "mkdir" (bytes "cannot create directory " ++ quote name ++ bytes s!": {why}")
          match j.tree.spot true j.directory (Work.toPath name) with
          | .ok (.free parent new) => set { j with tree := j.tree.put (parent ++ [new]) (.dir []) }
          | .ok (.taken place) =>
            if ! o.has 'p' || ! ((j.tree.at? place).map isDir).getD false then
              refuse (if name == operand then "File exists" else "Not a directory")
              stopped := true
          | .error fault =>
            refuse fault.text
            stopped := true

/-- Takes empty directories away. -/
def rmdir : Utility := fun args =>
  match Options.read "pv" "" args with
  | .error c => Work.badOption 1 "rmdir" c
  | .ok o => do
    if o.operands.isEmpty then Work.usage 1 "rmdir" (bytes "missing operand")
    for name in o.operands do
      let j ← get
      let refuse (why : String) : Work Unit :=
        Work.fail 1 "rmdir" (bytes "failed to remove " ++ quote name ++ bytes s!": {why}")
      match entryAt j.tree j.directory name with
      | .ok (place, .dir []) => set { j with tree := j.tree.erase place }
      | .ok (_, .dir _) => refuse Fault.notEmpty.text
      | .ok _ => refuse Fault.notDirectory.text
      | .error fault => refuse fault.text

/-- Makes files that are not there yet. -/
def touch : Utility := fun args =>
  match Options.read "acm" "drt" args with
  | .error c => Work.badOption 1 "touch" c
  | .ok o => do
    if o.operands.isEmpty then Work.usage 1 "touch" (bytes "missing file operand")
    for name in o.operands do
      let j ← get
      match j.tree.spot true j.directory (Work.toPath name) with
      | .ok (.taken _) => pure ()
      | .ok (.free parent new) =>
        if ! o.has 'c' then set { j with tree := j.tree.put (parent ++ [new]) (.file .empty) }
      | .error fault =>
        Work.fail 1 "touch" (bytes "cannot touch " ++ quote name ++ bytes s!": {fault.text}")

/-- Where something named `source` goes that is sent to `target`: into it, if it is a directory. -/
def destination (tree : Node) (directory : List String) (source target : Bytes) :
    Except Fault (List String) :=
  match tree.spot true directory (Work.toPath target) with
  | .error fault => .error fault
  | .ok (.free parent name) => .ok (parent ++ [name])
  | .ok (.taken place) =>
    if ((tree.at? place).map isDir).getD false then
      .ok (place ++ [Bytes.toText (lastName source)])
    else .ok place

/-- Splits the operands of a utility that sends files somewhere. -/
def withTarget (name : String) (operands : List Bytes) (use : Bytes → Bytes → Work Unit) :
    Work Unit := do
  match operands.reverse with
  | [] => Work.usage 1 name (bytes "missing file operand")
  | [only] =>
    Work.usage 1 name (bytes "missing destination file operand after " ++ quote only)
  | target :: sources =>
    let j ← get
    if sources.length > 1 && ! j.tree.isDirectory j.directory (Work.toPath target) then
      let fault := match j.tree.locate j.directory (Work.toPath target) with
        | .ok _ => Fault.notDirectory
        | .error fault => fault
      Work.fail 1 name (bytes "target " ++ quote target ++ bytes s!": {fault.text}")
    else
      for source in sources.reverse do
        use source target

/-- Moves files. -/
def mv : Utility := fun args =>
  match Options.read "fnv" "" args with
  | .error c => Work.badOption 1 "mv" c
  | .ok o => withTarget "mv" o.operands fun source target => do
    let j ← get
    match entryAt j.tree j.directory source with
    | .error fault =>
      Work.fail 1 "mv" (bytes "cannot stat " ++ quote source ++ bytes s!": {fault.text}")
    | .ok (place, n) =>
      match destination j.tree j.directory source target with
      | .error fault =>
        Work.fail 1 "mv" (bytes "cannot move " ++ quote source ++ bytes " to " ++ quote target ++
          bytes s!": {fault.text}")
      | .ok goal =>
        if goal == place then
          Work.fail 1 "mv" (quote source ++ bytes " and " ++ quote target ++ bytes " are the same file")
        else if place.isPrefixOf goal then
          Work.fail 1 "mv" (bytes "cannot move " ++ quote source ++
            bytes " to a subdirectory of itself, " ++ quote target)
        else if ! (o.has 'n' && (j.tree.at? goal).isSome) then
          set { j with tree := (j.tree.erase place).put goal n }

/-- Copies files. -/
def cp : Utility := fun args =>
  match Options.read "rRfapv" "" args with
  | .error c => Work.badOption 1 "cp" c
  | .ok o => withTarget "cp" o.operands fun source target => do
    let j ← get
    let recursive := o.has 'r' || o.has 'R' || o.has 'a'
    let found := match j.tree.locate j.directory (Work.toPath source) with
      | .ok place => (j.tree.at? place).map fun n => (place, n)
      | .error _ => none
    match found with
    | none =>
      let why := match j.tree.locate j.directory (Work.toPath source) with
        | .error fault => fault.text
        | .ok _ => Fault.noEntry.text
      Work.fail 1 "cp" (bytes "cannot stat " ++ quote source ++ bytes s!": {why}")
    | some (place, n) =>
      if isDir n && ! recursive then
        Work.fail 1 "cp" (bytes "-r not specified; omitting directory " ++ quote source)
      else
        match destination j.tree j.directory source target with
        | .error fault =>
          Work.fail 1 "cp" (bytes "cannot create regular file " ++ quote target ++
            bytes s!": {fault.text}")
        | .ok goal =>
          if goal == place then
            Work.fail 1 "cp" (quote source ++ bytes " and " ++ quote target ++
              bytes " are the same file")
          else set { j with tree := j.tree.put goal n }

/-- Makes links. A link that is not symbolic copies the file. -/
def ln : Utility := fun args =>
  match Options.read "sfnv" "" args with
  | .error c => Work.badOption 1 "ln" c
  | .ok o => withTarget "ln" o.operands fun source target => do
    let j ← get
    match destination j.tree j.directory source target with
    | .error fault =>
      Work.fail 1 "ln" (bytes "failed to create symbolic link " ++ quote target ++
        bytes s!": {fault.text}")
    | .ok goal =>
      let there := (j.tree.at? goal).isSome
      if there && ! o.has 'f' then
        Work.fail 1 "ln" (bytes "failed to create symbolic link " ++ quote target ++ bytes ": File exists")
      else if o.has 's' then set { j with tree := j.tree.put goal (.link source.toText) }
      else
        match j.tree.read j.directory (Work.toPath source) with
        | .ok content => set { j with tree := j.tree.put goal (.file content) }
        | .error fault =>
          Work.fail 1 "ln" (bytes "failed to access " ++ quote source ++ bytes s!": {fault.text}")

/-- The names in a directory, in order. -/
def listing (all almost : Bool) (entries : List (String × Node)) : List Bytes :=
  let names := entries.map fun (e : String × Node) => Bytes.ofString e.1
  let names := if all then ['.'] :: ['.', '.'] :: names else names
  (if all || almost then names else names.filter fun n => n.head? != some '.').mergeSort Bytes.le

/-- Lists directories, one name on a line. -/
def ls : Utility := fun args =>
  match Options.read "1aACdFRl" "" args with
  | .error c => Work.badOption 2 "ls" c
  | .ok o => do
    let j ← get
    let operands := if o.operands.isEmpty then [['.']] else o.operands.mergeSort Bytes.le
    let mut files : List Bytes := []
    let mut directories : List (Bytes × List (String × Node)) := []
    for operand in operands do
      match j.tree.locate j.directory (Work.toPath operand) with
      | .error fault =>
        Work.fail 2 "ls" (bytes "cannot access " ++ quote operand ++ bytes s!": {fault.text}")
      | .ok place =>
        match j.tree.at? place with
        | some (.dir entries) =>
          if o.has 'd' then files := files ++ [operand]
          else directories := directories ++ [(operand, entries)]
        | _ => files := files ++ [operand]
    Work.print (files.flatMap (· ++ ['\n']))
    let mut first := files.isEmpty
    for (name, entries) in directories do
      if operands.length > 1 then
        Work.print ((if first then [] else ['\n']) ++ name ++ [':', '\n'])
      first := false
      Work.print ((listing (o.has 'a') (o.has 'A') entries).flatMap (· ++ ['\n']))

mutual

/-- Everything at and below a path. -/
def everything (path : Bytes) : Node → List (Bytes × Node)
  | .file content => [(path, .file content)]
  | .link target => [(path, .link target)]
  | .dir entries => (path, .dir entries) :: everythingIn path entries

def everythingIn (path : Bytes) : List (String × Node) → List (Bytes × Node)
  | [] => []
  | (name, n) :: rest =>
    let base := if path.getLast? == some '/' then path else path ++ ['/']
    everything (base ++ Bytes.ofString name) n ++ everythingIn path rest

end

/-- What a found entry has to be. -/
structure Wanted where
  name : Option Glob
  kind : Option Char

/-- The tests of a search. -/
def wanted? : List Bytes → Option Wanted
  | [] => some ⟨none, none⟩
  | test :: rest =>
    if test == bytes "-print" then wanted? rest
    else
      match rest with
      | value :: rest =>
        (wanted? rest).bind fun w =>
          if test == bytes "-name" then
            some { w with name := some (Glob.read (value.map fun c => ⟨c, false⟩)) }
          else if test == bytes "-type" then some { w with kind := value.head? }
          else none
      | [] => none

/-- Lists what is below directories and passes the tests. -/
def find : Utility := fun args =>
  let paths := args.takeWhile fun a => a.head? != some '-'
  match wanted? (args.drop paths.length) with
  | none => Work.fail 1 "find" (bytes "unknown predicate")
  | some w => do
    let j ← get
    for path in (if paths.isEmpty then [['.']] else paths) do
      match entryAt j.tree j.directory path with
      | .error fault => Work.fail 1 "find" (quote path ++ bytes s!": {fault.text}")
      | .ok (_, n) =>
        for (found, n) in everything path n do
          let kindHolds := match w.kind, n with
            | none, _ => true
            | some 'f', .file _ => true
            | some 'd', .dir _ => true
            | some 'l', .link _ => true
            | _, _ => false
          if kindHolds && w.name.all fun g => g.isMatch (lastName found) then
            Work.print (found ++ ['\n'])

/-- Compares two files byte by byte. -/
def cmp : Utility := fun args =>
  match Options.read "s" "" args with
  | .error c => Work.badOption 2 "cmp" c
  | .ok o => do
    match o.operands with
    | [a, b] =>
      match (← Work.readOperand a), (← Work.readOperand b) with
      | .ok x, .ok y =>
        if x != y then
          Work.exit 1
          let same := ((x.zip y).takeWhile fun p => p.1 == p.2)
          if ! o.has 's' then
            if same.length == min x.length y.length then
              let short := if x.length < y.length then a else b
              Work.complain (bytes "cmp: EOF on " ++ short ++ bytes " after byte " ++
                decimal same.length ++ ['\n'])
            else
              let line := (same.map Prod.fst).count '\n' + 1
              Work.print (a ++ [' '] ++ b ++ bytes " differ: char " ++ decimal (same.length + 1) ++
                bytes ", line " ++ decimal line ++ ['\n'])
      | .error fault, _ => Work.fail 2 "cmp" (a ++ bytes s!": {fault.text}")
      | _, .error fault => Work.fail 2 "cmp" (b ++ bytes s!": {fault.text}")
    | _ => Work.usage 2 "cmp" (bytes "missing operand")

/-- Prints where a link leads. -/
def readlink : Utility := fun args =>
  match Options.read "f" "" args with
  | .error c => Work.badOption 1 "readlink" c
  | .ok o => do
    let j ← get
    for name in o.operands do
      if o.has 'f' then
        match j.tree.canonicalize j.directory (Work.toPath name) with
        | .ok path => Work.print (bytes path.text ++ ['\n'])
        | .error _ => Work.exit 1
      else
        match entryAt j.tree j.directory name with
        | .ok (_, .link target) => Work.print (bytes target ++ ['\n'])
        | _ => Work.exit 1

/-- Prints the absolute path without links. -/
def realpath : Utility := fun args => do
  let j ← get
  for name in args do
    match j.tree.canonicalize j.directory (Work.toPath name) with
    | .ok path => Work.print (bytes path.text ++ ['\n'])
    | .error fault => Work.fail 1 "realpath" (name ++ bytes s!": {fault.text}")

end LintRepair.Shell
