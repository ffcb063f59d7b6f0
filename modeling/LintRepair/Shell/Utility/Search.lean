import LintRepair.Shell.Regex
import LintRepair.Shell.Utility.Text

/-!
Utilities that look for regular expressions: `grep` and `sed`.
-/

namespace LintRepair.Shell

/-! Finding lines. -/

/-- What `grep` looks for, and how. -/
structure Query where
  patterns : List Regex
  fold : Bool
  wholeWord : Bool
  wholeLine : Bool

namespace Query

def isWordChar (c : Char) : Bool := c.isAlphanum || c == '_'

/-- Does a match stand between characters that are not of its word? -/
def standsAlone (text : Bytes) (f : Regex.Found) : Bool :=
  let before := if f.start == 0 then none else text[f.start - 1]?
  ! before.any isWordChar && ! text[f.start + f.length]?.any isWordChar

/-- The matches of one pattern at all places from an index on, that the query admits. -/
def candidates (q : Query) (line : Bytes) (r : Regex) : Nat → Option Char → Bytes → List Regex.Found
  | index, previous, rest =>
    let here := (r.foundAt? q.fold ⟨index, previous, rest⟩).filter fun f =>
      (! q.wholeWord || standsAlone line f) &&
        (! q.wholeLine || (f.start == 0 && f.length == line.length))
    match rest with
    | [] => here.toList
    | c :: rest => here.toList ++ candidates q line r (index + 1) (some c) rest

/-- The first match in a line from `start` on, the longest of those. -/
def find? (q : Query) (text : Bytes) (start : Nat) : Option Regex.Found :=
  let previous := if start == 0 then none else text[start - 1]?
  let found := q.patterns.flatMap fun r => candidates q text r start previous (text.drop start)
  found.foldl (fun best f =>
    match best with
    | none => some f
    | some b =>
      if f.start < b.start || (f.start == b.start && b.length < f.length) then some f else some b) none

def accepts (q : Query) (line : Bytes) : Bool := (q.find? line 0).isSome

/-- All matches of a line that hold something. -/
def findAll (q : Query) (line : Bytes) : Nat → Nat → List Bytes
  | 0, _ => []
  | fuel + 1, start =>
    match q.find? line start with
    | none => []
    | some f =>
      if f.length == 0 then findAll q line fuel (f.start + 1)
      else ((line.drop f.start).take f.length) :: findAll q line fuel (f.start + f.length)

end Query

mutual

/-- The files below a directory, with their paths. -/
def filesBelow (path : Bytes) : Node → List Bytes
  | .file _ => [path]
  | .link _ => []
  | .dir entries => filesOf path entries

def filesOf (path : Bytes) : List (String × Node) → List Bytes
  | [] => []
  | (name, n) :: rest => filesBelow (path ++ '/' :: Bytes.ofString name) n ++ filesOf path rest

end

/-- The files that a recursive search visits. -/
def searchedFiles (tree : Node) (directory : List String) (operand : Bytes) : List Bytes :=
  match tree.locate directory (Work.toPath operand) with
  | .ok place =>
    match tree.at? place with
    | some (.dir entries) =>
      (filesOf ((operand.reverse.dropWhile (· == '/')).reverse) entries).mergeSort Bytes.le
    | _ => [operand]
  | .error _ => [operand]

/-- Prints the lines that match a pattern. -/
def grep : Utility := fun args =>
  match Options.read "qcvilLnowxEFGsrRhHa" "em" args with
  | .error c => do
    Work.fail 2 "grep" (bytes "invalid option -- '" ++ [c] ++ ['\''])
    Work.complain (bytes "Usage: grep [OPTION]... PATTERNS [FILE]...\nTry 'grep --help' for more information.\n")
  | .ok o =>
    let given := o.values 'e'
    match given, o.operands with
    | [], [] =>
      do
        Work.complain (bytes "Usage: grep [OPTION]... PATTERNS [FILE]...\nTry 'grep --help' for more information.\n")
        Work.exit 2
    | _, _ =>
      let texts := (if given.isEmpty then o.operands.take 1 else given).flatMap fun t =>
        if t.isEmpty then [[]] else (linesOf t).1
      let files := if given.isEmpty then o.operands.drop 1 else o.operands
      let patterns? := texts.mapM fun t =>
        if o.has 'F' then some (Regex.literal t) else Regex.ofText? (o.has 'E') t
      match patterns? with
      | none => Work.fail 2 "grep" (bytes "Invalid regular expression")
      | some patterns => do
        let q : Query := ⟨patterns, o.has 'i', o.has 'w', o.has 'x'⟩
        let recursive := o.has 'r' || o.has 'R'
        let j ← get
        let operands := if files.isEmpty then [if recursive then ['.'] else ['-']] else files
        let visited := if recursive then operands.flatMap (searchedFiles j.tree j.directory)
          else operands
        let named := (o.has 'H' || recursive || visited.length > 1) && ! o.has 'h'
        let mut any := false
        let mut failed := false
        for file in visited do
          match (← Work.readOperand file) with
          | .error fault =>
            if ! o.has 's' then Work.complain (bytes "grep: " ++ file ++ bytes s!": {fault.text}\n")
            failed := true
          | .ok content =>
            let shownName := if file == ['-'] then bytes "(standard input)" else file
            let label := if named then shownName ++ [':'] else []
            let lines := (linesOf content).1
            let limit := ((o.value? 'm').bind (natOfDigits? 10)).getD lines.length
            let hits := (((List.range lines.length).zip lines).filter fun p =>
              q.accepts p.2 != o.has 'v').take limit
            if ! hits.isEmpty then any := true
            if o.has 'q' then pure ()
            else if o.has 'l' then
              if ! hits.isEmpty then Work.print (shownName ++ ['\n'])
            else if o.has 'L' then
              if hits.isEmpty then Work.print (shownName ++ ['\n'])
            else if o.has 'c' then Work.print (label ++ decimal hits.length ++ ['\n'])
            else
              for (i, line) in hits do
                let label := label ++ (if o.has 'n' then decimal (i + 1) ++ [':'] else [])
                if o.has 'o' then
                  for part in q.findAll line (line.length + 1) 0 do
                    Work.print (label ++ part ++ ['\n'])
                else Work.print (label ++ line ++ ['\n'])
        if failed && ! (any && o.has 'q') then Work.exit 2
        else if ! any then Work.exit 1

/-! Editing lines. -/

inductive Address where
  | line (n : Nat)
  | last
  | pattern (r : Regex)

inductive Edit where
  | substitute (r : Regex) (fold : Bool) (replacement : Bytes) (all print : Bool) (which : Nat)
  | delete
  | print
  | quit
  | number
  | append (text : Bytes)
  | insert (text : Bytes)
  | change (text : Bytes)
  | swap (source target : List Char)

/-- An edit of the lines between two addresses, or of the others. -/
structure Instruction where
  first : Option Address
  second : Option Address
  others : Bool
  edit : Edit

namespace Instruction

/-- Cuts a text at the next `stop` that no backslash precedes; the backslash before one is
dropped. -/
def cutAt? (stop : Char) : Bytes → Option (Bytes × Bytes)
  | [] => none
  | '\\' :: c :: rest =>
    (cutAt? stop rest).map fun (text, after) =>
      if c == stop then (c :: text, after) else ('\\' :: c :: text, after)
  | c :: rest =>
    if c == stop then some ([], rest)
    else (cutAt? stop rest).map fun (text, after) => (c :: text, after)

def address? (extended : Bool) : Bytes → Option (Option Address × Bytes)
  | '$' :: rest => some (some .last, rest)
  | '/' :: rest => do
    let (text, rest) ← cutAt? '/' rest
    return (some (.pattern (← Regex.ofText? extended text)), rest)
  | text =>
    let digits := text.takeWhile Char.isDigit
    match natOfDigits? 10 digits with
    | some n => some (some (.line n), text.drop digits.length)
    | none => some (none, text)

def isGap (c : Char) : Bool := c == ' ' || c == '\t' || c == '\n' || c == ';'

def edit? (extended : Bool) : Bytes → Option (Edit × Bytes)
  | 'd' :: rest => some (.delete, rest)
  | 'p' :: rest => some (.print, rest)
  | 'q' :: rest => some (.quit, rest)
  | '=' :: rest => some (.number, rest)
  | 's' :: stop :: rest => do
    let (pattern, rest) ← cutAt? stop rest
    let (replacement, rest) ← cutAt? stop rest
    let flags := rest.takeWhile fun c => c.isDigit || "gpiI".toList.contains c
    let r ← Regex.ofText? extended pattern
    let which := (natOfDigits? 10 (flags.filter Char.isDigit)).getD 1
    return (.substitute r (flags.contains 'i' || flags.contains 'I') replacement
      (flags.contains 'g') (flags.contains 'p') which, rest.drop flags.length)
  | 'y' :: stop :: rest => do
    let (source, rest) ← cutAt? stop rest
    let (target, rest) ← cutAt? stop rest
    return (.swap source target, rest)
  | c :: rest =>
    let text := rest.takeWhile (· != '\n')
    let body := match text.dropWhile (fun c => c == ' ' || c == '\t') with
      | '\\' :: more => more.dropWhile fun c => c == ' ' || c == '\t'
      | body => body
    match c with
    | 'a' => some (.append body, rest.drop text.length)
    | 'i' => some (.insert body, rest.drop text.length)
    | 'c' => some (.change body, rest.drop text.length)
    | _ => none
  | [] => none

def readAll? (extended : Bool) : Nat → Bytes → Option (List Instruction)
  | 0, _ => none
  | fuel + 1, text => do
    match text.dropWhile isGap with
    | [] => return []
    | text =>
      let (first, text) ← address? extended text
      let (second, text) ← match text with
        | ',' :: rest => address? extended rest
        | text => some (none, text)
      let text := text.dropWhile (· == ' ')
      let (others, text) := match text with
        | '!' :: rest => (true, rest.dropWhile (· == ' '))
        | text => (false, text)
      let (edit, text) ← edit? extended text
      return ⟨first, second, others, edit⟩ :: (← readAll? extended fuel text)

end Instruction

/-- The text that a replacement stands for. -/
def replacementText (whole : Bytes) (groups : List (Nat × Bytes)) : Bytes → Bytes
  | [] => []
  | '&' :: rest => whole ++ replacementText whole groups rest
  | '\\' :: c :: rest =>
    if c.isDigit then
      (if c == '0' then whole else (groups.lookup (c.toNat - '0'.toNat)).getD [])
        ++ replacementText whole groups rest
    else (match c with
      | 'n' => '\n'
      | 't' => '\t'
      | c => c) :: replacementText whole groups rest
  | c :: rest => c :: replacementText whole groups rest

/-- Substitutes matches from the one with the number `which` on, or only that one; tells whether
there was one. -/
def substituteIn (r : Regex) (fold all : Bool) (replacement : Bytes) :
    Nat → Nat → Option Char → Bytes → Bytes × Bool
  | 0, _, _, text => (text, false)
  | fuel + 1, which, previous, text =>
    match r.search? fold 0 previous text with
    | none => (text, false)
    | some f =>
      let before := text.take f.start
      let whole := (text.drop f.start).take f.length
      let rest := text.drop (f.start + f.length)
      let new := if which ≤ 1 then replacementText whole f.groups replacement else whole
      if which ≤ 1 && ! all then (before ++ new ++ rest, true)
      else
        let (step, rest) := if f.length == 0 then (rest.take 1, rest.drop 1) else ([], rest)
        let passed := before ++ whole ++ step
        if f.length == 0 && step.isEmpty then (before ++ new, which ≤ 1)
        else
          let (more, found) := substituteIn r fold all replacement fuel (which - 1)
            (passed.getLast?.or previous) rest
          (before ++ new ++ step ++ more, found || which ≤ 1)

/-- The state of editing one line: its text, what is printed before and after it, and how it
ends. -/
structure LineEdit where
  text : Bytes
  printed : Bytes
  after : Bytes
  deleted : Bool
  quitting : Bool

/-- The instructions with the ranges that are open. -/
abbrev Program := List (Instruction × Bool)

def addressHolds (number total : Nat) (text : Bytes) : Address → Bool
  | .line n => n == number
  | .last => number == total
  | .pattern r => r.occursIn false text

/-- Does an instruction apply to a line, and is its range open afterwards? -/
def selects (number total : Nat) (text : Bytes) (i : Instruction) (isOpen : Bool) : Bool × Bool :=
  let (hit, isOpen) := match i.first, i.second with
    | none, _ => (true, false)
    | some a, none => (addressHolds number total text a, false)
    | some a, some b =>
      if isOpen then (true, ! (match b with
        | .line n => n ≤ number
        | b => addressHolds number total text b))
      else if addressHolds number total text a then
        (true, match b with
          | .line n => number < n
          | .last => number < total
          | .pattern _ => true)
      else (false, false)
  (hit != i.others, isOpen)

def applyEdit (number : Nat) (e : LineEdit) : Edit → LineEdit
  | .delete => { e with deleted := true }
  | .print => { e with printed := e.printed ++ e.text ++ ['\n'] }
  | .quit => { e with quitting := true }
  | .number => { e with printed := e.printed ++ decimal number ++ ['\n'] }
  | .append text => { e with after := e.after ++ text ++ ['\n'] }
  | .insert text => { e with printed := e.printed ++ text ++ ['\n'] }
  | .change text => { e with printed := e.printed ++ text ++ ['\n'], deleted := true }
  | .swap source target =>
    { e with text := e.text.map fun c => ((source.zip target).lookup c).getD c }
  | .substitute r fold replacement all print which =>
    let (text, found) := substituteIn r fold all replacement (e.text.length + 2) which none e.text
    { e with text, printed := if found && print then e.printed ++ text ++ ['\n'] else e.printed }

/-- Runs the instructions on one line. -/
def editOne (number total : Nat) : Program → LineEdit → Program × LineEdit
  | [], e => ([], e)
  | (i, isOpen) :: rest, e =>
    if e.deleted || e.quitting then ((i, isOpen) :: rest, e)
    else
      let (hit, isOpen) := selects number total e.text i isOpen
      let (rest, e) := editOne number total rest (if hit then applyEdit number e i.edit else e)
      ((i, isOpen) :: rest, e)

/-- Edits all lines from the line `number` on; `quiet` keeps them from being printed by
themselves. -/
def editLines (quiet ended : Bool) (total : Nat) : Nat → Program → List Bytes → Bytes
  | _, _, [] => []
  | number, program, line :: rest =>
    let (program, e) := editOne number total program ⟨line, [], [], false, false⟩
    let tail := if rest.isEmpty && ! ended then [] else ['\n']
    let own := if quiet || e.deleted then [] else e.text ++ tail
    e.printed ++ own ++ e.after ++
      (if e.quitting then [] else editLines quiet ended total (number + 1) program rest)

/-- Edits the lines of files. -/
def sed : Utility := fun args =>
  match Options.read "nEri" "e" args with
  | .error c => Work.badOption 1 "sed" c
  | .ok o =>
    let given := o.values 'e'
    let scripts := if given.isEmpty then o.operands.take 1 else given
    let files := if given.isEmpty then o.operands.drop 1 else o.operands
    let script := List.intercalate ['\n'] scripts
    match Instruction.readAll? (o.has 'E' || o.has 'r') (script.length + 1) script with
    | none => Work.fail 1 "sed" (bytes "-e expression #1, char 1: unknown command")
    | some instructions => do
      let program : Program := instructions.map fun i => (i, false)
      let run (content : Bytes) : Bytes :=
        let (lines, ended) := linesOf content
        editLines (o.has 'n') ended lines.length 1 program lines
      if o.has 'i' then
        for file in files do
          match (← Work.readFile file) with
          | .error fault => Work.fail 2 "sed" (bytes "can't read " ++ file ++ bytes s!": {fault.text}")
          | .ok content => let _ ← Work.writeFile file (run content)
      else
        let mut all : Bytes := []
        for file in (if files.isEmpty then [['-']] else files) do
          match (← Work.readOperand file) with
          | .error fault => Work.fail 2 "sed" (bytes "can't read " ++ file ++ bytes s!": {fault.text}")
          | .ok content => all := all ++ content
        Work.print (run all)

end LintRepair.Shell
