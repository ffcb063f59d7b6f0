import LintRepair.Shell.Arithmetic
import LintRepair.Shell.Fields
import LintRepair.Shell.Reader
import LintRepair.Shell.Utility.Search
import LintRepair.Shell.Utility.Test
import LintRepair.Shell.World
import LintRepair.Text.Scan

/-!
Running shell scripts in a file tree.

Every function takes a count that bounds how deep calls go; a script that needs more is taken to
run for ever.
-/

namespace LintRepair.Shell

/-- The number of the shell's own process. -/
def ownProcess : Bytes := "4242".toList

/-- The number of the first command in the background. -/
def firstJob : Nat := 4243

/-- The utilities that need nothing but their input and the file tree. -/
def utility? (label : Bytes) : String → Option Utility
  | "echo" => some echo
  | "printf" => some (printf label)
  | "test" => some (Test.utility label "test")
  | "[" => some (Test.utility label "[")
  | "true" => some fun _ => pure ()
  | "false" => some fun _ => Work.exit 1
  | "seq" => some seq
  | "basename" => some basename
  | "dirname" => some dirname
  | "cat" => some cat
  | "head" => some head
  | "tail" => some tail
  | "wc" => some wc
  | "sort" => some sort
  | "uniq" => some uniq
  | "tr" => some tr
  | "cut" => some cut
  | "tee" => some tee
  | "tac" => some tac
  | "rev" => some rev
  | "grep" => some grep
  | "egrep" => some fun args => grep (bytes "-E" :: args)
  | "fgrep" => some fun args => grep (bytes "-F" :: args)
  | "sed" => some sed
  | "rm" => some rm
  | "mkdir" => some mkdir
  | "rmdir" => some rmdir
  | "touch" => some touch
  | "mv" => some mv
  | "cp" => some cp
  | "ln" => some ln
  | "ls" => some ls
  | "find" => some find
  | "cmp" => some cmp
  | "readlink" => some readlink
  | "realpath" => some realpath
  | "chmod" => some fun _ => pure ()
  | "sync" => some fun _ => pure ()
  | _ => none

/-- Utilities that run other commands or let time pass. -/
def outerUtilities : List String := ["sleep", "yes", "sh", "dash", "env", "xargs", "timeout"]

/-- Commands of the shell itself, whose assignments stay and whose failures end it. -/
def specialBuiltins : List String :=
  [":", "break", "continue", ".", "eval", "exec", "exit", "export", "readonly", "return", "set",
   "shift", "trap", "unset"]

def builtins : List String :=
  specialBuiltins ++ ["cd", "pwd", "read", "local", "wait", "kill", "command", "type", "umask",
    "ulimit", "alias", "unalias", "hash", "jobs", "times", "getopts"]

/-- A duration in microseconds: a decimal number with a letter for its unit. -/
def duration? (text : Bytes) : Option Nat :=
  if text == bytes "infinity" || text == bytes "inf" then some 1000000000000000000
  else
    let whole := text.takeWhile Char.isDigit
    let rest := text.drop whole.length
    let (fraction, rest) := match rest with
      | '.' :: more => (more.takeWhile Char.isDigit, more.drop (more.takeWhile Char.isDigit).length)
      | rest => ([], rest)
    let unit? := match rest with
      | [] | ['s'] => some 1
      | ['m'] => some 60
      | ['h'] => some 3600
      | ['d'] => some 86400
      | _ => none
    if whole.isEmpty && fraction.isEmpty then none
    else unit?.bind fun unit =>
      let digits := whole ++ (fraction ++ List.replicate 6 '0').take 6
      (natOfDigits? 10 digits).map (· * unit)

/-- The path that `name` leads to from a path, without dots. -/
def logicalPath (base name : Bytes) : Bytes :=
  let text := if name.head? == some '/' then name else base ++ '/' :: name
  let names := (splitAt '/' text).foldl (fun (names : List Bytes) piece =>
    if piece.isEmpty || piece == ['.'] then names
    else if piece == ['.', '.'] then names.drop 1
    else piece :: names) []
  '/' :: List.intercalate ['/'] names.reverse

/-- Splits a line into so many fields; the last one keeps what is left. -/
def readFields (separators : Bytes) : Nat → Bytes → List Bytes
  | 0, _ => []
  | count + 1, line =>
    let isGap (c : Char) : Bool :=
      separators.contains c && (c == ' ' || c == '\t' || c == '\n')
    let line := line.dropWhile isGap
    if count == 0 then [(line.reverse.dropWhile isGap).reverse]
    else
      let field := line.takeWhile (! separators.contains ·)
      let rest := (line.drop field.length).dropWhile isGap
      let rest := match rest with
        | c :: more => if separators.contains c && ! isGap c then more else rest
        | [] => []
      field :: readFields separators count rest

/-- Reads a line of input: its text without the backslashes that join or quote, how long it was,
and whether it was ended. -/
def inputLine (raw : Bool) : Nat → Bytes → Bytes × Nat × Bool
  | 0, _ => ([], 0, false)
  | _ + 1, [] => ([], 0, false)
  | fuel + 1, c :: rest =>
    if c == '\n' then ([], 1, true)
    else if c == '\\' && ! raw then
      match rest with
      | '\n' :: more =>
        let (text, n, ended) := inputLine raw fuel more
        (text, n + 2, ended)
      | d :: more =>
        let (text, n, ended) := inputLine raw fuel more
        (d :: text, n + 2, ended)
      | [] => ([], 1, false)
    else
      let (text, n, ended) := inputLine raw fuel rest
      (c :: text, n + 1, ended)

/-- How a complaint about opening a file names the reason. -/
def openFault (creating : Bool) : Fault → String
  | .noEntry | .notDirectory => if creating then "Directory nonexistent" else "No such file"
  | fault => fault.text

namespace Run

def separators : Run Bytes := return (← valueOf? "IFS".toList).getD [' ', '\t', '\n']

/-- The value of a parameter, if it is set. -/
def parameter? (name : Bytes) : Run (Option Bytes) := do
  let e ← env
  match name with
  | ['?'] => return some (decimal e.status)
  | ['#'] => return some (decimal e.parameters.length)
  | ['$'] => return some ownProcess
  | ['!'] => return e.lastJob.map decimal
  | ['-'] => return some ((if e.errexit then ['e'] else []) ++ (if e.nounset then ['u'] else []))
  | ['@'] | ['*'] =>
    if e.parameters.isEmpty then return none
    else return some (List.intercalate [' '] e.parameters)
  | ['0'] => return some e.name
  | _ =>
    match natOfDigits? 10 name with
    | some n => return e.parameters[n - 1]?
    | none => valueOf? name

/-- Runs a utility on the standard input and prints what it prints. -/
def runUtility (u : Utility) (args : List Bytes) : Run Unit := do
  let (input, _) ← available
  let s ← get
  let (_, job) := (u args).run ⟨s.world.tree, s.env.directory, input, 0, [], 0⟩
  modifyWorld fun w => { w with tree := job.tree }
  consume job.consumed
  for (fd, text) in job.printed.reverse do
    write fd text
  setStatus job.status

/-- Opens a file for a redirection. -/
def openFile (kind : RedirectKind) (name : Bytes) : Run (Option Nat) := do
  let s ← get
  let path := Work.toPath name
  if name == bytes "/dev/null" then return some (← openChannel .null)
  else if name == bytes "/dev/stdin" then descriptor? 0
  else if name == bytes "/dev/stdout" then descriptor? 1
  else if name == bytes "/dev/stderr" then descriptor? 2
  else
    let locate (tree : Node) : Except Fault (List String) := tree.locate s.env.directory path
    match kind with
    | .input =>
      match locate s.world.tree with
      | .ok place => return some (← openChannel (.file place 0 false))
      | .error fault =>
        complain (bytes "cannot open " ++ name ++ bytes s!": {openFault false fault}")
        return none
    | _ =>
      let keep := kind != .output
      let old := if keep then (s.world.tree.read s.env.directory path).toOption.getD .empty else .empty
      match s.world.tree.write s.env.directory path old with
      | .error fault =>
        complain (bytes "cannot create " ++ name ++ bytes s!": {openFault true fault}")
        return none
      | .ok tree =>
        match locate tree with
        | .error _ => return none
        | .ok place =>
          modifyWorld fun w => { w with tree }
          return some (← openChannel (.file place 0 (kind == .append)))

/-- Changes the directory of the shell. -/
def changeDirectory (args : List Bytes) : Run Unit := do
  let e ← env
  let (physical, args) := match args with
    | ['-', 'P'] :: rest => (true, rest)
    | ['-', 'L'] :: rest => (false, rest)
    | ['-', '-'] :: rest => (false, rest)
    | args => (false, args)
  let back := args.head? == some ['-']
  let target ← if back then pure ((← valueOf? "OLDPWD".toList).getD [])
    else match args.head? with
      | some target => pure target
      | none => pure ((← valueOf? "HOME".toList).getD [])
  let goal := logicalPath e.directoryText target
  let tree := (← get).world.tree
  match tree.locate [] (Work.toPath goal) with
  | .ok place =>
    if ((tree.at? place).map isDir).getD false then
      let shown := if physical then '/' :: List.intercalate ['/'] (place.map Bytes.ofString) else goal
      setVariable "OLDPWD".toList e.directoryText
      setVariable "PWD".toList shown
      modifyEnv fun e => { e with directory := place, directoryText := shown }
      if back then write 1 (shown ++ ['\n'])
      setStatus 0
    else
      complain (bytes "cd: can't cd to " ++ target)
      setStatus 2
  | .error _ =>
    complain (bytes "cd: can't cd to " ++ target)
    setStatus 2

/-- Sets options and positional parameters. -/
def setOptions : Nat → List Bytes → Run Unit
  | 0, _ => return
  | _ + 1, [] => return
  | fuel + 1, arg :: rest =>
    match arg with
    | ['-', '-'] => modifyEnv fun e => { e with parameters := rest }
    | sign :: letters => do
      if (sign == '-' || sign == '+') && ! letters.isEmpty then
        let on := sign == '-'
        let named := if letters == ['o'] then rest.head?.getD [] else []
        modifyEnv fun e => { e with
          errexit := if letters.contains 'e' || named == bytes "errexit" then on else e.errexit
          nounset := if letters.contains 'u' || named == bytes "nounset" then on else e.nounset
          noglob := if letters.contains 'f' || named == bytes "noglob" then on else e.noglob
          xtrace := if letters.contains 'x' || named == bytes "xtrace" then on else e.xtrace }
        setOptions fuel (if letters == ['o'] then rest.drop 1 else rest)
      else modifyEnv fun e => { e with parameters := arg :: rest }
    | [] => modifyEnv fun e => { e with parameters := arg :: rest }

/-- Reads a line into variables. -/
def readLine (args : List Bytes) : Run Unit := do
  let raw := args.contains ['-', 'r']
  let names := args.filter fun a => a.head? != some '-'
  let (input, _) ← available
  let (text, length, ended) := inputLine raw (input.length + 1) input
  consume (if ended then length else max length 1)
  let names := if names.isEmpty then ["REPLY".toList] else names
  let fields := readFields (← separators) names.length text
  for (name, i) in names.zip (List.range names.length) do
    setVariable name (fields[i]?.getD [])
  setStatus (if ended then 0 else 1)

/-- Assigns variables, and marks them. -/
def markAll (mark : Variable → Variable) (args : List Bytes) : Run Unit := do
  for arg in args do
    if arg != ['-', 'p'] then
      match assignment? [.plain arg] with
      | some (name, _) =>
        setVariable name (arg.drop (name.length + 1))
        modifyVariable name mark
      | none => modifyVariable arg mark
  setStatus 0

def exportAll : List Bytes → Run Unit := markAll fun v => { v with exported := true }

/-- Hides variables until the function ends. -/
def hide (args : List Bytes) : Run Unit := do
  if (← env).hidden.isEmpty then
    complain (bytes "local: not in a function")
    setStatus 2
    return
  for arg in args do
    let name := arg.takeWhile (· != '=')
    modifyEnv fun e => { e with hidden := match e.hidden with
      | frame :: rest => ((name, e.bindings.lookup name) :: frame) :: rest
      | [] => [] }
    if arg.contains '=' then setVariable name (arg.drop (name.length + 1))
  setStatus 0

/-- Gives hidden variables their values back. -/
def unhide : Run Unit := modifyEnv fun e =>
  match e.hidden with
  | [] => e
  | frame :: rest =>
    let bindings := frame.foldl (fun (vs : List (Bytes × Variable)) (name, old) =>
      let others := vs.filter (·.1 != name)
      match old with
      | some v => (name, v) :: others
      | none => others) e.bindings
    { e with bindings, hidden := rest }

/-- Ends the shell with a signal sent to itself; any other process is unknown. -/
def kill (args : List Bytes) : Run Unit := do
  let signals : List (String × Nat) :=
    [("HUP", 1), ("INT", 2), ("QUIT", 3), ("ABRT", 6), ("KILL", 9), ("SEGV", 11), ("PIPE", 13),
     ("ALRM", 14), ("TERM", 15), ("USR1", 10), ("USR2", 12)]
  let number (text : Bytes) : Nat :=
    (natOfDigits? 10 text).getD ((signals.lookup (String.ofList text)).getD 15)
  let (signal, targets) := match args with
    | ['-', 's'] :: name :: rest => (number name, rest)
    | ('-' :: name) :: rest => (number name, rest)
    | rest => (15, rest)
  if targets.contains ownProcess then
    if signal == 0 then setStatus 0
    else
      modifyEnv fun e => { e with exitTrap := none, status := 128 + signal }
      throw .exit
  else
    complain (bytes "kill: No such process\n")
    setStatus 1

/-- The value of an exit status argument. -/
def statusArgument (name : String) (args : List Bytes) : Run Nat := do
  match args.head? with
  | none => status
  | some arg =>
    match natOfDigits? 10 arg with
    | some n => return n % 256
    | none => abort 2 (bytes s!"{name}: Illegal number: " ++ arg)

/-- Ends the shell if it is to end at a failure and there is one. -/
def checkFailure (tested : Bool) : Run Unit := do
  let e ← env
  if e.errexit && ! tested && e.status != 0 then throw .exit

/-- Shows a command, if commands are to be shown. -/
def trace (words : List Bytes) : Run Unit := do
  if (← env).xtrace then write 2 (bytes "+ " ++ List.intercalate [' '] words ++ ['\n'])

mutual

/-- Expands a word. -/
def atomsOf (fuel : Nat) (w : Word) : Run (List Atom) :=
  match fuel with
  | 0 => throw .timeout
  | fuel + 1 => do
    match w with
    | [] => return []
    | p :: rest =>
      let first ← atomsOfPiece fuel p
      return first ++ (← atomsOf fuel rest)

def atomsOfPiece (fuel : Nat) (p : Piece) : Run (List Atom) :=
  match fuel with
  | 0 => throw .timeout
  | fuel + 1 => do
    match p with
    | .plain text => return text.map fun c => .glyph ⟨c, false⟩
    | .quoted text => return atomsOfText true text
    | .output script quoted =>
      let sink ← openChannel (.sink [] 0 false)
      inSubshell (withDescriptor 1 sink (evalAll fuel false script))
      let text := (← collected sink).filter (· != '\x00')
      setChannel sink .null
      return atomsOfText quoted (text.reverse.dropWhile (· == '\n')).reverse
    | .arithmetic expression quoted =>
      let text ← textOf fuel expression
      let bindings := (← env).bindings
      let get (name : Bytes) : Bytes := ((bindings.lookup name).map Variable.value).getD []
      match Arithmetic.evaluate get text with
      | .ok (n, assigned) =>
        for (name, value) in assigned do
          setVariable name (toString value).toList
        return atomsOfText quoted (toString n).toList
      | .error .divisionByZero =>
        abort 2 (bytes "arithmetic expression: division by zero: \"" ++ text ++ ['"'])
      | .error (.badNumber bad) => abort 2 (bytes "Illegal number: " ++ bad)
      | .error .malformed =>
        abort 2 (bytes "arithmetic expression: expecting primary: \"" ++ text ++ ['"'])
      | .error .trailing =>
        abort 2 (bytes "arithmetic expression: expecting EOF: \"" ++ text ++ ['"'])
    | .parameter name use quoted => atomsOfParameter fuel name use quoted

def atomsOfParameter (fuel : Nat) (name : Bytes) (use : ParameterUse) (quoted : Bool) :
    Run (List Atom) :=
  match fuel with
  | 0 => throw .timeout
  | fuel + 1 => do
    let value? ← parameter? name
    let isSet (orEmpty : Bool) : Bool := value?.any fun v => ! (orEmpty && v.isEmpty)
    let plain : Run (List Atom) := do
      let e ← env
      if name == ['@'] || (name == ['*'] && ! quoted) then
        let fields := e.parameters.map (atomsOfText quoted)
        return List.intercalate [.border] fields
      else if name == ['*'] then
        let joint := (← separators).take 1
        return atomsOfText true (List.intercalate joint e.parameters)
      else
        match value? with
        | some v => return atomsOfText quoted v
        | none =>
          if e.nounset && name != ['!'] then abort 2 (name ++ bytes ": parameter not set")
          else return atomsOfText quoted []
    match use with
    | .unknown => abort 2 (bytes "Bad substitution")
    | .value => plain
    | .length =>
      let text := value?.getD []
      return atomsOfText quoted (decimal text.length)
    | .orElse orEmpty word => if isSet orEmpty then plain else atomsOf fuel word
    | .instead orEmpty word =>
      if isSet orEmpty then atomsOf fuel word else return (if quoted then [.present] else [])
    | .assign orEmpty word =>
      if isSet orEmpty then plain
      else
        let text ← textOf fuel word
        setVariable name text
        return atomsOfText quoted text
    | .require orEmpty word =>
      if isSet orEmpty then plain
      else
        let text ← textOf fuel word
        let message := if word.isEmpty then
            bytes (if orEmpty then "parameter not set or null" else "parameter not set")
          else text
        abort 2 (name ++ bytes ": " ++ message)
    | .trimStart longest pattern =>
      let g := Glob.read (glyphsOfAtoms (← atomsOf fuel pattern))
      return atomsOfText quoted (trimStart longest g (value?.getD []))
    | .trimEnd longest pattern =>
      let g := Glob.read (glyphsOfAtoms (← atomsOf fuel pattern))
      return atomsOfText quoted (trimEnd longest g (value?.getD []))

/-- The text of a word that is not split. -/
def textOf (fuel : Nat) (w : Word) : Run Bytes :=
  match fuel with
  | 0 => throw .timeout
  | fuel + 1 => return joinAtoms (← atomsOf fuel w)

/-- The fields that words stand for. -/
def fieldsOf (fuel : Nat) (words : List Word) : Run (List Bytes) :=
  match fuel with
  | 0 => throw .timeout
  | fuel + 1 => do
    match words with
    | [] => return []
    | w :: rest =>
      let atoms ← atomsOf fuel w
      let e ← env
      let tree := (← get).world.tree
      let fields := (splitFields (← separators) atoms).flatMap fun glyphs =>
        let g := Glob.read glyphs
        let literal := glyphs.map Glyph.char
        if e.noglob || ! g.isProper then [literal]
        else
          match g.expand tree e.directory with
          | [] => [literal]
          | paths => paths
      return fields ++ (← fieldsOf fuel rest)

/-- Carries redirections out; tells whether all of them worked. -/
def redirect (fuel : Nat) (redirects : List Redirect) : Run Bool :=
  match fuel with
  | 0 => throw .timeout
  | fuel + 1 => do
    match redirects with
    | [] => return true
    | .mk fd kind target :: rest =>
      let text ← textOf fuel target
      let opened ← match kind with
        | .here => pure (some (some (← openChannel (.source text false))))
        | .duplicate =>
          if text == ['-'] then pure (some none)
          else
            match natOfDigits? 10 text with
            | none => abort 2 (bytes "Syntax error: Bad fd number")
            | some n =>
              match (← descriptor? n) with
              | some c => pure (some (some c))
              | none => do
                complain (text ++ bytes ": Bad file descriptor")
                pure none
        | kind => do
          match (← openFile kind text) with
          | some c => pure (some (some c))
          | none => pure none
      match opened with
      | none => return false
      | some c =>
        setDescriptor fd c
        redirect fuel rest

/-- Runs a part with redirections that are undone afterwards. -/
def redirected (fuel : Nat) (redirects : List Redirect) (body : Command) (tested : Bool) :
    Run Unit :=
  match fuel with
  | 0 => throw .timeout
  | fuel + 1 => do
    let before := (← env).descriptors
    if (← redirect fuel redirects) then
      let stop ← attempt (eval fuel tested body)
      modifyEnv fun e => { e with descriptors := before }
      match stop with
      | some stop => throw stop
      | none => return
    else
      modifyEnv fun e => { e with descriptors := before }
      setStatus 2

def evalAll (fuel : Nat) (tested : Bool) (commands : List Command) : Run Unit :=
  match fuel with
  | 0 => throw .timeout
  | fuel + 1 => do
    match commands with
    | [] => return
    | c :: rest =>
      eval fuel tested c
      evalAll fuel tested rest

/-- Runs a script as a text. -/
def evalText (fuel : Nat) (text : Bytes) : Run Unit :=
  match fuel with
  | 0 => throw .timeout
  | fuel + 1 => do
    let (commands, error) := readScript text
    evalAll fuel false commands
    match error with
    | none => return
    | some e =>
      modifyEnv fun env => { env with line := e.line }
      abort 2 (bytes s!"Syntax error: {e.message}")

/-- Runs a command; the environment holds its status afterwards. The failure of a command that is
`tested` has no effect of its own. -/
def eval (fuel : Nat) (tested : Bool) (c : Command) : Run Unit :=
  match fuel with
  | 0 => throw .timeout
  | fuel + 1 => do
    match c with
    | .simple line assignments words redirects =>
      step
      modifyEnv fun e => { e with line }
      simple fuel tested assignments words redirects
      checkFailure tested
    | .pipeline negated [part] =>
      eval fuel (tested || negated) part
      if negated then setStatus (if (← status) == 0 then 1 else 0)
    | .pipeline negated parts =>
      let start := (← get).world.clock
      let input ← match (← descriptor? 0) with
        | some n => pure n
        | none => openChannel .null
      pipe fuel start start input parts
      if negated then setStatus (if (← status) == 0 then 1 else 0) else checkFailure tested
    | .andThen first second =>
      eval fuel true first
      if (← status) == 0 then eval fuel tested second
    | .orElse first second =>
      eval fuel true first
      if (← status) != 0 then eval fuel tested second
    | .sequence commands => evalAll fuel tested commands
    | .background command =>
      let s ← get
      let input ← openChannel .null
      let e := { s.env with descriptors := (0, input) :: s.env.descriptors.filter (·.1 != 0) }
      let number := firstJob + s.waiting.length + s.ended.length
      modify fun s => { s with waiting := s.waiting ++ [⟨number, e, command, s.world.clock⟩] }
      modifyEnv fun e => { e with lastJob := some number }
      setStatus 0
    | .subshell body =>
      inSubshell (eval fuel tested body)
      checkFailure tested
    | .branch condition yes no =>
      eval fuel true condition
      if (← status) == 0 then eval fuel tested yes
      else
        setStatus 0
        eval fuel tested no
    | .loop untilTrue condition body => loop fuel untilTrue condition body tested 0
    | .each name words body =>
      let fields ← match words with
        | some words => fieldsOf fuel words
        | none => pure (← env).parameters
      setStatus 0
      each fuel name fields body tested
    | .choose word arms =>
      let text ← textOf fuel word
      setStatus 0
      choose fuel text arms tested
    | .define name body =>
      modifyEnv fun e => { e with functions := (name, body) :: e.functions.filter (·.1 != name) }
      setStatus 0
    | .redirected line body redirects =>
      modifyEnv fun e => { e with line }
      redirected fuel redirects body tested

/-- Runs the parts of a pipeline side by side: all of them begin at `start`, and the last one to
end counts. -/
def pipe (fuel : Nat) (start latest : Nat) (input : Nat) (parts : List Command) : Run Unit :=
  match fuel with
  | 0 => throw .timeout
  | fuel + 1 => do
    modifyWorld fun w => { w with clock := start }
    match parts with
    | [] => modifyWorld fun w => { w with clock := latest }
    | [last] =>
      inSubshell (withDescriptor 0 input (eval fuel true last))
      modifyWorld fun w => { w with clock := max latest w.clock }
    | part :: rest =>
      let sink ← openChannel (.sink [] 0 true)
      inSubshell (withDescriptor 0 input (withDescriptor 1 sink (eval fuel true part)))
      let cut := match (← channel sink) with
        | .sink _ size _ => pipeSize < size
        | _ => false
      let text ← collected sink
      setChannel sink (.source text cut)
      pipe fuel start (max latest (← get).world.clock) sink rest

/-- Goes round as long as the condition allows; `last` is the status of the last round. -/
def loop (fuel : Nat) (untilTrue : Bool) (condition body : Command) (tested : Bool) (last : Nat) :
    Run Unit :=
  match fuel with
  | 0 => throw .timeout
  | fuel + 1 => do
    step
    let stop ← attempt do
      eval fuel true condition
      if ((← status) == 0) == untilTrue then
        setStatus last
        throw (.leaveLoop 1)
      eval fuel tested body
    match stop with
    | none | some (.nextRound 1) => loop fuel untilTrue condition body tested (← status)
    | some (.leaveLoop 1) => return
    | some (.leaveLoop n) => throw (.leaveLoop (n - 1))
    | some (.nextRound n) => throw (.nextRound (n - 1))
    | some stop => throw stop

def each (fuel : Nat) (name : Bytes) (fields : List Bytes) (body : Command) (tested : Bool) :
    Run Unit :=
  match fuel with
  | 0 => throw .timeout
  | fuel + 1 => do
    match fields with
    | [] => return
    | f :: rest =>
      step
      setVariable name f
      match (← attempt (eval fuel tested body)) with
      | none | some (.nextRound 1) => each fuel name rest body tested
      | some (.leaveLoop 1) => return
      | some (.leaveLoop n) => throw (.leaveLoop (n - 1))
      | some (.nextRound n) => throw (.nextRound (n - 1))
      | some stop => throw stop

def choose (fuel : Nat) (text : Bytes) (arms : List (List Word × Command)) (tested : Bool) :
    Run Unit :=
  match fuel with
  | 0 => throw .timeout
  | fuel + 1 => do
    match arms with
    | [] => return
    | (patterns, body) :: rest =>
      if (← anyMatches fuel text patterns) then eval fuel tested body
      else choose fuel text rest tested

def anyMatches (fuel : Nat) (text : Bytes) (patterns : List Word) : Run Bool :=
  match fuel with
  | 0 => throw .timeout
  | fuel + 1 => do
    match patterns with
    | [] => return false
    | p :: rest =>
      let g := Glob.read (glyphsOfAtoms (← atomsOf fuel p))
      if g.isMatch text then return true else anyMatches fuel text rest

/-- Expands and carries out assignments. -/
def assign (fuel : Nat) (assignments : List (Bytes × Word)) : Run Unit :=
  match fuel with
  | 0 => throw .timeout
  | fuel + 1 => do
    match assignments with
    | [] => return
    | (name, word) :: rest =>
      let value ← textOf fuel word
      setVariable name value
      trace [name ++ '=' :: value]
      assign fuel rest

/-- Runs a simple command. Without a name it only assigns; then its status is that of the last
script whose output it took. -/
def simple (fuel : Nat) (tested : Bool) (assignments : List (Bytes × Word)) (words : List Word)
    (redirects : List Redirect) : Run Unit :=
  match fuel with
  | 0 => throw .timeout
  | fuel + 1 => do
    let fields ← fieldsOf fuel words
    match fields with
    | [] =>
      let takesOutput := (words ++ assignments.map Prod.snd).any fun w => w.any fun
        | .output _ _ => true
        | _ => false
      assign fuel assignments
      if ! takesOutput then setStatus 0
      let before := (← env).descriptors
      let worked ← redirect fuel redirects
      modifyEnv fun e => { e with descriptors := before }
      if ! worked then setStatus 2
    | name :: args =>
      let before ← env
      let text := String.ofList name
      let special := specialBuiltins.contains text && (before.functions.lookup name).isNone
      if (← redirect fuel redirects) then
        assign fuel assignments
        for (name, _) in assignments do
          modifyVariable name fun v => { v with exported := true }
        trace fields
        if text == "exec" && special then exec fuel args
        else
          let stop ← attempt (call fuel tested name args)
          modifyEnv fun e => { e with descriptors := before.descriptors }
          if ! special then
            for (name, _) in assignments do
              modifyEnv fun e =>
                let others := e.bindings.filter (·.1 != name)
                { e with bindings := match before.bindings.lookup name with
                  | some v => (name, v) :: others
                  | none => others }
          match stop with
          | some stop => throw stop
          | none => return
      else
        modifyEnv fun e => { e with descriptors := before.descriptors }
        setStatus 2
        if special then throw .exit

/-- Keeps the redirections, and ends the shell with the command if there is one. -/
def exec (fuel : Nat) (args : List Bytes) : Run Unit :=
  match fuel with
  | 0 => throw .timeout
  | fuel + 1 => do
    match args with
    | [] => setStatus 0
    | name :: args =>
      callOutside fuel (bytes "exec: ") name args
      modifyEnv fun e => { e with exitTrap := none }
      throw .exit

/-- Runs a function, a command of the shell or a utility. -/
def call (fuel : Nat) (tested : Bool) (name : Bytes) (args : List Bytes) : Run Unit :=
  match fuel with
  | 0 => throw .timeout
  | fuel + 1 => do
    match (← env).functions.lookup name with
    | some body =>
      let outer := (← env).parameters
      modifyEnv fun e => { e with parameters := args, hidden := [] :: e.hidden }
      let stop ← attempt (eval fuel tested body)
      unhide
      modifyEnv fun e => { e with parameters := outer }
      match stop with
      | none | some .leaveFunction => return
      | some stop => throw stop
    | none =>
      if builtins.contains (.ofList name) then builtin fuel (.ofList name) args
      else callOutside fuel [] name args

/-- Runs a command of the shell itself. -/
def builtin (fuel : Nat) (name : String) (args : List Bytes) : Run Unit :=
  match fuel with
  | 0 => throw .timeout
  | fuel + 1 => do
    match name with
    | "exit" =>
      setStatus (← statusArgument "exit" args)
      throw .exit
    | "return" =>
      setStatus (← statusArgument "return" args)
      throw .leaveFunction
    | "break" =>
      setStatus 0
      throw (.leaveLoop (max 1 (((args.head?).bind (natOfDigits? 10)).getD 1)))
    | "continue" =>
      setStatus 0
      throw (.nextRound (max 1 (((args.head?).bind (natOfDigits? 10)).getD 1)))
    | "cd" => changeDirectory args
    | "pwd" =>
      let e ← env
      let physical := '/' :: List.intercalate ['/'] (e.directory.map Bytes.ofString)
      write 1 ((if args.contains ['-', 'P'] then physical else e.directoryText) ++ ['\n'])
      setStatus 0
    | "set" =>
      setOptions (args.length + 1) args
      setStatus 0
    | "shift" =>
      let count := ((args.head?).bind (natOfDigits? 10)).getD 1
      if (← env).parameters.length < count then abort 2 (bytes "shift: can't shift that many")
      modifyEnv fun e => { e with parameters := e.parameters.drop count }
      setStatus 0
    | "unset" =>
      for arg in args do
        if arg == ['-', 'f'] || arg == ['-', 'v'] then pure ()
        else if args.head? == some ['-', 'f'] then
          modifyEnv fun e => { e with functions := e.functions.filter (·.1 != arg) }
        else unset arg
      setStatus 0
    | "export" => exportAll args
    | "readonly" => markAll (fun v => { v with fixed := true }) args
    | "local" => hide args
    | "eval" =>
      setStatus 0
      evalText fuel (List.intercalate [' '] args)
    | "." =>
      let s ← get
      match args with
      | [] => abort 2 (bytes ".: filename argument required")
      | file :: _ =>
        match s.world.tree.read s.env.directory (Work.toPath file) with
        | .ok content =>
          setStatus 0
          match (← attempt (evalText fuel (.ofArray content))) with
          | none | some .leaveFunction => return
          | some stop => throw stop
        | .error fault =>
          if file.contains '/' then
            abort 2 (bytes ".: cannot open " ++ file ++ bytes s!": {openFault false fault}")
          else abort 2 (bytes ".: " ++ file ++ bytes ": not found")
    | "read" => readLine args
    | "wait" =>
      awaitJobs fuel
      match (args.head?).bind (natOfDigits? 10) with
      | some number => setStatus (((← get).ended.lookup number).getD 127)
      | none => setStatus 0
    | "kill" => kill args
    | "trap" =>
      match args with
      | action :: signals =>
        if signals.any fun s => s == bytes "EXIT" || s == ['0'] then
          modifyEnv fun e => { e with exitTrap := if action == ['-'] then none else some action }
      | [] => pure ()
      setStatus 0
    | "command" =>
      match args with
      | ['-', 'v'] :: name :: _ =>
        let text := String.ofList name
        if builtins.contains text || ["echo", "printf", "test", "[", "true", "false"].contains text ||
            ((← env).functions.lookup name).isSome then
          write 1 (name ++ ['\n'])
          setStatus 0
        else if (utility? [] text).isSome || outerUtilities.contains text then
          write 1 (bytes "/usr/bin/" ++ name ++ ['\n'])
          setStatus 0
        else setStatus 127
      | name :: args =>
        if builtins.contains (.ofList name) then builtin fuel (.ofList name) args
        else callOutside fuel [] name args
      | [] => setStatus 0
    | _ => setStatus 0

/-- Runs a utility. Where there is none, `label` begins the complaint. -/
def callOutside (fuel : Nat) (label name : Bytes) (args : List Bytes) : Run Unit :=
  match fuel with
  | 0 => throw .timeout
  | fuel + 1 => do
    let text := String.ofList (match after? (bytes "/usr/bin/") name, after? (bytes "/bin/") name with
      | some rest, _ => rest
      | none, some rest => rest
      | none, none => name)
    match utility? (← Run.label) text with
    | some u => runUtility u args
    | none =>
      match text with
      | "sleep" => sleep fuel args
      | "yes" =>
        let line := (if args.isEmpty then ['y'] else List.intercalate [' '] args) ++ ['\n']
        match (← descriptor? 1) with
        | some n =>
          match (← channel n) with
          | .sink _ _ true => write 1 (List.replicate (pipeSize / line.length + 1) line).flatten
          | _ => throw .timeout
        | none => throw .timeout
      | "sh" | "dash" => shell fuel args
      | "env" =>
        let assigned := args.takeWhile fun a => a.contains '='
        match args.drop assigned.length with
        | name :: args =>
          inSubshell do
            exportAll assigned
            callOutside fuel [] name args
        | [] => setStatus 0
      | "xargs" =>
        let (input, _) ← available
        consume input.length
        let words := (splitFields [' ', '\t', '\n'] (input.map .loose)).map (·.map Glyph.char)
        let (size, args) := match args with
          | ['-', 'n'] :: n :: rest => ((natOfDigits? 10 n).getD 1, rest)
          | ('-' :: 'n' :: n) :: rest => ((natOfDigits? 10 n).getD 1, rest)
          | args => (max words.length 1, args)
        let args := if args.isEmpty then [bytes "echo"] else args
        inChunks fuel size args words
      | "timeout" =>
        match args with
        | time :: name :: args =>
          match duration? time with
          | some d => limited fuel d name args
          | none => setStatus 125
        | _ => setStatus 125
      | _ =>
        let s ← get
        if name.isEmpty ||
            (name.contains '/' && s.world.tree.pathExists s.env.directory (Work.toPath name)) then
          complain (label ++ name ++ bytes ": Permission denied")
          setStatus (if name.isEmpty then 127 else 126)
        else
          complain (label ++ name ++ bytes ": not found")
          setStatus 127

/-- Runs a command on so many words at a time. -/
def inChunks (fuel : Nat) (size : Nat) (command words : List Bytes) : Run Unit :=
  match fuel with
  | 0 => throw .timeout
  | fuel + 1 => do
    callOutside fuel [] (command.headD []) (command.drop 1 ++ words.take size)
    let status ← status
    let rest := words.drop (max size 1)
    if ! rest.isEmpty then
      inChunks fuel size command rest
      if status != 0 then setStatus 123
    else if status != 0 && status < 126 then setStatus 123

/-- Lets time pass, in which the commands in the background run. -/
def sleep (fuel : Nat) (args : List Bytes) : Run Unit :=
  match fuel with
  | 0 => throw .timeout
  | fuel + 1 => do
    match args.mapM duration? with
    | some (d :: more) =>
      runJobs fuel
      pass ((d :: more).foldl (· + ·) 0)
      setStatus 0
    | some [] =>
      write 2 (bytes "sleep: missing operand\nTry 'sleep --help' for more information.\n")
      setStatus 1
    | none =>
      for arg in args do
        if (duration? arg).isNone then
          write 2 (bytes "sleep: invalid time interval '" ++ arg ++ bytes "'\n")
      write 2 (bytes "Try 'sleep --help' for more information.\n")
      setStatus 1

/-- Runs a command that is broken off after some time. -/
def limited (fuel : Nat) (duration : Nat) (name : Bytes) (args : List Bytes) : Run Unit :=
  match fuel with
  | 0 => throw .timeout
  | fuel + 1 => do
    let outer := (← get).world.limit
    let inner := (← get).world.clock + duration
    if outer ≤ inner then callOutside fuel [] name args
    else
      modifyWorld fun w => { w with limit := inner }
      let stop ← attempt (callOutside fuel [] name args)
      modifyWorld fun w => { w with limit := outer }
      match stop with
      | none => return
      | some .timeout =>
        modifyWorld fun w => { w with clock := inner }
        setStatus 124
      | some stop => throw stop

/-- Runs another shell: on a script that it is given, or on a file. -/
def shell (fuel : Nat) (args : List Bytes) : Run Unit :=
  match fuel with
  | 0 => throw .timeout
  | fuel + 1 => do
    let fresh (name : Bytes) (parameters : List Bytes) : Run Unit := modifyEnv fun e =>
      { e with name, parameters, functions := [], hidden := [], line := 1, errexit := false,
               nounset := false, noglob := false, xtrace := false, status := 0, exitTrap := none
               bindings := e.bindings.filter fun v => v.2.exported || v.1 == bytes "PWD" }
    match args with
    | ['-', 'c'] :: script :: rest =>
      inSubshell do
        fresh (rest.head?.getD (bytes "sh")) (rest.drop 1)
        wholeScript fuel script
    | ['-', 'e', 'c'] :: script :: rest =>
      inSubshell do
        fresh (rest.head?.getD (bytes "sh")) (rest.drop 1)
        modifyEnv fun e => { e with errexit := true }
        wholeScript fuel script
    | file :: rest =>
      let s ← get
      match s.world.tree.read s.env.directory (Work.toPath file) with
      | .ok content =>
        inSubshell do
          fresh file rest
          wholeScript fuel (.ofArray content)
      | .error _ =>
        write 2 (bytes "sh: 0: cannot open " ++ file ++ bytes ": No such file\n")
        setStatus 2
    | [] =>
      let (input, _) ← available
      consume input.length
      inSubshell do
        fresh (bytes "sh") []
        wholeScript fuel input

/-- Runs a script to its end, with what is to be done then. -/
def wholeScript (fuel : Nat) (text : Bytes) : Run Unit :=
  match fuel with
  | 0 => throw .timeout
  | fuel + 1 => do
    let stop ← attempt (evalText fuel text)
    match stop with
    | some .timeout => throw .timeout
    | some .brokenPipe => throw .brokenPipe
    | _ =>
      match (← env).exitTrap with
      | none => return
      | some action =>
        let status ← status
        modifyEnv fun e => { e with exitTrap := none }
        evalText fuel action
        setStatus status

/-- Runs the commands that wait in the background, each from its own start. -/
def runJobs (fuel : Nat) : Run Unit :=
  match fuel with
  | 0 => throw .timeout
  | fuel + 1 => do
    match (← get).waiting with
    | [] => return
    | job :: rest =>
      let s ← get
      set { s with env := job.env, waiting := rest, world := { s.world with clock := job.start } }
      let stop ← attempt (inSubshell (eval fuel true job.command))
      modify fun now => { now with
        env := s.env
        ended := (job.number, now.env.status) :: now.ended
        busyUntil := max now.busyUntil now.world.clock
        world := { now.world with clock := s.world.clock } }
      match stop with
      | some .timeout =>
        modify fun now => { now with busyUntil := now.world.limit }
        runJobs fuel
      | _ => runJobs fuel

/-- Waits for the commands in the background. -/
def awaitJobs (fuel : Nat) : Run Unit :=
  match fuel with
  | 0 => throw .timeout
  | fuel + 1 => do
    runJobs fuel
    let s ← get
    pass (s.busyUntil - s.world.clock)
    setStatus 0

end

end Run

/-- How a script ended. The status is missing if the time was up. -/
structure Result where
  status : Option Nat
  stdout : Bytes
  stderr : Bytes
  tree : Node

/-- How many commands a script may run, and how deep calls may go. -/
def stepLimit : Nat := 1000000

/-- Runs a script in a directory for at most `limit` milliseconds. Its input is empty. -/
def run (tree : Node) (directory : List String) (limit : Nat) (script : Bytes) : Result :=
  let text := '/' :: List.intercalate ['/'] (directory.map Bytes.ofString)
  let bindings := [("PWD", text), ("HOME", bytes "/root"),
    ("PATH", bytes "/usr/local/sbin:/usr/local/bin:/usr/sbin:/usr/bin:/sbin:/bin")].map
      fun (name, value) => (name.toList, (⟨value, true, false⟩ : Variable))
  let env : Env :=
    ⟨bytes "sh", directory, text, [(0, 0), (1, 1), (2, 2)], bindings, [], [], 0, 1, false, false,
      false, false, [], none, none⟩
  let world : World :=
    ⟨tree, #[.null, .sink [] 0 false, .sink [] 0 false], stepLimit, 0, limit * 1000⟩
  let whole : Run Unit := do
    let stop ← Run.attempt (Run.wholeScript stepLimit script)
    let status ← Run.status
    match stop with
    | some stop => throw stop
    | none =>
      Run.awaitJobs stepLimit
      Run.setStatus status
  let (ended, s) := whole.run ⟨world, env, [], [], 0⟩
  let text (n : Nat) : Bytes :=
    match s.world.channels[n]? with
    | some (.sink pieces _ _) => pieces.reverse.flatten
    | _ => []
  ⟨match ended with
    | .ok _ => some s.env.status
    | .error .timeout => none
    | .error .brokenPipe => some 141
    | .error _ => some s.env.status,
    text 1, text 2, s.world.tree⟩

end LintRepair.Shell
