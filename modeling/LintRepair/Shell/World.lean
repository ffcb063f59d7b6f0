import LintRepair.Shell.Script
import LintRepair.Shell.Utility.Basic

/-!
What a shell works in: the file tree, the open channels, the variables, and a clock.
-/

namespace LintRepair.Shell

/-- Something that is open for reading or writing. -/
inductive Channel where
  | null
  /-- Collects what is written, last piece first. If it is bounded, too much of it breaks the
  writer off. -/
  | sink (pieces : List Bytes) (size : Nat) (bounded : Bool)
  /-- Holds what can be read. If it was cut, its writer would have gone on. -/
  | source (rest : Bytes) (cut : Bool)
  | file (place : List String) (position : Nat) (append : Bool)

structure Variable where
  value : Bytes
  exported : Bool
  fixed : Bool

/-- Why a shell stops what it does. -/
inductive Stop where
  | exit
  | leaveFunction
  | leaveLoop (levels : Nat)
  | nextRound (levels : Nat)
  /-- The time is up, or would be if it went on. -/
  | timeout
  | brokenPipe

/-- What belongs to one shell; a subshell has a copy of it. -/
structure Env where
  /-- The name that begins complaints. -/
  name : Bytes
  directory : List String
  /-- The path by which the directory was reached. -/
  directoryText : Bytes
  descriptors : List (Nat × Nat)
  bindings : List (Bytes × Variable)
  functions : List (Bytes × Command)
  parameters : List Bytes
  status : Nat
  line : Nat
  /-- Ends at the first failure. -/
  errexit : Bool
  /-- Refuses parameters that are not set. -/
  nounset : Bool
  noglob : Bool
  /-- Shows each command before it runs. -/
  xtrace : Bool
  /-- The values that local variables hide, for each function that runs. -/
  hidden : List (List (Bytes × Option Variable))
  exitTrap : Option Bytes
  /-- The number of the last command that was put in the background. -/
  lastJob : Option Nat

/-- All that shells share. -/
structure World where
  tree : Node
  channels : Array Channel
  /-- How many commands may still run. -/
  steps : Nat
  /-- The time that has passed, and the time at which a command is broken off, in microseconds. -/
  clock : Nat
  limit : Nat

/-- A command in the background that has not run yet. -/
structure WaitingJob where
  number : Nat
  env : Env
  command : Command
  start : Nat

structure State where
  world : World
  env : Env
  waiting : List WaitingJob
  /-- The numbers and the statuses of those that have run. -/
  ended : List (Nat × Nat)
  /-- When the last of them ended. -/
  busyUntil : Nat

abbrev Run := ExceptT Stop (StateM State)

/-- How much a pipe takes before its writer is broken off. -/
def pipeSize : Nat := 1048576

namespace Run

def env : Run Env := return (← get).env

def modifyEnv (f : Env → Env) : Run Unit := modify fun s => { s with env := f s.env }

def modifyWorld (f : World → World) : Run Unit := modify fun s => { s with world := f s.world }

def setStatus (status : Nat) : Run Unit := modifyEnv fun e => { e with status }

def status : Run Nat := return (← env).status

/-- Uses up one step. -/
def step : Run Unit := do
  let w := (← get).world
  if w.steps == 0 then throw .timeout
  modifyWorld fun w => { w with steps := w.steps - 1 }

/-- Lets time pass. -/
def pass (duration : Nat) : Run Unit := do
  let w := (← get).world
  if w.limit ≤ w.clock + duration then
    modifyWorld fun w => { w with clock := w.limit }
    throw .timeout
  else modifyWorld fun w => { w with clock := w.clock + duration }

/-! Channels. -/

def openChannel (c : Channel) : Run Nat := do
  let n := (← get).world.channels.size
  modifyWorld fun w => { w with channels := w.channels.push c }
  return n

def channel (n : Nat) : Run Channel := return ((← get).world.channels[n]?).getD .null

def setChannel (n : Nat) (c : Channel) : Run Unit :=
  modifyWorld fun w => { w with channels := w.channels.setIfInBounds n c }

/-- Writes into the middle of a text, which is filled up with zeros before that if need be. -/
def overwrite (old : Bytes) (position : Nat) (new : Bytes) : Bytes :=
  old.take position ++ List.replicate (position - old.length) '\x00' ++ new ++
    old.drop (position + new.length)

def writeChannel (n : Nat) (text : Bytes) : Run Unit := do
  if text.isEmpty then return
  match (← channel n) with
  | .null | .source _ _ => return
  | .sink pieces size bounded =>
    setChannel n (.sink (text :: pieces) (size + text.length) bounded)
    if bounded && pipeSize < size + text.length then throw .brokenPipe
  | .file place position append =>
    let w := (← get).world
    let old := Bytes.ofArray ((w.tree.bytesAt? place).getD .empty)
    let position := if append then old.length else position
    modifyWorld fun w =>
      { w with tree := w.tree.put place (.file (overwrite old position text).toArray) }
    setChannel n (.file place (position + text.length) append)

def descriptor? (fd : Nat) : Run (Option Nat) := return (← env).descriptors.lookup fd

def write (fd : Nat) (text : Bytes) : Run Unit := do
  match (← descriptor? fd) with
  | some n => writeChannel n text
  | none => return

def setDescriptor (fd : Nat) (n : Option Nat) : Run Unit :=
  modifyEnv fun e =>
    let others := e.descriptors.filter (·.1 != fd)
    { e with descriptors := match n with
      | some n => (fd, n) :: others
      | none => others }

/-- What can be read from the standard input, and whether its writer was broken off. -/
def available : Run (Bytes × Bool) := do
  match (← descriptor? 0) with
  | none => return ([], false)
  | some n =>
    match (← channel n) with
    | .source rest cut => return (rest, cut)
    | .file place position _ =>
      let content := ((← get).world.tree.bytesAt? place).getD .empty
      return ((Bytes.ofArray content).drop position, false)
    | _ => return ([], false)

/-- Marks so many bytes of the standard input as read. One who reads to the end of what was cut
waits for ever. -/
def consume (count : Nat) : Run Unit := do
  match (← descriptor? 0) with
  | none => return
  | some n =>
    match (← channel n) with
    | .source rest cut =>
      if cut && rest.length ≤ count then throw .timeout
      setChannel n (.source (rest.drop count) cut)
    | .file place position append => setChannel n (.file place (position + count) append)
    | _ => return

/-- All that was written to a sink. -/
def collected (n : Nat) : Run Bytes := do
  match (← channel n) with
  | .sink pieces _ _ => return pieces.reverse.flatten
  | _ => return []

/-! Variables. -/

def valueOf? (name : Bytes) : Run (Option Bytes) :=
  return ((← env).bindings.lookup name).map Variable.value

/-- Changes a variable, which is empty if it is not there. -/
def modifyVariable (name : Bytes) (f : Variable → Variable) : Run Unit := modifyEnv fun e =>
  let old := (e.bindings.lookup name).getD ⟨[], false, false⟩
  { e with bindings := (name, f old) :: e.bindings.filter (·.1 != name) }

def unset (name : Bytes) : Run Unit := modifyEnv fun e =>
  { e with bindings := e.bindings.filter (·.1 != name) }

/-! Complaints. -/

/-- What begins a complaint of the shell: its name and the line. -/
def label : Run Bytes := do
  let e ← env
  return e.name ++ bytes ": " ++ decimal e.line ++ bytes ": "

def complain (message : Bytes) : Run Unit := do
  write 2 ((← label) ++ message ++ ['\n'])

/-- Complains and ends the shell. -/
def abort {α : Type} (status : Nat) (message : Bytes) : Run α := do
  complain message
  setStatus status
  throw .exit

def setVariable (name value : Bytes) : Run Unit := do
  if ((← env).bindings.lookup name).any Variable.fixed then
    abort 2 (name ++ bytes ": is read only")
  modifyVariable name fun v => { v with value }

/-! Control. -/

/-- Runs a part and answers with what stopped it. -/
def attempt (x : Run Unit) : Run (Option Stop) := fun s =>
  match x s with
  | (.ok _, s) => (.ok none, s)
  | (.error stop, s) => (.ok (some stop), s)

/-- Runs a part as a shell of its own: what it changes in its environment is lost, except for the
status. -/
def inSubshell (x : Run Unit) : Run Unit := do
  let outer ← env
  modifyEnv fun e => { e with exitTrap := none }
  let stop ← attempt x
  let status ← status
  modifyEnv fun _ => { outer with status }
  match stop with
  | some .timeout => throw .timeout
  | some .brokenPipe => setStatus 141
  | _ => return

/-- Runs a part with a descriptor that leads elsewhere. -/
def withDescriptor (fd n : Nat) (x : Run Unit) : Run Unit := do
  let before := (← env).descriptors
  setDescriptor fd (some n)
  let stop ← attempt x
  modifyEnv fun e => { e with descriptors := before }
  match stop with
  | some stop => throw stop
  | none => return

end Run

end LintRepair.Shell
