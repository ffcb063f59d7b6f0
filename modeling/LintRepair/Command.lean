import LintRepair.Path.Basic
import LintRepair.Shell.Run

/-!
Running command lines of a project.
-/

namespace LintRepair

/-- Something that could not be done, and why. -/
structure Failure where
  context : String
  cause : String
  deriving DecidableEq, Repr

namespace Failure

def message (f : Failure) : String := f.context ++ ": " ++ f.cause

/-- The failure as it is reported at the end of a program. -/
def report (f : Failure) : String := s!"Error: {f.context}\n\nCaused by:\n    {f.cause}\n"

end Failure

/-- What a command printed and how it ended. -/
structure CommandOutput where
  success : Bool
  stdout : String
  stderr : String
  timedOut : Bool
  deriving DecidableEq, Repr

namespace CommandOutput

/-- The output of a command that was broken off after so many milliseconds. What it had printed
is lost. -/
def brokenOff (timeout : Nat) : CommandOutput :=
  ⟨false, "", s!"timed out after {timeout / 1000}s", true⟩

def ofResult (timeout : Nat) (r : Shell.Result) : CommandOutput :=
  match r.status with
  | none => brokenOff timeout
  | some status => ⟨status == 0, r.stdout.toText, r.stderr.toText, false⟩

end CommandOutput

/-- Why a command does not start in a directory, or the place of that directory. -/
def startPlace (tree : Node) (directory : Path) (command : String) : Except String (List String) :=
  if command.toList.contains '\x00' then .error "nul byte found in provided data"
  else
    match tree.locate [] directory with
    | .error fault => .error fault.message
    | .ok place =>
      match tree.at? place with
      | some (.dir _) => .ok place
      | _ => .error Fault.notDirectory.message

/-- Runs a command line in a directory, for at most `timeout` milliseconds. -/
def runCommand (tree : Node) (directory : Path) (timeout : Nat) (command : String) :
    Except Failure CommandOutput × Node :=
  match startPlace tree directory command with
  | .error cause => (.error ⟨s!"failed to start `{command}`", cause⟩, tree)
  | .ok place =>
    let r := Shell.run tree place timeout (.ofString command)
    (.ok (.ofResult timeout r), r.tree)

end LintRepair
