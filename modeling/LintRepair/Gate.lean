import LintRepair.Analyzer
import LintRepair.Check
import LintRepair.Command

/-!
The check and the analyzer of a project as commands.
-/

namespace LintRepair

/-- Runs the build and the tests of the project in a directory. -/
structure Gate where
  build : String
  test : String
  directory : Path
  /-- How long each command may run, in milliseconds. -/
  timeout : Nat
  state : GateState

namespace Gate

def ofCommands (build test : String) (directory : Path) (timeout : Nat) : Gate :=
  ⟨build, test, directory, timeout, .unknown⟩

def command (g : Gate) : Stage → String
  | .build => g.build
  | .test => g.test

/-- Runs one stage. A command that does not start fails, and its error output says why. -/
def runStage (g : Gate) (tree : Node) (stage : Stage) : StageResult × Node :=
  match runCommand tree g.directory g.timeout (g.command stage) with
  | (.ok out, tree) => (⟨stage, out.success, out.stdout, out.stderr, out.timedOut⟩, tree)
  | (.error failure, tree) => (⟨stage, false, "", failure.message, false⟩, tree)

/-- Runs stages up to the first one that fails. -/
def runStages (g : Gate) (tree : Node) : List Stage → List StageResult × Node
  | [] => ([], tree)
  | stage :: stages =>
    let (result, tree) := g.runStage tree stage
    if result.success then
      let (results, tree) := g.runStages tree stages
      (result :: results, tree)
    else ([result], tree)

/-- Where the gate stands after a check. -/
def stateAfter (v : Verdict) : GateState :=
  match v.failedStage with
  | some stage => .failed stage
  | none => .passed

def check (g : Gate) (tree : Node) : Verdict × Gate × Node :=
  let (results, tree) := g.runStages tree [.build, .test]
  let verdict := Verdict.ofStages results
  (verdict, { g with state := stateAfter verdict }, tree)

end Gate

/-- Why the analyzer gave no diagnostics. -/
inductive LintFault where
  | notStarted (failure : Failure)
  | timedOut (command : String)

def LintFault.message : LintFault → String
  | notStarted failure => failure.message
  | timedOut command => s!"`{command}` timed out"

/-- The analyzer as a command. Whether it succeeds does not matter, for it fails whenever it has
something to report. -/
structure Linter where
  command : String
  directory : Path
  timeout : Nat

namespace Linter

def run (l : Linter) (tree : Node) : Except LintFault String × Node :=
  match runCommand tree l.directory l.timeout l.command with
  | (.error failure, tree) => (.error (.notStarted failure), tree)
  | (.ok out, tree) =>
    (if out.timedOut then .error (.timedOut l.command) else .ok (joinStreams out.stderr out.stdout),
      tree)

def pass (l : Linter) (tree : Node) : Pass × Node :=
  let (text, tree) := l.run tree
  (.ofRun text.toOption, tree)

end Linter

end LintRepair
