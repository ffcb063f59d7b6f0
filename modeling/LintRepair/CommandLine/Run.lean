import LintRepair.CommandLine.Help
import LintRepair.Setup

/-!
The program: from arguments to what it prints and how it ends.
-/

namespace LintRepair.CommandLine

/-- What a run of the program leaves behind. -/
structure Outcome where
  exit : Nat
  stdout : String
  stderr : String
  tree : Node

def versionText : String := "lintmend 0.1.0\n"

/-- A command that did not succeed ends with one, and one that fails says why. -/
def ofPerformance (p : Performance) : Outcome :=
  match p.conclusion with
  | .finished true => ⟨0, p.stdout, "", p.tree⟩
  | .finished false => ⟨1, p.stdout, "", p.tree⟩
  | .failed failure => ⟨1, p.stdout, failure.report, p.tree⟩
  | .overflow => ⟨101, p.stdout, "attempt to add with overflow\n", p.tree⟩

def perform (color : Bool) (tree : Node) (directory : List String) : Request → Outcome
  | .fix path => ofPerformance (LintRepair.fix color tree directory path)
  | .fixCatch path => ofPerformance (LintRepair.fixCatch color tree directory path)
  | .scan path format => ofPerformance (LintRepair.scan color format tree directory path)
  | .init path force => ofPerformance (setUp color force tree directory path)
  | .version => ⟨0, versionText, "", tree⟩
  | .help about => ⟨0, helpText about, "", tree⟩

/-- Runs the program in a directory of a file tree. -/
def run (color : Bool) (tree : Node) (directory : List String) (args : List String) : Outcome :=
  match readRequest args with
  | some request => perform color tree directory request
  | none => ⟨2, "", usageText, tree⟩

end LintRepair.CommandLine
