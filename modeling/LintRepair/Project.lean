import LintRepair.Campaign.Run
import LintRepair.Gate
import LintRepair.Print.Campaign
import LintRepair.Print.Scan
import LintRepair.Remedy.Catalog
import LintRepair.Settings

/-!
A project with its settings, and what can be done with it.
-/

namespace LintRepair

structure Project where
  path : Path
  settings : Settings

/-- How something that was done with a project ended. -/
inductive Conclusion where
  | finished (succeeded : Bool)
  | failed (failure : Failure)
  /-- A sum did not fit in a word. -/
  | overflow

/-- What was done: how it ended, what was printed, and the tree it left. -/
structure Performance where
  conclusion : Conclusion
  stdout : String
  tree : Node

/-- The absolute path of the project at a path, seen from a directory. -/
def projectPath (tree : Node) (directory : List String) (path : Path) : Except Failure Path :=
  (tree.canonicalize directory path).mapError fun fault =>
    ⟨s!"cannot open project at {path.text}", fault.message⟩

namespace Project

/-- Opens the project at a path, seen from a directory. -/
def load (tree : Node) (directory : List String) (path : Path) : Except Failure Project :=
  (projectPath tree directory path).map fun path => ⟨path, .load tree path⟩

/-- How long a command may run, in milliseconds. -/
def timeout (p : Project) : Nat := 1000 * p.settings.timeout

def linter (p : Project) : Linter := ⟨p.settings.commands.lint, p.path, p.timeout⟩

def gate (p : Project) : Gate :=
  .ofCommands p.settings.commands.build p.settings.commands.test p.path p.timeout

def workplace (p : Project) : Workplace :=
  .ofRoot p.path p.settings.extensions p.settings.exclude

def remedies (p : Project) (order : List RemedyId) : List Remedy :=
  (Catalog.standard p.settings.removePatterns).ordered order

/-- The commands of the project answer a campaign. -/
def collaborators (p : Project) : Collaborators Gate where
  check gate tree := gate.check tree
  analyze gate tree :=
    let (text, tree) := p.linter.run tree
    (text.toOption, gate, tree)

/-- Runs the remedies of an order as a campaign, and prints it under a title. -/
def campaign (p : Project) (color : Bool) (title : String) (order : List RemedyId) (tree : Node) :
    Performance :=
  let (summary, state) :=
    Campaign.run p.collaborators p.workplace (p.remedies order) (.start p.gate tree)
  let told := Print.headerText color title p.path.text ++
    String.join (state.events.map (Print.eventText color))
  match Print.summaryText? color summary with
  | some text => ⟨.finished summary.succeeded, told ++ text, state.tree⟩
  | none => ⟨.overflow, told, state.tree⟩

end Project

/-- Does something with the project at a path, if it can be opened. -/
def withProject (tree : Node) (directory : List String) (path : Path)
    (use : Project → Performance) : Performance :=
  match Project.load tree directory path with
  | .ok p => use p
  | .error failure => ⟨.failed failure, "", tree⟩

/-- Runs every remedy of the project's order. -/
def fix (color : Bool) (tree : Node) (directory : List String) (path : Path) : Performance :=
  withProject tree directory path fun p =>
    p.campaign color "lintmend: aggressive auto-fix" p.settings.order tree

/-- Runs the remedy for catch bindings only. -/
def fixCatch (color : Bool) (tree : Node) (directory : List String) (path : Path) : Performance :=
  withProject tree directory path fun p =>
    p.campaign color "lintmend: unused catch bindings" [.unusedCatchBinding] tree

/-- Lists what the analyzer finds. -/
def scan (color : Bool) (format : String) (tree : Node) (directory : List String) (path : Path) :
    Performance :=
  withProject tree directory path fun p =>
    let (pass, tree) := p.linter.pass tree
    ⟨.finished true, Print.passText color format pass, tree⟩

end LintRepair
