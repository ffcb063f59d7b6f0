import LintRepair.Edit.Line
import LintRepair.Edit.Patch
import LintRepair.Remedy.Basic
import LintRepair.Tree.Walk

/-!
Batches: one remedy applied across a project. A batch keeps a log of its tries,
file by file, and its report counts that log.
-/

namespace LintRepair

/-- The tries of a batch, those on one file together. -/
abbrev Log := List (List Attempt)

structure Report where
  filesChanged : Nat
  fixesApplied : Nat
  misses : Nat
  skipped : Nat
  deriving DecidableEq, Repr

namespace Report

/-- Did the batch change no file? -/
def isEmpty (r : Report) : Bool := r.filesChanged == 0

end Report

namespace Log

def count (log : Log) (outcome : Outcome) : Nat := log.flatten.countP (·.outcome == outcome)

/-- The files that were written, in order. -/
def written (log : Log) : List Path :=
  (log.flatten.filter (·.outcome == .changed)).map Attempt.target

def report (log : Log) : Report where
  filesChanged := log.countP (·.any (·.outcome == .changed))
  fixesApplied := log.count .changed
  misses := log.count .noMatch
  skipped := log.count .skipped

end Log

/-- Adds a finding to the findings on its file. Files are in the order of paths, and spellings of
one path belong together under the first of them. -/
def addFinding : List (Path × List Finding) → Finding → List (Path × List Finding)
  | [], f => [(f.file, [f])]
  | (file, findings) :: groups, f =>
    if f.file.components = file.components then (file, findings ++ [f]) :: groups
    else if f.file.lt file then (f.file, [f]) :: (file, findings) :: groups
    else (file, findings) :: addFinding groups f

def groupByFile (findings : List Finding) : List (Path × List Finding) :=
  findings.foldl addFinding []

/-- Where a batch works: the scope of its edits and the extensions of its sources. -/
structure Workplace where
  scope : Scope
  extensions : List String

namespace Workplace

def ofRoot (root : Path) (extensions exclude : List String) : Workplace :=
  ⟨.ofRoot root exclude, extensions⟩

/-- Mends one reported line. -/
def mendLine (w : Workplace) (r : LineRemedy) (file : Path) (tree : Node) (f : Finding) :
    Attempt × Node :=
  patch w.scope tree file (editLineOf? (r.mend · f) f.line)

/-- Mends the lines reported in one file, one after the other. -/
def mendFile (w : Workplace) (r : LineRemedy) (file : Path) : Node → List Finding →
    List Attempt × Node
  | tree, [] => ([], tree)
  | tree, f :: findings =>
    let (attempt, tree) := w.mendLine r file tree f
    let (attempts, tree) := mendFile w r file tree findings
    (attempt :: attempts, tree)

def mendGroups (w : Workplace) (r : LineRemedy) : Node → List (Path × List Finding) → Log × Node
  | tree, [] => ([], tree)
  | tree, (file, findings) :: groups =>
    let (attempts, tree) := w.mendFile r file tree findings
    let (log, tree) := mendGroups w r tree groups
    (attempts :: log, tree)

/-- Applies a remedy for lines to the findings of its kind. -/
def runLine (w : Workplace) (r : LineRemedy) (tree : Node) (findings : List Finding) : Log × Node :=
  w.mendGroups r tree (groupByFile (findings.filter (·.kind = r.kind)))

def mendSources (w : Workplace) (r : ContentRemedy) : Node → List Path → Log × Node
  | tree, [] => ([], tree)
  | tree, file :: files =>
    let (attempt, tree) := patch w.scope tree file fun content => some (r.mend content)
    let (log, tree) := mendSources w r tree files
    ([attempt] :: log, tree)

def sourceFiles (w : Workplace) (tree : Node) : List Path :=
  tree.sourceFiles w.scope.root ⟨w.extensions, w.scope.exclude⟩

/-- Applies a remedy for contents to every source file. -/
def runContent (w : Workplace) (r : ContentRemedy) (tree : Node) : Log × Node :=
  w.mendSources r tree (w.sourceFiles tree)

def run (w : Workplace) (remedy : Remedy) (tree : Node) (findings : List Finding) : Log × Node :=
  match remedy with
  | .line r => w.runLine r tree findings
  | .content r => w.runContent r tree

end Workplace

end LintRepair
