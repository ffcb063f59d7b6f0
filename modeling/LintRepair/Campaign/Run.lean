import LintRepair.Campaign.Basic

/-!
Running a campaign. Nothing is touched unless the baseline passes its check.
Then each remedy runs as one batch. A batch that changed files is followed by a
check, and a check that fails ends the campaign; what was changed stays.
-/

namespace LintRepair

/-- Those who answer a campaign: the check and the analyzer. Both see the tree, may change it, and
have a state of their own. An analyzer that fails answers `none`. -/
structure Collaborators (σ : Type) where
  check : σ → Node → Verdict × σ × Node
  analyze : σ → Node → Option String × σ × Node

/-- An event, the tree at that time, and the files that the campaign has written since the event
before. -/
structure Moment where
  event : Event
  tree : Node
  written : List Path

namespace Campaign

/-- A campaign under way, with its moments so far. -/
structure State (σ : Type) where
  world : σ
  tree : Node
  moments : List Moment

namespace State

variable {σ : Type}

def start (world : σ) (tree : Node) : State σ := ⟨world, tree, []⟩

def events (s : State σ) : List Event := s.moments.map Moment.event

def note (s : State σ) (event : Event) : State σ :=
  { s with moments := s.moments ++ [⟨event, s.tree, []⟩] }

def check (s : State σ) (c : Collaborators σ) (checkpoint : Checkpoint) : Verdict × State σ :=
  let s := s.note (.checkStarted checkpoint)
  let (verdict, world, tree) := c.check s.world s.tree
  (verdict, { s with world, tree }.note (.checkFinished checkpoint verdict))

def analyze (s : State σ) (c : Collaborators σ) : Pass × State σ :=
  let s := s.note .analyzerStarted
  let (text, world, tree) := c.analyze s.world s.tree
  let pass := Pass.ofRun text
  (pass, { s with world, tree }.note (.analyzerFinished pass.count))

def batch (s : State σ) (w : Workplace) (remedy : Remedy) (findings : List Finding) :
    Report × State σ :=
  let (log, tree) := w.run remedy s.tree findings
  let finished := Moment.mk (.batchFinished remedy.id log.report) tree log.written
  (log.report, { s with tree, moments := s.moments ++ [finished] })

end State

variable {σ : Type}

/-- The findings for a remedy, and the pass that they come from. Findings of an earlier pass hold
until a batch changes a file. -/
def collect (c : Collaborators σ) (remedy : Remedy) (pass : Option Pass) (s : State σ) :
    List Finding × Option Pass × State σ :=
  if remedy.needsFindings then
    let (pass, s) := match pass with
      | some pass => (pass, s)
      | none => s.analyze c
    (pass.findings, some pass, s.note (.findingsCollected remedy.id pass.findings.length))
  else ([], pass, s)

/-- Runs the batches of the remedies, as far as the checks let it. -/
def runBatches (c : Collaborators σ) (w : Workplace) :
    List Remedy → Option Pass → State σ → Ending × List BatchRecord × State σ
  | [], _, s => (.completed, [], s)
  | remedy :: remedies, pass, s =>
    let s := s.note (.batchStarted remedy.id remedy.description)
    let (findings, pass, s) := collect c remedy pass s
    let (report, s) := s.batch w remedy findings
    let record := BatchRecord.mk remedy.id findings.length report
    if report.isEmpty then
      let (ending, records, s) := runBatches c w remedies pass s
      (ending, record :: records, s)
    else
      let (verdict, s) := s.check c (.after remedy.id)
      if verdict.passed then
        let (ending, records, s) := runBatches c w remedies none s
        (ending, record :: records, s)
      else (.regressed remedy.id verdict, [record], s)

def run (c : Collaborators σ) (w : Workplace) (remedies : List Remedy) (s : State σ) :
    Summary × State σ :=
  let (baseline, s) := s.check c .baseline
  if !baseline.passed then (⟨.baselineFailed baseline, [], none, none, 0⟩, s)
  else
    let (before, s) := s.analyze c
    let (ending, batches, s) := runBatches c w remedies (some before) s
    match ending with
    | .completed =>
      let (after, s) := s.analyze c
      (⟨.completed, batches, some before.count, some after.count, 0⟩, s)
    | ending => (⟨ending, batches, some before.count, none, 0⟩, s)

end Campaign

end LintRepair
