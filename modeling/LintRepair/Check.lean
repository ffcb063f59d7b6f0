/-!
The check of a project: its build and then its tests have to succeed.
-/

namespace LintRepair

inductive Stage where
  | build
  | test
  deriving DecidableEq, Repr

def Stage.name : Stage → String
  | build => "build"
  | test => "test"

/-- What one stage printed and how it ended. -/
structure StageResult where
  stage : Stage
  success : Bool
  stdout : String
  stderr : String
  timedOut : Bool
  deriving DecidableEq, Repr

/-- The result of a check, with the stages that ran. -/
structure Verdict where
  passed : Bool
  failedStage : Option Stage
  stages : List StageResult
  deriving DecidableEq, Repr

namespace Verdict

/-- The first stage that did not succeed. -/
def failure? (v : Verdict) : Option StageResult := v.stages.find? (!·.success)

/-- A check passes if no stage fails. -/
def ofStages (stages : List StageResult) : Verdict :=
  let failed := stages.find? (!·.success)
  ⟨failed.isNone, failed.map (·.stage), stages⟩

/-- What to call the stage that failed. -/
def failedName (v : Verdict) : String := (v.failedStage.map Stage.name).getD "gate"

end Verdict

/-- Where a gate stands between checks. -/
inductive GateState where
  | unknown
  | running (stage : Stage)
  | passed
  | failed (stage : Stage)
  deriving DecidableEq, Repr

namespace GateState

def text : GateState → String
  | unknown => "unknown"
  | running stage => "running " ++ stage.name
  | passed => "passed"
  | failed stage => "failed " ++ stage.name

end GateState

end LintRepair
