import LintRepair.Analyzer
import LintRepair.Check
import LintRepair.Edit.Batch

/-!
The vocabulary of a campaign: what happens in it and how it ends.
-/

namespace LintRepair

/-- When a check is made. -/
inductive Checkpoint where
  | baseline
  | after (remedy : RemedyId)
  deriving DecidableEq, Repr

def Checkpoint.text : Checkpoint → String
  | baseline => "baseline"
  | after remedy => "after " ++ remedy.name

inductive Event where
  | checkStarted (checkpoint : Checkpoint)
  | checkFinished (checkpoint : Checkpoint) (verdict : Verdict)
  | analyzerStarted
  | analyzerFinished (count : IssueCount)
  | batchStarted (remedy : RemedyId) (description : String)
  | findingsCollected (remedy : RemedyId) (count : Nat)
  | batchFinished (remedy : RemedyId) (report : Report)
  deriving DecidableEq, Repr

inductive Ending where
  | completed
  | baselineFailed (verdict : Verdict)
  | regressed (remedy : RemedyId) (verdict : Verdict)
  deriving DecidableEq, Repr

structure BatchRecord where
  remedy : RemedyId
  findings : Nat
  report : Report
  deriving DecidableEq, Repr

/-- How a campaign went. The time is in milliseconds. -/
structure Summary where
  ending : Ending
  batches : List BatchRecord
  issuesBefore : Option IssueCount
  issuesAfter : Option IssueCount
  elapsed : Nat
  deriving DecidableEq, Repr

namespace Summary

def succeeded (s : Summary) : Bool := s.ending == .completed

/-- How many batches changed a file. -/
def remediesApplied (s : Summary) : Nat := s.batches.countP (!·.report.isEmpty)

/-- How many files the batches changed, if a word holds the sum. -/
def filesChanged? (s : Summary) : Option Nat :=
  s.batches.foldlM (fun sum b =>
    if sum + b.report.filesChanged ≤ wordMax then some (sum + b.report.filesChanged) else none) 0

end Summary

end LintRepair
