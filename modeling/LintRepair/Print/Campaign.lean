import LintRepair.Campaign.Basic
import LintRepair.Print.Seconds
import LintRepair.Print.Style
import LintRepair.Text.CharClass

/-!
What a campaign prints.
-/

namespace LintRepair.Print

/-- A text of lines, each ended by a line feed. -/
def lines (texts : List String) : String := String.join (texts.map (· ++ "\n"))

def headerText (color : Bool) (title project : String) : String :=
  lines ["", Style.strong.paint color title, ruler 64,
    "  Project: " ++ (Style.colored .cyan).paint color project, ""]

/-- How many lines of a failed stage are shown. -/
def tailLength : Nat := 20

/-- The last lines of a failed stage that are not blank. -/
def failureTail (v : Verdict) : List String :=
  match v.failure? with
  | none => []
  | some result =>
    let all := lineBodies (result.stdout ++ "\n" ++ result.stderr).toList
    let shown := all.filter fun line => !(trim line).isEmpty
    (shown.drop (shown.length - tailLength)).map String.ofList

def failureLines (color : Bool) (v : Verdict) : List String :=
  let timedOut := (v.failure?.map (·.timedOut)).getD false
  (if timedOut then ["    " ++ (Style.colored .yellow).paint color "timed out"] else []) ++
    (failureTail v).map fun line => "    " ++ Style.faint.paint color line

def reportLine (color : Bool) (r : Report) : String :=
  let changed := s!"{r.filesChanged} file(s) changed"
  let style := if r.isEmpty then Style.faint else .colored .green
  "  " ++ style.paint color changed ++
    s!" ({r.fixesApplied} fix(es), {r.misses} miss(es), {r.skipped} skipped)"

/-- What is printed when something happens. -/
def eventText (color : Bool) : Event → String
  | .checkStarted _ | .analyzerStarted => ""
  | .checkFinished checkpoint verdict =>
    if verdict.passed then
      lines ["  " ++ (Style.colored .green).paint color "PASS" ++
        s!" integrity check ({checkpoint.text})"]
    else
      lines (("  " ++ (Style.colored .red).paint color "FAIL" ++
        s!" {verdict.failedName} failed ({checkpoint.text})") :: failureLines color verdict)
  | .analyzerFinished count =>
    lines ["  " ++ (Style.colored .cyan).paint color "LINT" ++ " " ++ count.text]
  | .batchStarted remedy description =>
    lines ["", Style.strong.paint color s!"[{remedy.name}]" ++ " " ++ description]
  | .findingsCollected _ count => lines [s!"  {count} finding(s) located"]
  | .batchFinished _ report => lines [reportLine color report]

/-- How the campaign ended, in one line. -/
def endingLine (color : Bool) : Ending → String
  | .completed => "  " ++ (Style.colored .green).strongly.paint color "Auto-fix complete"
  | .baselineFailed _ =>
    "  " ++ (Style.colored .red).strongly.paint color
      "Baseline build/tests fail; nothing was changed."
  | .regressed remedy verdict =>
    "  " ++ (Style.colored .red).strongly.paint color "HALTED" ++
      s!" {verdict.failedName} failed after the " ++ Style.strong.paint color remedy.name ++
      " batch; its changes are still on disk."

/-- How many issues are gone, if both totals fit in a word. -/
def resolved? (before after : IssueCount) : Option Nat := do
  return (← before.total?) - (← after.total?)

/-- The lines on issues before and after. There is no text if a sum does not fit in a word. -/
def issueLines? (color : Bool) (before after : Option IssueCount) : Option (List String) := do
  let first := before.toList.map fun count => "  Before:    " ++ count.text
  match before, after with
  | some before, some after =>
    let resolved ← resolved? before after
    let gained := if resolved > 0 then
        ["  " ++ (Style.colored .green).paint color "✓" ++ s!" {resolved} issue(s) resolved"]
      else []
    return first ++ ["  Remaining: " ++ after.text] ++ gained
  | none, some after => return first ++ ["  Remaining: " ++ after.text]
  | _, none => return first

/-- The text of a summary. There is none if a sum does not fit in a word. -/
def summaryText? (color : Bool) (s : Summary) : Option String := do
  let files ← s.filesChanged?
  let issues ← issueLines? color s.issuesBefore s.issuesAfter
  let advice := if s.succeeded && s.remediesApplied > 0 then
      ["", "  " ++ Style.faint.paint color "Commit these changes and run again for more fixes."]
    else []
  return lines <| ["", ruler 64, endingLine color s.ending,
    s!"  Applied {s.remediesApplied} rule(s), {files} file(s) changed in {Seconds.text s.elapsed}s"] ++
    issues ++ advice ++ [""]

end LintRepair.Print
