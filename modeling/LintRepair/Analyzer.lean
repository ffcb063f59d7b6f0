import LintRepair.Diagnostic.Count
import LintRepair.Diagnostic.Reading

/-!
One pass of the analyzer.
-/

namespace LintRepair

structure Pass where
  findings : List Finding
  count : IssueCount
  deriving DecidableEq, Repr

namespace Pass

def ofText (text : String) : Pass := ⟨readFindings text, .ofText text⟩

/-- A pass that failed reports nothing: without diagnostics there is nothing to mend. -/
def ofRun : Option String → Pass
  | some text => ofText text
  | none => ⟨[], .zero⟩

end Pass

/-- The diagnostics of both streams of a command: the error stream first, then, on a line of its
own, the output. -/
def joinStreams (stderr stdout : String) : String :=
  if stdout.isEmpty then stderr
  else if stderr.isEmpty || stderr.toList.getLast? == some '\n' then stderr ++ stdout
  else stderr ++ "\n" ++ stdout

end LintRepair
