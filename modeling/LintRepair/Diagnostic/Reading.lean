import LintRepair.Diagnostic.Location
import LintRepair.Diagnostic.Message
import LintRepair.Text.Lines

/-!
Findings in the text of an analyzer. A message counts only if its location is
confirmed: by the first marker line behind it, before any other diagnostic
opens and within a few lines.
-/

namespace LintRepair

/-- How many lines behind a message may hold its location. -/
def lookahead : Nat := 5

/-- The location that the lines behind a message confirm. -/
def confirmedLocation? : List (List Char) → Option Location
  | [] => none
  | line :: lines =>
    if opensDiagnostic line then none
    else if Location.hasMarker line then Location.ofLine? line
    else confirmedLocation? lines

def Message.finding (m : Message) (l : Location) : Finding :=
  ⟨m.kind, l.file, l.line, l.column, some (.ofList m.captured)⟩

/-- The finding that starts at the first of these lines. -/
def findingAt? (line : List Char) (lines : List (List Char)) : Option Finding := do
  let message ← message? line
  let location ← confirmedLocation? (lines.take lookahead)
  return message.finding location

def findingsIn : List (List Char) → List Finding
  | [] => []
  | line :: lines => (findingAt? line lines).toList ++ findingsIn lines

/-- The findings of an analyzer's output, in its order. -/
def readFindings (text : String) : List Finding := findingsIn (lineBodies text.toList)

end LintRepair
