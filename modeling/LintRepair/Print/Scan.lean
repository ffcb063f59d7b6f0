import LintRepair.Analyzer
import LintRepair.Json.Basic
import LintRepair.Print.Campaign

/-!
The findings of a pass, as a table or as JSON.
-/

namespace LintRepair

namespace Kind

def toJson (k : Kind) : Json.Value := .string k.name

def ofJson? : Json.Value → Option Kind
  | .string name => named? name
  | _ => none

end Kind

namespace Finding

def toJson (f : Finding) : Json.Value :=
  .object [("captured", (f.captured.map Json.Value.string).getD .null), ("column", .nat f.column),
    ("file", .string f.file.text), ("kind", f.kind.toJson), ("line", .nat f.line)]

def word? : Json.Value → Option Nat
  | .number (.natural n) => if n ≤ wordMax then some n else none
  | _ => none

def text? : Json.Value → Option String
  | .string s => some s
  | _ => none

/-- A name that may be missing. -/
def optionalText? : Option Json.Value → Option (Option String)
  | none | some .null => some none
  | some (.string s) => some (some s)
  | _ => none

def ofJson? (v : Json.Value) : Option Finding := do
  let kind ← Kind.ofJson? (← v.field? "kind")
  let file ← text? (← v.field? "file")
  let line ← word? (← v.field? "line")
  let column ← word? (← v.field? "column")
  let captured ← optionalText? (v.field? "captured")
  return ⟨kind, ⟨file⟩, line, column, captured⟩

end Finding

namespace IssueCount

def toJson (c : IssueCount) : Json.Value :=
  .object [("errors", .nat c.errors), ("warnings", .nat c.warnings)]

def ofJson? (v : Json.Value) : Option IssueCount := do
  let warnings ← Finding.word? (← v.field? "warnings")
  let errors ← Finding.word? (← v.field? "errors")
  return ⟨warnings, errors⟩

end IssueCount

def Pass.toJson (p : Pass) : Json.Value :=
  .object [("findings", .array (p.findings.map Finding.toJson)), ("issues", p.count.toJson)]

namespace Print

def passJson (p : Pass) : String := p.toJson.text ++ "\n"

def findingRow (color : Bool) (f : Finding) : String :=
  "  " ++ (Style.colored .yellow).paint color (padRight 22 f.kind.name) ++ " " ++
    padRight 40 f.location ++ " " ++ f.captured.getD "-"

def passTable (color : Bool) (p : Pass) : String :=
  let strong := Style.strong.paint color
  let body := if p.findings.isEmpty then
      ["  " ++ (Style.colored .green).paint color "No fixable findings."]
    else
      ["  " ++ strong (padRight 22 "Kind") ++ " " ++ strong (padRight 40 "Location") ++ " " ++
        strong "Identifier", "  " ++ ruler 72] ++ p.findings.map (findingRow color)
  lines <| [""] ++ body ++ ["",
    s!"  {p.findings.length} fixable finding(s); analyzer reported {p.count.text}", ""]

/-- The pass in a format: `json`, or a table by any other name. -/
def passText (color : Bool) (format : String) (p : Pass) : String :=
  if format == "json" then passJson p else passTable color p

end Print

end LintRepair
