import LintRepair.CommandLine.Arguments
import LintRepair.Print.Campaign

/-!
The help texts of the program.
-/

namespace LintRepair.CommandLine

namespace Verb

/-- What a command does. -/
def about : Verb → String
  | fix => "Run every configured rule, gated by build and tests"
  | fixCatch => "Drop unused catch bindings only"
  | scan => "List the findings the analyzer currently reports"
  | init => "Write a .lintmend.yml for the project"

/-- What the path of a command is for. -/
def pathPurpose : Verb → String
  | fix | fixCatch => "Path to the project to fix (defaults to current directory)"
  | scan => "Path to the project to scan (defaults to current directory)"
  | init => "Path to the project (defaults to current directory)"

/-- The options of a command, and what they do. -/
def options : Verb → List (String × String)
  | fix | fixCatch => [("-h, --help", "Print help")]
  | scan =>
    [("    --format <FORMAT>", "Output format [default: table] [possible values: table, json]"),
     ("-h, --help", "Print help")]
  | init =>
    [("    --force", "Overwrite an existing .lintmend.yml"), ("-h, --help", "Print help")]

end Verb

/-- Entries in two columns. -/
def columns (entries : List (String × String)) : List String :=
  let width := entries.foldl (fun w e => max w e.1.length) 0
  entries.map fun (term, text) => "  " ++ padRight width term ++ "  " ++ text

def verbHelp (v : Verb) : String :=
  let usage := if v == .scan || v == .init then " [OPTIONS] [PATH]" else " [PATH]"
  Print.lines <|
    [v.about, "", "Usage: lintmend " ++ v.name ++ usage, "", "Arguments:",
     "  [PATH]  " ++ v.pathPurpose ++ " [default: .]", "", "Options:"] ++ columns v.options

def programHelp : String :=
  Print.lines <|
    ["Apply lint fixes in batches, checking build and tests after each one", "",
     "Usage: lintmend <COMMAND>", "", "Commands:"] ++
    columns (Verb.all.map (fun v => (v.name, v.about)) ++
      [("help", "Print this message or the help of the given subcommand(s)")]) ++
    ["", "Options:"] ++ columns [("-h, --help", "Print help"), ("-V, --version", "Print version")]

def helpText : Option Verb → String
  | some v => verbHelp v
  | none => programHelp

/-- What is said about arguments that cannot be understood. -/
def usageText : String :=
  "error: invalid arguments\n\nUsage: lintmend <COMMAND>\n\nFor more information, try '--help'.\n"

end LintRepair.CommandLine
