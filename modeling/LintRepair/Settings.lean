import LintRepair.Edit.Patch
import LintRepair.Remedy.Declaration
import LintRepair.Yaml.Decode

/-!
The settings of a project, and the file they come from.
-/

namespace LintRepair

/-- The commands that check a project. -/
structure Commands where
  lint : String
  build : String
  test : String
  deriving DecidableEq, Repr

structure Settings where
  commands : Commands
  /-- How long a command may run, in seconds. -/
  timeoutSecs : Nat
  /-- The files of these extensions are mended as a whole. -/
  extensions : List String
  /-- Files are left alone whose path holds one of these. -/
  exclude : List String
  order : List RemedyId
  removePatterns : List String
  deriving DecidableEq, Repr

namespace Commands

def standard : Commands :=
  ⟨"npm run lint", "npm run build", "npm run test:run -- --run --reporter=basic"⟩

end Commands

namespace Settings

def fileName : String := ".lintmend.yml"

def standard : Settings :=
  ⟨.standard, 600, ["ts", "tsx"], ["node_modules", "dist", ".vibe", "scripts"], RemedyId.all,
    Declaration.defaultPatterns⟩

/-- No command gets less than a second. -/
def timeout (s : Settings) : Nat := max s.timeoutSecs 1

/-- The value of the field `name`, or `default` if there is none. A field may stand only once. -/
def fieldOr {α : Type} (fields : List (String × Yaml.Node)) (name : String) (default : α)
    (read : Yaml.Node → Option α) : Option α :=
  match fields.filter (·.1 == name) with
  | [] => some default
  | [(_, value)] => read value
  | _ => none

def commandsOfYaml? (root n : Yaml.Node) : Option Commands := do
  let fields ← root.fields? n
  return ⟨← fieldOr fields "lint" Commands.standard.lint root.text?,
    ← fieldOr fields "build" Commands.standard.build root.text?,
    ← fieldOr fields "test" Commands.standard.test root.text?⟩

/-- Fields that are not there take their standard value; unknown ones are passed over. -/
def ofYaml? (root : Yaml.Node) : Option Settings := do
  let texts (n : Yaml.Node) : Option (List String) := (root.items? n).bind (·.mapM root.text?)
  let remedies (n : Yaml.Node) : Option (List RemedyId) :=
    (root.items? n).bind (·.mapM fun n => (root.choice? n).bind RemedyId.named?)
  let fields ← root.fields? root
  return ⟨← fieldOr fields "commands" .standard (commandsOfYaml? root),
    ← fieldOr fields "timeout_secs" standard.timeoutSecs root.word?,
    ← fieldOr fields "extensions" standard.extensions texts,
    ← fieldOr fields "exclude" standard.exclude texts,
    ← fieldOr fields "order" standard.order remedies,
    ← fieldOr fields "remove_patterns" standard.removePatterns texts⟩

/-- The settings that a text holds; the standard ones if it cannot be read in full. -/
def ofText (text : String) : Settings := ((Yaml.read? text).bind ofYaml?).getD standard

/-- The settings of the project in a directory. -/
def load (tree : Node) (directory : Path) : Settings :=
  ((tree.readText? (directory.join ⟨fileName⟩)).map ofText).getD standard

end Settings

end LintRepair
