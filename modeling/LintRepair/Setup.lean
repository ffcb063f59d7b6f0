import LintRepair.Print.Campaign
import LintRepair.Project

/-!
Writing the settings file of a new project.
-/

namespace LintRepair

/-- The program that runs a project's scripts. -/
inductive PackageManager where
  | npm
  | pnpm
  | yarn
  | bun
  deriving DecidableEq, Repr

namespace PackageManager

def name : PackageManager → String
  | npm => "npm"
  | pnpm => "pnpm"
  | yarn => "yarn"
  | bun => "bun"

/-- The manager whose lock file lies in a directory. -/
def detect (tree : Node) (directory : Path) : PackageManager :=
  let has (file : String) : Bool := tree.pathExists [] (directory.join ⟨file⟩)
  if has "pnpm-lock.yaml" then pnpm
  else if has "yarn.lock" then yarn
  else if has "bun.lockb" || has "bun.lock" then bun
  else npm

/-- The command that runs a script with arguments of its own. -/
def scriptCommand (m : PackageManager) (script arguments : String) : String :=
  match m with
  | npm => s!"npm run {script} -- {arguments}"
  | m => s!"{m.name} run {script} {arguments}"

/-- The text of a settings file. -/
def settingsText (m : PackageManager) : String :=
  let list (items : List String) : List String := items.map ("  - " ++ ·)
  Print.lines <|
    ["# lintmend configuration", "", "commands:", s!"  lint: \"{m.name} run lint\"",
     s!"  build: \"{m.name} run build\"",
     "  test: \"" ++ m.scriptCommand "test:run" "--run --reporter=basic" ++ "\"", "",
     "# Seconds before an analyzer, build, or test run counts as failed",
     s!"timeout_secs: {Settings.standard.timeoutSecs}", "", "extensions:"] ++
    list Settings.standard.extensions ++
    ["", "# Paths containing any of these are never rewritten", "exclude:"] ++
    list Settings.standard.exclude ++
    ["", "# Batches run in this order, each followed by a build/test check", "order:"] ++
    list (Settings.standard.order.map RemedyId.name)

end PackageManager

/-- Writes the settings file of the project at a path. One that is there is kept unless `force`
is set. -/
def setUp (color force : Bool) (tree : Node) (directory : List String) (path : Path) :
    Performance :=
  match projectPath tree directory path with
  | .error failure => ⟨.failed failure, "", tree⟩
  | .ok path =>
    let file := path.join ⟨Settings.fileName⟩
    if tree.pathExists [] file && ! force then
      let skip := (Style.colored .yellow).paint color "SKIP"
      let flag := Style.strong.paint color "--force"
      ⟨.finished true, s!"  {skip} {Settings.fileName} already exists. Use {flag} to overwrite.\n", tree⟩
    else
      let manager := PackageManager.detect tree path
      match tree.write [] file manager.settingsText.toUTF8 with
      | .error fault => ⟨.failed ⟨s!"cannot write {file.text}", fault.message⟩, "", tree⟩
      | .ok tree =>
        let done := (Style.colored .green).paint color "DONE"
        let shown := (Style.colored .cyan).paint color manager.name
        ⟨.finished true, Print.lines
          [s!"  {done} {Settings.fileName} created for {shown}",
           s!"  Edit {file.text} to change commands, exclusions, and rule order."], tree⟩

end LintRepair
