import LintRepair.Path.Basic

/-!
What the arguments of the program ask for.
-/

namespace LintRepair.CommandLine

/-- The commands of the program. -/
inductive Verb where
  | fix
  | fixCatch
  | scan
  | init
  deriving DecidableEq, Repr

namespace Verb

def all : List Verb := [fix, fixCatch, scan, init]

def name : Verb → String
  | fix => "fix"
  | fixCatch => "fix-catch"
  | scan => "scan"
  | init => "init"

def named? (name : String) : Option Verb := all.find? (·.name == name)

end Verb

/-- What is to be done. -/
inductive Request where
  | fix (path : Path)
  | fixCatch (path : Path)
  | scan (path : Path) (format : String)
  | init (path : Path) (force : Bool)
  | version
  | help (about : Option Verb)
  deriving DecidableEq, Repr

/-- What has been given for a command so far. -/
structure Given where
  path : Option String
  format : Option String
  force : Bool

namespace Given

def nothing : Given := ⟨none, none, false⟩

def request (g : Given) (v : Verb) : Request :=
  let path : Path := ⟨g.path.getD "."⟩
  match v with
  | .fix => .fix path
  | .fixCatch => .fixCatch path
  | .scan => .scan path (g.format.getD "table")
  | .init => .init path g.force

/-- A path may be given once, and it may not be empty. -/
def withPath? (g : Given) (text : String) : Option Given :=
  if g.path.isSome || text.isEmpty then none else some { g with path := some text }

def formats : List String := ["table", "json"]

/-- A format may be given once. -/
def withFormat? (g : Given) (text : String) : Option Given :=
  if g.format.isSome || ! formats.contains text then none else some { g with format := some text }

def withForce? (g : Given) : Option Given := if g.force then none else some { g with force := true }

end Given

/-- A letter that asks for help counts in front of any others. -/
def asksHelp (arg : String) : Bool := arg == "--help" || arg.startsWith "-h"

/-- Reads the rest as paths, whatever it looks like. -/
def readPaths (v : Verb) (g : Given) : List String → Option Request
  | [] => some (g.request v)
  | arg :: rest => (g.withPath? arg).bind fun g => readPaths v g rest

/-- Reads the arguments of a command; `none` if they cannot be understood. The first one that asks
for help ends the reading. -/
def readGiven (v : Verb) (g : Given) : List String → Option Request
  | [] => some (g.request v)
  | arg :: rest =>
    if arg == "--" then readPaths v g rest
    else if asksHelp arg then some (.help (some v))
    else if arg == "--format" && v == .scan then
      match rest with
      | value :: rest => (g.withFormat? value).bind fun g => readGiven v g rest
      | [] => none
    else if arg.startsWith "--format=" && v == .scan then
      (g.withFormat? (.ofList (arg.toList.drop 9))).bind fun g => readGiven v g rest
    else if arg == "--force" && v == .init then
      g.withForce?.bind fun g => readGiven v g rest
    else if arg.startsWith "-" && arg != "-" then none
    else (g.withPath? arg).bind fun g => readGiven v g rest

/-- Reads all arguments of the program. -/
def readRequest : List String → Option Request
  | [] => none
  | arg :: rest =>
    if arg == "--version" || arg.startsWith "-V" then some .version
    else if asksHelp arg then some (.help none)
    else if arg == "help" then
      match rest with
      | [] => some (.help none)
      | ["help"] => some (.help none)
      | [name] => (Verb.named? name).map fun v => .help (some v)
      | _ => none
    else (Verb.named? arg).bind fun v => readGiven v .nothing rest

end LintRepair.CommandLine
