import LintRepair.Path.Basic

/-!
What the analyzer reports: a diagnostic of a known kind at a known place.
-/

namespace LintRepair

/-- The kinds of diagnostics that can be mended. -/
inductive Kind where
  | unusedParameter
  | unusedVariable
  | unusedCatchBinding
  deriving DecidableEq, Repr

namespace Kind

def all : List Kind := [unusedParameter, unusedVariable, unusedCatchBinding]

def name : Kind → String
  | unusedParameter => "unused-parameter"
  | unusedVariable => "unused-variable"
  | unusedCatchBinding => "unused-catch-binding"

def named? (name : String) : Option Kind := all.find? (·.name == name)

end Kind

/-- A diagnostic with its place. Lines and columns count from one; `captured` is the name that the
message quotes. -/
structure Finding where
  kind : Kind
  file : Path
  line : Nat
  column : Nat
  captured : Option String
  deriving DecidableEq, Repr

def Finding.location (f : Finding) : String :=
  s!"{f.file.text}:{f.line}:{f.column}"

end LintRepair
