import LintRepair.Finding

/-!
Remedies: named ways to mend sources. One kind mends a reported line, the other
mends whole files without any finding.
-/

namespace LintRepair

/-- The names of the remedies. -/
inductive RemedyId where
  | narrowTypes
  | unusedParameter
  | unusedVariable
  | unusedCatchBinding
  deriving DecidableEq, Repr

namespace RemedyId

/-- All names, in the order in which their remedies run unless told otherwise. -/
def all : List RemedyId := [narrowTypes, unusedParameter, unusedVariable, unusedCatchBinding]

def name : RemedyId → String
  | narrowTypes => "narrow-types"
  | unusedParameter => "unused-parameter"
  | unusedVariable => "unused-variable"
  | unusedCatchBinding => "unused-catch-binding"

def named? (name : String) : Option RemedyId := all.find? (·.name == name)

end RemedyId

/-- Mends one line for a finding of its kind. The answer is `none` where the line does not hold
what the finding speaks of. -/
structure LineRemedy where
  id : RemedyId
  description : String
  kind : Kind
  mend : String → Finding → Option String

/-- Mends the whole content of a file. -/
structure ContentRemedy where
  id : RemedyId
  description : String
  mend : String → String

inductive Remedy where
  | line (r : LineRemedy)
  | content (r : ContentRemedy)

namespace Remedy

def id : Remedy → RemedyId
  | line r => r.id
  | content r => r.id

def description : Remedy → String
  | line r => r.description
  | content r => r.description

def needsFindings : Remedy → Bool
  | line _ => true
  | content _ => false

end Remedy

end LintRepair
