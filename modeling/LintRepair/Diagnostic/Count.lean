import LintRepair.Diagnostic.Message
import LintRepair.Text.Digit
import LintRepair.Text.Lines

/-!
How many issues an analyzer reports: by its own footer where it prints one,
and by the headers of its diagnostics otherwise.
-/

namespace LintRepair

structure IssueCount where
  warnings : Nat
  errors : Nat
  deriving DecidableEq, Repr

namespace IssueCount

def zero : IssueCount := ⟨0, 0⟩

def text (c : IssueCount) : String := s!"{c.warnings} warnings, {c.errors} errors"

/-- The sum of both counts, if a word holds it. -/
def total? (c : IssueCount) : Option Nat :=
  if c.warnings + c.errors ≤ wordMax then some (c.warnings + c.errors) else none

/-- A number of the footer. One that no word holds counts as zero. -/
def footerNumber (digits : List Char) : Nat := (wordOfDigits? digits).getD 0

/-- `Found N warnings and M errors`, with or without each `s`, if the text starts so. -/
def footerAt? (_ : Option Char) (s : List Char) : Option IssueCount := do
  let s ← after? "Found ".toList s
  let warnings := s.takeWhile isDecimal
  guard (!warnings.isEmpty)
  let s ← after? " warning".toList (s.dropWhile isDecimal)
  let s ← after? " and ".toList ((after? ['s'] s).getD s)
  let errors := s.takeWhile isDecimal
  guard (!errors.isEmpty)
  let _ ← after? " error".toList (s.dropWhile isDecimal)
  return ⟨footerNumber warnings, footerNumber errors⟩

def footer? (line : List Char) : Option IssueCount := firstMatch footerAt? none line

def ofHeaders (lines : List (List Char)) : IssueCount :=
  ⟨lines.countP (header? · == some .warning), lines.countP (header? · == some .error)⟩

def ofLines (lines : List (List Char)) : IssueCount :=
  (lines.reverse.findSome? footer?).getD (ofHeaders lines)

def ofText (text : String) : IssueCount := ofLines (lineBodies text.toList)

end IssueCount

end LintRepair
