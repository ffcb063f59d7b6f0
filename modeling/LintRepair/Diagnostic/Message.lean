import LintRepair.Finding
import LintRepair.Text.CharClass
import LintRepair.Text.Scan

/-!
The lines that open a diagnostic: headers, which carry a severity, and the
messages that name a kind of finding and quote an identifier.
-/

namespace LintRepair

inductive Severity where
  | warning
  | error
  deriving DecidableEq, Repr

/-- The severity of a line that opens a diagnostic of any rule. -/
def header? (line : List Char) : Option Severity :=
  match dropSpaces line with
  | '!' :: ' ' :: _ | '⚠' :: _ => some .warning
  | 'x' :: ' ' :: _ | '×' :: _ => some .error
  | _ => none

namespace Kind

/-- What a message says before the quoted identifier. -/
def lead : Kind → List Char
  | unusedCatchBinding => "Catch parameter '".toList
  | unusedParameter => "Parameter '".toList
  | unusedVariable => "Variable '".toList

/-- What a message says behind the quoted identifier. -/
def tail : Kind → List Char
  | unusedCatchBinding => "' is caught but never used".toList
  | unusedParameter | unusedVariable => "' is declared but never used".toList

/-- Has the message of this kind to start at the start of a word? -/
def startsWord : Kind → Bool
  | unusedCatchBinding => false
  | unusedParameter | unusedVariable => true

/-- The identifier that a message of this kind quotes, if one starts here. -/
def quotedAt? (k : Kind) (previous : Option Char) (s : List Char) : Option (List Char) := do
  guard (!k.startsWord || atWordStart previous)
  let rest ← after? k.lead s
  let name := rest.takeWhile (· ≠ '\'')
  guard (!name.isEmpty)
  guard (k.tail.isPrefixOf (rest.dropWhile (· ≠ '\'')))
  return name

def quoted? (k : Kind) (line : List Char) : Option (List Char) :=
  firstMatch k.quotedAt? none line

/-- The kinds in the order in which a line is tried. -/
def tried : List Kind := [unusedCatchBinding, unusedParameter, unusedVariable]

end Kind

/-- A recognised message. -/
structure Message where
  kind : Kind
  captured : List Char
  deriving DecidableEq, Repr

def message? (line : List Char) : Option Message :=
  Kind.tried.findSome? fun k => (k.quoted? line).map (Message.mk k)

/-- Does a line open a diagnostic? -/
def opensDiagnostic (line : List Char) : Bool :=
  (header? line).isSome || (message? line).isSome

end LintRepair
