import LintRepair.Path.Basic
import LintRepair.Text.CharClass
import LintRepair.Text.Digit
import LintRepair.Text.Scan

/-!
The marker line of a diagnostic, which holds `path:line:column` in brackets.
-/

namespace LintRepair

structure Location where
  file : Path
  line : Nat
  column : Nat
  deriving DecidableEq, Repr

namespace Location

/-- What opens the brackets of a location. -/
def openings : List (List Char) := [",-[".toList, "╭─[".toList]

def hasMarker (line : List Char) : Bool := openings.any (occursIn · line)

/-- The two numbers of `:line:column]`, if the text starts so. -/
def numbers? (s : List Char) : Option (List Char × List Char) := do
  let s ← after? [':'] s
  let line := s.takeWhile isDecimal
  guard (!line.isEmpty)
  let s ← after? [':'] (s.dropWhile isDecimal)
  let column := s.takeWhile isDecimal
  guard (!column.isEmpty)
  let _ ← after? [']'] (s.dropWhile isDecimal)
  return (line, column)

/-- The longest path, of one character at least, that is followed by line and column. -/
def split? : List Char → Option (List Char × List Char × List Char)
  | [] => none
  | c :: s =>
    match split? s with
    | some (file, numbers) => some (c :: file, numbers)
    | none => (numbers? s).map fun numbers => ([c], numbers)

def splitAt? (_ : Option Char) (s : List Char) : Option (List Char × List Char × List Char) :=
  openings.findSome? fun opening => (after? opening s).bind split?

/-- The location on a marker line. A path of white space, line zero and a number that no word
holds give none. -/
def ofLine? (s : List Char) : Option Location := do
  let (file, line, column) ← firstMatch splitAt? none s
  let file := trim file
  let line ← wordOfDigits? line
  let column ← wordOfDigits? column
  guard (!file.isEmpty && line != 0)
  return ⟨⟨.ofList file⟩, line, column⟩

end Location

end LintRepair
