import LintRepair.Remedy.Basic
import LintRepair.Text.CharClass
import LintRepair.Text.Scan

/-!
Drops the binding of a catch clause whose name is never used.
-/

namespace LintRepair.CatchClause

/-- What is left behind any number of leading spaces, the longest run first. -/
def afterSpaces : List Char → List (List Char)
  | [] => [[]]
  | c :: s => if isSpace c then afterSpaces s ++ [c :: s] else [c :: s]

/-- What is left behind an annotation that a catch binding may have. -/
def afterAnnotation? (s : List Char) : Option (List Char) := do
  let s ← after? [':'] (dropSpaces s)
  let s := dropSpaces s
  (after? "unknown".toList s).or (after? "any".toList s)

/-- What is left behind `) {`. -/
def afterClosing? (s : List Char) : Option (List Char) := do
  let s ← after? [')'] (dropSpaces s)
  after? ['{'] (dropSpaces s)

/-- What is left behind `name) {`, where the name may have an annotation. -/
def afterName? (name s : List Char) : Option (List Char) := do
  let s ← after? name s
  ((afterAnnotation? s).bind afterClosing?).or (afterClosing? s)

/-- What is left behind a clause `catch (name) {`, if one starts here. -/
def afterClause? (name s : List Char) : Option (List Char) := do
  let s ← after? "catch".toList s
  let s ← after? ['('] (dropSpaces s)
  (afterSpaces s).findSome? (afterName? name)

/-- What is left behind a clause and the brace that closes the block before it. -/
def afterBraced? (name : List Char) (_ : Option Char) (s : List Char) : Option (List Char) := do
  let s ← after? ['}'] s
  afterClause? name (dropSpaces s)

def afterWord? (name : List Char) (previous : Option Char) (s : List Char) : Option (List Char) :=
  if atWordStart previous then afterClause? name s else none

/-- What is left behind a clause without a binding. -/
def afterBare? (previous : Option Char) (s : List Char) : Option (List Char) := do
  guard (atWordStart previous)
  let s ← after? "catch".toList s
  after? ['{'] (dropSpaces s)

/-- Writes `text` instead of the first thing that is recognised. -/
def replaceFirst? (recognise : Option Char → List Char → Option (List Char)) (text : List Char)
    (previous : Option Char) : List Char → Option (List Char)
  | [] => none
  | c :: s =>
    match recognise previous (c :: s) with
    | some rest => some (text ++ rest)
    | none => (replaceFirst? recognise text (some c) s).map (c :: ·)

def mendLine (line name : List Char) : Option (List Char) :=
  (replaceFirst? (afterBraced? name) "\x7d catch \x7b".toList none line).or <|
    (replaceFirst? (afterWord? name) "catch \x7b".toList none line).or <|
      (firstMatch afterBare? none line).map fun _ => line

def mend (line : String) (finding : Finding) : Option String := do
  let name ← finding.captured
  let mended ← mendLine line.toList name.toList
  return .ofList mended

def remedy : LineRemedy where
  id := .unusedCatchBinding
  description := "Remove unused catch bindings"
  kind := .unusedCatchBinding
  mend := mend

end LintRepair.CatchClause
