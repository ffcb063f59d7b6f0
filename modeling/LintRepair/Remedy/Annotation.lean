import LintRepair.Remedy.Basic
import LintRepair.Text.CharClass
import LintRepair.Text.Scan

/-!
Narrows `any` annotations to `unknown`, in the few places where that is sure to
be an annotation of a declaration.
-/

namespace LintRepair.Annotation

/-- The end of an annotation: a semicolon, or an equals sign that begins neither an arrow nor a
comparison, with the character behind it. -/
def ending? (s : List Char) : Option (List Char) :=
  let spaces := s.takeWhile isSpace
  match s.dropWhile isSpace with
  | ';' :: _ => some (spaces ++ [';'])
  | ['='] => some (spaces ++ ['='])
  | '=' :: c :: _ => if c = '>' ∨ c = '=' then none else some (spaces ++ ['=', c])
  | _ => none

/-- `: any` before the end of an annotation. -/
def declared? (_ : Option Char) (s : List Char) : Option Substitution := do
  let s ← after? [':'] s
  let spaces := s.takeWhile isSpace
  let s ← after? "any".toList (s.dropWhile isSpace)
  let ending ← ending? s
  return ⟨':' :: spaces ++ "unknown".toList ++ ending, spaces.length + 3 + ending.length⟩

/-- `Promise<any>`. -/
def promised? (previous : Option Char) (s : List Char) : Option Substitution := do
  guard (atWordStart previous)
  let _ ← after? "Promise<any>".toList s
  return ⟨"Promise<unknown>".toList, 11⟩

/-- `any[]`. -/
def listed? (previous : Option Char) (s : List Char) : Option Substitution := do
  guard (atWordStart previous)
  let _ ← after? "any[]".toList s
  return ⟨"unknown[]".toList, 4⟩

/-- `Record<string, any>`, with any space before `any`. -/
def recorded? (previous : Option Char) (s : List Char) : Option Substitution := do
  guard (atWordStart previous)
  let s ← after? "Record<string,".toList s
  let _ ← after? "any>".toList (s.dropWhile isSpace)
  return ⟨"Record<string, unknown>".toList, 17 + (s.takeWhile isSpace).length⟩

/-- The narrowings, in the order in which each goes over the whole text. -/
def narrowings : List (Option Char → List Char → Option Substitution) :=
  [declared?, promised?, listed?, recorded?]

def narrow (content : List Char) : List Char :=
  narrowings.foldl (fun text offer => substituteAll offer text) content

def mend (content : String) : String := .ofList (narrow content.toList)

def remedy : ContentRemedy where
  id := .narrowTypes
  description := "Narrow 'any' annotations to 'unknown'"
  mend := mend

end LintRepair.Annotation
