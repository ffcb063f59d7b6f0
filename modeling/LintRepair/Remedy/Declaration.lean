import LintRepair.Pattern.Reader
import LintRepair.Remedy.Basic
import LintRepair.Text.Scan

/-!
Removes declarations that are known to be unused, by patterns of the settings.
-/

namespace LintRepair.Declaration

/-- Patterns for whole lines, with what ends them, so that no indentation is left behind. -/
def defaultPatterns : List String :=
  ["(?m)^[ \\t]*const start = await client\\.callTool.*\\r?\\n",
   "(?m)^[ \\t]*const conversationState =[ \\t]*\\r?\\n\\s*await this\\.conversationManager.*\\r?\\n"]

/-- Offers to delete what a pattern matches at a place. A match of nothing deletes nothing. -/
def deletion? (p : Pattern) (previous : Option Char) (s : List Char) : Option Substitution :=
  match p.matchLength? previous s with
  | some (further + 1) => some ⟨[], further⟩
  | _ => none

def deleteAll (p : Pattern) (content : List Char) : List Char :=
  substituteAll (deletion? p) content

/-- Goes over the content with each pattern in turn. -/
def remove (patterns : List Pattern) (content : List Char) : List Char :=
  patterns.foldl (fun text p => deleteAll p text) content

/-- The patterns that can be read. The others have no effect. -/
def readPatterns (patterns : List String) : List Pattern := patterns.filterMap Pattern.ofText?

def mend (patterns : List Pattern) (content : String) : String :=
  .ofList (remove patterns content.toList)

def remedy (patterns : List String) : ContentRemedy where
  id := .unusedVariable
  description := "Remove known unused variable declarations"
  mend := mend (readPatterns patterns)

end LintRepair.Declaration
