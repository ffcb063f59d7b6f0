import LintRepair.Shell.Glob
import LintRepair.Shell.Script

/-!
How an expanded word falls apart into fields.
-/

namespace LintRepair.Shell

/-- A part of an expanded word. -/
inductive Atom where
  | glyph (g : Glyph)
  /-- A character that an expansion outside quotes gave, at which a field may end. -/
  | loose (c : Char)
  /-- There is a field here, even if nothing is in it. -/
  | present
  /-- A field ends here. -/
  | border

/-- The fields so far, last one first, and the one that is open, last character first. -/
structure Splitting where
  done : List (List Glyph)
  current : List Glyph
  started : Bool
  /-- White space ended the last field, and nothing came since. -/
  afterGap : Bool

namespace Splitting

def start : Splitting := ⟨[], [], false, false⟩

def close (s : Splitting) : Splitting := ⟨s.current.reverse :: s.done, [], false, false⟩

def add (s : Splitting) (g : Glyph) : Splitting := ⟨s.done, g :: s.current, true, false⟩

/-- Takes in one atom. White space among the separators ends a field once; any other separator
ends one each time. -/
def feed (separators : Bytes) (s : Splitting) : Atom → Splitting
  | .glyph g => s.add g
  | .present => { s with started := true, afterGap := false }
  | .border => if s.started then s.close else { s with afterGap := false }
  | .loose c =>
    if ! separators.contains c then s.add ⟨c, false⟩
    else if c == ' ' || c == '\t' || c == '\n' then
      if s.started then { s.close with afterGap := true } else s
    else if s.afterGap then { s with afterGap := false }
    else s.close

end Splitting

/-- The fields of an expanded word. -/
def splitFields (separators : Bytes) (atoms : List Atom) : List (List Glyph) :=
  let s := atoms.foldl (Splitting.feed separators) .start
  (if s.started then s.close else s).done.reverse

/-- The text of an expanded word that is not split. -/
def joinAtoms (atoms : List Atom) : Bytes :=
  atoms.filterMap fun
    | .glyph g => some g.char
    | .loose c => some c
    | .present => none
    | .border => some ' '

/-- The characters of an expanded word that is a pattern. -/
def glyphsOfAtoms (atoms : List Atom) : List Glyph :=
  atoms.filterMap fun
    | .glyph g => some g
    | .loose c => some ⟨c, false⟩
    | .present => none
    | .border => some ⟨' ', false⟩

/-- A text as atoms, in quotes or not. -/
def atomsOfText (quoted : Bool) (text : Bytes) : List Atom :=
  if quoted then .present :: text.map fun c => .glyph ⟨c, true⟩ else text.map .loose

/-- The shortest or longest start or end of a text that a pattern matches is taken away. -/
def trimStart (longest : Bool) (g : Glob) (text : Bytes) : Bytes :=
  let sizes := List.range (text.length + 1)
  match (if longest then sizes.reverse else sizes).find? fun n => g.isMatch (text.take n) with
  | some n => text.drop n
  | none => text

@[inherit_doc trimStart]
def trimEnd (longest : Bool) (g : Glob) (text : Bytes) : Bytes :=
  let sizes := List.range (text.length + 1)
  match (if longest then sizes else sizes.reverse).find? fun n => g.isMatch (text.drop n) with
  | some n => text.take n
  | none => text

end LintRepair.Shell
