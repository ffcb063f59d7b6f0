import LintRepair.Text.Bytes
import LintRepair.Tree.Access

/-!
Patterns of file names: `*`, `?` and sets of characters in brackets.
-/

namespace LintRepair.Shell

/-- A character of a word. One that was quoted stands for itself. -/
structure Glyph where
  char : Char
  quoted : Bool

inductive GlobPart where
  | one (c : Char)
  | any
  | many
  | set (negated : Bool) (ranges : List (Char × Char))
  deriving DecidableEq

abbrev Glob := List GlobPart

namespace Glob

/-- The named classes of characters. -/
def namedClass? : String → Option (List (Char × Char))
  | "alpha" => some [('a', 'z'), ('A', 'Z')]
  | "digit" => some [('0', '9')]
  | "alnum" => some [('a', 'z'), ('A', 'Z'), ('0', '9')]
  | "upper" => some [('A', 'Z')]
  | "lower" => some [('a', 'z')]
  | "space" => some [('\t', '\r'), (' ', ' ')]
  | "blank" => some [('\t', '\t'), (' ', ' ')]
  | "punct" => some [('!', '/'), (':', '@'), ('[', '`'), ('\x7b', '~')]
  | "print" => some [(' ', '~')]
  | "graph" => some [('!', '~')]
  | "cntrl" => some [('\x00', '\x1f'), ('\x7f', '\x7f')]
  | "xdigit" => some [('0', '9'), ('a', 'f'), ('A', 'F')]
  | _ => none

/-- Reads `[:name:]` after its first bracket. -/
def classAt? : List Char → Option (List (Char × Char) × Nat)
  | ':' :: rest =>
    let name := rest.takeWhile (· != ':')
    match rest.drop name.length with
    | ':' :: ']' :: _ => (namedClass? (.ofList name)).map fun ranges => (ranges, name.length + 3)
    | _ => none
  | _ => none

/-- The ranges of a bracket expression up to its closing bracket, and how long it is. A closing
bracket in first place stands for itself. -/
def ranges? : Nat → Bool → List Char → Option (List (Char × Char) × Nat)
  | 0, _, _ => none
  | _ + 1, _, [] => none
  | fuel + 1, first, c :: rest =>
    if c == ']' && ! first then some ([], 1)
    else
      match (if c == '[' then classAt? rest else none) with
      | some (ranges, length) =>
        (ranges? fuel false (rest.drop length)).map fun (more, n) => (ranges ++ more, n + length + 1)
      | none =>
        match rest with
        | '-' :: d :: after =>
          if d == ']' then
            (ranges? fuel false rest).map fun (more, n) => ((c, c) :: more, n + 1)
          else (ranges? fuel false after).map fun (more, n) => ((c, d) :: more, n + 3)
        | _ => (ranges? fuel false rest).map fun (more, n) => ((c, c) :: more, n + 1)

/-- Reads a pattern. A bracket that is not closed stands for itself. -/
def ofGlyphs : Nat → List Glyph → Glob
  | 0, _ => []
  | _ + 1, [] => []
  | fuel + 1, g :: rest =>
    if g.quoted then .one g.char :: ofGlyphs fuel rest
    else
      match g.char with
      | '*' => .many :: ofGlyphs fuel rest
      | '?' => .any :: ofGlyphs fuel rest
      | '\\' =>
        match rest with
        | next :: rest => .one next.char :: ofGlyphs fuel rest
        | [] => [.one '\\']
      | '[' =>
        let chars := rest.map Glyph.char
        let negated := chars.head? == some '!' || chars.head? == some '^'
        let body := if negated then chars.drop 1 else chars
        match ranges? (body.length + 1) true body with
        | some (ranges, n) =>
          .set negated ranges :: ofGlyphs fuel (rest.drop (if negated then n + 1 else n))
        | none => .one '[' :: ofGlyphs fuel rest
      | c => .one c :: ofGlyphs fuel rest

def read (glyphs : List Glyph) : Glob := ofGlyphs (glyphs.length + 1) glyphs

def admits : GlobPart → Char → Bool
  | .one d, c => c == d
  | .any, _ => true
  | .many, _ => true
  | .set negated ranges, c => (ranges.any fun r => r.1 ≤ c && c ≤ r.2) != negated

def ends (text : Bytes) : List Bytes :=
  match text with
  | [] => [[]]
  | c :: rest => (c :: rest) :: ends rest

/-- Does the pattern match the whole text? -/
def isMatch : Glob → Bytes → Bool
  | [], text => text.isEmpty
  | .many :: rest, text => (ends text).any fun t => isMatch rest t
  | part :: rest, c :: text => admits part c && isMatch rest text
  | _ :: _, [] => false

/-- Has the pattern a part that stands for more than itself? -/
def isProper (g : Glob) : Bool :=
  g.any fun
    | .one _ => false
    | _ => true

/-- Matches a file name: a leading dot has to be written out. -/
def isNameMatch (g : Glob) (name : Bytes) : Bool :=
  (name.head? != some '.' || g.head? == some (.one '.')) && g.isMatch name

/-- The text of a pattern whose parts all stand for themselves. -/
def literal (g : Glob) : Bytes :=
  g.filterMap fun
    | .one c => some c
    | _ => none

/-- The pieces of a pattern between slashes. -/
def pieces : Glob → List Glob
  | [] => [[]]
  | part :: rest =>
    if part == .one '/' then [] :: pieces rest
    else
      match pieces rest with
      | [] => [[part]]
      | piece :: more => (part :: piece) :: more

/-- The paths that match the pieces of a pattern, where `base` is the path so far. -/
def expandPieces (tree : Node) (directory : List String) (base : Bytes) : List Glob → List Bytes
  | [] => [base]
  | piece :: rest =>
    let here : Path := ⟨Bytes.toText (if base.isEmpty then ['.'] else base)⟩
    let isLast := rest.isEmpty
    if piece.isProper then
      let entries := match tree.locate directory here with
        | .ok place => match tree.at? place with
          | some (.dir entries) => entries.map fun (e : String × Node) => Bytes.ofString e.1
          | _ => []
        | .error _ => []
      let names := (entries.filter piece.isNameMatch).mergeSort Bytes.le
      names.flatMap fun name =>
        let path := base ++ name
        if isLast then [path]
        else if tree.isDirectory directory ⟨Bytes.toText path⟩ then
          expandPieces tree directory (path ++ ['/']) rest
        else []
    else
      let path := base ++ piece.literal
      if isLast then
        if tree.pathExists directory ⟨Bytes.toText path⟩ then [path] else []
      else expandPieces tree directory (path ++ ['/']) rest

/-- The paths that a pattern stands for, in order. -/
def expand (g : Glob) (tree : Node) (directory : List String) : List Bytes :=
  expandPieces tree directory [] g.pieces

end Glob

end LintRepair.Shell
