/-!
Places in a YAML text, and the classes of characters that end words there.
-/

namespace LintRepair.Yaml

def isBlank (c : Char) : Bool := c == ' ' || c == '\t'

/-- Line feed, carriage return, next line, and the line and paragraph separators. -/
def isBreak (c : Char) : Bool :=
  c == '\n' || c == '\r' || c == '\u0085' || c == '\u2028' || c == '\u2029'

/-- The characters of anchors and of tag handles. -/
def isNameChar (c : Char) : Bool := c.isAlphanum || c == '_' || c == '-'

/-- Printable characters, tabs and line breaks. A text with any other character is refused. -/
def isAllowed (c : Char) : Bool :=
  let n := c.toNat
  n == 0x09 || n == 0x0A || n == 0x0D || (0x20 ≤ n && n ≤ 0x7E) || n == 0x85 ||
    (0xA0 ≤ n && n ≤ 0xFFFD) || 0x10000 ≤ n

/-- A line break as it stands in a scalar: one line feed, except for the two separators. -/
def breakText (c : Char) : List Char := if c == '\u2028' || c == '\u2029' then [c] else ['\n']

/-- What is left of a text, and where that begins. -/
structure Cursor where
  rest : List Char
  index : Nat
  line : Nat
  column : Nat

namespace Cursor

def start (text : String) : Cursor := ⟨text.toList, 0, 0, 0⟩

def peek? (c : Cursor) : Option Char := c.rest.head?

def looksAt (c : Cursor) (x : Char) : Bool := c.rest.head? == some x

/-- Moves over characters of one line. -/
def skip (c : Cursor) (count : Nat) : Cursor :=
  ⟨c.rest.drop count, c.index + count, c.line, c.column + count⟩

def skipWhile (c : Cursor) (p : Char → Bool) : Cursor := c.skip (c.rest.takeWhile p).length

/-- Reads one line break, if there is one. -/
def readBreak (c : Cursor) : List Char × Cursor :=
  match c.rest with
  | '\r' :: '\n' :: rest => (['\n'], ⟨rest, c.index + 2, c.line + 1, 0⟩)
  | x :: rest => if isBreak x then (breakText x, ⟨rest, c.index + 1, c.line + 1, 0⟩) else ([], c)
  | [] => ([], c)

def skipBreak (c : Cursor) : Cursor := c.readBreak.2

/-- The end of the text or of the line stands `count` characters further on. -/
def lineEndsAt (c : Cursor) (count : Nat) : Bool := (c.rest[count]?.map isBreak).getD true

/-- The end of the text, of the line or of the word stands `count` characters further on. -/
def wordEndsAt (c : Cursor) (count : Nat) : Bool :=
  (c.rest[count]?.map fun x => isBlank x || isBreak x).getD true

/-- A line that starts with three of one mark and then a blank, or nothing. -/
def hasMark (c : Cursor) (x : Char) : Bool :=
  c.column == 0 && c.rest.take 3 == [x, x, x] && c.wordEndsAt 3

/-- A line that starts or ends a document. -/
def atDocumentMark (c : Cursor) : Bool := c.hasMark '-' || c.hasMark '.'

/-- Skips blanks and a comment up to the end of the line; nothing else may stand there. -/
def skipLineTail? (c : Cursor) : Option Cursor :=
  let c := c.skipWhile isBlank
  let c := if c.looksAt '#' then c.skipWhile (! isBreak ·) else c
  if c.lineEndsAt 0 then some c.skipBreak else none

end Cursor

end LintRepair.Yaml
