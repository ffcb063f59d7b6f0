/-!
Lines of a text. A raw line keeps the line feed that ends it.
-/

namespace LintRepair

/-- Cuts a text behind every line feed. The pieces are not empty and make up the text. -/
def rawLines : List Char → List (List Char)
  | [] => []
  | c :: s =>
    if c = '\n' then [c] :: rawLines s
    else
      match rawLines s with
      | [] => [[c]]
      | line :: lines => (c :: line) :: lines

/-- What ends a line. -/
inductive LineEnding where
  | missing
  | lineFeed
  | returnFeed
  deriving DecidableEq, Repr

def LineEnding.text : LineEnding → List Char
  | .missing => []
  | .lineFeed => ['\n']
  | .returnFeed => ['\r', '\n']

/-- A line apart from what ends it. -/
structure Line where
  body : List Char
  ending : LineEnding
  deriving DecidableEq, Repr

namespace Line

def text (l : Line) : List Char := l.body ++ l.ending.text

/-- Takes a raw line apart. -/
def ofRaw : List Char → Line
  | [] => ⟨[], .missing⟩
  | ['\n'] => ⟨[], .lineFeed⟩
  | ['\r', '\n'] => ⟨[], .returnFeed⟩
  | c :: s => let l := ofRaw s; ⟨c :: l.body, l.ending⟩

end Line

/-- The lines of a text without what ends them. A carriage return at the very end of the text
belongs to the last line. -/
def lineBodies (text : List Char) : List (List Char) :=
  (rawLines text).map fun raw => (Line.ofRaw raw).body

end LintRepair
