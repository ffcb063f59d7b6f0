import LintRepair.Text.Lines

/-!
Editing one line of a text.
-/

namespace LintRepair

/-- Changes the raw line at an index. What ends the line is kept, and a body with a line break in it
is refused. -/
def editRaw? (edit : List Char → Option (List Char)) : (index : Nat) → List (List Char) →
    Option (List (List Char))
  | _, [] => none
  | 0, raw :: lines => do
    let line := Line.ofRaw raw
    let body ← edit line.body
    guard (!body.contains '\n' && !body.contains '\r')
    return (body ++ line.ending.text) :: lines
  | index + 1, raw :: lines => (editRaw? edit index lines).map (raw :: ·)

/-- Changes a line of a text, counted from one. -/
def editLine? (edit : List Char → Option (List Char)) (number : Nat) (text : List Char) :
    Option (List Char) :=
  match number with
  | 0 => none
  | index + 1 => (editRaw? edit index (rawLines text)).map List.flatten

/-- `editLine?` on strings. -/
def editLineOf? (edit : String → Option String) (number : Nat) (text : String) : Option String :=
  (editLine? (fun body => (edit (.ofList body)).map String.toList) number text.toList).map .ofList

end LintRepair
