import LintRepair.Text.Scan

/-!
Styled text for terminals.
-/

namespace LintRepair

inductive Color where
  | red
  | green
  | yellow
  | cyan
  deriving DecidableEq, Repr

namespace Color

def code : Color → String
  | red => "31"
  | green => "32"
  | yellow => "33"
  | cyan => "36"

end Color

structure Style where
  color : Option Color
  bold : Bool
  dimmed : Bool
  deriving DecidableEq, Repr

namespace Style

def colored (c : Color) : Style := ⟨some c, false, false⟩

def strong : Style := ⟨none, true, false⟩

def faint : Style := ⟨none, false, true⟩

def strongly (s : Style) : Style := { s with bold := true }

/-- The sequence that starts a style: how thick, then which color. -/
def opening (s : Style) : String :=
  let codes := (if s.bold then ["1"] else []) ++ (if s.dimmed then ["2"] else []) ++
    (s.color.map Color.code).toList
  "\x1b[" ++ String.intercalate ";" codes ++ "m"

def reset : String := "\x1b[0m"

/-- The text with the style again behind every reset in it. -/
def resumed (s : Style) (text : List Char) : List Char :=
  substituteAll (fun _ rest => (after? reset.toList rest).map fun _ =>
    ⟨(reset ++ s.opening).toList, reset.length - 1⟩) text

/-- The text in a style, if styles are on. A reset inside the text is followed by the style
again. -/
def paint (s : Style) (on : Bool) (text : String) : String :=
  if on then s.opening ++ .ofList (s.resumed text.toList) ++ reset else text

end Style

/-- Fills a text up to a width, counted in characters. -/
def padRight (width : Nat) (text : String) : String :=
  text ++ .ofList (List.replicate (width - text.length) ' ')

/-- A line across the terminal. -/
def ruler (width : Nat) : String := .ofList (List.replicate width '─')

end LintRepair
