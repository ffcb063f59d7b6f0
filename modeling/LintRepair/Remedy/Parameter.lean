import LintRepair.Remedy.Basic
import LintRepair.Text.CharClass

/-!
Marks an unused parameter by an underscore before its name. Of all places on
the line where the parameter could be declared, the one closest to the
reported column is taken.
-/

namespace LintRepair.Parameter

/-- May this character not stand directly before the name? -/
def joinsName (c : Char) : Bool := isWord c || c == '$'

/-- How a parameter can be written: what stands before the name and what follows it. -/
structure Shape where
  opening : List Char
  closings : List Char

/-- In parentheses of its own, typed, last, or followed by another parameter. -/
def shapes : List Shape :=
  [⟨['('], [')']⟩, ⟨[], [':']⟩, ⟨[], [')']⟩, ⟨[], [',']⟩]

/-- A parameter that already has its underscore. -/
def marked : Shape := ⟨['_'], [':', ')', ',']⟩

namespace Shape

/-- Does the name stand here in this shape? -/
def standsAt (shape : Shape) (name s : List Char) : Bool :=
  let start := shape.opening ++ name
  start.isPrefixOf s && (s.drop start.length).head?.any shape.closings.contains

def width (shape : Shape) (name : List Char) : Nat := shape.opening.length + name.length + 1

/-- The places where the name stands in this shape, each cut off right at the shape. They are taken
from left to right and do not overlap, where the character before a shape belongs to it. `before`
is the text already passed, last character first. -/
def placesFrom (shape : Shape) (name : List Char) :
    (skip : Nat) → (before : List Char) → List Char → List (List Char × List Char)
  | _, _, [] => []
  | skip + 1, before, c :: s => placesFrom shape name skip (c :: before) s
  | 0, before, c :: s =>
    if before.isEmpty && shape.standsAt name (c :: s) then
      ([], c :: s) :: placesFrom shape name (shape.width name - 1) [c] s
    else if !joinsName c && shape.standsAt name s then
      ((c :: before).reverse, s) :: placesFrom shape name (shape.width name) (c :: before) s
    else placesFrom shape name 0 (c :: before) s

def places (shape : Shape) (name line : List Char) : List (List Char × List Char) :=
  placesFrom shape name 0 [] line

end Shape

/-- A place that the finding may speak of. -/
structure Site where
  before : List Char
  after : List Char
  /-- Where the name, or its underscore, begins, in bytes from the start of the line. -/
  offset : Nat
  marked : Bool
  deriving DecidableEq, Repr

def byteLength : List Char → Nat
  | [] => 0
  | c :: rest => c.utf8Size + byteLength rest

/-- The sites of the marked name, then those of each shape in turn. -/
def sites (name line : List Char) : List Site :=
  ((marked.places name line).map fun (before, after) =>
    ⟨before, after, byteLength before, true⟩) ++
  shapes.flatMap fun shape => (shape.places name line).map fun (before, after) =>
    let before := before ++ shape.opening
    ⟨before, after.drop shape.opening.length, byteLength before, false⟩

/-- The byte at which a column begins, counted from one and by characters. -/
def columnOffset (line : List Char) (column : Nat) : Nat := byteLength (line.take (column - 1))

def distance (a b : Nat) : Nat := (a - b) + (b - a)

/-- The closest site, and of several the first. -/
def closest? (target : Nat) : List Site → Option Site
  | [] => none
  | site :: rest =>
    match closest? target rest with
    | some other =>
      if distance other.offset target < distance site.offset target then some other else some site
    | none => some site

def mendLine (line name : List Char) (column : Nat) : Option (List Char) :=
  if name.head? = some '_' then some line
  else
    (closest? (columnOffset line column) (sites name line)).map fun site =>
      if site.marked then line else site.before ++ '_' :: site.after

def mend (line : String) (finding : Finding) : Option String := do
  let name ← finding.captured
  let mended ← mendLine line.toList name.toList finding.column
  return .ofList mended

def remedy : LineRemedy where
  id := .unusedParameter
  description := "Prefix unused parameters with '_'"
  kind := .unusedParameter
  mend := mend

end LintRepair.Parameter
