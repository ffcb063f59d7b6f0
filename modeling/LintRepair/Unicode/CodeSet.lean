import LintRepair.Text.Digit

/-!
Sets of code points, kept as ascending ranges with both ends included, and
tables that change value at known code points.
-/

namespace LintRepair

/-- How many leading entries of an ascending table have a key of at most `n`. -/
def rankIn {α : Type} (key : α → Nat) (table : Array α) (n : Nat) : Nat :=
  go 0 table.size
where
  go (lo hi : Nat) : Nat :=
    if lo < hi then
      let mid := (lo + hi) / 2
      match table[mid]? with
      | some entry => if key entry ≤ n then go (mid + 1) hi else go lo mid
      | none => lo
    else lo
  termination_by hi - lo

/-- The last entry of an ascending table with a key of at most `n`. -/
def lastUpTo? {α : Type} (key : α → Nat) (table : Array α) (n : Nat) : Option α :=
  match rankIn key table n with
  | 0 => none
  | k + 1 => table[k]?

/-- The items of a list written with blanks and line ends between them. -/
def listItems (text : String) : List String :=
  (text.splitToList Char.isWhitespace).filter (! ·.isEmpty)

structure CodeSet where
  ranges : Array (Nat × Nat)
  deriving DecidableEq

namespace CodeSet

/-- The ranges that one item of a table stands for: `5F` is one code point, `41-5A` are all from one
to the other, and `100~12E` is every second one of them. -/
def itemRanges (text : String) : List (Nat × Nat) :=
  let numbers (mark : String) := (text.splitOn mark).map (natOfDigits? 16 ·.toList)
  match numbers "-", numbers "~" with
  | [some a], _ => [(a, a)]
  | [some a, some b], _ => [(a, b)]
  | _, [some a, some b] => (List.range ((b - a) / 2 + 1)).map fun k => (a + 2 * k, a + 2 * k)
  | _, _ => []

/-- Reads ascending items such as `41-5A 5F`, in hexadecimal. -/
def ofText (text : String) : CodeSet :=
  ⟨((listItems text).flatMap itemRanges).toArray⟩

def contains (s : CodeSet) (n : Nat) : Bool :=
  match lastUpTo? Prod.fst s.ranges n with
  | some (_, hi) => n ≤ hi
  | none => false

end CodeSet

end LintRepair
