import LintRepair.Unicode.CharSet
import Std.Data.HashSet

/-!
Sets of characters as ranges of code points, both ends included, in ascending
order and with a gap between each two.
-/

namespace LintRepair

abbrev Ranges := List (Nat × Nat)

namespace Ranges

def lastCode : Nat := 0x10FFFF

/-- Joins ranges to the one before them where they touch or overlap it. They are ordered by where they
start. -/
def joinFrom (first last : Nat) : Ranges → Ranges
  | [] => [(first, last)]
  | (a, b) :: rest =>
    if a ≤ last + 1 then joinFrom first (max last b) rest else (first, last) :: joinFrom a b rest

/-- Joins ranges that touch or overlap. They are ordered by where they start. -/
def join : Ranges → Ranges
  | [] => []
  | (a, b) :: rest => joinFrom a b rest

/-- All ranges of two lists, ordered by where they start. -/
def merged : Ranges → Ranges → Ranges
  | [], b => b
  | r :: a, b =>
    let before (s : Nat × Nat) : Bool := s.1 < r.1
    b.takeWhile before ++ r :: merged a (b.dropWhile before)

def union (a b : Ranges) : Ranges := join (merged a b)

/-- What is in none of the ranges from a code point on. -/
def gapsFrom (start : Nat) : Ranges → Ranges
  | [] => if start ≤ lastCode then [(start, lastCode)] else []
  | (a, b) :: rest =>
    if start < a then (start, a - 1) :: gapsFrom (b + 1) rest else gapsFrom (b + 1) rest

def complement (a : Ranges) : Ranges := gapsFrom 0 a

def inter (a b : Ranges) : Ranges := complement (union (complement a) (complement b))

def ofCodes (set : CodeSet) : Ranges := join set.ranges.toList

/-- Where a table of changes has values that are wanted. -/
def ofChanges (wanted : Category → Bool) : List (Nat × Category) → Ranges
  | [] => []
  | [(a, category)] => if wanted category then [(a, lastCode)] else []
  | (a, category) :: (b, next) :: rest =>
    let behind := ofChanges wanted ((b, next) :: rest)
    if wanted category then (a, b - 1) :: behind else behind

def ofCategories (list : List Category) : Ranges :=
  join (ofChanges list.contains Category.changes.toList)

def word : Ranges :=
  union
    (ofCategories [.upper, .lower, .title, .modifierLetter, .otherLetter, .nonspacing, .spacing,
      .enclosing, .letterNumber, .decimal, .connector])
    (union (ofCodes enclosedLetters) [(0x200C, 0x200D)])

def decimal : Ranges := ofCategories [.decimal]

def space : Ranges :=
  [(9, 13), (0x20, 0x20), (0x85, 0x85), (0xA0, 0xA0), (0x1680, 0x1680), (0x2000, 0x200A),
   (0x2028, 0x2029), (0x202F, 0x202F), (0x205F, 0x205F), (0x3000, 0x3000)]

/-- The characters that fold to another, each with that one. -/
def folds : List (Nat × Nat) :=
  FoldRun.table.flatMap fun run =>
    (List.range ((run.last - run.first) / run.step + 1)).map fun k =>
      (run.first + run.step * k, run.target + run.step * k)

/-- The set with the other cases of its characters. -/
def withCases (a : Ranges) : Ranges :=
  let set : CodeSet := ⟨a.toArray⟩
  let touched := folds.filter fun (source, target) => set.contains source || set.contains target
  let targets := Std.HashSet.ofList (touched.map Prod.snd)
  let variants := folds.flatMap fun (source, target) =>
    if targets.contains target then [source, target] else []
  union ((variants.mergeSort (· ≤ ·)).map fun n => (n, n)) a

end Ranges

/-- The code points of a set. -/
def CharSet.ranges : CharSet → Ranges
  | range first last => if first ≤ last then [(first.toNat, last.toNat)] else []
  | codes set => .ofCodes set
  | categories list => .ofCategories list
  | word => .word
  | decimal => .decimal
  | space => .space
  | union a b => .union a.ranges b.ranges
  | inter a b => .inter a.ranges b.ranges
  | complement a => .complement a.ranges
  | anyCase a => .withCases a.ranges

end LintRepair
