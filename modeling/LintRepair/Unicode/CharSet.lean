import LintRepair.Text.CharClass
import LintRepair.Unicode.CaseFold

/-!
Sets of characters as expressions.
-/

namespace LintRepair

inductive CharSet where
  | range (first last : Char)
  | codes (set : CodeSet)
  | categories (list : List Category)
  | word
  | decimal
  | space
  | union (a b : CharSet)
  | inter (a b : CharSet)
  | complement (a : CharSet)
  /-- The characters of a set in either case. -/
  | anyCase (a : CharSet)
  deriving DecidableEq

namespace CharSet

def mem (c : Char) : CharSet → Bool
  | range first last => first ≤ c && c ≤ last
  | codes set => set.contains c.toNat
  | categories list => list.contains (Category.ofChar c)
  | word => isWord c
  | decimal => isDecimal c
  | space => isSpace c
  | union a b => a.mem c || b.mem c
  | inter a b => a.mem c && b.mem c
  | complement a => !a.mem c
  | anyCase a => (caseVariants c).any fun d => a.mem d

def single (c : Char) : CharSet := range c c

def all : CharSet := range (Char.ofNat 0) (Char.ofNat 0x10FFFF)

def empty : CharSet := complement all

def diff (a b : CharSet) : CharSet := inter a (complement b)

def symmDiff (a b : CharSet) : CharSet := union (diff a b) (diff b a)

def ofRanges (ranges : List (Char × Char)) : CharSet :=
  ranges.foldr (fun r set => union (range r.1 r.2) set) empty

end CharSet

end LintRepair
