import LintRepair.Unicode.Ranges

/-!
The bytes of encoded characters. A range of characters becomes a list of
sequences of byte ranges, in ascending order: a text of bytes belongs to a
character of the range just when it fits one of the sequences.
-/

namespace LintRepair

abbrev ByteRange := Nat × Nat

namespace ByteSequence

/-- The sequences for numbers of `k + 1` digits of six bits, of which the first one is marked by
`mark` and the others as bytes that continue a character. -/
def ofDigits (mark : Nat) : (k lo hi : Nat) → List (List ByteRange)
  | 0, lo, hi => [[(mark + lo, mark + hi)]]
  | k + 1, lo, hi =>
    let unit := 1 <<< (6 * (k + 1))
    let first := lo / unit
    let last := hi / unit
    let under (a b lo hi : Nat) := (ofDigits 0x80 k lo hi).map ((mark + a, mark + b) :: ·)
    if first == last then under first first (lo % unit) (hi % unit)
    else
      let fromStart := lo % unit == 0
      let toEnd := hi % unit == unit - 1
      let a := if fromStart then first else first + 1
      let b := if toEnd then last + 1 else last
      (if fromStart then [] else under first first (lo % unit) (unit - 1)) ++
        (if a < b then under a (b - 1) 0 (unit - 1) else []) ++
        (if toEnd then [] else under last last 0 (hi % unit))

/-- The code points of each encoded length, with the mark of their first byte and the number of
bytes behind it. -/
def lengths : List ((Nat × Nat) × Nat × Nat) :=
  [((0, 0x7F), 0, 0), ((0x80, 0x7FF), 0xC0, 1), ((0x800, 0xD7FF), 0xE0, 2),
   ((0xE000, 0xFFFF), 0xE0, 2), ((0x10000, 0x10FFFF), 0xF0, 3)]

def ofRange (lo hi : Nat) : List (List ByteRange) :=
  lengths.flatMap fun ((least, most), mark, k) =>
    if max lo least ≤ min hi most then ofDigits mark k (max lo least) (min hi most) else []

def ofRanges (ranges : Ranges) : List (List ByteRange) :=
  ranges.flatMap fun (lo, hi) => ofRange lo hi

/-- The bytes of one character. -/
def ofChar (c : Char) : List Nat := ((ofRange c.toNat c.toNat).headD []).map Prod.fst

end ByteSequence

end LintRepair
