/-!
Times in seconds with one decimal. A time goes through a binary number with 53
significant digits before it is rounded to tenths, so that a tie in tenths is
rare: it needs a time that such a number holds exactly.
-/

namespace LintRepair.Seconds

/-- Rounds a quotient to a whole number, a half to the even neighbour. -/
def roundDiv (a b : Nat) : Nat :=
  let q := a / b
  let rest := 2 * (a % b)
  if rest < b then q else if b < rest then q + 1 else q + q % 2

/-- A fraction `num / den`, where `den` is not zero. -/
structure Ratio where
  num : Nat
  den : Nat

namespace Ratio

/-- The nearest number with 53 significant binary digits. The quotient is first scaled up to more
digits than that. -/
def toBinary (r : Ratio) : Ratio :=
  let scale := 1 <<< (64 + Nat.log2 r.den)
  let digits := Nat.log2 (r.num * scale / r.den) + 1
  let unit := 1 <<< (digits - 53)
  ⟨roundDiv (r.num * scale) (r.den * unit) * unit, scale⟩

def add (a b : Ratio) : Ratio := ⟨a.num * b.den + b.num * a.den, a.den * b.den⟩

end Ratio

/-- A time given in milliseconds as a binary number of seconds: whole seconds and the fraction are
taken apart and added. -/
def ofMillis (ms : Nat) : Ratio :=
  ((Ratio.toBinary ⟨ms / 1000, 1⟩).add (Ratio.toBinary ⟨ms % 1000 * 1000000, 1000000000⟩)).toBinary

/-- The text of a time given in milliseconds. -/
def text (ms : Nat) : String :=
  let r := ofMillis ms
  let tenths := roundDiv (10 * r.num) r.den
  s!"{tenths / 10}.{tenths % 10}"

end LintRepair.Seconds
