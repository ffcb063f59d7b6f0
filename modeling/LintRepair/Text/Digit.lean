/-!
Reading and writing numbers in ASCII digits.
-/

namespace LintRepair

/-- The largest count that a 64-bit word holds. -/
def wordMax : Nat := 18446744073709551615

def digitValue? (c : Char) : Option Nat :=
  if '0' ≤ c ∧ c ≤ '9' then some (c.toNat - '0'.toNat)
  else if 'a' ≤ c ∧ c ≤ 'z' then some (c.toNat - 'a'.toNat + 10)
  else if 'A' ≤ c ∧ c ≤ 'Z' then some (c.toNat - 'A'.toNat + 10)
  else none

/-- The value of a digit in `base`, letters standing for ten and above. -/
def digitIn? (base : Nat) (c : Char) : Option Nat :=
  (digitValue? c).filter (· < base)

/-- The number that `digits` spell in `base`. There has to be one digit at least. -/
def natOfDigits? (base : Nat) (digits : List Char) : Option Nat :=
  if digits.isEmpty then none
  else digits.foldlM (fun n c => (digitIn? base c).map (base * n + ·)) 0

/-- A decimal number that fits in a word. -/
def wordOfDigits? (digits : List Char) : Option Nat :=
  (natOfDigits? 10 digits).filter (· ≤ wordMax)

end LintRepair
