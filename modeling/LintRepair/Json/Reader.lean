import LintRepair.Json.Basic
import LintRepair.Text.Digit
import LintRepair.Text.Scan

/-!
Reading JSON text.
-/

namespace LintRepair.Json

def isBlank (c : Char) : Bool := c == ' ' || c == '\n' || c == '\r' || c == '\t'

def dropBlanks (s : List Char) : List Char := s.dropWhile isBlank

/-- Four hexadecimal digits. -/
def readUnit? : List Char → Option (Nat × List Char)
  | a :: b :: c :: d :: s => (natOfDigits? 16 [a, b, c, d]).map (·, s)
  | _ => none

/-- The character of an escape, behind its backslash. Two units may stand for one character. -/
def readEscape? : List Char → Option (Char × List Char)
  | '"' :: s => some ('"', s)
  | '\\' :: s => some ('\\', s)
  | '/' :: s => some ('/', s)
  | 'b' :: s => some ('\x08', s)
  | 'f' :: s => some ('\x0c', s)
  | 'n' :: s => some ('\n', s)
  | 'r' :: s => some ('\r', s)
  | 't' :: s => some ('\t', s)
  | 'u' :: s => do
    let (unit, s) ← readUnit? s
    if 0xD800 ≤ unit ∧ unit ≤ 0xDBFF then
      let s ← after? ['\\', 'u'] s
      let (low, s) ← readUnit? s
      guard (0xDC00 ≤ low && low ≤ 0xDFFF)
      return (Char.ofNat (0x10000 + (unit - 0xD800) * 0x400 + (low - 0xDC00)), s)
    else
      guard (!(0xDC00 ≤ unit && unit ≤ 0xDFFF))
      return (Char.ofNat unit, s)
  | _ => none

/-- The rest of a string, behind its opening quote. -/
def readString? : (fuel : Nat) → List Char → Option (List Char × List Char)
  | 0, _ => none
  | _ + 1, [] => none
  | fuel + 1, c :: s =>
    if c = '"' then some ([], s)
    else if c = '\\' then do
      let (c, s) ← readEscape? s
      let (text, s) ← readString? fuel s
      return (c :: text, s)
    else if c.toNat < 32 then none
    else do
      let (text, s) ← readString? fuel s
      return (c :: text, s)

/-- The digits at the start of a text. There has to be one. -/
def readDigits? (s : List Char) : Option (List Char × List Char) :=
  let digits := s.takeWhile Char.isDigit
  if digits.isEmpty then none else some (digits, s.dropWhile Char.isDigit)

/-- The digits of a whole number, which starts with a zero only if it is zero. -/
def readWhole? (s : List Char) : Option (List Char × List Char) := do
  let (digits, s) ← readDigits? s
  guard (digits.length == 1 || digits.head? != some '0')
  return (digits, s)

def readFraction? (s : List Char) : Option (List Char × List Char) :=
  match s with
  | '.' :: s => do
    let (digits, s) ← readDigits? s
    return ('.' :: digits, s)
  | s => some ([], s)

def readExponent? (s : List Char) : Option (List Char × List Char) :=
  match s with
  | e :: s =>
    if e = 'e' ∨ e = 'E' then
      let (sign, s) := match s with
        | '+' :: s => (['+'], s)
        | '-' :: s => (['-'], s)
        | s => ([], s)
      do
        let (digits, s) ← readDigits? s
        return (e :: sign ++ digits, s)
    else some ([], e :: s)
  | [] => some ([], [])

/-- A number. Whole numbers that no 64-bit word holds are not kept exactly by every reader, so they
count as real. -/
def readNumber? (s : List Char) : Option (Number × List Char) := do
  let (sign, s) := match s with
    | '-' :: s => (['-'], s)
    | s => ([], s)
  let (whole, s) ← readWhole? s
  let (fraction, s) ← readFraction? s
  let (exponent, s) ← readExponent? s
  let real := Number.real (.ofList (sign ++ whole ++ fraction ++ exponent))
  if fraction.isEmpty && exponent.isEmpty then
    let n ← natOfDigits? 10 whole
    if sign.isEmpty then return (if n ≤ wordMax then .natural n else real, s)
    else return (if 0 < n && n ≤ wordMax / 2 + 1 then .negative n else real, s)
  else return (real, s)

/-- The name of a member, with the colon behind it. -/
def readName? (s : List Char) : Option (String × List Char) := do
  let s ← after? ['"'] (dropBlanks s)
  let (name, s) ← readString? (s.length + 1) s
  let s ← after? [':'] (dropBlanks s)
  return (.ofList name, s)

mutual

def readValue? : (fuel : Nat) → List Char → Option (Value × List Char)
  | 0, _ => none
  | fuel + 1, s =>
    match dropBlanks s with
    | '"' :: s => do
      let (text, s) ← readString? (s.length + 1) s
      return (.string (.ofList text), s)
    | '[' :: s =>
      match dropBlanks s with
      | ']' :: s => some (.array [], s)
      | s => do
        let (elements, s) ← readElements? fuel s
        return (.array elements, s)
    | '\x7b' :: s =>
      match dropBlanks s with
      | '\x7d' :: s => some (.object [], s)
      | s => do
        let (members, s) ← readMembers? fuel s
        return (.object members, s)
    | s =>
      ((after? "null".toList s).map (Value.null, ·)).or <|
      ((after? "true".toList s).map (Value.bool true, ·)).or <|
      ((after? "false".toList s).map (Value.bool false, ·)).or <|
      (readNumber? s).map fun (n, s) => (.number n, s)

/-- One element or more, up to the closing bracket. -/
def readElements? : (fuel : Nat) → List Char → Option (List Value × List Char)
  | 0, _ => none
  | fuel + 1, s => do
    let (v, s) ← readValue? fuel s
    match dropBlanks s with
    | ',' :: s => do
      let (vs, s) ← readElements? fuel s
      return (v :: vs, s)
    | ']' :: s => return ([v], s)
    | _ => none

/-- One member or more, up to the closing brace. -/
def readMembers? : (fuel : Nat) → List Char → Option (List (String × Value) × List Char)
  | 0, _ => none
  | fuel + 1, s => do
    let (name, s) ← readName? s
    let (v, s) ← readValue? fuel s
    match dropBlanks s with
    | ',' :: s => do
      let (members, s) ← readMembers? fuel s
      return ((name, v) :: members, s)
    | '\x7d' :: s => return ([(name, v)], s)
    | _ => none

end

/-- Reads a whole text as one value. -/
def read? (text : String) : Option Value := do
  let s := text.toList
  let (v, rest) ← readValue? (s.length + 1) s
  guard (dropBlanks rest).isEmpty
  return v

end LintRepair.Json
