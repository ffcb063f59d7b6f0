/-!
Byte texts: lists of characters below 256, one for each byte. Commands work on
these, since what they read and print need not be text in any encoding.
-/

namespace LintRepair

abbrev Bytes := List Char

namespace Bytes

def ofArray (bytes : ByteArray) : Bytes := bytes.toList.map fun b => Char.ofNat b.toNat

def ofString (s : String) : Bytes := ofArray s.toUTF8

/-- The order of the bytes. -/
def le (a b : Bytes) : Bool := ! decide (b < a)

def toArray (bytes : Bytes) : ByteArray := ⟨(bytes.map fun c => c.toNat.toUInt8).toArray⟩

/-- A character that is being read: how many bytes are missing, what the ones before them are
worth, and between which bounds the next one has to lie. -/
structure Partial where
  missing : Nat
  value : Nat
  least : Nat
  most : Nat

/-- The replacement character. -/
def replacement : Char := '\ufffd'

/-- What the first byte of a character begins or is. -/
def lead (b : Nat) : List Char × Option Partial :=
  if b < 0x80 then ([.ofNat b], none)
  else if 0xC2 ≤ b ∧ b ≤ 0xDF then ([], some ⟨1, b % 32, 0x80, 0xBF⟩)
  else if b = 0xE0 then ([], some ⟨2, 0, 0xA0, 0xBF⟩)
  else if b = 0xED then ([], some ⟨2, 13, 0x80, 0x9F⟩)
  else if 0xE1 ≤ b ∧ b ≤ 0xEF then ([], some ⟨2, b % 16, 0x80, 0xBF⟩)
  else if b = 0xF0 then ([], some ⟨3, 0, 0x90, 0xBF⟩)
  else if b = 0xF4 then ([], some ⟨3, 4, 0x80, 0x8F⟩)
  else if 0xF1 ≤ b ∧ b ≤ 0xF3 then ([], some ⟨3, b % 8, 0x80, 0xBF⟩)
  else ([replacement], none)

/-- Takes in one byte: the characters it completes or spoils, and the one it leaves open. -/
def feed (open_ : Option Partial) (b : Nat) : List Char × Option Partial :=
  match open_ with
  | none => lead b
  | some p =>
    if p.least ≤ b ∧ b ≤ p.most then
      let value := p.value * 64 + b % 64
      if p.missing ≤ 1 then ([.ofNat value], none)
      else ([], some ⟨p.missing - 1, value, 0x80, 0xBF⟩)
    else
      let (chars, next) := lead b
      (replacement :: chars, next)

/-- The characters decoded so far, last one first, and the one that is open. -/
def decodeStep (state : List Char × Option Partial) (b : Char) : List Char × Option Partial :=
  let (chars, next) := feed state.2 b.toNat
  (chars.reverse ++ state.1, next)

def decode (bytes : Bytes) : List Char :=
  let (chars, open_) := bytes.foldl decodeStep ([], none)
  (if open_.isSome then replacement :: chars else chars).reverse

/-- The text in UTF-8. Every longest start of a character that breaks off, and every other byte
out of place, becomes one replacement character. -/
def toText (bytes : Bytes) : String := .ofList (decode bytes)

end Bytes

end LintRepair
