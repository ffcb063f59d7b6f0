import LintRepair.Unicode.Category

/-!
The character classes that recognisers use. ASCII characters and white space
are decided without a table.
-/

namespace LintRepair

/-- Characters outside the word categories that still count as alphabetic: circled and squared
letters. -/
def enclosedLetters : CodeSet := .ofText "24B6-24E9 1F130-1F149 1F150-1F169 1F170-1F189"

/-- White space. -/
def isSpace (c : Char) : Bool :=
  let n := c.toNat
  (9 ≤ n && n ≤ 13) || n == 0x20 || n == 0x85 || n == 0xA0 || n == 0x1680 ||
    (0x2000 ≤ n && n ≤ 0x200A) || n == 0x2028 || n == 0x2029 || n == 0x202F || n == 0x205F ||
    n == 0x3000

/-- A character of an identifier: a letter, a mark, a decimal digit, a connector or a joiner. -/
def isWord (c : Char) : Bool :=
  if c.toNat < 128 then c.isAlphanum || c == '_'
  else if isSpace c then false
  else
    let category := Category.ofChar c
    category.isLetter || category.isMark || category == .letterNumber || category == .decimal ||
      category == .connector || c.toNat == 0x200C || c.toNat == 0x200D ||
      enclosedLetters.contains c.toNat

/-- A decimal digit of any script. -/
def isDecimal (c : Char) : Bool :=
  if c.toNat < 128 then c.isDigit else Category.ofChar c == .decimal

/-- Does a word start here? Where the next character is one of a word, this is whether there is a
word boundary before it. -/
def atWordStart (previous : Option Char) : Bool :=
  !previous.any isWord

def dropSpaces (s : List Char) : List Char := s.dropWhile isSpace

/-- The text without the white space at its ends. -/
def trim (s : List Char) : List Char :=
  ((dropSpaces s).reverse.dropWhile isSpace).reverse

end LintRepair
