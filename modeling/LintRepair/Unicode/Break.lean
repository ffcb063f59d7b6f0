import LintRepair.Unicode.Property
import LintRepair.Unicode.Script

/-!
What a character means for the ends of user-perceived characters, of words and
of sentences.
-/

namespace LintRepair.Break

open Property

def carriageReturn : CharSet := .single '\r'

def newline : CharSet := .single '\n'

/-- Joins the characters on both its sides into one. -/
def joiner : CharSet := ofCodes "200D"

def regionalIndicator : CharSet := listed "regionalindicator"

/-- Format characters that stand before a number or a letter. -/
def numberSigns : CharSet := ofCodes "600-605 6DD 890-891 8E2 110BD 110CD"

/-- Format characters that go on with what stands before them. -/
def continuingFormat : CharSet := ofCodes "200C-200D E0020-E007F"

def scripts (names : List String) : CharSet :=
  anyOf (names.map fun name => .codes ((Script.named? name).getD ⟨#[]⟩))

namespace Grapheme

def control : CharSet :=
  let separators := CharSet.categories [.lineSeparator, .paragraphSeparator, .control, .format]
  let reserved := CharSet.inter (.categories [.unassigned]) (listed "defaultignorablecodepoint")
  .diff (.union separators reserved)
    (anyOf [carriageReturn, newline, numberSigns, continuingFormat, ofCodes "70F"])

def extend : CharSet := .diff (.union graphemeExtend (listed "emojimodifier")) joiner

/-- Spacing marks that do not join what stands before them. -/
def separateMark : CharSet :=
  ofCodes "102B-102C 1038 1062-1064 1067-106D 1083 1087-108C 108F 109A-109C 1A61 1A63-1A64 AA7B AA7D
    11720-11721"

def spacingMark : CharSet :=
  .union (.diff (.categories [.spacing]) (.union graphemeExtend separateMark)) (ofCodes "E33 EB3")

def leading : CharSet := ofCodes "1100-115F A960-A97C"

def vowel : CharSet := ofCodes "1160-11A7 D7B0-D7C6 16D63 16D67-16D6A"

def trailing : CharSet := ofCodes "11A8-11FF D7CB-D7FB"

/-- Syllables of a leading consonant and a vowel: every 28th one. -/
def openSyllable : CharSet :=
  .codes ⟨((List.range 399).map fun k => (0xAC00 + 28 * k, 0xAC00 + 28 * k)).toArray⟩

def closedSyllable : CharSet := .diff (ofCodes "AC00-D7A3") openSyllable

def prepended : CharSet :=
  .union numberSigns
    (ofCodes "70F D4E 111C2-111C3 113D1 1193F 11941 11A3A 11A84-11A89 11D46 11F02")

def table : List (List String × CharSet) :=
  [(["cn", "control"], control),
   (["cr"], carriageReturn),
   (["ex", "extend"], extend),
   (["l"], leading),
   (["lf"], newline),
   (["lv"], openSyllable),
   (["lvt"], closedSyllable),
   (["pp", "prepend"], prepended),
   (["ri", "regionalindicator"], regionalIndicator),
   (["sm", "spacingmark"], spacingMark),
   (["t"], trailing),
   (["v"], vowel),
   (["zwj"], joiner)]

end Grapheme

namespace Word

def extend : CharSet :=
  .diff (anyOf [graphemeExtend, .categories [.spacing], listed "emojimodifier"]) joiner

def format : CharSet :=
  .diff (.categories [.format]) (anyOf [numberSigns, continuingFormat, ofCodes "70F 200B"])

def hebrewLetter : CharSet := .inter (scripts ["hebr"]) (.categories [.otherLetter])

def katakana : CharSet :=
  .union (scripts ["kana"]) (ofCodes "3031-3035 309B-309C 30A0 30FC FF70")

/-- Letters of scripts that put no spaces between words. -/
def unspaced : CharSet :=
  scripts ["thai", "laoo", "khmr", "mymr", "hira", "tale", "talu", "lana", "tavt", "ahom"]

def letterSigns : CharSet :=
  ofCodes "2C2-2C5 2D2-2D7 2DE-2DF 2E5-2EB 2ED 2EF-2FF 55A-55C 55E 58A 5F3 70F A708-A716 A720-A721
    A789-A78A AB5B"

def letter : CharSet :=
  .union letterSigns
    (.diff alphabetic (anyOf [listed "ideographic", extend, hebrewLetter, katakana, unspaced]))

def numeric : CharSet := anyOf [.categories [.decimal], numberSigns, ofCodes "66B 19DA"]

def table : List (List String × CharSet) :=
  [(["cr"], carriageReturn),
   (["dq", "doublequote"], .single '"'),
   (["ex", "extendnumlet"], ofCodes "5F 202F 203F-2040 2054 FE33-FE34 FE4D-FE4F FF3F"),
   (["extend"], extend),
   (["fo", "format"], format),
   (["hl", "hebrewletter"], hebrewLetter),
   (["ka", "katakana"], katakana),
   (["le", "aletter"], letter),
   (["lf"], newline),
   (["mb", "midnumlet"], midNumberLetter),
   (["ml", "midletter"], midLetter),
   (["mn", "midnum"], ofCodes "2C 3B 37E 589 60C-60D 66C 7F8 2044 FE50 FE54 FF0C FF1B"),
   (["nl", "newline"], ofCodes "B-C 85 2028-2029"),
   (["nu", "numeric"], numeric),
   (["ri", "regionalindicator"], regionalIndicator),
   (["sq", "singlequote"], .single '\''),
   (["wsegspace"], ofCodes "20 1680 2000-2006 2008-200A 205F 3000"),
   (["zwj"], joiner)]

end Word

namespace Sentence

def ambiguousEnd : CharSet := ofCodes "2E 2024 FE52 FF0E"

def close : CharSet :=
  .union (ofCodes "275B-2760 2E00-2E01 2E06-2E08 2E0B 1F676-1F678")
    (.diff (.union (listed "quotationmark")
      (.categories [.opening, .closing, .initialQuote, .finalQuote])) (ofCodes "FF02 FF07"))

def extend : CharSet := anyOf [graphemeExtend, .categories [.spacing], joiner]

def format : CharSet :=
  .diff (.categories [.format]) (.union numberSigns continuingFormat)

def lower : CharSet :=
  .diff lowercase (.union graphemeExtend (ofCodes "10D0-10FA 10FD-10FF"))

def upper : CharSet :=
  .diff (.union uppercase (.categories [.title])) (ofCodes "1C90-1CBA 1CBD-1CBF")

def otherLetter : CharSet :=
  .union (.diff alphabetic (anyOf [lower, upper, extend])) (ofCodes "5F3")

def separator : CharSet := ofCodes "85 2028-2029"

def space : CharSet :=
  .diff (listed "whitespace") (anyOf [carriageReturn, newline, separator])

def table : List (List String × CharSet) :=
  [(["at", "aterm"], ambiguousEnd),
   (["cl", "close"], close),
   (["cr"], carriageReturn),
   (["ex", "extend"], extend),
   (["fo", "format"], format),
   (["le", "oletter"], otherLetter),
   (["lf"], newline),
   (["lo", "lower"], lower),
   (["nu", "numeric"], .union Word.numeric (ofCodes "66C")),
   (["sc", "scontinue"],
    ofCodes "2C-2D 3A-3B 37E 55D 60C-60D 7F8 1802 1808 2013-2014 3001 FE10-FE11 FE13-FE14 FE31-FE32
      FE50-FE51 FE54-FE55 FE58 FE63 FF0C-FF0D FF1A-FF1B FF64"),
   (["se", "sep"], separator),
   (["sp"], space),
   (["st", "sterm"], .diff (listed "sentenceterminal") ambiguousEnd),
   (["up", "upper"], upper)]

end Sentence

end LintRepair.Break
