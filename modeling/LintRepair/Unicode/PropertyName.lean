import LintRepair.Unicode.Age
import LintRepair.Unicode.Break
import LintRepair.Unicode.ScriptExtension

/-!
The names by which patterns ask for sets of characters.
-/

namespace LintRepair.Property

/-- General categories and groups of them. -/
def categories : List (List String × List Category) :=
  [(["l", "letter"], letters),
   (["lc", "casedletter"], [.upper, .lower, .title]),
   (["lu", "uppercaseletter"], [.upper]),
   (["ll", "lowercaseletter"], [.lower]),
   (["lt", "titlecaseletter"], [.title]),
   (["lm", "modifierletter"], [.modifierLetter]),
   (["lo", "otherletter"], [.otherLetter]),
   (["m", "mark", "combiningmark"], [.nonspacing, .spacing, .enclosing]),
   (["mn", "nonspacingmark"], [.nonspacing]),
   (["mc", "spacingmark"], [.spacing]),
   (["me", "enclosingmark"], [.enclosing]),
   (["n", "number"], [.decimal, .letterNumber, .otherNumber]),
   (["nd", "decimalnumber", "digit"], [.decimal]),
   (["nl", "letternumber"], [.letterNumber]),
   (["no", "othernumber"], [.otherNumber]),
   (["p", "punctuation", "punct"],
    [.connector, .dash, .opening, .closing, .initialQuote, .finalQuote, .otherPunctuation]),
   (["pc", "connectorpunctuation"], [.connector]),
   (["pd", "dashpunctuation"], [.dash]),
   (["ps", "openpunctuation"], [.opening]),
   (["pe", "closepunctuation"], [.closing]),
   (["pi", "initialpunctuation"], [.initialQuote]),
   (["pf", "finalpunctuation"], [.finalQuote]),
   (["po", "otherpunctuation"], [.otherPunctuation]),
   (["s", "symbol"], [.math, .currency, .modifierSymbol, .otherSymbol]),
   (["sm", "mathsymbol"], [.math]),
   (["sc", "currencysymbol"], [.currency]),
   (["sk", "modifiersymbol"], [.modifierSymbol]),
   (["so", "othersymbol"], [.otherSymbol]),
   (["z", "separator"], [.space, .lineSeparator, .paragraphSeparator]),
   (["zs", "spaceseparator"], [.space]),
   (["zl", "lineseparator"], [.lineSeparator]),
   (["zp", "paragraphseparator"], [.paragraphSeparator]),
   (["c", "other"], [.control, .format, .surrogate, .privateUse, .unassigned]),
   (["cc", "control", "cntrl"], [.control]),
   (["cf", "format"], [.format]),
   (["co", "privateuse"], [.privateUse]),
   (["cn", "unassigned"], [.unassigned])]

def ofCategory? (name : String) : Option CharSet :=
  if name == "any" then some .all
  else if name == "ascii" then some (.range (Char.ofNat 0) (Char.ofNat 127))
  else if name == "assigned" then some (.complement (.categories [.unassigned]))
  else (categories.find? (·.1.contains name)).map fun entry => .categories entry.2

/-- A name in small letters, without spaces, hyphens, underscores and a leading `is`. -/
def plainName (name : List Char) : String :=
  let small := (name.filter fun c => c.toNat < 128 && c != ' ' && c != '_' && c != '-').map Char.toLower
  let startsWithIs := match name with
    | i :: s :: _ => i.toLower == 'i' && s.toLower == 's'
    | _ => false
  if startsWithIs && small != "isc".toList then .ofList (small.drop 2) else .ofList small

/-- The set that a single name stands for: a property, a general category or a script. Three names
of properties are hidden by those of categories. -/
def ofName? (name : List Char) : Option CharSet :=
  let name := plainName name
  let other := (ofCategory? name).or ((Script.named? name).map .codes)
  if name == "cf" || name == "sc" || name == "lc" then other else (named? name).or other

/-- The set of the characters that have this value of a property. -/
def ofValue? (property value : List Char) : Option CharSet :=
  let value := plainName value
  let entry (table : List (List String × CharSet)) :=
    (table.find? (·.1.contains value)).map (·.2)
  match plainName property with
  | "gc" | "generalcategory" => ofCategory? value
  | "sc" | "script" => (Script.named? value).map .codes
  | "scx" | "scriptextensions" => Script.extended? value
  | "age" => Age.upTo? value
  | "gcb" | "graphemeclusterbreak" => entry Break.Grapheme.table
  | "wb" | "wordbreak" => entry Break.Word.table
  | "sb" | "sentencebreak" => entry Break.Sentence.table
  | _ => none

end LintRepair.Property
