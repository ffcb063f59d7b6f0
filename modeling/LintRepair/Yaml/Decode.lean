import LintRepair.Yaml.Node

/-!
Reading plain values from a YAML document. Each function takes the document itself first, in
which aliases are looked up.
-/

namespace LintRepair.Yaml.Node

/-- Any scalar is a text, whatever it looks like. -/
def text? (root n : Node) : Option String :=
  match root.resolve? n with
  | some (.scalar _ _ text) => some text
  | _ => none

/-- Nothing at all counts as a list without items. -/
def items? (root n : Node) : Option (List Node) :=
  match root.resolve? n with
  | some (.sequence items) => some items
  | some (.scalar _ .plain "") => some []
  | _ => none

/-- The entries of a mapping whose keys are texts. Nothing at all counts as one without
entries. -/
def fields? (root n : Node) : Option (List (String × Node)) :=
  match root.resolve? n with
  | some (.mapping entries) => entries.mapM fun (k, v) => (root.text? k).map fun k => (k, v)
  | some (.scalar _ .plain "") => some []
  | _ => none

def isNull (text : String) : Bool := ["", "~", "null", "Null", "NULL"].contains text

/-- A whole number in decimal, or in another base after its mark. Decimal digits after a leading
zero are no number. -/
def wordOfText? (text : String) : Option Nat :=
  let digits := match text.toList with
    | '+' :: rest => rest
    | all => all
  let marked := match digits with
    | '0' :: 'x' :: rest => natOfDigits? 16 rest
    | '0' :: 'o' :: rest => natOfDigits? 8 rest
    | '0' :: 'b' :: rest => natOfDigits? 2 rest
    | ['0'] => some 0
    | '0' :: _ => none
    | all => natOfDigits? 10 all
  marked.filter (· ≤ wordMax)

def wholeNumberTag : String := "tag:yaml.org,2002:int"

/-- A number that is not quoted. A literal one needs the tag of whole numbers. -/
def word? (root n : Node) : Option Nat :=
  match root.resolve? n with
  | some (.scalar _ .plain text) => wordOfText? text
  | some (.scalar tag .literal text) =>
    if tag == some wholeNumberTag then wordOfText? text else none
  | _ => none

/-- A choice by name: a scalar without a tag, or the tag of nothing. -/
def choice? (root n : Node) : Option String :=
  match root.resolve? n with
  | some (.scalar tag style text) =>
    match tag.map String.toList with
    | some ('!' :: name) =>
      if style == .plain && isNull text then some (.ofList (if name.isEmpty then ['!'] else name))
      else none
    | _ => some text
  | _ => none

end LintRepair.Yaml.Node
