/-!
JSON values and their indented text.
-/

namespace LintRepair.Json

/-- A number that is a natural number, a negative whole number, or neither, which keeps its
spelling. -/
inductive Number where
  | natural (n : Nat)
  | negative (n : Nat)
  | real (text : String)
  deriving DecidableEq, Repr

inductive Value where
  | null
  | bool (b : Bool)
  | number (n : Number)
  | string (s : String)
  | array (elements : List Value)
  | object (members : List (String × Value))
  deriving Inhabited

namespace Value

def nat (n : Nat) : Value := .number (.natural n)

/-- The value of the last member with this name. -/
def field? (v : Value) (name : String) : Option Value :=
  match v with
  | .object members => members.reverse.lookup name
  | _ => none

end Value

def Number.text : Number → String
  | .natural n => toString n
  | .negative n => "-" ++ toString n
  | .real text => text

def hexDigit (n : Nat) : Char := if n < 10 then Char.ofNat (48 + n) else Char.ofNat (87 + n)

/-- A character inside quotes. Quotes, backslashes and control characters are escaped. -/
def escapeChar (c : Char) : List Char :=
  if c = '"' then ['\\', '"']
  else if c = '\\' then ['\\', '\\']
  else if c = '\n' then ['\\', 'n']
  else if c = '\r' then ['\\', 'r']
  else if c = '\t' then ['\\', 't']
  else if c = '\x08' then ['\\', 'b']
  else if c = '\x0c' then ['\\', 'f']
  else if c.toNat < 32 then ['\\', 'u', '0', '0', hexDigit (c.toNat / 16), hexDigit (c.toNat % 16)]
  else [c]

def quote (s : String) : List Char := '"' :: s.toList.flatMap escapeChar ++ ['"']

/-- A new line at a depth of nesting. -/
def lineBreak (depth : Nat) : List Char := '\n' :: List.replicate (2 * depth) ' '

mutual

/-- The text of a value, every element and member on a line of its own. -/
def render (depth : Nat) : Value → List Char
  | .null => "null".toList
  | .bool true => "true".toList
  | .bool false => "false".toList
  | .number n => n.text.toList
  | .string s => quote s
  | .array [] => ['[', ']']
  | .array (v :: vs) =>
    '[' :: lineBreak (depth + 1) ++ render (depth + 1) v ++ renderElements (depth + 1) vs ++
      lineBreak depth ++ [']']
  | .object [] => ['\x7b', '\x7d']
  | .object ((name, v) :: members) =>
    '\x7b' :: lineBreak (depth + 1) ++ quote name ++ [':', ' '] ++ render (depth + 1) v ++
      renderMembers (depth + 1) members ++ lineBreak depth ++ ['\x7d']

def renderElements (depth : Nat) : List Value → List Char
  | [] => []
  | v :: vs => ',' :: lineBreak depth ++ render depth v ++ renderElements depth vs

def renderMembers (depth : Nat) : List (String × Value) → List Char
  | [] => []
  | (name, v) :: members =>
    ',' :: lineBreak depth ++ quote name ++ [':', ' '] ++ render depth v ++
      renderMembers depth members

end

def Value.text (v : Value) : String := .ofList (render 0 v)

end LintRepair.Json
