import LintRepair.Text.Bytes
import LintRepair.Text.Digit

/-!
Integer arithmetic of the shell, on 64-bit numbers.
-/

namespace LintRepair.Shell.Arithmetic

inductive Token where
  | number (n : Int)
  | name (text : Bytes)
  | mark (text : String)
  deriving DecidableEq

/-- Longer marks come first. -/
def marks : List String :=
  ["<<=", ">>=", "==", "!=", "<=", ">=", "&&", "||", "<<", ">>", "+=", "-=", "*=", "/=", "%=",
   "&=", "|=", "^=", "+", "-", "*", "/", "%", "<", ">", "=", "!", "~", "&", "|", "^", "?", ":",
   "(", ")"]

/-- The value of a number: decimal, octal after a zero, or hexadecimal after `0x`. -/
def number? : Bytes → Option Nat
  | '0' :: 'x' :: digits | '0' :: 'X' :: digits => natOfDigits? 16 digits
  | ['0'] => some 0
  | '0' :: digits => natOfDigits? 8 digits
  | digits => natOfDigits? 10 digits

/-- Wraps around at 64 bits. -/
def wrap (n : Int) : Int := Int.bmod n (wordMax + 1)

def tokens? : Nat → Bytes → Option (List Token)
  | 0, _ => none
  | _ + 1, [] => some []
  | fuel + 1, c :: rest =>
    if c == ' ' || c == '\t' || c == '\n' then tokens? fuel rest
    else if c.isDigit then
      let digits := c :: rest.takeWhile Char.isAlphanum
      do return .number (wrap (← number? digits)) :: (← tokens? fuel (rest.drop (digits.length - 1)))
    else if c.isAlpha || c == '_' then
      let name := c :: rest.takeWhile fun c => c.isAlphanum || c == '_'
      do return .name name :: (← tokens? fuel (rest.drop (name.length - 1)))
    else
      match marks.find? fun m => m.toList.isPrefixOf (c :: rest) with
      | some m => (tokens? fuel (rest.drop (m.length - 1))).map (.mark m :: ·)
      | none => (tokens? fuel rest).map (.mark (.ofList [c]) :: ·)

inductive Error where
  | malformed
  /-- Something follows the expression. -/
  | trailing
  | divisionByZero
  /-- The variable holds something that is no number. -/
  | badNumber (text : Bytes)

/-- What is left to read, and the variables. -/
structure State where
  tokens : List Token
  get : Bytes → Bytes
  assigned : List (Bytes × Int)

abbrev Eval := StateT State (Except Error)

def peek : Eval (Option Token) := return (← get).tokens.head?

def skip : Eval Unit := modify fun s => { s with tokens := s.tokens.drop 1 }

def lookup (name : Bytes) : Eval Int := do
  let s ← get
  match s.assigned.lookup name with
  | some n => return n
  | none =>
    let text := s.get name
    let (negative, digits) := match text with
      | '-' :: digits => (true, digits)
      | '+' :: digits => (false, digits)
      | digits => (false, digits)
    if text.isEmpty then return 0
    else
      match number? digits with
      | some n => return wrap (if negative then - n else n)
      | none => throw (.badNumber text)

def assign (name : Bytes) (n : Int) : Eval Int := do
  modify fun s => { s with assigned := (name, n) :: s.assigned.filter (·.1 != name) }
  return n

def ofBool (b : Bool) : Int := if b then 1 else 0

/-- The operators between two numbers, by how tightly they bind. -/
def level? : String → Option Nat
  | "||" => some 1
  | "&&" => some 2
  | "|" => some 3
  | "^" => some 4
  | "&" => some 5
  | "==" | "!=" => some 6
  | "<" | "<=" | ">" | ">=" => some 7
  | "<<" | ">>" => some 8
  | "+" | "-" => some 9
  | "*" | "/" | "%" => some 10
  | _ => none

def bits (n : Int) : Nat := (n % (wordMax + 1)).toNat

def apply (mark : String) (a b : Int) : Except Error Int :=
  match mark with
  | "||" => .ok (ofBool (a != 0 || b != 0))
  | "&&" => .ok (ofBool (a != 0 && b != 0))
  | "|" => .ok (wrap (bits a ||| bits b))
  | "^" => .ok (wrap (bits a ^^^ bits b))
  | "&" => .ok (wrap (bits a &&& bits b))
  | "==" => .ok (ofBool (a == b))
  | "!=" => .ok (ofBool (a != b))
  | "<" => .ok (ofBool (a < b))
  | "<=" => .ok (ofBool (a ≤ b))
  | ">" => .ok (ofBool (a > b))
  | ">=" => .ok (ofBool (a ≥ b))
  | "<<" => .ok (wrap (a * (1 <<< (b % 64).toNat : Nat)))
  | ">>" => .ok (Int.fdiv a (1 <<< (b % 64).toNat : Nat))
  | "+" => .ok (wrap (a + b))
  | "-" => .ok (wrap (a - b))
  | "*" => .ok (wrap (a * b))
  | "/" => if b == 0 then .error .divisionByZero else .ok (wrap (Int.tdiv a b))
  | "%" => if b == 0 then .error .divisionByZero else .ok (wrap (Int.tmod a b))
  | _ => .error .malformed

mutual

/-- An assignment or a conditional. -/
def expression (fuel : Nat) : Eval Int :=
  match fuel with
  | 0 => throw .malformed
  | fuel + 1 => do
    match (← get).tokens with
    | .name name :: .mark mark :: rest =>
      if mark == "=" then
        modify fun s => { s with tokens := rest }
        assign name (← expression fuel)
      else if mark.length > 1 && mark.toList.getLast? == some '=' &&
          ! ["==", "!=", "<=", ">="].contains mark then
        modify fun s => { s with tokens := rest }
        let old ← lookup name
        let new ← expression fuel
        assign name (← apply (.ofList mark.toList.dropLast) old new)
      else conditional fuel
    | _ => conditional fuel

def conditional (fuel : Nat) : Eval Int :=
  match fuel with
  | 0 => throw .malformed
  | fuel + 1 => do
    let condition ← binary fuel 1
    if (← peek) == some (.mark "?") then
      skip
      let yes ← expression fuel
      if (← peek) != some (.mark ":") then throw .malformed
      skip
      let no ← conditional fuel
      return if condition != 0 then yes else no
    else return condition

/-- Operators that bind at least as tightly as `level`. -/
def binary (fuel : Nat) (level : Nat) : Eval Int :=
  match fuel with
  | 0 => throw .malformed
  | fuel + 1 => do
    let first ← unary fuel
    binaryRest fuel level first

def binaryRest (fuel : Nat) (level : Nat) (first : Int) : Eval Int :=
  match fuel with
  | 0 => throw .malformed
  | fuel + 1 => do
    match (← peek) with
    | some (.mark mark) =>
      match level? mark with
      | some l =>
        if l < level then return first
        else
          skip
          let second ← binary fuel (l + 1)
          binaryRest fuel level (← apply mark first second)
      | none => return first
    | _ => return first

def unary (fuel : Nat) : Eval Int :=
  match fuel with
  | 0 => throw .malformed
  | fuel + 1 => do
    match (← peek) with
    | some (.number n) =>
      skip
      return n
    | some (.name name) =>
      skip
      lookup name
    | some (.mark "(") =>
      skip
      let n ← expression fuel
      if (← peek) != some (.mark ")") then throw .malformed
      skip
      return n
    | some (.mark "-") =>
      skip
      return wrap (- (← unary fuel))
    | some (.mark "+") =>
      skip
      unary fuel
    | some (.mark "!") =>
      skip
      return ofBool ((← unary fuel) == 0)
    | some (.mark "~") =>
      skip
      return - (← unary fuel) - 1
    | _ => throw .malformed

end

/-- The value of an expression and the variables it sets. An empty one is zero. -/
def evaluate (get : Bytes → Bytes) (text : Bytes) : Except Error (Int × List (Bytes × Int)) :=
  match tokens? (text.length + 1) text with
  | none => .error .malformed
  | some [] => .ok (0, [])
  | some tokens =>
    match (expression (8 * tokens.length + 16)).run ⟨tokens, get, []⟩ with
    | .error e => .error e
    | .ok (n, s) => if s.tokens.isEmpty then .ok (n, s.assigned) else .error .trailing

end LintRepair.Shell.Arithmetic
