import LintRepair.Shell.Utility.Files

/-!
Conditions on texts, numbers and files.
-/

namespace LintRepair.Shell.Test

/-- A whole number with blanks around it. -/
def number? (text : Bytes) : Option Int :=
  let isGap (c : Char) : Bool := c == ' ' || ('\t' ≤ c && c ≤ '\r')
  let text := ((text.dropWhile isGap).reverse.dropWhile isGap).reverse
  match text with
  | '-' :: digits => (natOfDigits? 10 digits).map fun n => - (n : Int)
  | '+' :: digits => (natOfDigits? 10 digits).map fun n => (n : Int)
  | digits => (natOfDigits? 10 digits).map fun n => (n : Int)

def unaryMarks : List String :=
  ["-e", "-f", "-d", "-r", "-w", "-x", "-s", "-z", "-n", "-L", "-h", "-t", "-p", "-S", "-b", "-c",
   "-u", "-g", "-k", "-O", "-G"]

def binaryMarks : List String :=
  ["=", "!=", "<", ">", "-eq", "-ne", "-lt", "-le", "-gt", "-ge", "-nt", "-ot", "-ef"]

def isOneOf (marks : List String) (arg : Bytes) : Bool := marks.any (·.toList == arg)

def unary (j : Job) (mark operand : Bytes) : Bool :=
  let path := Work.toPath operand
  let found := match j.tree.locate j.directory path with
    | .ok place => j.tree.at? place
    | .error _ => none
  match mark with
  | ['-', 'z'] => operand.isEmpty
  | ['-', 'n'] => ! operand.isEmpty
  | ['-', 'f'] => match found with
    | some (.file _) => true
    | _ => false
  | ['-', 'd'] => match found with
    | some (.dir _) => true
    | _ => false
  | ['-', 's'] => match found with
    | some (.file content) => content.size > 0
    | some (.dir _) => true
    | _ => false
  | ['-', 'x'] => match found with
    | some (.dir _) => true
    | _ => false
  | ['-', 'L'] | ['-', 'h'] => match entryAt j.tree j.directory operand with
    | .ok (_, .link _) => true
    | _ => false
  | ['-', 'e'] | ['-', 'r'] | ['-', 'w'] | ['-', 'O'] | ['-', 'G'] =>
    found.isSome || operand == bytes "/dev/null"
  | _ => false

def binary (mark a b : Bytes) : Except String Bool :=
  let compare (f : Int → Int → Bool) : Except String Bool :=
    match number? a, number? b with
    | some x, some y => .ok (f x y)
    | none, _ => .error s!"Illegal number: {a.toText}"
    | _, none => .error s!"Illegal number: {b.toText}"
  match String.ofList mark with
  | "=" => .ok (a == b)
  | "!=" => .ok (a != b)
  | "<" => .ok (decide (a < b))
  | ">" => .ok (decide (b < a))
  | "-eq" => compare (· == ·)
  | "-ne" => compare (· != ·)
  | "-lt" => compare fun x y => decide (x < y)
  | "-le" => compare fun x y => decide (x ≤ y)
  | "-gt" => compare fun x y => decide (x > y)
  | "-ge" => compare fun x y => decide (x ≥ y)
  | "-ef" => .ok (a == b)
  | _ => .ok false

mutual

/-- Conditions joined by `-o`; answers with what is left, too. -/
def either (fuel : Nat) (j : Job) (args : List Bytes) : Except String (Bool × List Bytes) :=
  match fuel with
  | 0 => .error "argument expected"
  | fuel + 1 => do
    let (first, rest) ← both fuel j args
    match rest with
    | ['-', 'o'] :: rest =>
      let (second, rest) ← either fuel j rest
      return (first || second, rest)
    | rest => return (first, rest)

/-- Conditions joined by `-a`. -/
def both (fuel : Nat) (j : Job) (args : List Bytes) : Except String (Bool × List Bytes) :=
  match fuel with
  | 0 => .error "argument expected"
  | fuel + 1 => do
    let (first, rest) ← condition fuel j args
    match rest with
    | ['-', 'a'] :: rest =>
      let (second, rest) ← both fuel j rest
      return (first && second, rest)
    | rest => return (first, rest)

def condition (fuel : Nat) (j : Job) (args : List Bytes) : Except String (Bool × List Bytes) :=
  match fuel with
  | 0 => .error "argument expected"
  | fuel + 1 =>
    match args with
    | a :: mark :: b :: rest =>
      if isOneOf binaryMarks mark then (binary mark a b).map fun v => (v, rest)
      else single fuel j a (mark :: b :: rest)
    | [a, mark] =>
      if isOneOf binaryMarks mark && ! isOneOf unaryMarks a && a != ['!'] then
        .error s!"{mark.toText}: argument expected"
      else single fuel j a [mark]
    | a :: rest => single fuel j a rest
    | [] => .error "argument expected"

def single (fuel : Nat) (j : Job) (first : Bytes) (rest : List Bytes) :
    Except String (Bool × List Bytes) :=
  match fuel with
  | 0 => .error "argument expected"
  | fuel + 1 =>
    match first, rest with
    | ['!'], next :: more => (condition fuel j (next :: more)).map fun (v, rest) => (! v, rest)
    | ['('], next :: more => do
      let (v, rest) ← either fuel j (next :: more)
      match rest with
      | [')'] :: rest => return (v, rest)
      | _ => .error "closing paren expected"
    | mark, operand :: more =>
      if isOneOf unaryMarks mark then .ok (unary j mark operand, more)
      else .ok (! mark.isEmpty, operand :: more)
    | mark, [] => .ok (! mark.isEmpty, [])

end

/-- Evaluates a whole condition. Nothing at all is false. -/
def evaluate (j : Job) (args : List Bytes) : Except String Bool :=
  if args.isEmpty then .ok false
  else
    match either (4 * args.length + 8) j args with
    | .error e => .error e
    | .ok (v, []) => .ok v
    | .ok (_, left) =>
      let last := (args[args.length - left.length - 1]?.getD []).toText
      .error s!"{last}: unexpected operator"

/-- The condition as a utility: `label` begins the complaints. -/
def utility (label : Bytes) (name : String) : Utility := fun args => do
  let args? := if name == "[" then
      match args.getLast? with
      | some [']'] => some args.dropLast
      | _ => none
    else some args
  let complain (message : String) : Work Unit := do
    Work.complain (label ++ bytes s!"{name}: {message}\n")
    Work.exit 2
  match args? with
  | none => complain "missing ]"
  | some args =>
    match evaluate (← get) args with
    | .ok true => Work.exit 0
    | .ok false => Work.exit 1
    | .error e => complain e

end LintRepair.Shell.Test
