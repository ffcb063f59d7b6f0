import LintRepair.Shell.Utility.Basic

/-!
Utilities that print what they are told.
-/

namespace LintRepair.Shell

/-- Octal digits, three at most. -/
def octal (text : Bytes) : Nat × Bytes :=
  let digits := (text.take 3).takeWhile fun c => (digitIn? 8 c).isSome
  ((natOfDigits? 8 digits).getD 0, text.drop digits.length)

/-- The character after a backslash, and what follows. A backslash before anything else stands
for itself. -/
def escape : Bytes → Char × Bytes
  | 'a' :: rest => ('\x07', rest)
  | 'b' :: rest => ('\x08', rest)
  | 'f' :: rest => ('\x0c', rest)
  | 'n' :: rest => ('\n', rest)
  | 'r' :: rest => ('\r', rest)
  | 't' :: rest => ('\t', rest)
  | 'v' :: rest => ('\x0b', rest)
  | '\\' :: rest => ('\\', rest)
  | c :: rest =>
    if (digitIn? 8 c).isSome then
      let (n, rest) := octal (c :: rest)
      (.ofNat (n % 256), rest)
    else ('\\', c :: rest)
  | [] => ('\\', [])

/-- Puts characters in place of backslash sequences. `\c` ends all output. -/
def unescape : Nat → Bytes → Bytes × Bool
  | 0, _ => ([], false)
  | _ + 1, [] => ([], false)
  | fuel + 1, '\\' :: rest =>
    match rest with
    | 'c' :: _ => ([], true)
    | '0' :: d :: more =>
      let (c, rest) := if (digitIn? 8 d).isSome then escape (d :: more) else escape rest
      let (text, stopped) := unescape fuel rest
      (c :: text, stopped)
    | rest =>
      let (c, rest) := escape rest
      let (text, stopped) := unescape fuel rest
      (c :: text, stopped)
  | fuel + 1, c :: rest =>
    let (text, stopped) := unescape fuel rest
    (c :: text, stopped)

/-- Words with blanks between them and `ending` behind them. -/
def echoText (ending : Bytes) : List Bytes → Bytes
  | [] => ending
  | word :: rest =>
    let (text, stopped) := unescape (word.length + 1) word
    if stopped then text
    else if rest.isEmpty then text ++ ending
    else text ++ ' ' :: echoText ending rest

/-- Prints words, and a line feed unless the first one is `-n`. -/
def echo : Utility := fun args =>
  match args with
  | ['-', 'n'] :: words => Work.print (echoText [] words)
  | words => Work.print (echoText ['\n'] words)

/-! Formatted printing. -/

/-- A conversion: its flags, width, precision and letter. -/
structure Conversion where
  flags : Bytes
  width : Option Nat
  precision : Option Nat
  letter : Char

/-- What is left of the arguments, and what has been printed. -/
structure Format where
  args : List Bytes
  text : Bytes
  complaints : List Bytes
  stopped : Bool

namespace Format

def nextArg (f : Format) : Bytes × Format :=
  match f.args with
  | [] => ([], f)
  | a :: rest => (a, { f with args := rest })

/-- A number as an argument: with a sign, in octal or hexadecimal too, or the code of a character
after a quote. The flag tells whether all of the text was read. -/
def number (text : Bytes) : Int × Bool :=
  match text with
  | [] => (0, true)
  | ['\'', c] | ['"', c] => (c.toNat, true)
  | _ =>
    let text := text.dropWhile fun c => c == ' ' || c == '\t'
    let (negative, digits) := match text with
      | '-' :: digits => (true, digits)
      | '+' :: digits => (false, digits)
      | digits => (false, digits)
    let (base, digits) := match digits with
      | '0' :: 'x' :: more => (16, more)
      | '0' :: 'X' :: more => (16, more)
      | '0' :: more => (8, '0' :: more)
      | digits => (10, digits)
    let good := digits.takeWhile fun c => (digitIn? base c).isSome
    let n : Int := (natOfDigits? base good).getD 0
    (if negative then - n else n, good.length == digits.length && ! good.isEmpty)

def pad (c : Conversion) (text : Bytes) : Bytes :=
  let width := c.width.getD 0
  let fill := width - text.length
  if c.flags.contains '-' then text ++ List.replicate fill ' ' else List.replicate fill ' ' ++ text

/-- Digits with the sign, precision and zeros that a conversion asks for. -/
def padNumber (c : Conversion) (sign digits : Bytes) : Bytes :=
  let digits := List.replicate (c.precision.getD 1 - digits.length) '0' ++ digits
  let width := c.width.getD 0
  if c.flags.contains '0' && ! c.flags.contains '-' && c.precision.isNone then
    sign ++ List.replicate (width - sign.length - digits.length) '0' ++ digits
  else pad c (sign ++ digits)

def integer (f : Format) (c : Conversion) : Format :=
  let (arg, f) := f.nextArg
  let (n, whole) := number arg
  let base := match c.letter with
    | 'o' => 8
    | 'x' => 16
    | 'X' => 16
    | _ => 10
  let signed := c.letter == 'd' || c.letter == 'i'
  let magnitude := if signed then n.natAbs else (n % (wordMax + 1)).toNat
  let digits := Nat.toDigits base magnitude
  let digits := if c.letter == 'X' then digits.map Char.toUpper else digits
  let sign := if signed && n < 0 then ['-']
    else if signed && c.flags.contains '+' then ['+']
    else if signed && c.flags.contains ' ' then [' ']
    else if c.flags.contains '#' && magnitude != 0 && base == 16 then ['0', c.letter]
    else if c.flags.contains '#' && base == 8 then ['0']
    else []
  let complaints := if whole then f.complaints
    else f.complaints ++ [arg ++ bytes (if (number arg).1 == 0 && ! arg.any Char.isDigit then
      ": expected numeric value" else ": not completely converted")]
  { f with text := f.text ++ padNumber c sign digits, complaints }

/-- Prints one argument as a conversion says. -/
def convert (f : Format) (c : Conversion) : Format :=
  match c.letter with
  | '%' => { f with text := f.text ++ ['%'] }
  | 's' =>
    let (arg, f) := f.nextArg
    { f with text := f.text ++ pad c (match c.precision with
      | some n => arg.take n
      | none => arg) }
  | 'c' =>
    let (arg, f) := f.nextArg
    { f with text := f.text ++ pad c (arg.take 1) }
  | 'b' =>
    let (arg, f) := f.nextArg
    let (text, stopped) := unescape (arg.length + 1) arg
    { f with text := f.text ++ pad c text, stopped }
  | _ => f.integer c

/-- A number in a conversion, or the next argument in place of a star. -/
def size (f : Format) (spec : Bytes) : Option Nat × Format × Bytes :=
  match spec with
  | '*' :: rest =>
    let (arg, f) := f.nextArg
    (some (number arg).1.toNat, f, rest)
  | spec =>
    let digits := spec.takeWhile Char.isDigit
    (natOfDigits? 10 digits, f, spec.drop digits.length)

/-- Goes through the format once. -/
def pass : Nat → Bytes → Format → Format
  | 0, _, f => f
  | _ + 1, [], f => f
  | fuel + 1, '\\' :: rest, f =>
    let (c, rest) := escape rest
    pass fuel rest { f with text := f.text ++ [c] }
  | fuel + 1, '%' :: rest, f =>
    let flags := rest.takeWhile ("-+ #0".toList.contains ·)
    let (width, f, rest) := f.size (rest.drop flags.length)
    let (precision, f, rest) := match rest with
      | '.' :: rest =>
        let (n, f, rest) := f.size rest
        (some (n.getD 0), f, rest)
      | rest => (none, f, rest)
    match rest with
    | letter :: rest =>
      if "%scbdiouxX".toList.contains letter then
        let f := f.convert ⟨flags, width, precision, letter⟩
        if f.stopped then f else pass fuel rest f
      else
        { f with complaints := f.complaints ++ [bytes "%" ++ [letter] ++ bytes ": invalid directive"],
                 stopped := true }
    | [] => { f with complaints := f.complaints ++ [bytes "missing format character"], stopped := true }
  | fuel + 1, c :: rest, f => pass fuel rest { f with text := f.text ++ [c] }

/-- Goes through the format as long as there are arguments that it takes. -/
def passes (format : Bytes) : Nat → Format → Format
  | 0, f => f
  | fuel + 1, f =>
    let before := f.args.length
    let f := pass (format.length + 1) format f
    if f.stopped || f.args.isEmpty || f.args.length == before then f else passes format fuel f

end Format

/-- `label` begins the complaints. -/
def printf (label : Bytes) : Utility := fun args =>
  match (match args with
    | ['-', '-'] :: rest => rest
    | all => all) with
  | [] => do
    Work.complain (label ++ bytes "printf: usage: printf format [arg ...]\n")
    Work.exit 2
  | format :: args => do
    let f := Format.passes format (args.length + 1) ⟨args, [], [], false⟩
    Work.print f.text
    for c in f.complaints do
      Work.complain (label ++ bytes "printf: " ++ c ++ ['\n'])
    if ! f.complaints.isEmpty then Work.exit (if f.stopped then 2 else 1)

/-- Prints whole numbers in order: up to one, from one to another, or in steps. -/
def seq : Utility := fun args =>
  let int? (text : Bytes) : Option Int :=
    match text with
    | '-' :: digits => (natOfDigits? 10 digits).map fun n => - (n : Int)
    | digits => (natOfDigits? 10 digits).map fun n => (n : Int)
  let range (first step last : Int) : Work Unit :=
    let count := if step == 0 then 0
      else if (step > 0 && last < first) || (step < 0 && first < last) then 0
      else ((last - first) / step).toNat + 1
    Work.print (((List.range count).map fun (i : Nat) =>
      (toString (first + step * (i : Int))).toList ++ ['\n']).flatten)
  match args.map int? with
  | [some last] => range 1 1 last
  | [some first, some last] => range first 1 last
  | [some first, some step, some last] => range first step last
  | [] => Work.usage 1 "seq" (bytes "missing operand")
  | _ =>
    match args.find? fun a => (int? a).isNone with
    | some bad => Work.usage 1 "seq" (bytes "invalid floating point argument: '" ++ bad ++ ['\''])
    | none => Work.usage 1 "seq" (bytes "extra operand '" ++ (args[3]?.getD []) ++ ['\''])

/-- The name that a path ends in, without a suffix. -/
def basename : Utility := fun args =>
  let name (path : Bytes) : Bytes :=
    let path := (path.reverse.dropWhile (· == '/')).reverse
    (path.reverse.takeWhile (· != '/')).reverse
  match args with
  | [] => Work.usage 1 "basename" (bytes "missing operand")
  | path :: rest =>
    let base := if ! path.isEmpty && path.all (· == '/') then ['/'] else name path
    let suffix := rest.head?.getD []
    let base := if suffix.length < base.length && suffix.isSuffixOf base then
        base.take (base.length - suffix.length)
      else base
    Work.print (base ++ ['\n'])

/-- The path without the name it ends in. -/
def dirname : Utility := fun args =>
  match args with
  | [] => Work.usage 1 "dirname" (bytes "missing operand")
  | paths =>
    Work.print (paths.flatMap fun path =>
      let trimmed := (path.reverse.dropWhile (· == '/')).reverse
      let parent := ((trimmed.reverse.dropWhile (· != '/')).dropWhile (· == '/')).reverse
      let shown := if ! trimmed.contains '/' then if path.head? == some '/' then ['/'] else ['.']
        else if parent.isEmpty then ['/'] else parent
      shown ++ ['\n'])

end LintRepair.Shell
