import LintRepair.Shell.Glob
import LintRepair.Shell.Utility.Print

/-!
Utilities that read text and print it changed.
-/

namespace LintRepair.Shell

/-- Runs `use` on each operand, or on the standard input if there are none. Files that cannot be
read are complained about. -/
def forEachOperand (name : String) (operands : List Bytes) (use : Bytes → Bytes → Work Unit) :
    Work Unit := do
  for operand in (if operands.isEmpty then [['-']] else operands) do
    match (← Work.readOperand operand) with
    | .ok content => use operand content
    | .error fault => Work.fail 1 name (operand ++ bytes s!": {fault.text}")

def numberLines (first : Nat) (lines : List Bytes) : Bytes :=
  ((List.range lines.length).zip lines).flatMap fun (i, line) =>
    padLeft 6 (decimal (first + i)) ++ '\t' :: line

/-- Prints files one after the other. -/
def cat : Utility := fun args =>
  match Options.read "nu" "" args with
  | .error c => Work.badOption 1 "cat" c
  | .ok o => do
    let mut count := 1
    for operand in (if o.operands.isEmpty then [['-']] else o.operands) do
      match (← Work.readOperand operand) with
      | .ok content =>
        if o.has 'n' then
          let lines := rawLinesOf content
          Work.print (numberLines count lines)
          count := count + lines.length
        else Work.print content
      | .error fault => Work.fail 1 "cat" (operand ++ bytes s!": {fault.text}")

/-- A count as `head` and `tail` take it: its sign and its size. -/
def signedCount? : Bytes → Option (Option Char × Nat)
  | '-' :: digits => (natOfDigits? 10 digits).map fun n => (some '-', n)
  | '+' :: digits => (natOfDigits? 10 digits).map fun n => (some '+', n)
  | digits => (natOfDigits? 10 digits).map fun n => (none, n)

/-- Writes `-5` in first place out as `-n 5`. -/
def spellCount : List Bytes → List Bytes
  | ('-' :: c :: more) :: rest =>
    if (c :: more).all Char.isDigit then ['-', 'n'] :: (c :: more) :: rest
    else ('-' :: c :: more) :: rest
  | args => args

def headPart (byBytes : Bool) (sign : Option Char) (n : Nat) (content : Bytes) : Bytes :=
  if byBytes then
    if sign == some '-' then content.take (content.length - n) else content.take n
  else
    let lines := rawLinesOf content
    (if sign == some '-' then lines.take (lines.length - n) else lines.take n).flatten

def tailPart (byBytes : Bool) (sign : Option Char) (n : Nat) (content : Bytes) : Bytes :=
  if byBytes then
    if sign == some '+' then content.drop (n - 1) else content.drop (content.length - n)
  else
    let lines := rawLinesOf content
    (if sign == some '+' then lines.drop (n - 1) else lines.drop (lines.length - n)).flatten

/-- Prints the part of each file that `part` picks, under headings if there are several. -/
def showParts (name : String) (part : Bool → Option Char → Nat → Bytes → Bytes) : Utility :=
  fun args =>
    match Options.read "qv" "nc" (spellCount args) with
    | .error c => Work.badOption 1 name c
    | .ok o =>
      let byBytes := o.has 'c'
      match signedCount? ((o.value? 'c').getD ((o.value? 'n').getD ['1', '0'])) with
      | none =>
        Work.fail 1 name (bytes (if byBytes then "invalid number of bytes: '" else
          "invalid number of lines: '") ++ ((o.value? 'c').getD ((o.value? 'n').getD [])) ++ ['\''])
      | some (sign, n) => do
        let operands := if o.operands.isEmpty then [['-']] else o.operands
        let headings := (operands.length > 1 || o.has 'v') && ! o.has 'q'
        let mut first := true
        for operand in operands do
          let content ←
            if operand == ['-'] then do
              let j ← get
              let content := j.input.drop j.consumed
              let shown := part byBytes sign n content
              let taken := if name == "head" && sign.isNone then shown.length else content.length
              set { j with consumed := j.consumed + taken }
              pure (Except.ok content)
            else Work.readFile operand
          match content with
          | .ok content =>
            if headings then
              let shownName := if operand == ['-'] then bytes "standard input" else operand
              Work.print ((if first then [] else ['\n']) ++ bytes "==> " ++ shownName ++ bytes " <==\n")
            first := false
            Work.print (part byBytes sign n content)
          | .error .isDirectory =>
            Work.fail 1 name (bytes "error reading '" ++ operand ++ bytes "': Is a directory")
          | .error fault =>
            Work.fail 1 name (bytes "cannot open '" ++ operand ++ bytes s!"' for reading: {fault.text}")

/-- Prints the first lines or bytes. -/
def head : Utility := showParts "head" headPart

/-- Prints the last lines or bytes. -/
def tail : Utility := showParts "tail" tailPart

/-- The number of runs of characters other than white space. -/
def wordCount (content : Bytes) : Nat :=
  (content.foldl (fun (state : Nat × Bool) c =>
    if c == ' ' || ('\t' ≤ c && c ≤ '\r') then (state.1, false)
    else (if state.2 then state.1 else state.1 + 1, true)) (0, false)).1

/-- Counts lines, words and bytes. -/
def wc : Utility := fun args =>
  match Options.read "lwcm" "" args with
  | .error c => Work.badOption 1 "wc" c
  | .ok o => do
    let all := o.flags.isEmpty
    let counts (content : Bytes) : List Nat :=
      (if all || o.has 'l' then [content.count '\n'] else []) ++
      (if all || o.has 'w' then [wordCount content] else []) ++
      (if all || o.has 'c' || o.has 'm' then [content.length] else [])
    let mut rows : List (Option Bytes × List Nat) := []
    let mut total : List Nat := counts []
    let mut size := 0
    for operand in (if o.operands.isEmpty then [['-']] else o.operands) do
      match (← Work.readOperand operand) with
      | .ok content =>
        let row := counts content
        size := size + content.length
        total := (total.zip row).map fun (a, b) => a + b
        rows := rows ++ [(if o.operands.isEmpty then none else some operand, row)]
      | .error fault => Work.fail 1 "wc" (operand ++ bytes s!": {fault.text}")
    if o.operands.length > 1 then rows := rows ++ [(some (bytes "total"), total)]
    let single := rows.length == 1 && total.length == 1
    let width := if single then 1 else if o.operands.isEmpty then 7 else (decimal size).length
    for (name, row) in rows do
      let numbers := List.intercalate [' '] (row.map fun n => padLeft width (decimal n))
      Work.print (numbers ++ (match name with
        | some name => ' ' :: name
        | none => []) ++ ['\n'])

/-- The number at the start of a line, times a thousand. -/
def leadingNumber (line : Bytes) : Int :=
  let line := line.dropWhile fun c => c == ' ' || c == '\t'
  let (negative, rest) := match line with
    | '-' :: rest => (true, rest)
    | rest => (false, rest)
  let whole := rest.takeWhile Char.isDigit
  let fraction := match rest.drop whole.length with
    | '.' :: more => (more.takeWhile Char.isDigit ++ ['0', '0', '0']).take 3
    | _ => ['0', '0', '0']
  let n : Int := (natOfDigits? 10 (whole ++ fraction)).getD 0
  if negative then - n else n

/-- Prints all lines in order. -/
def sort : Utility := fun args =>
  match Options.read "rnubf" "kt" args with
  | .error c => Work.badOption 2 "sort" c
  | .ok o => do
    let mut lines : List Bytes := []
    for operand in (if o.operands.isEmpty then [['-']] else o.operands) do
      match (← Work.readOperand operand) with
      | .ok content => lines := lines ++ (linesOf content).1
      | .error fault =>
        Work.fail 2 "sort" (bytes "cannot read: " ++ operand ++ bytes s!": {fault.text}")
    let key (line : Bytes) : Bytes := if o.has 'f' then line.map Char.toUpper else line
    let before (a b : Bytes) : Bool :=
      if o.has 'n' then leadingNumber a < leadingNumber b else decide (key a < key b)
    let le (a b : Bytes) : Bool :=
      let (a, b) := if o.has 'r' then (b, a) else (a, b)
      if before a b then true else if before b a then false else o.has 'u' || Bytes.le a b
    let sorted := lines.mergeSort le
    let kept := if o.has 'u' then
        (sorted.foldl (fun (kept : List Bytes) line =>
          match kept with
          | last :: _ => if before last line || before line last then line :: kept else kept
          | [] => [line]) []).reverse
      else sorted
    if (← get).status == 0 then Work.print (joinLines kept)

/-- Equal lines that stand together, with their number. -/
def runs (lines : List Bytes) : List (Nat × Bytes) :=
  lines.foldr (fun line groups =>
    match groups with
    | (n, l) :: rest => if l == line then (n + 1, l) :: rest else (1, line) :: groups
    | [] => [(1, line)]) []

/-- Prints one of equal lines that stand together. -/
def uniq : Utility := fun args =>
  match Options.read "cdu" "" args with
  | .error c => Work.badOption 1 "uniq" c
  | .ok o =>
    forEachOperand "uniq" (o.operands.take 1) fun _ content => do
      let groups := (runs (linesOf content).1).filter fun g =>
        (! o.has 'd' || g.1 > 1) && (! o.has 'u' || g.1 == 1)
      Work.print (groups.flatMap fun (n, line) =>
        (if o.has 'c' then padLeft 7 (decimal n) ++ [' '] else []) ++ line ++ ['\n'])

/-- The characters that a set of `tr` lists, in order. -/
def charList : Nat → Bytes → List Char
  | 0, _ => []
  | _ + 1, [] => []
  | fuel + 1, c :: rest =>
    let named := if c == '[' then Glob.classAt? rest else none
    match named with
    | some (ranges, n) =>
      (ranges.flatMap fun (a, b) => (List.range (b.toNat + 1 - a.toNat)).map fun i => Char.ofNat (a.toNat + i))
        ++ charList fuel (rest.drop n)
    | none =>
      let (c, rest) := if c == '\\' then escape rest else (c, rest)
      match rest with
      | '-' :: d :: more =>
        let (d, more) := if d == '\\' then escape more else (d, more)
        (List.range (d.toNat + 1 - c.toNat)).map (fun i => Char.ofNat (c.toNat + i)) ++ charList fuel more
      | rest => c :: charList fuel rest

/-- Keeps one of equal characters of a set that stand together. -/
def squeeze (set : List Char) (text : Bytes) : Bytes :=
  (text.foldl (fun (kept : Bytes) c =>
    if kept.head? == some c && set.contains c then kept else c :: kept) []).reverse

/-- Puts characters in place of others. -/
def tr : Utility := fun args =>
  match Options.read "cCds" "" args with
  | .error c => Work.badOption 1 "tr" c
  | .ok o =>
    match o.operands with
    | [] => Work.usage 1 "tr" (bytes "missing operand")
    | first :: more => do
      let input ← Work.readInput
      let listed := charList (first.length + 1) first
      let complement := o.has 'c' || o.has 'C'
      let isIn (c : Char) : Bool := listed.contains c != complement
      let second := (more.head?.map fun m => charList (m.length + 1) m).getD []
      if o.has 'd' then
        let kept := input.filter (! isIn ·)
        Work.print (if o.has 's' then squeeze second kept else kept)
      else if second.isEmpty then
        if o.has 's' then
          Work.print (if complement then
              (input.foldl (fun (kept : Bytes) c =>
                if kept.head? == some c && isIn c then kept else c :: kept) []).reverse
            else squeeze listed input)
        else Work.usage 1 "tr" (bytes "missing operand after '" ++ first ++ ['\''])
      else
        let last := second.getLast?.getD ' '
        let image (c : Char) : Char :=
          if complement then if isIn c then last else c
          else
            match listed.idxOf? c with
            | some i => second[i]?.getD last
            | none => c
        let changed := input.map image
        Work.print (if o.has 's' then squeeze second changed else changed)

/-- Lists such as `1,3-5,7-`: which positions they hold. -/
def positions? (text : Bytes) : Option (List (Nat × Option Nat)) :=
  let items := (String.ofList text).splitOn ","
  items.mapM fun item =>
    match (item.splitOn "-").map String.toList with
    | [a] => (natOfDigits? 10 a).map fun n => (n, some n)
    | [[], b] => (natOfDigits? 10 b).map fun n => (1, some n)
    | [a, []] => (natOfDigits? 10 a).map fun n => (n, none)
    | [a, b] => do return (← natOfDigits? 10 a, some (← natOfDigits? 10 b))
    | _ => none

def splitAt (delimiter : Char) (line : Bytes) : List Bytes :=
  line.foldr (fun c pieces =>
    if c == delimiter then [] :: pieces
    else
      match pieces with
      | piece :: rest => (c :: piece) :: rest
      | [] => [[c]]) [[]]

/-- Prints parts of each line. -/
def cut : Utility := fun args =>
  match Options.read "s" "dfcb" args with
  | .error c => Work.badOption 1 "cut" c
  | .ok o =>
    let byField := o.has 'f'
    match ((o.value? 'f').or ((o.value? 'c').or (o.value? 'b'))).bind positions? with
    | none =>
      Work.usage 1 "cut" (bytes "you must specify a list of bytes, characters, or fields")
    | some wanted =>
      let isWanted (i : Nat) : Bool := wanted.any fun (a, b) => a ≤ i && b.all (i ≤ ·)
      let pick {α : Type} (items : List α) : List α :=
        (((List.range items.length).zip items).filter fun p => isWanted (p.1 + 1)).map Prod.snd
      let delimiter := ((o.value? 'd').bind List.head?).getD '\t'
      forEachOperand "cut" o.operands fun _ content =>
        Work.print (joinLines ((linesOf content).1.filterMap fun line =>
          if byField then
            if line.contains delimiter then
              some (List.intercalate [delimiter] (pick (splitAt delimiter line)))
            else if o.has 's' then none else some line
          else some (pick line)))

/-- Prints its input and writes it to files. -/
def tee : Utility := fun args =>
  match Options.read "a" "" args with
  | .error c => Work.badOption 1 "tee" c
  | .ok o => do
    let input ← Work.readInput
    Work.print input
    for name in o.operands do
      let before ← if o.has 'a' then Work.readFile name else pure (.ok [])
      match (← Work.writeFile name (before.toOption.getD [] ++ input)) with
      | none => pure ()
      | some fault => Work.fail 1 "tee" (name ++ bytes s!": {fault.text}")

/-- Prints the lines last to first. -/
def tac : Utility := fun args =>
  forEachOperand "tac" args fun _ content => Work.print (rawLinesOf content).reverse.flatten

/-- Prints each line backwards. -/
def rev : Utility := fun args =>
  forEachOperand "rev" args fun _ content =>
    Work.print ((rawLinesOf content).flatMap fun line =>
      if line.getLast? == some '\n' then line.dropLast.reverse ++ ['\n'] else line.reverse)

end LintRepair.Shell
