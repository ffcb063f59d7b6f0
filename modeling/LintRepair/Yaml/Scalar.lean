import LintRepair.Text.Digit
import LintRepair.Yaml.Cursor

/-!
Reading the text of a scalar in each of its styles: plain, quoted and block.

Every loop takes a count that the characters left bound, since each round moves on.
-/

namespace LintRepair.Yaml

/-- How a scalar is written. -/
inductive Style where
  | plain
  | quoted
  | literal
  | folded
  deriving DecidableEq

/-- White space between two words of a scalar: blanks within a line, or a first line
break and the breaks after it. -/
inductive Gap where
  | blanks (text : List Char)
  | breaks (first more : List Char)

namespace Gap

def empty : Gap := .blanks []

/-- One line feed folds into a space; of several, the first is dropped. -/
def text : Gap → List Char
  | .blanks text => text
  | .breaks ['\n'] [] => [' ']
  | .breaks ['\n'] more => more
  | .breaks first more => first ++ more

def spansLines : Gap → Bool
  | .blanks _ => false
  | .breaks _ _ => true

/-- Reads on. A tab left of `indent` at the start of a line is refused. -/
def read? (indent : Nat) : Nat → Gap → Cursor → Option (Gap × Cursor)
  | 0, gap, c => some (gap, c)
  | fuel + 1, gap, c =>
    match c.peek? with
    | none => some (gap, c)
    | some x =>
      if isBlank x then
        match gap with
        | .blanks text => read? indent fuel (.blanks (text ++ [x])) (c.skip 1)
        | .breaks _ _ =>
          if x == '\t' && c.column < indent then none else read? indent fuel gap (c.skip 1)
      else if isBreak x then
        let (text, c) := c.readBreak
        match gap with
        | .blanks _ => read? indent fuel (.breaks text []) c
        | .breaks first more => read? indent fuel (.breaks first (more ++ text)) c
      else some (gap, c)

end Gap

/-! Plain scalars. -/

def isFlowMark (c : Char) : Bool := [',', '[', ']', '\x7b', '\x7d'].contains c

/-- The length of the plain word at the start of a text. Inside brackets a word may not hold a
colon before a bracket, a comma or a question mark. -/
def plainWord? (flow : Bool) : List Char → Option Nat
  | [] => some 0
  | c :: rest =>
    let endsHere := (rest.head?.map fun x => isBlank x || isBreak x).getD true
    let refused := (rest.head?.map fun x => isFlowMark x || x == '?').getD false
    if isBlank c || isBreak c then some 0
    else if flow && c == ':' && refused then none
    else if (c == ':' && endsHere) || (flow && isFlowMark c) then some 0
    else (plainWord? flow rest).map (· + 1)

/-- The text, the white space after it, and the place after that. -/
def plainScalar? (flow : Bool) (indent : Nat) :
    Nat → List Char → Gap → Cursor → Option (List Char × Gap × Cursor)
  | 0, _, _, _ => none
  | fuel + 1, text, gap, c =>
    if c.atDocumentMark || c.looksAt '#' then some (text, gap, c)
    else do
      let count ← plainWord? flow c.rest
      let (text, gap) :=
        if count == 0 then (text, gap) else (text ++ gap.text ++ c.rest.take count, Gap.empty)
      let c := c.skip count
      if c.rest.isEmpty || ! c.wordEndsAt 0 then return (text, gap, c)
      let (gap, c) ← gap.read? indent c.rest.length c
      if ! flow && c.column < indent then return (text, gap, c)
      plainScalar? flow indent fuel text gap c

/-! Quoted scalars. -/

def escapes : List (Char × Char) :=
  [('0', '\x00'), ('a', '\x07'), ('b', '\x08'), ('t', '\t'), ('\t', '\t'), ('n', '\n'),
   ('v', '\x0b'), ('f', '\x0c'), ('r', '\r'), ('e', '\x1b'), (' ', ' '), ('"', '"'), ('/', '/'),
   ('\\', '\\'), ('N', '\u0085'), ('_', '\u00a0'), ('L', '\u2028'), ('P', '\u2029')]

/-- How many hexadecimal digits follow the letter. -/
def escapeDigits? : Char → Option Nat
  | 'x' => some 2
  | 'u' => some 4
  | 'U' => some 8
  | _ => none

/-- The character of an escape sequence after its backslash, and the length of the sequence. -/
def escape? : List Char → Option (Char × Nat)
  | [] => none
  | c :: rest =>
    match escapeDigits? c with
    | none => (escapes.lookup c).map fun x => (x, 2)
    | some count =>
      let digits := rest.take count
      if digits.length < count then none
      else (natOfDigits? 16 digits).bind fun n =>
        if n.isValidChar then some (.ofNat n, count + 2) else none

/-- One word, whether an escaped line break ended it, and the place after it. -/
def quotedWord? (single : Bool) : Nat → List Char → Cursor → Option (List Char × Bool × Cursor)
  | 0, word, c => some (word, false, c)
  | fuel + 1, word, c =>
    if c.wordEndsAt 0 then some (word, false, c)
    else
      match single, c.rest with
      | true, '\'' :: '\'' :: _ => quotedWord? single fuel (word ++ ['\'']) (c.skip 2)
      | true, '\'' :: _ => some (word, false, c)
      | false, '"' :: _ => some (word, false, c)
      | false, '\\' :: rest =>
        if ! rest.isEmpty && c.lineEndsAt 1 then some (word, true, (c.skip 1).skipBreak)
        else (escape? rest).bind fun (x, count) =>
          quotedWord? single fuel (word ++ [x]) (c.skip count)
      | _, x :: _ => quotedWord? single fuel (word ++ [x]) (c.skip 1)
      | _, [] => some (word, false, c)

/-- The rest of a quoted scalar after its opening quote. -/
def quotedScalar? (single : Bool) : Nat → List Char → Cursor → Option (List Char × Cursor)
  | 0, _, _ => none
  | fuel + 1, text, c =>
    if c.atDocumentMark || c.rest.isEmpty then none
    else do
      let (word, escaped, c) ← quotedWord? single c.rest.length [] c
      let text := text ++ word
      if c.looksAt (if single then '\'' else '"') then return (text, c.skip 1)
      let (gap, c) ← (if escaped then Gap.breaks [] [] else Gap.empty).read? 0 c.rest.length c
      quotedScalar? single fuel (text ++ gap.text) c

/-! Block scalars. -/

/-- What happens to the line breaks at the end. -/
inductive Chomping where
  | strip
  | clip
  | keep

def chomping? : Char → Option Chomping
  | '+' => some .keep
  | '-' => some .strip
  | _ => none

/-- The chomping mark and the indentation digit, in either order. -/
def blockHeader? (c : Cursor) : Option (Chomping × Nat × Cursor) :=
  let chomp (c : Cursor) : Option (Chomping × Cursor) :=
    (c.peek?.bind chomping?).map fun ch => (ch, c.skip 1)
  let digit (c : Cursor) : Option (Nat × Cursor) :=
    (c.peek?.bind (digitIn? 10)).map fun n => (n, c.skip 1)
  let (chomping, increment, c) :=
    match chomp c, digit c with
    | some (ch, c), _ =>
      match digit c with
      | some (n, c) => (ch, some n, c)
      | none => (ch, none, c)
    | none, some (n, c) =>
      match chomp c with
      | some (ch, c) => (ch, some n, c)
      | none => (Chomping.clip, some n, c)
    | none, none => (Chomping.clip, none, c)
  if increment == some 0 then none else some (chomping, increment.getD 0, c)

/-- Skips the indentation of a block scalar's line and the empty lines before it. With no
`indent` known, all spaces count. Answers with the widest indentation seen. -/
def blockBreaks? (indent : Option Nat) :
    Nat → Nat → List Char → Cursor → Option (Nat × List Char × Cursor)
  | 0, widest, text, c => some (widest, text, c)
  | fuel + 1, widest, text, c =>
    let spaces := (c.rest.takeWhile (· == ' ')).length
    let c := c.skip (match indent with
      | some n => min spaces (n - c.column)
      | none => spaces)
    let widest := max widest c.column
    let left := (indent.map fun n => decide (c.column < n)).getD true
    if left && c.looksAt '\t' then none
    else if c.rest.isEmpty || ! c.lineEndsAt 0 then some (widest, text, c)
    else
      let (break_, c) := c.readBreak
      blockBreaks? indent fuel widest (text ++ break_) c

/-- The lines of a block scalar. `before` is the break that ended the last line, `more` holds
the empty lines after it, and `blankBefore` tells whether that line began with a blank. -/
def blockLines? (literal : Bool) (indent : Nat) :
    Nat → List Char → List Char → List Char → Bool → Cursor →
      Option (List Char × List Char × List Char × Cursor)
  | 0, text, before, more, _, c => some (text, before, more, c)
  | fuel + 1, text, before, more, blankBefore, c =>
    if c.column == indent && ! c.rest.isEmpty then do
      let blank := (c.peek?.map isBlank).getD false
      let joint :=
        if ! literal && before == ['\n'] && ! blankBefore && ! blank then
          if more.isEmpty then [' '] else []
        else before
      let line := c.rest.takeWhile (! isBreak ·)
      let (before, c) := (c.skip line.length).readBreak
      let text := text ++ joint ++ more ++ line
      let (_, more, c) ← blockBreaks? (some indent) (c.rest.length + 1) 0 [] c
      blockLines? literal indent fuel text before more blank c
    else some (text, before, more, c)

/-- A block scalar after its first mark, where `parent` is the indentation around it. -/
def blockScalar? (literal : Bool) (parent : Int) (c : Cursor) : Option (List Char × Cursor) := do
  let (chomping, increment, c) ← blockHeader? c
  let c ← c.skipLineTail?
  let known := if increment == 0 then none else some (parent.toNat + increment)
  let (widest, more, c) ← blockBreaks? known (c.rest.length + 1) 0 [] c
  let indent := known.getD (max widest (max (parent + 1).toNat 1))
  let (text, before, more, c) ← blockLines? literal indent (c.rest.length + 1) [] [] more false c
  return (match chomping with
    | .strip => text
    | .clip => text ++ before
    | .keep => text ++ before ++ more, c)

end LintRepair.Yaml
