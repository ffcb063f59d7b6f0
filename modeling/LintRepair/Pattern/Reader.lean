import LintRepair.Pattern.Layout
import LintRepair.Text.Scan
import LintRepair.Unicode.PropertyName

/-!
Reading patterns from text.

A pattern is made of alternatives between `|`, each a sequence of items that
may be repeated by `?`, `*`, `+` or counts in braces. Items are characters,
escapes, classes in brackets and groups in parentheses. There is no looking
around and no reference back to a group: what asks for it cannot be read.
-/

namespace LintRepair

namespace Pattern

/-- What letters such as those of `(?im)` switch. -/
structure Flags where
  anyCase : Bool := false
  lines : Bool := false
  dotAll : Bool := false
  swapGreed : Bool := false
  unicode : Bool := true
  withReturns : Bool := false
  verbose : Bool := false

/-- The text still to be read, the flags in force, and the names of groups so far. -/
structure Reader where
  rest : List Char
  flags : Flags
  names : List (List Char)

abbrev Read := StateT Reader Option

/-- Drops white space and comments, which run from `#` to the end of the line. -/
def dropVerbose (inComment : Bool) : List Char → List Char
  | [] => []
  | c :: s =>
    if inComment then dropVerbose (c != '\n') s
    else if isSpace c then dropVerbose false s
    else if c == '#' then dropVerbose true s
    else c :: s

namespace Read

def peek : Read (Option Char) := do return (← get).rest.head?

def flags : Read Flags := do return (← get).flags

/-- The next character, which has to be there. -/
def here : Read Char := do
  match ← peek with
  | some c => return c
  | none => failure

def skip (n : Nat) : Read Unit := modify fun r => { r with rest := r.rest.drop n }

/-- Passes over what has no meaning where white space and comments are allowed. -/
def spaces : Read Unit := modify fun r =>
  if r.flags.verbose then { r with rest := dropVerbose false r.rest } else r

/-- Goes on by one character and passes over spaces. -/
def advance : Read Unit := do skip 1; spaces

/-- Takes a text if it is next. -/
def take? (text : String) : Read Bool := do
  match after? text.toList (← get).rest with
  | some rest => modify fun r => { r with rest }; return true
  | none => return false

/-- What is next behind the current character, without spaces. -/
def peekBehind : Read (Option Char) := do
  let r ← get
  let behind := r.rest.drop 1
  return (if r.flags.verbose then dropVerbose false behind else behind).head?

end Read

open Read

/-- What an escape or a single character stands for. -/
inductive Atom where
  | char (c : Char)
  | chars (s : CharSet)
  | look (l : Look)

def isMeta (c : Char) : Bool := "\\.+*?()|[]\x7b\x7d^$#&-~".toList.contains c

/-- May a backslash stand before this character without giving it another meaning? -/
def isEscapable (c : Char) : Bool :=
  isMeta c || (c.toNat < 128 && !c.isAlphanum && c != '<' && c != '>')

def asciiRange : CharSet := .range (Char.ofNat 0) (Char.ofNat 127)

/-- A class in either case where the flags ask for it. -/
def fold (flags : Flags) (s : CharSet) : CharSet :=
  if flags.anyCase then
    if flags.unicode then .anyCase s else .inter (.anyCase s) asciiRange
  else s

/-- Turns a class around. Without the Unicode flag a class may hold ASCII characters only, so it
cannot be turned around. -/
def negateIf (negated : Bool) (s : CharSet) : Read CharSet := do
  if negated then
    guard (← flags).unicode
    return .complement s
  else return s

/-- A class in either case where the flags ask for it, and turned around if negated. -/
def foldAndNegate (negated : Bool) (s : CharSet) : Read CharSet := do
  negateIf negated (fold (← flags) s)

def wordClass (flags : Flags) : CharSet :=
  if flags.unicode then .word else .ofRanges [('0', '9'), ('A', 'Z'), ('_', '_'), ('a', 'z')]

def decimalClass (flags : Flags) : CharSet := if flags.unicode then .decimal else .range '0' '9'

def spaceClass (flags : Flags) : CharSet :=
  if flags.unicode then .space else .ofRanges [('\t', '\r'), (' ', ' ')]

/-- The class that a small letter behind a backslash stands for. -/
def letterClass? (flags : Flags) : Char → Option CharSet
  | 'd' => some (decimalClass flags)
  | 's' => some (spaceClass flags)
  | 'w' => some (wordClass flags)
  | _ => none

def isScalar (n : Nat) : Bool := n < 0xD800 || (0xDFFF < n && n < 0x110000)

def charOfHex (digits : List Char) : Read Char := do
  match natOfDigits? 16 digits with
  | some n => if isScalar n then return Char.ofNat n else failure
  | none => failure

def readHexDigits : (count : Nat) → Read (List Char)
  | 0 => return []
  | count + 1 => do
    let c ← here
    guard (digitIn? 16 c).isSome
    advance
    return c :: (← readHexDigits count)

/-- Reads up to a closing brace, passing over spaces. -/
def readBraced : (fuel : Nat) → Read (List Char)
  | 0 => failure
  | fuel + 1 => do
    let c ← here
    if c == '\x7d' then return []
    advance
    return c :: (← readBraced fuel)

def remaining : Read Nat := do return (← get).rest.length

/-- Reads the number behind `x`, `u` or `U`. Without the Unicode flag two digits behind `x` are a
byte, and one that is no character of its own cannot be matched. -/
def readHex (kind : Char) : Read Atom := do
  advance
  let c ← here
  if c == '\x7b' then
    advance
    let digits ← readBraced ((← remaining) + 1)
    advance
    return .char (← charOfHex digits)
  else
    let digits ← readHexDigits (if kind == 'x' then 2 else if kind == 'u' then 4 else 8)
    let c ← charOfHex digits
    guard (kind != 'x' || (← flags).unicode || c.toNat < 128)
    return .char c

/-- Cuts a text at the first place where `mark` stands. -/
def cutAt? (mark : List Char) : List Char → Option (List Char × List Char)
  | [] => none
  | c :: s =>
    match after? mark (c :: s) with
    | some rest => some ([], rest)
    | none => (cutAt? mark s).map fun (before, rest) => (c :: before, rest)

/-- The set that the text in the braces of `\p` names, and whether it is turned around. -/
def propertySet? (text : List Char) : Option (CharSet × Bool) :=
  match cutAt? ['!', '='] text with
  | some (name, value) => (Property.ofValue? name value).map (·, true)
  | none =>
    match (cutAt? [':'] text).or (cutAt? ['='] text) with
    | some (name, value) => (Property.ofValue? name value).map (·, false)
    | none => (Property.ofName? text).map (·, false)

/-- Reads a property behind `\p` or `\P`. -/
def readProperty (negated : Bool) : Read Atom := do
  guard (← flags).unicode
  advance
  let c ← here
  let text ← if c == '\x7b' then do
      advance
      let text ← readBraced ((← remaining) + 1)
      skip 1
      pure text
    else do
      guard (c != '\\')
      advance
      pure [c]
  match propertySet? text with
  | some (s, turned) => return .chars (← foldAndNegate (negated != turned) s)
  | none => failure

def isRuleLetter (c : Char) : Bool := c.isAlpha || c == '-'

def readRuleName : (fuel : Nat) → Read (List Char)
  | 0 => return []
  | fuel + 1 => do
    match ← peek with
    | some c =>
      if isRuleLetter c then
        advance
        return c :: (← readRuleName fuel)
      else return []
    | none => return []

/-- Reads a rule in braces, such as `start`, behind `\b`, if that is what stands there. -/
def readWordRule : Read WordRule := do
  let start ← get
  if (← peek) != some '\x7b' then return .boundary
  advance
  if !isRuleLetter (← here) then
    modify fun _ => start
    return .boundary
  let name ← readRuleName ((← remaining) + 1)
  guard ((← peek) == some '\x7d')
  skip 1
  match String.ofList name with
  | "start" => return .start
  | "end" => return .finish
  | "start-half" => return .startHalf
  | "end-half" => return .finishHalf
  | _ => failure

/-- Reads an escape, from its backslash on. -/
def readEscape : Read Atom := do
  skip 1
  let c ← here
  let flags ← flags
  if c.isDigit then failure
  else if c == 'x' || c == 'u' || c == 'U' then readHex c
  else if c == 'p' || c == 'P' then readProperty (c == 'P')
  else if let some s := letterClass? flags c.toLower then
    skip 1
    return .chars (← negateIf c.isUpper s)
  else
    skip 1
    if isEscapable c then return .char c
    let look rule := Atom.look (.word (!flags.unicode) rule)
    match c with
    | 'a' => return .char '\x07'
    | 'f' => return .char '\x0c'
    | 't' => return .char '\t'
    | 'n' => return .char '\n'
    | 'r' => return .char '\r'
    | 'v' => return .char '\x0b'
    | 'A' => return .look .textStart
    | 'z' => return .look .textEnd
    | 'b' => return look (← readWordRule)
    | 'B' => return look .inside
    | '<' => return look .start
    | '>' => return look .finish
    | _ => failure

/-- The classes that have names in brackets, such as `[:alpha:]`. -/
def namedClasses : List (String × List (Char × Char)) :=
  [("alnum", [('0', '9'), ('A', 'Z'), ('a', 'z')]),
   ("alpha", [('A', 'Z'), ('a', 'z')]),
   ("ascii", [(Char.ofNat 0, Char.ofNat 127)]),
   ("blank", [('\t', '\t'), (' ', ' ')]),
   ("cntrl", [(Char.ofNat 0, Char.ofNat 31), (Char.ofNat 127, Char.ofNat 127)]),
   ("digit", [('0', '9')]),
   ("graph", [('!', '~')]),
   ("lower", [('a', 'z')]),
   ("print", [(' ', '~')]),
   ("punct", [('!', '/'), (':', '@'), ('[', '`'), ('\x7b', '~')]),
   ("space", [('\t', '\r'), (' ', ' ')]),
   ("upper", [('A', 'Z')]),
   ("word", [('0', '9'), ('A', 'Z'), ('_', '_'), ('a', 'z')]),
   ("xdigit", [('0', '9'), ('A', 'F'), ('a', 'f')])]

/-- Reads a named class such as `[:alpha:]` or `[:^alpha:]`, if one stands here. -/
def readNamedClass? : Read (Option CharSet) := do
  let r ← get
  match after? ['[', ':'] r.rest with
  | none => return none
  | some rest =>
    let negated := rest.head? == some '^'
    let rest := if negated then rest.drop 1 else rest
    let name := rest.takeWhile (· ≠ ':')
    match after? [':', ']'] (rest.dropWhile (· ≠ ':')), namedClasses.lookup (.ofList name) with
    | some rest, some ranges =>
      modify fun r => { r with rest }
      return some (← foldAndNegate negated (.ofRanges ranges))
    | _, _ => return none

/-- Reads one end of a range in a class, or an item of its own. -/
def readClassAtom : Read Atom := do
  let c ← here
  if c == '\\' then readEscape
  else
    skip 1
    return .char c

def Atom.classChar : Atom → Read Char
  | .char c => do
    guard ((← flags).unicode || c.toNat < 128)
    return c
  | _ => failure

def Atom.classItem : Atom → Read CharSet
  | .chars s => return s
  | atom => do return .single (← atom.classChar)

/-- Reads an item of a class: a range or a single atom. -/
def readClassItem : Read CharSet := do
  let first ← readClassAtom
  spaces
  let c ← here
  let behind ← peekBehind
  if c != '-' || behind == some ']' || behind == some '-' then first.classItem
  else
    advance
    let _ ← here
    let last ← readClassAtom
    let first ← first.classChar
    let last ← last.classChar
    guard (first ≤ last)
    return .range first last

/-- How two parts of a class are put together. -/
inductive ClassOp where
  | inter
  | diff
  | symmDiff

def ClassOp.apply (op : ClassOp) (a b : CharSet) : CharSet :=
  match op with
  | .inter => .inter a b
  | .diff => .diff a b
  | .symmDiff => .symmDiff a b

/-- A part of a class, with its nesting depth. -/
structure ClassPart where
  set : CharSet
  depth : Nat

/-- Items of a class that stand next to each other. -/
structure ClassItems where
  set : CharSet := .empty
  count : Nat := 0
  depth : Nat := 0

def ClassItems.add (items : ClassItems) (s : CharSet) (depth : Nat) : ClassItems :=
  ⟨.union items.set s, items.count + 1, max items.depth depth⟩

def ClassItems.part (items : ClassItems) : ClassPart :=
  ⟨items.set, if 1 < items.count then items.depth + 1 else items.depth⟩

/-- Puts what has been read of a class together with what stands before its last operator. -/
def combine (flags : Flags) (left : Option (ClassOp × ClassPart)) (items : ClassItems) :
    ClassPart :=
  match left with
  | none => items.part
  | some (op, a) =>
    ⟨op.apply (fold flags a.set) (fold flags items.set), max a.depth items.part.depth + 1⟩

/-- Reads hyphens that stand for themselves at the start of a class. -/
def readHyphens : (fuel : Nat) → ClassItems → Read ClassItems
  | 0, items => return items
  | fuel + 1, items => do
    if (← here) == '-' then
      advance
      readHyphens fuel (items.add (.single '-') 0)
    else return items

mutual

/-- Reads a class in brackets. -/
def readClass : (fuel : Nat) → Read ClassPart
  | 0 => failure
  | fuel + 1 => do
    advance
    let negated := (← here) == '^'
    if negated then advance
    let items ← readHyphens ((← remaining) + 1) {}
    let items ← if items.count == 0 && (← here) == ']' then do
        advance
        let _ ← here
        pure (items.add (.single ']') 0)
      else pure items
    let part ← readClassRest fuel none items
    return ⟨← foldAndNegate negated part.set, part.depth + 1⟩

/-- Reads the rest of a class up to its closing bracket. -/
def readClassRest : (fuel : Nat) → Option (ClassOp × ClassPart) → ClassItems → Read ClassPart
  | 0, _, _ => failure
  | fuel + 1, left, items => do
    spaces
    let flags ← flags
    match (← get).rest with
    | [] => failure
    | '[' :: _ =>
      match ← readNamedClass? with
      | some s => readClassRest fuel left (items.add s 0)
      | none =>
        let inner ← readClass fuel
        readClassRest fuel left (items.add inner.set inner.depth)
    | ']' :: _ =>
      skip 1
      return combine flags left items
    | '&' :: '&' :: _ =>
      skip 2
      readClassRest fuel (some (.inter, combine flags left items)) {}
    | '-' :: '-' :: _ =>
      skip 2
      readClassRest fuel (some (.diff, combine flags left items)) {}
    | '~' :: '~' :: _ =>
      skip 2
      readClassRest fuel (some (.symmDiff, combine flags left items)) {}
    | _ =>
      let item ← readClassItem
      readClassRest fuel left (items.add item 0)

end

/-- A part of a pattern: what it matches, how it is laid out, and how deep it is nested. -/
structure Part where
  pattern : Pattern
  layout : Layout
  depth : Nat

/-- One item of a sequence, or a change of flags, which cannot be repeated. -/
abbrev Item := Option Part

def Part.ofSet (s : CharSet) (depth : Nat) : Part := ⟨.set s, .ofSet s, depth⟩

def Part.ofLook (l : Look) : Part := ⟨.look l, .look l, 0⟩

def Atom.part : Atom → Read Part
  | .char c => do
    let flags ← flags
    let folded := flags.unicode || c.toNat < 128
    return .ofSet (if folded then fold flags (.single c) else .single c) 0
  | .chars s => return .ofSet s 0
  | .look l => return .ofLook l

/-- Any character but those that end a line, or any at all. -/
def readDot : Read Part := do
  let flags ← flags
  guard flags.unicode
  if flags.dotAll then return .ofSet .all 0
  else if flags.withReturns then
    return .ofSet (.complement (.union (.single '\n') (.single '\r'))) 0
  else return .ofSet (.complement (.single '\n')) 0

def readPrimitive : Read Part := do
  let c ← here
  let flags ← flags
  if c == '\\' then (← readEscape).part
  else
    skip 1
    match c with
    | '.' => readDot
    | '^' => return .ofLook (if flags.lines then .lineStart flags.withReturns else .textStart)
    | '$' => return .ofLook (if flags.lines then .lineEnd flags.withReturns else .textEnd)
    | c => (Atom.char c).part

/-- Reads a decimal number with white space around it. -/
def readCount? : Read (Option Nat) := do
  modify fun r => { r with rest := dropSpaces r.rest }
  let digits ← readDigits ((← remaining) + 1)
  modify fun r => { r with rest := dropSpaces r.rest }
  if digits.isEmpty then return none
  match natOfDigits? 10 digits with
  | some n => if n ≤ 4294967295 then return some n else failure
  | none => failure
where
  readDigits : (fuel : Nat) → Read (List Char)
    | 0 => return []
    | fuel + 1 => do
      match ← peek with
      | some c =>
        if c.isDigit then
          advance
          return c :: (← readDigits fuel)
        else return []
      | none => return []

/-- The last item, which a repetition applies to, and those before it. -/
def lastItem : List Item → Read (Part × List Item)
  | some part :: items => return (part, items)
  | _ => failure

def repeatLast (items : List Item) (least : Nat) (most : Option Nat) (greedy : Bool) :
    Read (List Item) := do
  let (part, items) ← lastItem items
  let greedy := greedy != (← flags).swapGreed
  let (least, most) := part.layout.counts least most
  return some ⟨.times part.pattern least most greedy, part.layout.repeated least most greedy,
    part.depth + 1⟩ :: items

/-- Reads `?`, `*` or `+`, and the `?` that makes it take as little as it can. -/
def readRepetition (items : List Item) (least : Nat) (most : Option Nat) : Read (List Item) := do
  let _ ← lastItem items
  skip 1
  let lazy ← take? "?"
  repeatLast items least most (!lazy)

/-- Reads a repetition with counts in braces. -/
def readCounted (items : List Item) : Read (List Item) := do
  let _ ← lastItem items
  advance
  let least ← readCount?
  let c ← here
  let (least, most) ← if c == ',' then do
      advance
      if (← here) == '\x7d' then
        match least with
        | some least => pure (least, none)
        | none => failure
      else
        match least, ← readCount? with
        | some least, some most => pure (least, some most)
        | _, _ => failure
    else
      match least with
      | some least => pure (least, some least)
      | none => failure
  guard ((← here) == '\x7d')
  advance
  let lazy := (← peek) == some '?'
  if lazy then skip 1
  guard (most.all (least ≤ ·))
  repeatLast items least most (!lazy)

def setFlag (flags : Flags) (on : Bool) : Char → Option Flags
  | 'i' => some { flags with anyCase := on }
  | 'm' => some { flags with lines := on }
  | 's' => some { flags with dotAll := on }
  | 'U' => some { flags with swapGreed := on }
  | 'u' => some { flags with unicode := on }
  | 'R' => some { flags with withReturns := on }
  | 'x' => some { flags with verbose := on }
  | _ => none

/-- Reads flags up to `:` or `)`. No flag and no `-` may come twice, and a `-` may not be last. The
answer tells whether there was any. -/
def readFlags : (fuel : Nat) → (seen : List Char) → Flags → Read (Flags × Bool)
  | 0, _, _ => failure
  | fuel + 1, seen, flags => do
    let c ← here
    if c == ':' || c == ')' then
      guard (seen.head? != some '-')
      return (flags, !seen.isEmpty)
    guard (!seen.contains c)
    skip 1
    if c == '-' then readFlags fuel (c :: seen) flags
    else
      match setFlag flags (!seen.contains '-') c with
      | some flags => readFlags fuel (c :: seen) flags
      | none => failure

def startsName (c : Char) : Bool := c == '_' || Property.alphabetic.mem c

def continuesName (c : Char) : Bool :=
  startsName c || c == '.' || c == '[' || c == ']' ||
    (CharSet.categories [.decimal, .letterNumber, .otherNumber]).mem c

/-- Reads the name of a group up to its `>`. No two groups have one name. -/
def readName : Read Unit := do
  let r ← get
  let name := r.rest.takeWhile (· ≠ '>')
  match r.rest.dropWhile (· ≠ '>') with
  | _ :: rest =>
    guard (!name.isEmpty && !r.names.contains name)
    guard (name.head?.any startsName && name.all continuesName)
    modify fun r => { r with rest, names := name :: r.names }
  | [] => failure

def looksAround (rest : List Char) : Bool :=
  [['?', '='], ['?', '!'], ['?', '<', '='], ['?', '<', '!']].any (·.isPrefixOf rest)

/-- One pattern after the other. -/
def inSequence : Pattern → List Pattern → Pattern
  | p, [] => p
  | p, q :: rest => .seq p (inSequence q rest)

/-- One pattern or another. -/
def inChoice : Pattern → List Pattern → Pattern
  | p, [] => p
  | p, q :: rest => .alt p (inChoice q rest)

def deepest (parts : List Part) : Nat := (parts.map Part.depth).foldl max 0

/-- Puts the items of a sequence together. They come last first. -/
def sequence (items : List Item) : Part :=
  let parts := items.reverse.filterMap id
  let pattern := match parts.map Part.pattern with
    | [] => .empty
    | p :: rest => inSequence p rest
  let depth := deepest parts
  ⟨pattern, .concat (parts.map Part.layout), if items.length > 1 then depth + 1 else depth⟩

/-- Puts alternatives together. -/
def choice (first : Part) (rest : List Part) : Part :=
  if rest.isEmpty then first
  else
    ⟨inChoice first.pattern (rest.map Part.pattern), .choice ((first :: rest).map Part.layout),
      deepest (first :: rest) + 1⟩

mutual

/-- Reads alternatives up to a closing parenthesis or the end. -/
def readAlternatives : (fuel : Nat) → Read Part
  | 0 => failure
  | fuel + 1 => do
    let first ← readSequence fuel []
    return choice first (← readFurther fuel)

/-- Reads further alternatives, each with the bar before it. -/
def readFurther : (fuel : Nat) → Read (List Part)
  | 0 => failure
  | fuel + 1 => do
    if ← take? "|" then
      let part ← readSequence fuel []
      return part :: (← readFurther fuel)
    else return []

/-- Reads the items of a sequence. Those so far come last first. -/
def readSequence : (fuel : Nat) → List Item → Read Part
  | 0, _ => failure
  | fuel + 1, items => do
    spaces
    match ← peek with
    | none | some '|' | some ')' => return sequence items
    | some '(' => do
      let item ← readGroup fuel
      readSequence fuel (item :: items)
    | some '[' => do
      let part ← readClass fuel
      readSequence fuel (some (.ofSet part.set part.depth) :: items)
    | some '?' => do readSequence fuel (← readRepetition items 0 (some 1))
    | some '*' => do readSequence fuel (← readRepetition items 0 none)
    | some '+' => do readSequence fuel (← readRepetition items 1 none)
    | some '\x7b' => do readSequence fuel (← readCounted items)
    | some _ => do
      let part ← readPrimitive
      readSequence fuel (some part :: items)

/-- Reads a group, from its parenthesis on, or a change of flags. -/
def readGroup : (fuel : Nat) → Read Item
  | 0 => failure
  | fuel + 1 => do
    let index ← remaining
    skip 1
    spaces
    guard (!looksAround (← get).rest)
    let outer ← flags
    let named := (← take? "?P<") || (← take? "?<")
    if named then
      readName
      readBody fuel outer (some index)
    else if ← take? "?" then
      let (inner, hasFlags) ← readFlags ((← remaining) + 1) [] outer
      let c ← here
      skip 1
      modify fun r => { r with flags := inner }
      if c == ')' then
        guard hasFlags
        return none
      else readBody fuel outer none
    else readBody fuel outer (some index)

/-- Reads what is in a group and its closing parenthesis. The flags of before hold again behind it.
What a group with an index matches is noted. -/
def readBody : (fuel : Nat) → (outer : Flags) → (index : Option Nat) → Read Item
  | 0, _, _ => failure
  | fuel + 1, outer, index => do
    let part ← readAlternatives fuel
    guard ((← peek) == some ')')
    skip 1
    modify fun r => { r with flags := outer }
    let layout := match index with
      | some index => .group index part.layout
      | none => part.layout
    return some ⟨part.pattern, layout, part.depth + 1⟩

end

/-- How deep a pattern may be nested. -/
def depthLimit : Nat := 250

/-- Reads a whole text as a pattern. -/
def ofText? (text : String) : Option Pattern := do
  let s := text.toList
  let (part, reader) ← (readAlternatives (4 * s.length + 4)).run ⟨s, {}, []⟩
  guard (reader.rest.isEmpty && part.depth ≤ depthLimit && part.layout.fits)
  return part.pattern

end Pattern

end LintRepair
