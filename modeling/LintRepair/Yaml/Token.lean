import LintRepair.Yaml.Scalar

/-!
The tokens of a YAML text: marks, names, scalars, and the ends of blocks that indentation
implies.

A key may turn out to be one only when its colon is read, so each open collection remembers
where a key could have begun; its mark is put there afterwards.
-/

namespace LintRepair.Yaml

inductive Token where
  | version (major minor : Nat)
  | tagDirective (handle meaning : String)
  | documentStart
  | documentEnd
  | blockSequenceStart
  | blockMappingStart
  | blockEnd
  | flowSequenceStart
  | flowSequenceEnd
  | flowMappingStart
  | flowMappingEnd
  | blockEntry
  | flowEntry
  | key
  | value
  | alias (name : String)
  | anchor (name : String)
  | tag (handle suffix : String)
  | scalar (style : Style) (text : String)
  deriving DecidableEq

/-! Names, tags and directives. -/

def name? (c : Cursor) : Option (String × Cursor) :=
  let name := c.rest.takeWhile isNameChar
  let c := c.skip name.length
  if name.isEmpty then none
  else if c.wordEndsAt 0 || (c.peek?.map "?:,]\x7d%@`".toList.contains).getD false then
    some (.ofList name, c)
  else none

def isUriChar (verbatim : Bool) (c : Char) : Bool :=
  isNameChar c || ";/?:@&=+$.%!~*'()".toList.contains c || (verbatim && ",[]".toList.contains c)

/-- One byte written as a percent sign and two digits. -/
def escapedByte? : List Char → Option (Nat × List Char)
  | '%' :: a :: b :: rest => (natOfDigits? 16 [a, b]).map fun n => (n, rest)
  | _ => none

/-- One character written byte by byte, and the number of bytes. -/
def escapedChar? (s : List Char) : Option (Char × Nat) := do
  let (lead, s) ← escapedByte? s
  let tail (s : List Char) : Option (Nat × List Char) :=
    (escapedByte? s).bind fun (n, s) => if n / 64 == 2 then some (n % 64, s) else none
  if lead < 0x80 then return (.ofNat lead, 1)
  else if lead / 32 == 6 then
    let (a, _) ← tail s
    return (.ofNat (lead % 32 * 64 + a), 2)
  else if lead / 16 == 14 then
    let (a, s) ← tail s
    let (b, _) ← tail s
    return (.ofNat ((lead % 16 * 64 + a) * 64 + b), 3)
  else if lead / 8 == 30 then
    let (a, s) ← tail s
    let (b, s) ← tail s
    let (d, _) ← tail s
    return (.ofNat (((lead % 8 * 64 + a) * 64 + b) * 64 + d), 4)
  else none

def uri? (verbatim : Bool) : Nat → List Char → Cursor → Option (List Char × Cursor)
  | 0, text, c => some (text, c)
  | fuel + 1, text, c =>
    match c.rest with
    | '%' :: _ => (escapedChar? c.rest).bind fun (x, bytes) =>
      uri? verbatim fuel (text ++ [x]) (c.skip (3 * bytes))
    | x :: _ =>
      if isUriChar verbatim x then uri? verbatim fuel (text ++ [x]) (c.skip 1) else some (text, c)
    | [] => some (text, c)

/-- An exclamation mark, a name and perhaps a second exclamation mark. -/
def tagHandle? (c : Cursor) : Option (List Char × Cursor) :=
  if c.looksAt '!' then
    let name := (c.skip 1).rest.takeWhile isNameChar
    let c := c.skip (name.length + 1)
    if c.looksAt '!' then some ('!' :: name ++ ['!'], c.skip 1) else some ('!' :: name, c)
  else none

/-- A tag as its handle and what follows it. -/
def tag? (flow : Bool) (c : Cursor) : Option (Token × Cursor) := do
  let (token, c) ←
    if (c.skip 1).looksAt '<' then do
      let (suffix, c) ← uri? true (c.rest.length) [] (c.skip 2)
      if suffix.isEmpty || ! c.looksAt '>' then none
      else pure (Token.tag "" (.ofList suffix), c.skip 1)
    else do
      let (handle, c) ← tagHandle? c
      if handle.length > 1 && handle.getLast? == some '!' then
        let (suffix, c) ← uri? false (c.rest.length) [] c
        if suffix.isEmpty then none else pure (Token.tag (.ofList handle) (.ofList suffix), c)
      else
        let (suffix, c) ← uri? false (c.rest.length) (handle.drop 1) c
        if suffix.isEmpty then pure (Token.tag "" "!", c)
        else pure (Token.tag "!" (.ofList suffix), c)
  if c.wordEndsAt 0 || (flow && c.looksAt ',') then return (token, c) else none

/-- A number of at most nine digits. -/
def versionNumber? (c : Cursor) : Option (Nat × Cursor) :=
  let digits := c.rest.takeWhile Char.isDigit
  if digits.length > 9 then none
  else (natOfDigits? 10 digits).map fun n => (n, c.skip digits.length)

def directive? (c : Cursor) : Option (Token × Cursor) := do
  let c := c.skip 1
  let name := c.rest.takeWhile isNameChar
  let c := c.skip name.length
  if ! c.wordEndsAt 0 then none
  let c := c.skipWhile isBlank
  let (token, c) ←
    if name == "YAML".toList then do
      let (major, c) ← versionNumber? c
      if ! c.looksAt '.' then none
      let (minor, c) ← versionNumber? (c.skip 1)
      pure (Token.version major minor, c)
    else if name == "TAG".toList then do
      let (handle, c) ← tagHandle? c
      if handle != ['!'] && (handle.length < 2 || handle.getLast? != some '!') then none
      if ! (c.peek?.map isBlank).getD false then none
      let c := c.skipWhile isBlank
      let (meaning, c) ← uri? true (c.rest.length) [] c
      if meaning.isEmpty || ! c.wordEndsAt 0 then none
      pure (Token.tagDirective (.ofList handle) (.ofList meaning), c)
    else none
  return (token, ← c.skipLineTail?)

/-! The token list. -/

/-- A place where a key may have begun. -/
structure PossibleKey where
  required : Bool
  /-- The number of tokens before it. -/
  position : Nat
  index : Nat
  line : Nat
  column : Nat

structure Lexer where
  cursor : Cursor
  /-- What has been read, last token first. -/
  tokens : List Token
  /-- One entry for each open bracket, innermost first, and one for the text around them. -/
  keys : List (Option PossibleKey)
  indent : Int
  indents : List Int
  keyAllowed : Bool

namespace Lexer

def start (text : String) : Lexer := ⟨.start text, [], [none], -1, [], true⟩

def inFlow (l : Lexer) : Bool := l.keys.length > 1

def push (l : Lexer) (t : Token) : Lexer := { l with tokens := t :: l.tokens }

def allowKey (l : Lexer) (allowed : Bool) : Lexer := { l with keyAllowed := allowed }

def skip (l : Lexer) (count : Nat) : Lexer := { l with cursor := l.cursor.skip count }

/-- Puts a token in front of all but the first `position` ones. -/
def insert (l : Lexer) (position : Nat) (t : Token) : Lexer :=
  { l with tokens := l.tokens.insertIdx (l.tokens.length - position) t }

/-- Gives up the possible key here, unless the indentation demands one. -/
def dropKey? (l : Lexer) : Option Lexer :=
  match l.keys with
  | some k :: rest => if k.required then none else some { l with keys := none :: rest }
  | _ => some l

/-- Notes that a key may begin here. -/
def noteKey? (l : Lexer) : Option Lexer :=
  if l.keyAllowed then
    l.dropKey?.map fun l =>
      let c := l.cursor
      let required := ! l.inFlow && l.indent == c.column
      { l with keys := some ⟨required, l.tokens.length, c.index, c.line, c.column⟩ :: l.keys.drop 1 }
  else some l

/-- A key is over at the end of its line and after 1024 characters. -/
def dropStaleKeys? (l : Lexer) : Option Lexer :=
  let stale (k : PossibleKey) : Bool := k.line < l.cursor.line || k.index + 1024 < l.cursor.index
  if l.keys.any fun k => k.any fun k => stale k && k.required then none
  else some { l with keys := l.keys.map (·.filter (! stale ·)) }

/-- Opens a block at `column` if it is further in than the block around it. -/
def openBlock (l : Lexer) (column position : Nat) (t : Token) : Lexer :=
  if ! l.inFlow && l.indent < column then
    { l.insert position t with indent := column, indents := l.indent :: l.indents }
  else l

/-- Closes the blocks that are further in than `column`. -/
def closeBlocks (column : Int) (l : Lexer) : Lexer :=
  if l.inFlow then l else go l.indents l
where
  go : List Int → Lexer → Lexer
    | [], l => l
    | outer :: rest, l =>
      if column < l.indent then
        go rest { l.push .blockEnd with indent := outer, indents := rest }
      else l

/-- Skips blanks, comments and line breaks. A tab is no indentation. -/
def skipGap : Nat → Lexer → Lexer
  | 0, l => l
  | fuel + 1, l =>
    let c := if l.cursor.index == 0 && l.cursor.looksAt '\ufeff' then l.cursor.skip 1 else l.cursor
    let c := c.skipWhile fun x => x == ' ' || ((l.inFlow || ! l.keyAllowed) && x == '\t')
    let c := if c.looksAt '#' then c.skipWhile (! isBreak ·) else c
    if c.rest.isEmpty || ! c.lineEndsAt 0 then { l with cursor := c }
    else skipGap fuel { l with cursor := c.skipBreak, keyAllowed := ! l.inFlow || l.keyAllowed }

/-- Ends every block and key, before something that stands outside all of them. -/
def leaveBlocks? (l : Lexer) : Option Lexer :=
  ((l.closeBlocks (-1)).dropKey?).map (·.allowKey false)

def openFlow? (l : Lexer) (t : Token) : Option Lexer :=
  l.noteKey?.map fun l => ((({ l with keys := none :: l.keys }).allowKey true).skip 1).push t

def closeFlow? (l : Lexer) (t : Token) : Option Lexer :=
  l.dropKey?.map fun l =>
    let keys := if l.keys.length > 1 then l.keys.drop 1 else l.keys
    ((({ l with keys }).allowKey false).skip 1).push t

/-- A dash or a question mark, which in a block may stand only where a key may. -/
def blockMark? (l : Lexer) (opening t : Token) (allowed : Bool) : Option Lexer :=
  if ! l.inFlow && ! l.keyAllowed then none
  else
    (l.openBlock l.cursor.column l.tokens.length opening).dropKey?.map fun l =>
      ((l.allowKey allowed).skip 1).push t

/-- A colon, which makes the possible key before it a key. -/
def valueMark? (l : Lexer) : Option Lexer :=
  match l.keys with
  | some k :: rest =>
    let l := ({ l with keys := none :: rest }).insert k.position .key
    some (((l.openBlock k.column k.position .blockMappingStart).allowKey false).skip 1 |>.push .value)
  | _ =>
    if ! l.inFlow && ! l.keyAllowed then none
    else
      let l := l.openBlock l.cursor.column l.tokens.length .blockMappingStart
      some (((l.allowKey (! l.inFlow)).skip 1).push .value)

/-- A token that may begin a key, read by `read`. -/
def keyed? (l : Lexer) (read : Cursor → Option (Token × Cursor)) : Option Lexer := do
  let l ← l.noteKey?
  let (t, c) ← read l.cursor
  return ({ l with cursor := c, keyAllowed := false }).push t

def quoted? (single : Bool) (c : Cursor) : Option (Token × Cursor) :=
  (quotedScalar? single (c.rest.length + 1) [] (c.skip 1)).map fun (text, c) =>
    (.scalar .quoted (.ofList text), c)

def block? (l : Lexer) (literal : Bool) : Option Lexer := do
  let l ← l.dropKey?
  let (text, c) ← blockScalar? literal l.indent (l.cursor.skip 1)
  let style := if literal then Style.literal else .folded
  return ({ l with cursor := c, keyAllowed := true }).push (.scalar style (.ofList text))

def plain? (l : Lexer) : Option Lexer := do
  let l ← l.noteKey?
  let (text, gap, c) ←
    plainScalar? l.inFlow (l.indent + 1).toNat (l.cursor.rest.length + 1) [] .empty l.cursor
  return ({ l with cursor := c, keyAllowed := gap.spansLines }).push (.scalar .plain (.ofList text))

/-- May a plain scalar begin with the character at hand? -/
def plainStarts (l : Lexer) (x : Char) : Bool :=
  let next := l.cursor.rest[1]?
  ! "-?:,[]\x7b\x7d#&*!|>'\"%@`".toList.contains x && ! isBlank x ||
    (x == '-' && ! (next.map isBlank).getD false) ||
    (! l.inFlow && (x == '?' || x == ':') && ! l.cursor.wordEndsAt 1)

/-- Reads one token, with the block ends before it. -/
def step? (l : Lexer) : Option (Lexer × Bool) := do
  let l ← (l.skipGap (l.cursor.rest.length + 1)).dropStaleKeys?
  let l := l.closeBlocks l.cursor.column
  let c := l.cursor
  let spaced := l.inFlow || c.wordEndsAt 1
  match c.peek? with
  | none => return (← l.leaveBlocks?, true)
  | some x =>
    let next ←
      if c.column == 0 && x == '%' then do
        let l ← l.leaveBlocks?
        let (t, c) ← directive? l.cursor
        pure (({ l with cursor := c }).push t)
      else if c.hasMark '-' then l.leaveBlocks?.map fun l => (l.skip 3).push .documentStart
      else if c.hasMark '.' then l.leaveBlocks?.map fun l => (l.skip 3).push .documentEnd
      else if x == '[' then l.openFlow? .flowSequenceStart
      else if x == '\x7b' then l.openFlow? .flowMappingStart
      else if x == ']' then l.closeFlow? .flowSequenceEnd
      else if x == '\x7d' then l.closeFlow? .flowMappingEnd
      else if x == ',' then l.dropKey?.map fun l => ((l.allowKey true).skip 1).push .flowEntry
      else if x == '-' && c.wordEndsAt 1 then l.blockMark? .blockSequenceStart .blockEntry true
      else if x == '?' && spaced then l.blockMark? .blockMappingStart .key (! l.inFlow)
      else if x == ':' && spaced then l.valueMark?
      else if x == '*' then
        l.keyed? fun c => (name? (c.skip 1)).map fun (n, c) => (.alias n, c)
      else if x == '&' then
        l.keyed? fun c => (name? (c.skip 1)).map fun (n, c) => (.anchor n, c)
      else if x == '!' then l.keyed? (tag? l.inFlow)
      else if x == '|' && ! l.inFlow then l.block? true
      else if x == '>' && ! l.inFlow then l.block? false
      else if x == '\'' then l.keyed? (quoted? true)
      else if x == '"' then l.keyed? (quoted? false)
      else if l.plainStarts x then l.plain?
      else none
    return (next, false)

/-- Reads to the end; each token takes a character at least. -/
def run? : Nat → Lexer → Option (List Token)
  | 0, _ => none
  | fuel + 1, l => do
    let (l, done) ← l.step?
    if done then return l.tokens.reverse else run? fuel l

end Lexer

/-- The tokens of a text, if it holds no character and no mark that is out of place. -/
def tokens? (text : String) : Option (List Token) :=
  if text.toList.all isAllowed then Lexer.run? (text.length + 2) (.start text) else none

end LintRepair.Yaml
