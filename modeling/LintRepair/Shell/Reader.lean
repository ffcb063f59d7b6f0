import LintRepair.Shell.Script
import LintRepair.Text.Digit

/-!
Reading shell scripts.

All functions that read take a count; the characters left bound it, since a chain of calls that
takes no character is short.
-/

namespace LintRepair.Shell

inductive Token where
  | finish
  | newline
  | mark (text : String)
  | redirect (descriptor : Option Nat) (mark : String)
  | word (pieces : Word)

structure SyntaxError where
  line : Nat
  message : String

/-- What is left of a script, and the token that was looked at ahead of it. -/
structure Source where
  rest : Bytes
  line : Nat
  ahead : Option Token

abbrev Reading := StateT Source (Except SyntaxError)

def reservedWords : List String :=
  ["!", "case", "do", "done", "elif", "else", "esac", "fi", "for", "if", "in", "then", "until",
   "while", "\x7b", "\x7d"]

/-- The marks between words, longer ones first. -/
def marks : List String := ["&&", "||", ";;", "&", "|", ";", "(", ")"]

def redirectMarks : List String := ["<<-", "<<", "<>", "<&", ">>", ">&", ">|", "<", ">"]

def isBlank (c : Char) : Bool := c == ' ' || c == '\t'

/-- Ends a word. -/
def isWordEnd (c : Char) : Bool := isBlank c || "\n|&;<>()".toList.contains c

def isNameStart (c : Char) : Bool := c.isAlpha || c == '_'

def isNameChar (c : Char) : Bool := c.isAlphanum || c == '_'

def isName (text : Bytes) : Bool := (text.head?.map isNameStart).getD false && text.all isNameChar

def isSpecialParameter (c : Char) : Bool := c.isDigit || "?#@*$!-".toList.contains c

namespace Token

/-- How a complaint names the token. -/
def describe : Token → String
  | finish => "end of file"
  | newline => "newline"
  | mark text => s!"\"{text}\""
  | redirect _ _ => "redirection"
  | word pieces =>
    match plainText? pieces with
    | some text =>
      let text := String.ofList text
      if reservedWords.contains text then s!"\"{text}\"" else "word"
    | none => "word"

def isReserved (t : Token) (text : String) : Bool :=
  match t with
  | word pieces => plainText? pieces == some text.toList
  | _ => false

end Token

/-- Splits `name=value` at the start of a word. -/
def assignment? : Word → Option (Bytes × Word)
  | .plain text :: rest =>
    let name := text.takeWhile (· != '=')
    match text.drop name.length with
    | '=' :: value =>
      if isName name then
        some (name, if value.isEmpty then rest else .plain value :: rest)
      else none
    | _ => none
  | _ => none

/-- Adds a character to the pieces of a word, last piece first. -/
def addChar (quoted : Bool) (c : Char) : List Piece → List Piece
  | .plain text :: rest =>
    if quoted then .quoted [c] :: .plain text :: rest else .plain (text ++ [c]) :: rest
  | .quoted text :: rest =>
    if quoted then .quoted (text ++ [c]) :: rest else .plain [c] :: .quoted text :: rest
  | pieces => (if quoted then .quoted [c] else .plain [c]) :: pieces

/-- All positional parameters in quotes are no word if there are none; so nothing stands beside
them. -/
def withoutEmpty (before : Nat) : List Piece → List Piece
  | .parameter ['@'] use true :: .quoted [] :: rest =>
    if rest.length == before then .parameter ['@'] use true :: rest
    else .parameter ['@'] use true :: .quoted [] :: rest
  | pieces => pieces

/-- Does any part of a word stand in quotes? -/
def hasQuotes (w : Word) : Bool :=
  w.any fun
    | .quoted _ => true
    | _ => false

def literalText (w : Word) : Bytes :=
  w.flatMap fun
    | .plain text | .quoted text => text
    | _ => []

/-- Cuts a text before the line that is `delimiter`: the lines before it and what follows it. -/
def cutAtLine (stripTabs : Bool) (delimiter : Bytes) : Nat → Bytes → Bytes × Bytes
  | 0, text => ([], text)
  | fuel + 1, text =>
    if text.isEmpty then ([], [])
    else
      let line := text.takeWhile (· != '\n')
      let ending := (text.drop line.length).take 1
      let rest := text.drop (line.length + 1)
      let line := if stripTabs then line.dropWhile (· == '\t') else line
      if line == delimiter then ([], rest)
      else
        let (body, rest) := cutAtLine stripTabs delimiter fuel rest
        (line ++ ending ++ body, rest)

/-- Ends the raw text of a back-quoted script and takes the backslashes out that its quotes
need. -/
def backquoted? (inQuotes : Bool) : Bytes → Option (Bytes × Bytes)
  | [] => none
  | '`' :: rest => some ([], rest)
  | '\\' :: c :: rest =>
    (backquoted? inQuotes rest).map fun (text, rest) =>
      if c == '`' || c == '$' || c == '\\' || (inQuotes && c == '"') then (c :: text, rest)
      else ('\\' :: c :: text, rest)
  | c :: rest => (backquoted? inQuotes rest).map fun (text, rest) => (c :: text, rest)

namespace Reading

def fail {α : Type} (message : String) : Reading α := do
  throw ⟨(← get).line, message⟩

def unexpected {α : Type} (t : Token) (wanted : Option String) : Reading α :=
  fail (match wanted with
    | some w => s!"{t.describe} unexpected (expecting {w})"
    | none => s!"{t.describe} unexpected")

def rest : Reading Bytes := return (← get).rest

/-- Goes on to `rest`, which is the end of what is left. -/
def advanceTo (rest : Bytes) : Reading Unit := modify fun s =>
  let passed := s.rest.take (s.rest.length - rest.length)
  { s with rest, line := s.line + passed.count '\n' }

/-- Runs `read` on another text. -/
def within {α : Type} (text : Bytes) (read : Reading α) : Reading α := do
  let outer ← get
  set { outer with rest := text, ahead := none }
  let a ← read
  set outer
  return a

/-- Skips blanks, joined lines and a comment. -/
def skipBlanks : Nat → Reading Unit
  | 0 => return
  | fuel + 1 => do
    match (← rest) with
    | '\\' :: '\n' :: more =>
      advanceTo more
      skipBlanks fuel
    | '#' :: more => advanceTo (more.dropWhile (· != '\n'))
    | c :: more =>
      if isBlank c then
        advanceTo more
        skipBlanks fuel
    | [] => return

/-- Reads the lines of a here document, which follow the line at hand. -/
def takeHere (stripTabs : Bool) (delimiter : Bytes) : Reading Bytes := do
  let s ← get
  let line := s.rest.takeWhile (· != '\n')
  let after := s.rest.drop (line.length + 1)
  let (body, after) := cutAtLine stripTabs delimiter (after.length + 1) after
  set { s with rest := line ++ '\n' :: after }
  return body

mutual

/-- Reads pieces up to the end of a word, last piece first. -/
def wordPieces (fuel : Nat) (pieces : List Piece) : Reading (List Piece) :=
  match fuel with
  | 0 => return pieces
  | fuel + 1 => do
    match (← rest) with
    | [] => return pieces
    | '\\' :: '\n' :: more =>
      advanceTo more
      wordPieces fuel pieces
    | '\\' :: c :: more =>
      advanceTo more
      wordPieces fuel (addChar true c pieces)
    | c :: more =>
      if isWordEnd c then return pieces
      else
        wordPieces fuel (← unquotedPiece fuel c more pieces)

/-- Reads one piece outside double quotes that begins with `c`. -/
def unquotedPiece (fuel : Nat) (c : Char) (more : Bytes) (pieces : List Piece) :
    Reading (List Piece) :=
  match fuel with
  | 0 => return pieces
  | fuel + 1 => do
    match c with
    | '\'' =>
      let text := more.takeWhile (· != '\'')
      match more.drop text.length with
      | _ :: after =>
        advanceTo after
        return .quoted text :: pieces
      | [] => fail "Unterminated quoted string"
    | '"' =>
      advanceTo more
      let all ← quotedPieces fuel (some '"') (.quoted [] :: pieces)
      return withoutEmpty pieces.length all
    | '$' =>
      advanceTo more
      dollar fuel false pieces
    | '`' =>
      advanceTo more
      return (← backquote fuel false) :: pieces
    | '\\' =>
      advanceTo more
      return addChar true '\\' pieces
    | c =>
      advanceTo more
      return addChar false c pieces

/-- Reads pieces inside double quotes up to their end, or inside a here document up to the end of
the text. -/
def quotedPieces (fuel : Nat) (stop : Option Char) (pieces : List Piece) : Reading (List Piece) :=
  match fuel with
  | 0 => return pieces
  | fuel + 1 => do
    match (← rest) with
    | [] => if stop.isSome then fail "Unterminated quoted string" else return pieces
    | '\\' :: '\n' :: more =>
      advanceTo more
      quotedPieces fuel stop pieces
    | '\\' :: c :: more =>
      advanceTo more
      if c == '$' || c == '`' || c == '\\' || (stop.isSome && c == '"') then
        quotedPieces fuel stop (addChar true c pieces)
      else quotedPieces fuel stop (addChar true c (addChar true '\\' pieces))
    | '$' :: more =>
      advanceTo more
      quotedPieces fuel stop (← dollar fuel true pieces)
    | '`' :: more =>
      advanceTo more
      quotedPieces fuel stop ((← backquote fuel true) :: pieces)
    | c :: more =>
      advanceTo more
      if stop == some c then return pieces else quotedPieces fuel stop (addChar true c pieces)

/-- Reads what follows a dollar sign. -/
def dollar (fuel : Nat) (quoted : Bool) (pieces : List Piece) : Reading (List Piece) :=
  match fuel with
  | 0 => return pieces
  | fuel + 1 => do
    match (← rest) with
    | '(' :: '(' :: more =>
      advanceTo more
      let expression ← arithmeticPieces fuel 0 []
      return .arithmetic expression.reverse quoted :: pieces
    | '(' :: more =>
      advanceTo more
      let script ← list fuel
      expectMark fuel ")"
      return .output script quoted :: pieces
    | '\x7b' :: more =>
      advanceTo more
      return (← braces fuel quoted) :: pieces
    | c :: more =>
      if isNameStart c then
        let name := c :: more.takeWhile isNameChar
        advanceTo (more.drop (name.length - 1))
        return .parameter name .value quoted :: pieces
      else if isSpecialParameter c then
        advanceTo more
        return .parameter [c] .value quoted :: pieces
      else return addChar quoted '$' pieces
    | [] => return addChar quoted '$' pieces

/-- Reads a parameter in braces after the opening one. -/
def braces (fuel : Nat) (quoted : Bool) : Reading Piece :=
  match fuel with
  | 0 => fail "Bad substitution"
  | fuel + 1 => do
    match (← rest) with
    | '#' :: c :: more =>
      if c != '\x7d' && (isNameChar c || isSpecialParameter c) then
        let name := if isNameStart c then c :: more.takeWhile isNameChar else [c]
        match more.drop (name.length - 1) with
        | '\x7d' :: after =>
          advanceTo after
          return .parameter name .length quoted
        | _ => fail "Bad substitution"
      else bracesFor fuel ['#'] (c :: more) quoted
    | c :: more =>
      if isNameStart c then
        let name := c :: more.takeWhile isNameChar
        bracesFor fuel name (more.drop (name.length - 1)) quoted
      else if c.isDigit then
        let name := c :: more.takeWhile Char.isDigit
        bracesFor fuel name (more.drop (name.length - 1)) quoted
      else if isSpecialParameter c then bracesFor fuel [c] more quoted
      else fail "Bad substitution"
    | [] => fail "Missing '\x7d'"

/-- Reads what is done with a named parameter, up to the closing brace. -/
def bracesFor (fuel : Nat) (name : Bytes) (more : Bytes) (quoted : Bool) : Reading Piece :=
  match fuel with
  | 0 => fail "Bad substitution"
  | fuel + 1 => do
    let parameter (more : Bytes) (use : Word → ParameterUse) : Reading Piece := do
      advanceTo more
      let word ← braceWord fuel quoted []
      return .parameter name (use word.reverse) quoted
    match more with
    | '\x7d' :: after =>
      advanceTo after
      return .parameter name .value quoted
    | ':' :: '-' :: more => parameter more (.orElse true)
    | ':' :: '=' :: more => parameter more (.assign true)
    | ':' :: '?' :: more => parameter more (.require true)
    | ':' :: '+' :: more => parameter more (.instead true)
    | '-' :: more => parameter more (.orElse false)
    | '=' :: more => parameter more (.assign false)
    | '?' :: more => parameter more (.require false)
    | '+' :: more => parameter more (.instead false)
    | '%' :: '%' :: more => parameter more (.trimEnd true)
    | '%' :: more => parameter more (.trimEnd false)
    | '#' :: '#' :: more => parameter more (.trimStart true)
    | '#' :: more => parameter more (.trimStart false)
    | [] => fail "Missing '\x7d'"
    | more => parameter more fun _ => .unknown

/-- Reads the word inside braces up to the closing one. -/
def braceWord (fuel : Nat) (quoted : Bool) (pieces : List Piece) : Reading (List Piece) :=
  match fuel with
  | 0 => return pieces
  | fuel + 1 => do
    match (← rest) with
    | [] => fail "Missing '\x7d'"
    | '\x7d' :: more =>
      advanceTo more
      return pieces
    | '\\' :: c :: more =>
      advanceTo more
      braceWord fuel quoted (addChar true c pieces)
    | c :: more =>
      if quoted && (c == '\'' || isBlank c || isNameChar c) then
        advanceTo more
        braceWord fuel quoted (addChar true c pieces)
      else if quoted && c == '$' then
        advanceTo more
        braceWord fuel quoted (← dollar fuel true pieces)
      else braceWord fuel quoted (← unquotedPiece fuel c more pieces)

/-- Reads an arithmetic expression up to its two closing parentheses. -/
def arithmeticPieces (fuel : Nat) (depth : Nat) (pieces : List Piece) : Reading (List Piece) :=
  match fuel with
  | 0 => return pieces
  | fuel + 1 => do
    match (← rest) with
    | [] => fail "Missing '))'"
    | '\\' :: '\n' :: more =>
      advanceTo more
      arithmeticPieces fuel depth pieces
    | '$' :: more =>
      advanceTo more
      arithmeticPieces fuel depth (← dollar fuel true pieces)
    | '`' :: more =>
      advanceTo more
      arithmeticPieces fuel depth ((← backquote fuel true) :: pieces)
    | '(' :: more =>
      advanceTo more
      arithmeticPieces fuel (depth + 1) (addChar true '(' pieces)
    | ')' :: more =>
      match depth, more with
      | 0, ')' :: after =>
        advanceTo after
        return pieces
      | 0, _ => fail "Missing '))'"
      | depth + 1, _ =>
        advanceTo more
        arithmeticPieces fuel depth (addChar true ')' pieces)
    | '"' :: more =>
      advanceTo more
      arithmeticPieces fuel depth pieces
    | c :: more =>
      advanceTo more
      arithmeticPieces fuel depth (addChar true c pieces)

/-- Reads a script in back quotes after the opening one. -/
def backquote (fuel : Nat) (quoted : Bool) : Reading Piece :=
  match fuel with
  | 0 => fail "EOF in backquote substitution"
  | fuel + 1 => do
    match backquoted? quoted (← rest) with
    | none => fail "EOF in backquote substitution"
    | some (text, after) =>
      let script ← within text do
        let script ← list fuel
        match (← peek fuel) with
        | .finish => return script
        | t => unexpected t none
      advanceTo after
      return .output script quoted

/-- Looks at the next token. -/
def peek (fuel : Nat) : Reading Token :=
  match fuel with
  | 0 => return .finish
  | fuel + 1 => do
    match (← get).ahead with
    | some t => return t
    | none =>
      let t ← readToken fuel
      modify fun s => { s with ahead := some t }
      return t

def readToken (fuel : Nat) : Reading Token :=
  match fuel with
  | 0 => return .finish
  | fuel + 1 => do
    skipBlanks (fuel + 1)
    let text ← rest
    match text with
    | [] => return .finish
    | '\n' :: more =>
      advanceTo more
      return .newline
    | _ =>
      let digits := text.takeWhile Char.isDigit
      let behind := text.drop digits.length
      match redirectMarks.find? fun m => m.toList.isPrefixOf behind with
      | some m =>
        advanceTo (behind.drop m.length)
        return .redirect (natOfDigits? 10 digits) m
      | none =>
        match marks.find? fun m => m.toList.isPrefixOf text with
        | some m =>
          advanceTo (text.drop m.length)
          return .mark m
        | none => return .word (withHome (← wordPieces fuel []).reverse)

/-- Puts the home directory in place of a leading tilde. -/
def withHome (w : Word) : Word :=
  match w with
  | .plain ('~' :: text) :: rest =>
    if text.isEmpty && rest.isEmpty then [.parameter "HOME".toList .value true]
    else if text.head? == some '/' then
      .parameter "HOME".toList .value true :: .plain text :: rest
    else w
  | w => w

def next (fuel : Nat) : Reading Token :=
  match fuel with
  | 0 => return .finish
  | fuel + 1 => do
    let t ← peek fuel
    modify fun s => { s with ahead := none }
    return t

def expectMark (fuel : Nat) (text : String) : Reading Unit :=
  match fuel with
  | 0 => fail "out of place"
  | fuel + 1 => do
    match (← next fuel) with
    | .mark m => if m == text then return else unexpected (.mark m) (some s!"\"{text}\"")
    | .word _ => unexpected (.word []) (some s!"\"{text}\"")
    | t => unexpected t (some s!"\"{text}\"")

def expectReserved (fuel : Nat) (text : String) : Reading Unit :=
  match fuel with
  | 0 => fail "out of place"
  | fuel + 1 => do
    let t ← next fuel
    if t.isReserved text then return else unexpected t (some s!"\"{text}\"")

def skipNewlines (fuel : Nat) : Reading Unit :=
  match fuel with
  | 0 => return
  | fuel + 1 => do
    match (← peek fuel) with
    | .newline =>
      let _ ← next fuel
      skipNewlines fuel
    | _ => return

/-- Reads commands up to something that cannot begin one. -/
def list (fuel : Nat) : Reading (List Command) :=
  match fuel with
  | 0 => return []
  | fuel + 1 => do
    skipNewlines fuel
    if (← atListEnd fuel) then return []
    let (command, _) ← andOr fuel
    return command :: (← list fuel)

/-- Is the next token one that closes a list? -/
def atListEnd (fuel : Nat) : Reading Bool :=
  match fuel with
  | 0 => return true
  | fuel + 1 => do
    match (← peek fuel) with
    | .finish => return true
    | .mark m => return m == ")" || m == ";;"
    | t => return ["do", "done", "elif", "else", "esac", "fi", "then", "\x7d"].any t.isReserved

/-- Reads pipelines joined by `&&` and `||` with what ends them, and tells whether a line ended. -/
def andOr (fuel : Nat) : Reading (Command × Bool) :=
  match fuel with
  | 0 => fail "out of place"
  | fuel + 1 => do
    let first ← pipeline fuel
    let command ← andOrRest fuel first
    match (← peek fuel) with
    | .mark ";" =>
      let _ ← next fuel
      return (command, false)
    | .mark "&" =>
      let _ ← next fuel
      return (.background command, false)
    | .newline =>
      let _ ← next fuel
      return (command, true)
    | t =>
      if (← atListEnd fuel) then return (command, false) else unexpected t none

def andOrRest (fuel : Nat) (first : Command) : Reading Command :=
  match fuel with
  | 0 => return first
  | fuel + 1 => do
    match (← peek fuel) with
    | .mark "&&" =>
      let _ ← next fuel
      skipNewlines fuel
      andOrRest fuel (.andThen first (← pipeline fuel))
    | .mark "||" =>
      let _ ← next fuel
      skipNewlines fuel
      andOrRest fuel (.orElse first (← pipeline fuel))
    | _ => return first

def pipeline (fuel : Nat) : Reading Command :=
  match fuel with
  | 0 => fail "out of place"
  | fuel + 1 => do
    if (← peek fuel).isReserved "!" then
      let _ ← next fuel
      let body ← pipeline fuel
      match body with
      | .pipeline negated parts => return .pipeline (! negated) parts
      | body => return .pipeline true [body]
    else
      let first ← command fuel
      match (← pipelineRest fuel) with
      | [] => return first
      | more => return .pipeline false (first :: more)

def pipelineRest (fuel : Nat) : Reading (List Command) :=
  match fuel with
  | 0 => return []
  | fuel + 1 => do
    match (← peek fuel) with
    | .mark "|" =>
      let _ ← next fuel
      skipNewlines fuel
      let part ← command fuel
      return part :: (← pipelineRest fuel)
    | _ => return []

def command (fuel : Nat) : Reading Command :=
  match fuel with
  | 0 => fail "out of place"
  | fuel + 1 => do
    let line := (← get).line
    match (← peek fuel) with
    | .mark "(" =>
      let _ ← next fuel
      let body ← nonEmptyList fuel ")"
      expectMark fuel ")"
      withRedirects fuel line (.subshell (.sequence body))
    | .word pieces =>
      let reserved := match plainText? pieces with
        | some text => reservedWords.find? (·.toList == text)
        | none => none
      match reserved with
      | some "\x7b" =>
        let _ ← next fuel
        let body ← nonEmptyList fuel "\x7d"
        expectReserved fuel "\x7d"
        withRedirects fuel line (.sequence body)
      | some "if" =>
        let _ ← next fuel
        withRedirects fuel line (← branch fuel)
      | some "while" =>
        let _ ← next fuel
        let condition ← nonEmptyList fuel "do"
        withRedirects fuel line (.loop false (.sequence condition) (← doGroup fuel))
      | some "until" =>
        let _ ← next fuel
        let condition ← nonEmptyList fuel "do"
        withRedirects fuel line (.loop true (.sequence condition) (← doGroup fuel))
      | some "for" =>
        let _ ← next fuel
        withRedirects fuel line (← each fuel)
      | some "case" =>
        let _ ← next fuel
        withRedirects fuel line (← choose fuel)
      | some _ => unexpected (.word pieces) none
      | none => simple fuel line [] [] []
    | .redirect _ _ => simple fuel line [] [] []
    | t => unexpected t none

/-- A list of one command at least, before `wanted`. -/
def nonEmptyList (fuel : Nat) (wanted : String) : Reading (List Command) :=
  match fuel with
  | 0 => return []
  | fuel + 1 => do
    match (← list fuel) with
    | [] =>
      match (← peek fuel) with
      | .finish => unexpected .finish (some s!"\"{wanted}\"")
      | t => unexpected t none
    | commands => return commands

def doGroup (fuel : Nat) : Reading Command :=
  match fuel with
  | 0 => fail "out of place"
  | fuel + 1 => do
    expectReserved fuel "do"
    let body ← nonEmptyList fuel "done"
    expectReserved fuel "done"
    return .sequence body

/-- Reads a conditional after its first word. -/
def branch (fuel : Nat) : Reading Command :=
  match fuel with
  | 0 => fail "out of place"
  | fuel + 1 => do
    let condition ← nonEmptyList fuel "then"
    expectReserved fuel "then"
    let yes ← nonEmptyList fuel "fi"
    let t ← next fuel
    if t.isReserved "elif" then
      return .branch (.sequence condition) (.sequence yes) (← branch fuel)
    else if t.isReserved "else" then
      let no ← nonEmptyList fuel "fi"
      expectReserved fuel "fi"
      return .branch (.sequence condition) (.sequence yes) (.sequence no)
    else if t.isReserved "fi" then
      return .branch (.sequence condition) (.sequence yes) .skip
    else unexpected t (some "\"fi\"")

def each (fuel : Nat) : Reading Command :=
  match fuel with
  | 0 => fail "out of place"
  | fuel + 1 => do
    let name ← match (← next fuel) with
      | .word pieces =>
        match plainText? pieces with
        | some text => if isName text then pure text else fail "Bad for loop variable"
        | none => fail "Bad for loop variable"
      | _ => fail "Bad for loop variable"
    skipNewlines fuel
    if (← peek fuel).isReserved "in" then
      let _ ← next fuel
      let words ← wordList fuel
      match (← peek fuel) with
      | .mark ";" | .newline => let _ ← next fuel
      | t => unexpected t none
      skipNewlines fuel
      return .each name (some words) (← doGroup fuel)
    else
      match (← peek fuel) with
      | .mark ";" => let _ ← next fuel
      | _ => pure ()
      skipNewlines fuel
      return .each name none (← doGroup fuel)

def wordList (fuel : Nat) : Reading (List Word) :=
  match fuel with
  | 0 => return []
  | fuel + 1 => do
    match (← peek fuel) with
    | .word pieces =>
      let _ ← next fuel
      return pieces :: (← wordList fuel)
    | _ => return []

def choose (fuel : Nat) : Reading Command :=
  match fuel with
  | 0 => fail "out of place"
  | fuel + 1 => do
    match (← next fuel) with
    | .word subject =>
      skipNewlines fuel
      expectReserved fuel "in"
      skipNewlines fuel
      return .choose subject (← arms fuel)
    | t => unexpected t (some "word")

def arms (fuel : Nat) : Reading (List (List Word × Command)) :=
  match fuel with
  | 0 => return []
  | fuel + 1 => do
    skipNewlines fuel
    let t ← peek fuel
    if t.isReserved "esac" then
      let _ ← next fuel
      return []
    else
      match t with
      | .mark "(" => let _ ← next fuel
      | _ => pure ()
      let patterns ← alternatives fuel
      expectMark fuel ")"
      let body ← list fuel
      match (← peek fuel) with
      | .mark ";;" => let _ ← next fuel
      | t => if t.isReserved "esac" then pure () else unexpected t (some "\";;\"")
      return (patterns, .sequence body) :: (← arms fuel)

def alternatives (fuel : Nat) : Reading (List Word) :=
  match fuel with
  | 0 => return []
  | fuel + 1 => do
    match (← next fuel) with
    | .word pieces =>
      match (← peek fuel) with
      | .mark "|" =>
        let _ ← next fuel
        return pieces :: (← alternatives fuel)
      | _ => return [pieces]
    | t => unexpected t (some "word")

def withRedirects (fuel : Nat) (line : Nat) (body : Command) : Reading Command :=
  match fuel with
  | 0 => return body
  | fuel + 1 => do
    match (← redirects fuel) with
    | [] => return body
    | rs => return .redirected line body rs

def redirects (fuel : Nat) : Reading (List Redirect) :=
  match fuel with
  | 0 => return []
  | fuel + 1 => do
    match (← peek fuel) with
    | .redirect descriptor mark =>
      let _ ← next fuel
      let r ← redirect fuel descriptor mark
      return r :: (← redirects fuel)
    | _ => return []

/-- Reads the target of a redirection. -/
def redirect (fuel : Nat) (descriptor : Option Nat) (mark : String) : Reading Redirect :=
  match fuel with
  | 0 => fail "out of place"
  | fuel + 1 => do
    match (← next fuel) with
    | .word target =>
      let onInput := descriptor.getD 0
      let onOutput := descriptor.getD 1
      match mark with
      | "<" => return .mk onInput .input target
      | "<>" => return .mk onInput .both target
      | "<&" => return .mk onInput .duplicate target
      | ">&" => return .mk onOutput .duplicate target
      | ">>" => return .mk onOutput .append target
      | "<<" | "<<-" =>
        let body ← takeHere (mark == "<<-") (literalText target)
        if hasQuotes target then return .mk onInput .here [.quoted body]
        else
          let pieces ← within body (quotedPieces fuel none [.quoted []])
          return .mk onInput .here pieces.reverse
      | _ => return .mk onOutput .output target
    | t => unexpected t none

/-- Reads a simple command on from the parts it has, last ones first. -/
def simple (fuel : Nat) (line : Nat) (assigned : List (Bytes × Word)) (words : List Word)
    (redirected : List Redirect) : Reading Command :=
  match fuel with
  | 0 => fail "out of place"
  | fuel + 1 => do
    match (← peek fuel) with
    | .redirect descriptor mark =>
      let _ ← next fuel
      let r ← redirect fuel descriptor mark
      simple fuel line assigned words (r :: redirected)
    | .word pieces =>
      let _ ← next fuel
      match words, assignment? pieces with
      | [], some a => simple fuel line (a :: assigned) words redirected
      | _, _ => simple fuel line assigned (pieces :: words) redirected
    | .mark "(" =>
      match words, assigned, redirected with
      | [name], [], [] =>
        let _ ← next fuel
        expectMark fuel ")"
        match plainText? name with
        | some name =>
          if ! isName name then fail "Bad function name"
          skipNewlines fuel
          return .define name (← command fuel)
        | none => fail "Bad function name"
      | _, _, _ => unexpected (.mark "(") none
    | _ => return .simple line assigned.reverse words.reverse redirected.reverse

end

/-- Reads the commands of one line, with the lines that they go on to. -/
def line (fuel : Nat) : Reading (List Command) :=
  match fuel with
  | 0 => return []
  | fuel + 1 => do
    match (← peek fuel) with
    | .newline =>
      let _ ← next fuel
      return []
    | .finish => return []
    | _ =>
      let (command, ended) ← andOr fuel
      if ended then return [command]
      else
        match (← peek fuel) with
        | .finish | .newline | .mark ";" | .mark "&" => return command :: (← line fuel)
        | t => if (← atListEnd fuel) then unexpected t none else return command :: (← line fuel)

end Reading

/-- Reads a script line by line: the commands before the first error, and the error. -/
def readLines (fuel : Nat) : Nat → Source → List Command × Option SyntaxError
  | 0, _ => ([], none)
  | count + 1, source =>
    match (Reading.line fuel).run source with
    | .error e => ([], some e)
    | .ok (commands, source) =>
      match source.ahead, source.rest with
      | some .finish, _ | none, [] => (commands, none)
      | _, _ =>
        let (more, error) := readLines fuel count source
        (commands ++ more, error)

def readScript (text : Bytes) : List Command × Option SyntaxError :=
  readLines (16 * text.length + 64) (text.length + 1) ⟨text, 1, none⟩

end LintRepair.Shell
