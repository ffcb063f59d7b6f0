import LintRepair.Text.Bytes

/-!
Shell scripts as values.
-/

namespace LintRepair.Shell

inductive RedirectKind where
  | input
  | output
  | append
  | both
  /-- Makes one descriptor stand for another. -/
  | duplicate
  /-- The target is the text itself. -/
  | here
  deriving DecidableEq

mutual

/-- A part of a word. -/
inductive Piece where
  /-- Characters as written; the marks of patterns among them count. -/
  | plain (text : Bytes)
  | quoted (text : Bytes)
  | parameter (name : Bytes) (use : ParameterUse) (quoted : Bool)
  /-- What a script prints. -/
  | output (script : List Command) (quoted : Bool)
  | arithmetic (expression : List Piece) (quoted : Bool)

/-- What becomes of a parameter's value. Where `orEmpty` is set, an empty value counts as none. -/
inductive ParameterUse where
  | value
  | length
  | orElse (orEmpty : Bool) (word : List Piece)
  | assign (orEmpty : Bool) (word : List Piece)
  | require (orEmpty : Bool) (word : List Piece)
  | instead (orEmpty : Bool) (word : List Piece)
  | trimStart (longest : Bool) (pattern : List Piece)
  | trimEnd (longest : Bool) (pattern : List Piece)
  /-- Something else is written there. -/
  | unknown

inductive Redirect where
  | mk (descriptor : Nat) (kind : RedirectKind) (target : List Piece)

inductive Command where
  | simple (line : Nat) (assignments : List (Bytes × List Piece)) (words : List (List Piece))
      (redirects : List Redirect)
  | pipeline (negated : Bool) (parts : List Command)
  | andThen (first second : Command)
  | orElse (first second : Command)
  | sequence (commands : List Command)
  | background (command : Command)
  | subshell (body : Command)
  | branch (condition yes no : Command)
  | loop (untilTrue : Bool) (condition body : Command)
  /-- Runs the body for each word, or for each positional parameter. -/
  | each (name : Bytes) (words : Option (List (List Piece))) (body : Command)
  | choose (word : List Piece) (arms : List (List (List Piece) × Command))
  | define (name : Bytes) (body : Command)
  | redirected (line : Nat) (body : Command) (redirects : List Redirect)

end

abbrev Word := List Piece

namespace Command

/-- The command that does nothing. -/
def skip : Command := .sequence []

end Command

/-- The text of a word that is written without quotes and expansions. -/
def plainText? : Word → Option Bytes
  | [.plain text] => some text
  | _ => none

end LintRepair.Shell
