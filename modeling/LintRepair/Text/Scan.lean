/-!
Scanning a text from left to right. A recogniser sees the character before a
place and the text from that place on.
-/

namespace LintRepair

/-- What is left of `s` after `start`, if it begins with it. -/
def after? (start s : List Char) : Option (List Char) :=
  match start, s with
  | [], s => some s
  | _ :: _, [] => none
  | a :: start, b :: s => if a = b then after? start s else none

/-- Does `part` stand somewhere in `s`? -/
def occursIn (part : List Char) : List Char → Bool
  | [] => part.isEmpty
  | c :: s => part.isPrefixOf (c :: s) || occursIn part s

/-- The first answer of a recogniser, going from left to right. -/
def firstMatch {α : Type} (recognise : Option Char → List Char → Option α) (previous : Option Char) :
    List Char → Option α
  | [] => recognise previous []
  | c :: s => (recognise previous (c :: s)).or (firstMatch recognise (some c) s)

/-- An edit at a place: the text to write instead, and how many characters after the first one it
stands for. -/
structure Substitution where
  text : List Char
  further : Nat

/-- Goes from left to right and takes every substitution that is offered, the next one no sooner
than behind the last. The first `skip` characters are dropped. -/
def substitute (offer : Option Char → List Char → Option Substitution) :
    (skip : Nat) → (previous : Option Char) → List Char → List Char
  | _, _, [] => []
  | skip + 1, _, c :: s => substitute offer skip (some c) s
  | 0, previous, c :: s =>
    match offer previous (c :: s) with
    | some edit => edit.text ++ substitute offer edit.further (some c) s
    | none => c :: substitute offer 0 (some c) s

/-- Takes every substitution that is offered in a whole text. -/
def substituteAll (offer : Option Char → List Char → Option Substitution) (s : List Char) :
    List Char :=
  substitute offer 0 none s

end LintRepair
