import LintRepair.Pattern.Basic
import LintRepair.Shell.Glob

/-!
Regular expressions of the text utilities, in the basic and the extended style. The longest
match at the leftmost place counts, and groups can be referred to.
-/

namespace LintRepair.Shell

inductive Regex where
  | empty
  | any
  | set (negated : Bool) (ranges : List (Char × Char))
  | look (l : Look)
  | group (number : Nat) (r : Regex)
  /-- What a group has matched. -/
  | same (number : Nat)
  | seq (a b : Regex)
  | alt (a b : Regex)
  | times (r : Regex) (least : Nat) (most : Option Nat)

namespace Regex

/-- A way to match: where it ends, and what the groups hold. -/
structure Way where
  place : Place
  groups : List (Nat × Bytes)

def dedupe (ways : List Way) : List Way :=
  (ways.foldl (fun kept w =>
    if kept.any fun k => k.place.index == w.place.index then kept else w :: kept) []).reverse

def rounds (step : Way → List Way) (least : Nat) (most : Option Nat) : Nat → Nat → Way → List Way
  | 0, count, w => if least ≤ count then [w] else []
  | fuel + 1, count, w =>
    let more :=
      if most.any (· ≤ count) then []
      else
        let next := (step w).filter fun n => w.place.index < n.place.index || count < least
        dedupe (next.flatMap (rounds step least most fuel (count + 1)))
    if least ≤ count then dedupe (more ++ [w]) else more

/-- Characters are compared without regard to case if `fold`. -/
def sameChar (fold : Bool) (c d : Char) : Bool := c == d || (fold && c.toLower == d.toLower)

def inRanges (fold : Bool) (ranges : List (Char × Char)) (c : Char) : Bool :=
  let isIn (c : Char) : Bool := ranges.any fun r => r.1 ≤ c && c ≤ r.2
  isIn c || (fold && (isIn c.toLower || isIn c.toUpper))

/-- The ways to match from a place, greedy ones first. -/
def ways (fold : Bool) : Regex → Way → List Way
  | empty, w => [w]
  | any, w =>
    match w.place.rest with
    | c :: rest => [{ w with place := ⟨w.place.index + 1, some c, rest⟩ }]
    | [] => []
  | set negated ranges, w =>
    match w.place.rest with
    | c :: rest =>
      if inRanges fold ranges c != negated then
        [{ w with place := ⟨w.place.index + 1, some c, rest⟩ }]
      else []
    | [] => []
  | look l, w => if l.holds w.place.previous w.place.rest.head? then [w] else []
  | group number r, w =>
    (ways fold r w).map fun e =>
      let text := w.place.rest.take (e.place.index - w.place.index)
      { e with groups := (number, text) :: e.groups.filter (·.1 != number) }
  | same number, w =>
    match w.groups.lookup number with
    | some text =>
      let here := w.place.rest.take text.length
      if here.length == text.length && (here.zip text).all fun p => sameChar fold p.1 p.2 then
        [{ w with place := ⟨w.place.index + text.length, here.getLast?.or w.place.previous,
            w.place.rest.drop text.length⟩ }]
      else []
    | none => []
  | seq a b, w => dedupe ((ways fold a w).flatMap (ways fold b))
  | alt a b, w => dedupe (ways fold a w ++ ways fold b w)
  | times r least most, w =>
    rounds (ways fold r) least most (w.place.rest.length + least + 1) 0 w

/-- A match: where it begins, its length, and the groups. -/
structure Found where
  start : Nat
  length : Nat
  groups : List (Nat × Bytes)

/-- The longest match from one place. -/
def foundAt? (r : Regex) (fold : Bool) (place : Place) : Option Found :=
  let longest := (r.ways fold ⟨place, []⟩).foldl (fun best w =>
    match best with
    | none => some w
    | some b => if b.place.index < w.place.index then some w else some b) none
  longest.map fun w => ⟨place.index, w.place.index - place.index, w.groups⟩

/-- The leftmost match from an index on. -/
def search? (r : Regex) (fold : Bool) : Nat → Option Char → Bytes → Option Found
  | index, previous, [] => r.foundAt? fold ⟨index, previous, []⟩
  | index, previous, c :: rest =>
    match r.foundAt? fold ⟨index, previous, c :: rest⟩ with
    | some f => some f
    | none => search? r fold (index + 1) (some c) rest

def occursIn (r : Regex) (fold : Bool) (line : Bytes) : Bool := (r.search? fold 0 none line).isSome

/-! Reading. -/

/-- What is left, and how many groups have been opened. -/
structure Source where
  rest : Bytes
  groups : Nat

abbrev Reading := StateT Source Option

def one (c : Char) : Regex := .set false [(c, c)]

def advance (rest : Bytes) : Reading Unit := modify fun s => { s with rest }

/-- The bounds of a repetition, such as `2,3`. -/
def bounds? (text : Bytes) : Option (Nat × Option Nat) :=
  let least := text.takeWhile Char.isDigit
  match text.drop least.length with
  | [] => (natOfDigits? 10 least).map fun n => (n, some n)
  | [','] => some ((natOfDigits? 10 least).getD 0, none)
  | ',' :: most => (natOfDigits? 10 most).map fun n => ((natOfDigits? 10 least).getD 0, some n)
  | _ => none

/-- The classes that a letter after a backslash stands for. -/
def escape? : Char → Option Regex
  | 'w' => some (.set false [('a', 'z'), ('A', 'Z'), ('0', '9'), ('_', '_')])
  | 'W' => some (.set true [('a', 'z'), ('A', 'Z'), ('0', '9'), ('_', '_')])
  | 's' => some (.set false [('\t', '\r'), (' ', ' ')])
  | 'S' => some (.set true [('\t', '\r'), (' ', ' ')])
  | 'b' => some (.look (.word true .boundary))
  | 'B' => some (.look (.word true .inside))
  | '<' => some (.look (.word true .start))
  | '>' => some (.look (.word true .finish))
  | 'n' => some (one '\n')
  | 't' => some (one '\t')
  | _ => none

/-- The repetition that follows an item. -/
def repeat? (extended : Bool) : Bytes → Option (Nat × Option Nat × Bytes)
  | '*' :: rest => some (0, none, rest)
  | '+' :: rest => if extended then some (1, none, rest) else none
  | '?' :: rest => if extended then some (0, some 1, rest) else none
  | '\\' :: '+' :: rest => if extended then none else some (1, none, rest)
  | '\\' :: '?' :: rest => if extended then none else some (0, some 1, rest)
  | '\x7b' :: rest =>
    if extended then
      let text := rest.takeWhile (· != '\x7d')
      match rest.drop text.length with
      | '\x7d' :: after => (bounds? text).map fun (a, b) => (a, b, after)
      | _ => none
    else none
  | '\\' :: '\x7b' :: rest =>
    if extended then none
    else
      let text := rest.takeWhile (· != '\\')
      match rest.drop text.length with
      | '\\' :: '\x7d' :: after => (bounds? text).map fun (a, b) => (a, b, after)
      | _ => none
  | _ => none

def isAlternation (extended : Bool) : Bytes → Option Bytes
  | '|' :: rest => if extended then some rest else none
  | '\\' :: '|' :: rest => if extended then none else some rest
  | _ => none

def isGroupEnd (extended : Bool) : Bytes → Option Bytes
  | ')' :: rest => if extended then some rest else none
  | '\\' :: ')' :: rest => if extended then none else some rest
  | _ => none

mutual

/-- Alternatives up to the end of the text or of the group. -/
def alternatives (fuel : Nat) (extended inGroup : Bool) : Reading Regex :=
  match fuel with
  | 0 => failure
  | fuel + 1 => do
    let first ← branch fuel extended inGroup true
    match isAlternation extended (← get).rest with
    | some rest =>
      advance rest
      return .alt first (← alternatives fuel extended inGroup)
    | none => return first

/-- Items one after the other; `first` tells whether the next one begins the branch. -/
def branch (fuel : Nat) (extended inGroup first : Bool) : Reading Regex :=
  match fuel with
  | 0 => failure
  | fuel + 1 => do
    let rest := (← get).rest
    if rest.isEmpty || (isAlternation extended rest).isSome ||
        (inGroup && (isGroupEnd extended rest).isSome) then return .empty
    let item ← atom fuel extended inGroup first
    let starts := match item with
      | .look .textStart => true
      | _ => false
    let item ← repetitions fuel extended (! extended && starts) item
    return .seq item (← branch fuel extended inGroup (! extended && starts))

def repetitions (fuel : Nat) (extended starts : Bool) (item : Regex) : Reading Regex :=
  match fuel with
  | 0 => return item
  | fuel + 1 => do
    if starts then return item
    match repeat? extended (← get).rest with
    | some (least, most, rest) =>
      advance rest
      repetitions fuel extended starts (.times item least most)
    | none => return item

def atom (fuel : Nat) (extended inGroup first : Bool) : Reading Regex :=
  match fuel with
  | 0 => failure
  | fuel + 1 => do
    let s ← get
    let opened : Option Bytes := match s.rest with
      | '(' :: rest => if extended then some rest else none
      | '\\' :: '(' :: rest => if extended then none else some rest
      | _ => none
    match opened, s.rest with
    | some rest, _ =>
      modify fun s => { s with rest, groups := s.groups + 1 }
      let body ← alternatives fuel extended true
      match isGroupEnd extended (← get).rest with
      | some rest =>
        advance rest
        return .group (s.groups + 1) body
      | none => failure
    | none, '.' :: rest =>
      advance rest
      return .any
    | none, '[' :: rest =>
      let negated := rest.head? == some '^'
      let body := if negated then rest.drop 1 else rest
      match Glob.ranges? (body.length + 1) true body with
      | some (ranges, n) =>
        advance (body.drop n)
        return .set negated ranges
      | none => failure
    | none, '^' :: rest =>
      advance rest
      return if extended || first then .look .textStart else one '^'
    | none, '$' :: rest =>
      advance rest
      let last := rest.isEmpty || (isAlternation extended rest).isSome ||
        (inGroup && (isGroupEnd extended rest).isSome)
      return if extended || last then .look .textEnd else one '$'
    | none, '*' :: rest =>
      advance rest
      return one '*'
    | none, '\\' :: c :: rest =>
      advance rest
      if c.isDigit && c != '0' then return .same (c.toNat - '0'.toNat)
      return (escape? c).getD (one c)
    | none, ['\\'] => failure
    | none, c :: rest =>
      advance rest
      return one c
    | none, [] => failure

end

/-- Reads a regular expression. -/
def ofText? (extended : Bool) (text : Bytes) : Option Regex :=
  match (alternatives (4 * text.length + 8) extended false).run ⟨text, 0⟩ with
  | some (r, ⟨[], _⟩) => some r
  | _ => none

/-- The expression that matches exactly a text. -/
def literal : Bytes → Regex
  | [] => .empty
  | c :: rest => .seq (one c) (literal rest)

end Regex

end LintRepair.Shell
