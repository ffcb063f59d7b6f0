import LintRepair.Unicode.CharSet
import Std.Data.HashSet

/-!
Patterns over text and where they match. A pattern tries its alternatives in
order, so its matches at a place form a list with the preferred one first.
-/

namespace LintRepair

/-- How the characters around a place have to relate to words. -/
inductive WordRule where
  | boundary
  | inside
  | start
  | finish
  | startHalf
  | finishHalf
  deriving DecidableEq, Repr

/-- Conditions on a place. In lines that end in a carriage return, that one and the line feed
behind it are one end. -/
inductive Look where
  | textStart
  | textEnd
  | lineStart (withReturns : Bool)
  | lineEnd (withReturns : Bool)
  | word (asciiOnly : Bool) (rule : WordRule)
  deriving DecidableEq, Repr

namespace Look

def holds (previous next : Option Char) : Look → Bool
  | textStart => previous.isNone
  | textEnd => next.isNone
  | lineStart false => previous.isNone || previous == some '\n'
  | lineStart true =>
    previous.isNone || previous == some '\n' || (previous == some '\r' && next != some '\n')
  | lineEnd false => next.isNone || next == some '\n'
  | lineEnd true =>
    next.isNone || next == some '\r' || (next == some '\n' && previous != some '\r')
  | word asciiOnly rule =>
    let isIn := fun c : Char => isWord c && !(asciiOnly && 128 ≤ c.toNat)
    let before := previous.any isIn
    let behind := next.any isIn
    match rule with
    | .boundary => before != behind
    | .inside => before == behind
    | .start => !before && behind
    | .finish => before && !behind
    | .startHalf => !before
    | .finishHalf => !behind

end Look

inductive Pattern where
  | empty
  | set (s : CharSet)
  | look (l : Look)
  | seq (a b : Pattern)
  | alt (a b : Pattern)
  /-- Repeats a pattern as often as it can if `greedy`, else as rarely as it can. -/
  | times (p : Pattern) (least : Nat) (most : Option Nat) (greedy : Bool)
  deriving DecidableEq

/-- A place in a text: how many characters have been passed, the last one of them, and what is
left. -/
structure Place where
  index : Nat
  previous : Option Char
  rest : List Char

namespace Pattern

/-- The places at which matches end, the preferred one first. -/
abbrev Ends := List Place

def isAmong (place : Place) (ends : Ends) : Bool := ends.any (·.index == place.index)

/-- Keeps the first of equal places, and none whose index has been seen. -/
def dedupeFrom (seen : Std.HashSet Nat) : Ends → Ends
  | [] => []
  | place :: rest =>
    if seen.contains place.index then dedupeFrom seen rest
    else place :: dedupeFrom (seen.insert place.index) rest

/-- Keeps the first of equal places. -/
def dedupe : Ends → Ends
  | [] => []
  | [place] => [place]
  | ends => dedupeFrom ∅ ends

/-- Adds the places behind up to `most` characters of a set, from none on, to those reached so far,
the last of them first. -/
def runFrom (s : CharSet) (most : Option Nat) (reached : Ends) (index : Nat)
    (previous : Option Char) : List Char → Ends
  | [] => ⟨index, previous, []⟩ :: reached
  | c :: rest =>
    let reached := ⟨index, previous, c :: rest⟩ :: reached
    if most != some 0 && s.mem c then
      runFrom s (most.map (· - 1)) reached (index + 1) (some c) rest
    else reached

/-- The ends of a repetition of single characters. -/
def run (s : CharSet) (least : Nat) (most : Option Nat) (greedy : Bool) (place : Place) : Ends :=
  let all := runFrom s most [] place.index place.previous place.rest
  let longest := all.take (all.length - least)
  if greedy then longest else longest.reverse

/-- Adds to the places reached so far, the last of them first, those that further rounds of `step`
reach from a place. A round that does not move on is not taken. -/
def explore (step : Place → Ends) (greedy : Bool) : (fuel : Nat) → Ends → Place → Ends
  | 0, reached, place => if isAmong place reached then reached else place :: reached
  | fuel + 1, reached, place =>
    if isAmong place reached then reached
    else
      let next := (step place).filter (place.index < ·.index)
      if greedy then place :: next.foldl (explore step greedy fuel) reached
      else next.foldl (explore step greedy fuel) (place :: reached)

/-- The ends of one round or more. A first round that does not move on is the last. -/
def rounds (step : Place → Ends) (greedy : Bool) (place : Place) : Ends :=
  ((step place).foldl (fun reached next =>
    if next.index == place.index then if isAmong next reached then reached else next :: reached
    else explore step greedy next.rest.length reached next) []).reverse

/-- What a bounded repetition has seen: the rounds left at each place, and the places reached, the
last of them first. -/
structure Trail where
  seen : Std.HashSet (Nat × Nat)
  reached : Ends

def Trail.reach (t : Trail) (place : Place) : Trail :=
  if isAmong place t.reached then t else { t with reached := place :: t.reached }

/-- Adds the ends of up to so many rounds. -/
def upTo (step : Place → Ends) (greedy : Bool) : (rounds : Nat) → Trail → Place → Trail
  | 0, trail, place => trail.reach place
  | left + 1, trail, place =>
    if trail.seen.contains (left, place.index) then trail
    else
      let trail := { trail with seen := trail.seen.insert (left, place.index) }
      if greedy then ((step place).foldl (upTo step greedy left) trail).reach place
      else (step place).foldl (upTo step greedy left) (trail.reach place)

/-- The ends of exactly so many rounds. -/
def exactly (step : Place → Ends) : (rounds : Nat) → Ends → Ends
  | 0, places => places
  | rounds + 1, places => exactly step rounds (dedupe (places.flatMap step))

/-- The ends of a repetition. -/
def repeated (step : Place → Ends) (least : Nat) (most : Option Nat) (greedy : Bool)
    (place : Place) : Ends :=
  match least, most with
  | 0, none =>
    if greedy then dedupe (rounds step greedy place ++ [place])
    else dedupe (place :: rounds step greedy place)
  | least + 1, none => dedupe ((exactly step least [place]).flatMap (rounds step greedy))
  | least, some most =>
    ((exactly step least [place]).foldl (upTo step greedy (most - least)) ⟨∅, []⟩).reached.reverse

/-- Where the matches of a pattern that start at a place end, the preferred match first. -/
def ends : Pattern → Place → Ends
  | empty, place => [place]
  | set s, place =>
    match place.rest with
    | c :: rest => if s.mem c then [⟨place.index + 1, some c, rest⟩] else []
    | [] => []
  | look l, place => if l.holds place.previous place.rest.head? then [place] else []
  | seq a b, place => dedupe ((a.ends place).flatMap b.ends)
  | alt a b, place => dedupe (a.ends place ++ b.ends place)
  | times (set s) least most greedy, place => run s least most greedy place
  | times p least most greedy, place => repeated p.ends least most greedy place

/-- How many characters the preferred match at a place takes. -/
def matchLength? (p : Pattern) (previous : Option Char) (s : List Char) : Option Nat :=
  (p.ends ⟨0, previous, s⟩).head?.map Place.index

end Pattern

end LintRepair
