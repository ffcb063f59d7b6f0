import LintRepair.Pattern.Basic
import LintRepair.Unicode.ByteSequence
import Std.Data.TreeMap

/-!
How much room a pattern takes as an automaton over bytes. Counted repetitions
are written out, so a short text may need more room than there is.

There are two automata. One reads a text forwards and notes where groups start
and end; the other reads it backwards and notes nothing.
-/

namespace LintRepair

/-- A pattern in the form in which it is laid out. -/
inductive Layout where
  | text (chars : List Char)
  | oneOf (ranges : Ranges)
  | look (l : Look)
  | times (p : Layout) (least : Nat) (most : Option Nat) (greedy : Bool)
  | group (index : Nat) (p : Layout)
  | seq (a b : Layout)
  | alt (a b : Layout)
  /-- Alternatives that are all plain texts. -/
  | words (list : List (List Char))
  deriving DecidableEq

namespace Layout

def empty : Layout := text []

def ofRanges (ranges : Ranges) : Layout :=
  match ranges with
  | [(a, b)] => if a == b then text [Char.ofNat a] else oneOf ranges
  | _ => oneOf ranges

def ofSet (s : CharSet) : Layout := ofRanges s.ranges

/-- The parts of a sequence. -/
def parts : Layout → List Layout
  | text [] => []
  | seq a b => a.parts ++ b.parts
  | p => [p]

/-- Puts a part before others. Texts next to each other are one text. -/
def addPart (p : Layout) (rest : List Layout) : List Layout :=
  match p, rest with
  | text s, text t :: rest => text (s ++ t) :: rest
  | p, rest => p :: rest

def ofParts : List Layout → Layout
  | [] => empty
  | [p] => p
  | p :: rest => seq p (ofParts rest)

def concat (list : List Layout) : Layout :=
  ofParts ((list.flatMap parts).foldr addPart [])

/-- Can only the empty text be matched? -/
def isEmptyOnly : Layout → Bool
  | text chars => chars.isEmpty
  | oneOf _ => false
  | look _ => true
  | times p _ _ _ => p.isEmptyOnly
  | group _ p => p.isEmptyOnly
  | seq a b => a.isEmptyOnly && b.isEmptyOnly
  | alt a b => a.isEmptyOnly && b.isEmptyOnly
  | words list => list.all List.isEmpty

/-- The least length of a match, where there can be one. -/
def leastLength? : Layout → Option Nat
  | text chars => some chars.length
  | oneOf ranges => if ranges.isEmpty then none else some 1
  | look _ => some 0
  | times p least _ _ => p.leastLength?.map (· * least)
  | group _ p => p.leastLength?
  | seq a b => do return (← a.leastLength?) + (← b.leastLength?)
  | alt a b => do return min (← a.leastLength?) (← b.leastLength?)
  | words list => (list.map List.length).min?

/-- How often to repeat a layout for these counts. What is empty need not be repeated. -/
def counts (p : Layout) (least : Nat) (most : Option Nat) : Nat × Option Nat :=
  if p.isEmptyOnly then (min least 1, some (min (most.getD 1) 1)) else (least, most)

/-- A repetition. -/
def repeated (p : Layout) (least : Nat) (most : Option Nat) (greedy : Bool) : Layout :=
  if most == some 0 then empty
  else if least == 1 && most == some 1 then p
  else times p least most greedy

def branches : Layout → List Layout
  | alt a b => a.branches ++ b.branches
  | words list => list.map text
  | p => [p]

/-- The set of a layout that matches one character. -/
def single? : Layout → Option Ranges
  | text [c] => some [(c.toNat, c.toNat)]
  | oneOf ranges => some ranges
  | _ => none

def text? : Layout → Option (List Char)
  | text [] => none
  | text chars => some chars
  | _ => none

def ofBranches : List Layout → Layout
  | [] => oneOf []
  | [p] => p
  | p :: rest => alt p (ofBranches rest)

/-- Alternatives as they stand: single characters are one set, plain texts are laid out together. -/
def plainChoice (list : List Layout) : Layout :=
  match list.flatMap branches with
  | [p] => p
  | list =>
    match list.mapM single?, list.mapM text? with
    | some sets, _ => ofRanges (sets.foldr .union [])
    | none, some texts => words texts
    | none, none => ofBranches list

/-- The parts of a layout that is a sequence. -/
def sequence? : Layout → Option (List Layout)
  | seq a b => some (seq a b).parts
  | _ => none

/-- The parts with which both sequences start. -/
def common : List Layout → List Layout → List Layout
  | p :: ps, q :: qs => if p = q then p :: common ps qs else []
  | _, _ => []

/-- Alternatives. Sequences that all start with the same parts have these in common. -/
def choice (list : List Layout) : Layout :=
  match (list.flatMap branches).mapM sequence? with
  | some (first :: second :: rest) =>
    let start := (second :: rest).foldl common first
    if start.isEmpty then plainChoice list
    else
      let behind := (first :: second :: rest).map fun parts => concat (parts.drop start.length)
      concat (start ++ [plainChoice behind])
  | _ => plainChoice list

/-- Does every match start at the start of the text? -/
def isAnchoredStart : Layout → Bool
  | look l => l == .textStart
  | times p least _ _ => least != 0 && p.isAnchoredStart
  | group _ p => p.isAnchoredStart
  | seq a b => a.isAnchoredStart || (a.isEmptyOnly && b.isAnchoredStart)
  | alt a b => a.isAnchoredStart && b.isAnchoredStart
  | text _ | oneOf _ | words _ => false

/-- Does every match end at the end of the text? -/
def isAnchoredEnd : Layout → Bool
  | look l => l == .textEnd
  | times p least _ _ => least != 0 && p.isAnchoredEnd
  | group _ p => p.isAnchoredEnd
  | seq a b => b.isAnchoredEnd || (b.isEmptyOnly && a.isAnchoredEnd)
  | alt a b => a.isAnchoredEnd && b.isAnchoredEnd
  | text _ | oneOf _ | words _ => false

/-- The room of one state. -/
def stateRoom : Nat := 32

/-- The room that an edge takes in a state with many. -/
def edgeRoom : Nat := 8

/-- The room that a link takes in a state that only branches. -/
def linkRoom : Nat := 4

def total (list : List Nat) : Nat := list.foldl (· + ·) 0

/-- Sequences that start with the same range, under that range. -/
def byHead : List (List ByteRange) → List (ByteRange × List (List ByteRange))
  | [] => []
  | [] :: rest => byHead rest
  | (range :: tail) :: rest =>
    match byHead rest with
    | (next, tails) :: groups =>
      if range == next then (range, tail :: tails) :: groups
      else (range, [tail]) :: (next, tails) :: groups
    | [] => [(range, [tail])]

/-- How many states have been laid out, and the room of their edges and links. -/
structure Tally where
  states : Nat
  extra : Nat

def Tally.room (t : Tally) : Nat := stateRoom * t.states + t.extra

def Tally.add (t : Tally) (states extra : Nat) : Tally := ⟨t.states + states, t.extra + extra⟩

/-- States that may be used again, by where they are kept. There are so many places; a state that
falls on a place takes it from the one before. -/
abbrev Memory := Std.TreeMap Nat (List Nat × Nat)

def mix (h : UInt64) (n : Nat) : UInt64 := (h ^^^ n.toUInt64) * 1099511628211

/-- The place of a state with this key among so many. -/
def placeOf (places : Nat) (key : List Nat) : Nat :=
  (key.foldl mix 14695981039346656037).toNat % places

/-- The state with this key: one that is remembered, or else a new one with so much extra room. -/
def stateOf (places : Nat) (key : List Nat) (extra : Nat) : StateM (Memory × Tally) Nat := do
  let (memory, tally) ← get
  let place := placeOf places key
  match memory[place]?.filter (·.1 == key) with
  | some (_, n) => return n
  | none =>
    set (memory.insert place (key, tally.states), tally.add 1 extra)
    return tally.states

/-- Lays out sequences that are no longer than `fuel` and lead to `target`. States with the same
edges are one. -/
def addStates (target : Nat) : (fuel : Nat) → List (List ByteRange) → StateM (Memory × Tally) Nat
  | 0, _ => return target
  | fuel + 1, sequences =>
    if sequences.all List.isEmpty then return target
    else do
      let edges ← (byHead sequences).mapM fun (range, tails) => do
        return (range, ← addStates target fuel tails)
      let key := edges.flatMap fun ((first, last), next) => [first, last, next]
      stateOf 10000 key (edgeRoom * edges.length)

/-- Lays out a sequence from its first range on. What it starts with may be there. -/
def addStart (state : Nat) (sequence : List ByteRange) : StateM (Memory × Tally) Nat :=
  sequence.foldlM (fun state (first, last) => stateOf 1000 [state, first, last] 0) state

/-- Lays out a set of characters. -/
def laySet (backwards : Bool) (ranges : Ranges) (t : Tally) : Tally :=
  if ranges.all (·.2 < 128) then t.add 2 (edgeRoom * ranges.length)
  else
    let sequences := ByteSequence.ofRanges ranges
    let work := if backwards then do
        sequences.forM fun sequence => discard (addStart (t.states + 1) sequence)
        modify fun (memory, tally) => (memory, tally.add 0 (linkRoom * sequences.length))
      else discard (addStates t.states 4 sequences)
    (work.run (∅, t.add (if backwards then 2 else 1) 0)).2.2

/-- Cuts a list of words at the empty ones. -/
def cutAtEmpty : List (List Nat) → List (List (List Nat))
  | [] => [[]]
  | [] :: rest => [] :: cutAtEmpty rest
  | word :: rest =>
    match cutAtEmpty rest with
    | chunk :: chunks => (word :: chunk) :: chunks
    | [] => [[word]]

/-- Adds words that are no longer than `fuel`, laid out as a tree. -/
def addTree : (fuel : Nat) → List (List Nat) → Tally → Tally
  | 0, _, t => t
  | fuel + 1, list, t =>
    if list.all List.isEmpty then t
    else
      let chunks := cutAtEmpty list
      let filled := chunks.filter (! ·.isEmpty)
      let addChunk (t : Tally) (chunk : List (List Nat)) : Tally :=
        let heads := (chunk.filterMap List.head?).eraseDups
        let addBehind (t : Tally) (byte : Nat) : Tally :=
          addTree fuel ((chunk.filter (·.head? == some byte)).map (List.drop 1)) t
        (heads.foldl addBehind t).add 1 (if heads.length == 1 then 0 else edgeRoom * heads.length)
      (filled.foldl addChunk t).add 1 (linkRoom * (filled.length + (chunks.length - 1)))

/-- Lays out words and the one state in which they all end. -/
def layWords (backwards : Bool) (list : List (List Char)) (t : Tally) : Tally :=
  let encoded := list.map fun chars => chars.flatMap ByteSequence.ofChar
  let encoded := if backwards then encoded.map List.reverse else encoded
  let longest := (encoded.map List.length).foldl max 0
  addTree (longest + 1) encoded (t.add 1 0)

/-- How much room an automaton may take. -/
def roomLimit : Nat := 10485760

/-- Goes so many rounds, as long as there is room. -/
def rounds (step : Tally → Option Tally) : Nat → Tally → Option Tally
  | 0, t => some t
  | n + 1, t =>
    match step t with
    | some t => if t.room ≤ roomLimit then rounds step n t else none
    | none => none

/-- Closes the branch that has so many others before it. The second one adds the states in which
branches part and meet. -/
def closeBranch (t : Tally) : (before : Nat) → Tally
  | 0 => t
  | 1 => t.add 2 (2 * linkRoom)
  | _ => t.add 0 linkRoom

/-- Lays out a repetition of what `step` lays out. -/
def layTimes (step : Tally → Option Tally) (canBeEmpty : Bool) (least : Nat) (most : Option Nat)
    (t : Tally) : Option Tally :=
  let fork (t : Tally) := t.add 1 (2 * linkRoom)
  match least, most with
  | 0, none =>
    if canBeEmpty then do return (fork (fork (← step t))).add 1 0 else step (fork t)
  | least + 1, none => do return fork (← rounds step (least + 1) t)
  | 0, some 1 => do return (← step (fork t)).add 1 0
  | least, some most =>
    if least == most then rounds step least t
    else do
      let t ← if least == 0 then some (t.add 1 0) else rounds step least t
      rounds (fun t => step (fork t)) (most - least) (t.add 1 0)

/-- Lays out what has so many other branches before it, behind what has been laid out so far. There
is no answer where it takes more than all the room. -/
def lay (backwards : Bool) : Layout → (before : Nat) → Tally → Option Tally
  | text chars, before, t =>
    some (closeBranch (t.add (max 1 (total (chars.map fun c => c.utf8Size))) 0) before)
  | oneOf ranges, before, t => some (closeBranch (laySet backwards ranges t) before)
  | look _, before, t => some (closeBranch (t.add 1 0) before)
  | times p least most _, before, t => do
    let canBeEmpty := !p.leastLength?.any (0 < ·)
    return closeBranch (← layTimes (p.lay backwards 0) canBeEmpty least most t) before
  | group _ p, before, t => do
    if backwards then return closeBranch (← p.lay backwards 0 t) before
    else return closeBranch ((← p.lay backwards 0 (t.add 1 0)).add 1 0) before
  | seq a b, before, t => do
    let t ← if backwards then do a.lay backwards 0 (← b.lay backwards 0 t)
      else do b.lay backwards 0 (← a.lay backwards 0 t)
    return closeBranch t before
  | alt a b, before, t => do b.lay backwards (before + 1) (← a.lay backwards before t)
  | words list, before, t => some (closeBranch (layWords backwards list t) before)

/-- What passes over the text before a match. -/
def start (anchored : Bool) : Tally :=
  if anchored then ⟨1, 0⟩ else ⟨3, 2 * linkRoom + edgeRoom⟩

/-- Is there room for both automata, with the state behind a match? -/
def fits (p : Layout) : Bool :=
  let hasRoom (t : Tally) := (t.add 1 0).room ≤ roomLimit
  ((group 0 p).lay false 0 (start p.isAnchoredStart)).any hasRoom &&
    (p.lay true 0 (start p.isAnchoredEnd)).any hasRoom

end Layout

end LintRepair
