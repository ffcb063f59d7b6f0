/-!
Paths of a file tree. A path is its spelling; what it means is its list of
components. Repeated slashes, a trailing slash and a `.` that is not at the
very start carry no meaning.
-/

namespace LintRepair

/-- One step of a path. -/
inductive Component where
  | root
  | here
  | parent
  | name (text : String)
  deriving DecidableEq, Repr

/-- A path as it is spelled. -/
structure Path where
  text : String
  deriving DecidableEq, Repr

namespace Component

def text : Component → String
  | root => "/"
  | here => "."
  | parent => ".."
  | name text => text

def rank : Component → Nat
  | root => 0
  | here => 1
  | parent => 2
  | name _ => 3

/-- The root comes first, then `.`, then `..`, then names by their characters. -/
def lt : Component → Component → Bool
  | name a, name b => decide (a < b)
  | a, b => decide (a.rank < b.rank)

end Component

namespace Path

/-- The pieces of a spelling between slashes. -/
def pieces : List Char → List (List Char)
  | [] => [[]]
  | c :: s =>
    if c = '/' then [] :: pieces s
    else
      match pieces s with
      | [] => [[c]]
      | piece :: rest => (c :: piece) :: rest

/-- A piece that means nothing behind the start of a path. -/
def isIdle (piece : List Char) : Bool := piece.isEmpty || piece == ['.']

def component? (piece : List Char) : Option Component :=
  if isIdle piece then none
  else if piece = ['.', '.'] then some .parent
  else some (.name (.ofList piece))

def components (p : Path) : List Component :=
  match p.text.toList with
  | '/' :: s => .root :: (pieces s).filterMap component?
  | s =>
    match pieces s with
    | ['.'] :: rest => .here :: rest.filterMap component?
    | all => all.filterMap component?

def isAbsolute (p : Path) : Bool := p.text.toList.head? == some '/'

/-- The path that a list of components spells. -/
def ofComponents : List Component → Path
  | .root :: rest => ⟨"/" ++ String.intercalate "/" (rest.map Component.text)⟩
  | components => ⟨String.intercalate "/" (components.map Component.text)⟩

/-- `q` as seen from `p`. An absolute `q` stands for itself. -/
def join (p q : Path) : Path :=
  if q.isAbsolute then q
  else if p.text.isEmpty || p.text.toList.getLast? == some '/' then ⟨p.text ++ q.text⟩
  else ⟨p.text ++ "/" ++ q.text⟩

/-- Is `p` at or below `root`, component by component? -/
def startsWith (p root : Path) : Bool := root.components.isPrefixOf p.components

/-- Leaves out the first `n` pieces that mean something, and what stands before the last of them. -/
def dropPieces : Nat → List (List Char) → List (List Char)
  | 0, pieces => pieces
  | _ + 1, [] => []
  | n + 1, piece :: rest => if isIdle piece then dropPieces (n + 1) rest else dropPieces n rest

def dropIdleEnd (pieces : List (List Char)) : List (List Char) :=
  (pieces.reverse.dropWhile isIdle).reverse

def joinPieces (pieces : List (List Char)) : String :=
  .ofList (List.intercalate ['/'] pieces)

/-- The spelling of `p` without its first `n` components. Slashes and dots inside it stay. -/
def spellingAfter (n : Nat) (p : Path) : String :=
  match p.text.toList, n with
  | '/' :: s, 0 => "/" ++ joinPieces (dropIdleEnd (pieces s))
  | '/' :: s, n + 1 => body (dropPieces n (pieces s))
  | s, n =>
    match pieces s, n with
    | ['.'] :: rest, 0 => joinPieces (['.'] :: dropIdleEnd rest)
    | ['.'] :: rest, n + 1 => body (dropPieces n rest)
    | all, 0 => joinPieces (dropIdleEnd all)
    | all, n => body (dropPieces n all)
where
  body (pieces : List (List Char)) : String :=
    joinPieces (dropIdleEnd (pieces.dropWhile isIdle))

/-- The spelling of `p` below `root`, if it is there. -/
def below? (p root : Path) : Option String :=
  if p.startsWith root then some (p.spellingAfter root.components.length) else none

/-- The name that a path ends in. -/
def fileName? (p : Path) : Option String :=
  match p.components.getLast? with
  | some (.name text) => some text
  | _ => none

/-- The order of paths: by their components. -/
def lt (p q : Path) : Bool := go p.components q.components
where
  go : List Component → List Component → Bool
    | [], [] => false
    | [], _ :: _ => true
    | _ :: _, [] => false
    | a :: as, b :: bs => a.lt b || (a == b && go as bs)

end Path

end LintRepair
