import LintRepair.Yaml.Token

/-!
The tree of a YAML document. Aliases stay in the tree as numbers; `Node.resolve?` looks
their target up.
-/

namespace LintRepair.Yaml

inductive Node where
  | scalar (tag : Option String) (style : Style) (text : String)
  | alias (number : Nat)
  | sequence (items : List Node)
  | mapping (entries : List (Node × Node))
  | anchored (number : Nat) (node : Node)

namespace Node

/-- The scalar that stands where nothing is written. -/
def blank : Node := .scalar none .plain ""

mutual

/-- The nodes that have a number, outer ones first. -/
def anchors : Node → List (Nat × Node)
  | .scalar _ _ _ | .alias _ => []
  | .sequence items => anchorsOfItems items
  | .mapping entries => anchorsOfEntries entries
  | .anchored number node => (number, node) :: anchors node

def anchorsOfItems : List Node → List (Nat × Node)
  | [] => []
  | n :: rest => anchors n ++ anchorsOfItems rest

def anchorsOfEntries : List (Node × Node) → List (Nat × Node)
  | [] => []
  | (k, v) :: rest => anchors k ++ anchors v ++ anchorsOfEntries rest

end

/-- The node that `n` stands for in the document `root`: of several with one number, the last. -/
def resolve? (root : Node) : Node → Option Node
  | .alias number => (root.anchors.filter (·.1 == number)).getLast?.map Prod.snd
  | .anchored _ node => some node
  | node => some node

end Node

/-- What is left to read, the meanings of tag handles, and the number of each anchor. -/
structure Reader where
  tokens : List Token
  handles : List (String × String)
  anchors : List (String × Nat)

abbrev Read := StateT Reader Option

namespace Read

def peek? : Read (Option Token) := return (← get).tokens.head?

def skip : Read Unit := modify fun r => { r with tokens := r.tokens.drop 1 }

/-- Skips `t` if it comes next. -/
def accept (t : Token) : Read Bool := do
  if (← peek?) == some t then
    skip
    return true
  else return false

def expect (t : Token) : Read Unit := do
  if ! (← accept t) then failure

/-- Does one of these, or the end, come next? -/
def atAny (ts : List Token) : Read Bool := return ((← peek?).map ts.contains).getD false

/-- Numbers an anchor by how many names there are before it; a name used again is numbered
anew. -/
def number (name : String) : Read Nat := do
  let r ← get
  let n := r.anchors.length
  set { r with anchors := (name, n) :: r.anchors.filter (·.1 != name) }
  return n

/-- The anchor and the tag before a node, in either order. -/
def properties (fuel : Nat) (anchor : Option String) (tag : Option (String × String)) :
    Read (Option String × Option (String × String)) :=
  match fuel with
  | 0 => return (anchor, tag)
  | fuel + 1 => do
    match (← peek?), anchor, tag with
    | some (.anchor name), none, _ =>
      skip
      properties fuel (some name) tag
    | some (.tag handle suffix), _, none =>
      skip
      properties fuel anchor (some (handle, suffix))
    | _, _, _ => return (anchor, tag)

/-- Writes a tag out in full. -/
def fullTag : Option (String × String) → Read (Option String)
  | none => return none
  | some ("", suffix) => return some suffix
  | some (handle, suffix) => do
    match (← get).handles.lookup handle with
    | some meaning => return some (meaning ++ suffix)
    | none => failure

def withAnchor : Option Nat → Node → Node
  | none, node => node
  | some n, node => .anchored n node

mutual

/-- One node. Only `block` nodes may span lines by indentation, and only where `indentless` is
set may the entries of a sequence stand as far left as the key before them. -/
def node (fuel : Nat) (block indentless : Bool) : Read Node :=
  match fuel with
  | 0 => failure
  | fuel + 1 => do
    match (← peek?) with
    | some (.alias name) =>
      skip
      match (← get).anchors.lookup name with
      | some n => return .alias n
      | none => failure
    | _ =>
      let (anchor, tag) ← properties 2 none none
      let tag ← fullTag tag
      let number ← anchor.mapM number
      let bare := anchor.isNone && tag.isNone
      match (← peek?) with
      | some .blockEntry =>
        if indentless then
          return withAnchor number (.sequence (← indentlessItems fuel))
        else if bare then failure
        else return withAnchor number (.scalar tag .plain "")
      | some (.scalar style text) =>
        skip
        return withAnchor number (.scalar (tag.filter (· != "!")) style text)
      | some .flowSequenceStart =>
        skip
        return withAnchor number (.sequence (← flowItems fuel true))
      | some .flowMappingStart =>
        skip
        return withAnchor number (.mapping (← flowEntries fuel true))
      | some .blockSequenceStart =>
        if block then
          skip
          return withAnchor number (.sequence (← blockItems fuel))
        else if bare then failure
        else return withAnchor number (.scalar tag .plain "")
      | some .blockMappingStart =>
        if block then
          skip
          return withAnchor number (.mapping (← blockEntries fuel))
        else if bare then failure
        else return withAnchor number (.scalar tag .plain "")
      | _ => if bare then failure else return withAnchor number (.scalar tag .plain "")

/-- A node, or nothing before one of `stops`. -/
def nodeOrBlank (fuel : Nat) (block indentless : Bool) (stops : List Token) : Read Node :=
  match fuel with
  | 0 => failure
  | fuel + 1 => do
    if (← atAny stops) then return .blank else node fuel block indentless

def blockItems (fuel : Nat) : Read (List Node) :=
  match fuel with
  | 0 => failure
  | fuel + 1 => do
    if (← accept .blockEntry) then
      let item ← nodeOrBlank fuel true false [.blockEntry, .blockEnd]
      return item :: (← blockItems fuel)
    else
      expect .blockEnd
      return []

def indentlessItems (fuel : Nat) : Read (List Node) :=
  match fuel with
  | 0 => failure
  | fuel + 1 => do
    if (← accept .blockEntry) then
      let item ← nodeOrBlank fuel true false [.blockEntry, .key, .value, .blockEnd]
      return item :: (← indentlessItems fuel)
    else return []

def blockEntries (fuel : Nat) : Read (List (Node × Node)) :=
  match fuel with
  | 0 => failure
  | fuel + 1 => do
    if (← accept .key) then
      let key ← nodeOrBlank fuel true true [.key, .value, .blockEnd]
      let value ←
        if (← accept .value) then nodeOrBlank fuel true true [.key, .value, .blockEnd]
        else pure .blank
      return (key, value) :: (← blockEntries fuel)
    else
      expect .blockEnd
      return []

def flowItems (fuel : Nat) (first : Bool) : Read (List Node) :=
  match fuel with
  | 0 => failure
  | fuel + 1 => do
    if (← accept .flowSequenceEnd) then return []
    if ! first then expect .flowEntry
    if (← accept .flowSequenceEnd) then return []
    if (← accept .key) then
      -- A mark that stands in place of the key of a single entry is lost.
      let key ←
        if (← atAny [.value, .flowEntry, .flowSequenceEnd]) then do
          skip
          pure .blank
        else node fuel false false
      let value ←
        if (← accept .value) then nodeOrBlank fuel false false [.flowEntry, .flowSequenceEnd]
        else pure .blank
      return .mapping [(key, value)] :: (← flowItems fuel false)
    else
      let item ← node fuel false false
      return item :: (← flowItems fuel false)

def flowEntries (fuel : Nat) (first : Bool) : Read (List (Node × Node)) :=
  match fuel with
  | 0 => failure
  | fuel + 1 => do
    if (← accept .flowMappingEnd) then return []
    if ! first then expect .flowEntry
    if (← accept .flowMappingEnd) then return []
    if (← accept .key) then
      let key ← nodeOrBlank fuel false false [.value, .flowEntry, .flowMappingEnd]
      let value ←
        if (← accept .value) then nodeOrBlank fuel false false [.flowEntry, .flowMappingEnd]
        else pure .blank
      return (key, value) :: (← flowEntries fuel false)
    else
      let key ← node fuel false false
      return (key, .blank) :: (← flowEntries fuel false)

end

/-- The directives before a document: at most one version, which has to be 1.1 or 1.2, and at
most one meaning for each tag handle. -/
def directives (fuel : Nat) (version : Bool) : Read Unit :=
  match fuel with
  | 0 => failure
  | fuel + 1 => do
    match (← peek?) with
    | some (.version major minor) =>
      if version || major != 1 || (minor != 1 && minor != 2) then failure
      skip
      directives fuel true
    | some (.tagDirective handle meaning) =>
      let r ← get
      if (r.handles.lookup handle).isSome then failure
      set { r with handles := (handle, meaning) :: r.handles }
      skip
      directives fuel version
    | _ => modify fun r => { r with handles := r.handles ++ [("!", "!"), ("!!", "tag:yaml.org,2002:")] }

def skipDocumentEnds : Nat → Read Unit
  | 0 => return
  | fuel + 1 => do
    if (← accept .documentEnd) then skipDocumentEnds fuel

/-- The one document of a text; a text without any holds a blank. -/
def document : Read Node := do
  let fuel := 4 * (← get).tokens.length + 8
  match (← peek?) with
  | none => return .blank
  | some first =>
    let explicit := match first with
      | .version _ _ | .tagDirective _ _ | .documentStart => true
      | _ => false
    directives fuel false
    let root ←
      if explicit then do
        expect .documentStart
        match (← peek?) with
        | none | some (.version _ _) | some (.tagDirective _ _) | some .documentStart
        | some .documentEnd => pure .blank
        | some _ => node fuel true false
      else node fuel true false
    skipDocumentEnds fuel
    if (← peek?).isSome then failure
    return root

end Read

/-- Reads a text that holds at most one document. -/
def read? (text : String) : Option Node := do
  let tokens ← tokens? text
  let (root, _) ← Read.document.run ⟨tokens, [], []⟩
  return root

end LintRepair.Yaml
