import LintRepair.Proofs.PathComponents
import LintRepair.Tree.Access

/-!
File trees as they are seen from outside: what stands at each place. Giving a
file new content changes what is seen at its own place and nowhere else, and no
path leads anywhere else than before.
-/

namespace LintRepair

/-- What stands at a place, without what is below it. -/
inductive Entry where
  | file (bytes : ByteArray)
  | link (target : String)
  | dir

/-- An entry apart from the content of a file. -/
def Entry.blank : Entry → Entry
  | .file _ => .file .empty
  | other => other

namespace Node

def entry : Node → Entry
  | .file bytes => .file bytes
  | .link target => .link target
  | .dir _ => .dir

def entryAt? (tree : Node) (place : List String) : Option Entry := (tree.at? place).map entry

theorem at?_append (tree : Node) (place more : List String) :
    tree.at? (place ++ more) = (tree.at? place).bind (·.at? more) := by
  induction place generalizing tree with
  | nil => rfl
  | cons name place ih =>
    simp only [List.cons_append, at?]
    cases tree.child? name with
    | none => rfl
    | some child => exact ih child

theorem bytesAt?_eq (tree : Node) (place : List String) :
    tree.bytesAt? place = match tree.entryAt? place with
      | some (.file bytes) => some bytes
      | _ => none := by
  unfold bytesAt? entryAt?
  cases tree.at? place with
  | none => rfl
  | some n => cases n <;> rfl

theorem bytesAt?_of_at? {tree : Node} {place : List String} {bytes : ByteArray}
    (h : tree.at? place = some (.file bytes)) : tree.bytesAt? place = some bytes := by
  simp [bytesAt?, h]

theorem lookup_cons_eq (name other : String) (node : Node) (entries : List (String × Node)) :
    ((name, node) :: entries).lookup other =
      if other = name then some node else entries.lookup other := by
  by_cases h : other = name
  · simp [h]
  · have differs : (other == name) = false := by simpa using h
    simp [List.lookup_cons, h, differs]

theorem lookup_setEntry (name other : String) (new : Node) (entries : List (String × Node)) :
    (setEntry name new entries).lookup other =
      if other = name then some new else entries.lookup other := by
  induction entries with
  | nil => exact lookup_cons_eq name other new []
  | cons entry entries ih =>
    obtain ⟨first, node⟩ := entry
    by_cases hf : first = name
    · subst hf
      by_cases h : other = first <;> simp [setEntry, lookup_cons_eq, h]
    · by_cases h : other = name
      · subst h
        simp [setEntry, lookup_cons_eq, hf, Ne.symm hf, ih]
      · by_cases ho : other = first <;> simp [setEntry, lookup_cons_eq, hf, h, ho, ih]

/-- Where there is a child on the way, a node is put into that child. -/
theorem put_into_child {entries : List (String × Node)} {name : String} {child : Node}
    (h : entries.lookup name = some child) (place : List String) (new : Node) :
    (Node.dir entries).put (name :: place) new =
      .dir (setEntry name (child.put place new) entries) := by
  cases place with
  | nil => simp [put]
  | cons next place => simp [put, h]

theorem entryAt?_put {tree : Node} {place : List String} {old : ByteArray}
    (h : tree.at? place = some (.file old)) (new : ByteArray) (other : List String) :
    (tree.put place (.file new)).entryAt? other =
      if other = place then some (.file new) else tree.entryAt? other := by
  induction place generalizing tree other with
  | nil =>
    cases h
    cases other <;> simp [put, entryAt?, at?, child?, entry]
  | cons name place ih =>
    obtain ⟨child, hc, below⟩ := Option.bind_eq_some_iff.mp h
    cases tree with
    | file | link => cases hc
    | dir entries =>
      rw [put_into_child hc]
      cases other with
      | nil => rfl
      | cons first other =>
        have seen (es : List (String × Node)) : (Node.dir es).entryAt? (first :: other) =
            (es.lookup first).bind (·.entryAt? other) := by
          simp only [entryAt?, at?, child?, Option.map_bind]
          rfl
        rw [seen, seen, lookup_setEntry]
        by_cases hn : first = name
        · subst hn
          have inChild := ih below other
          simp only [child?] at hc
          simpa [hc] using inChild
        · simp [hn]

theorem bytesAt?_put {tree : Node} {place : List String} {old : ByteArray}
    (h : tree.at? place = some (.file old)) (new : ByteArray) (other : List String) :
    (tree.put place (.file new)).bytesAt? other =
      if other = place then some new else tree.bytesAt? other := by
  rw [bytesAt?_eq, entryAt?_put h, bytesAt?_eq tree]
  by_cases here : other = place <;> simp [here]

/-- What stands at a place, whatever is in the files. -/
def layoutAt? (tree : Node) (place : List String) : Option Entry :=
  (tree.entryAt? place).map Entry.blank

/-- Two trees with the same directories, links and files. -/
def SameLayout (a b : Node) : Prop := ∀ place, a.layoutAt? place = b.layoutAt? place

theorem SameLayout.put {tree : Node} {place : List String} {old : ByteArray}
    (h : tree.at? place = some (.file old)) (new : ByteArray) :
    SameLayout tree (tree.put place (.file new)) := by
  intro other
  rw [layoutAt?, layoutAt?, entryAt?_put h]
  split
  · rename_i here
    subst here
    simp [entryAt?, h, entry, Entry.blank]
  · rfl

/-! ## Following paths -/

theorem layoutAt?_child {tree : Node} {place : List String} {entries : List (String × Node)}
    (h : tree.at? place = some (.dir entries)) (name : String) :
    tree.layoutAt? (place ++ [name]) = (entries.lookup name).map (·.entry.blank) := by
  simp [layoutAt?, entryAt?, at?_append, h, at?, child?, Function.comp_def]

section
variable (tree : Node) (followLast : Bool) (links : Nat) (place : List String) (rest : List Move)

theorem follow_stay : tree.follow followLast links place (.stay :: rest) =
    match tree.layoutAt? place with
    | some .dir => tree.follow followLast links place rest
    | _ => .error .notDirectory := by
  rw [follow, layoutAt?, entryAt?]
  cases tree.at? place with
  | none => rfl
  | some n => cases n <;> rfl

theorem follow_up : tree.follow followLast links place (.up :: rest) =
    match tree.layoutAt? place with
    | some .dir => tree.follow followLast links place.dropLast rest
    | _ => .error .notDirectory := by
  rw [follow, layoutAt?, entryAt?]
  cases tree.at? place with
  | none => rfl
  | some n => cases n <;> rfl

/-- A step down looks at two places: where it starts and where it leads. -/
theorem follow_down (name : String) : tree.follow followLast links place (.down name :: rest) =
    match tree.layoutAt? place, tree.layoutAt? (place ++ [name]) with
    | some .dir, none => if rest.isEmpty then .ok (.free place name) else .error .noEntry
    | some .dir, some (.link target) =>
      if rest.isEmpty && !followLast then .ok (.taken (place ++ [name]))
      else
        match links with
        | 0 => .error .tooManyLinks
        | links + 1 =>
          tree.follow followLast links (if (Path.mk target).isAbsolute then [] else place)
            (Move.ofText target ++ rest)
    | some .dir, some _ => tree.follow followLast links (place ++ [name]) rest
    | _, _ => .error .notDirectory := by
  rw [follow]
  cases found : tree.at? place with
  | none => simp [layoutAt?, entryAt?, found]
  | some n =>
    cases n with
    | file | link => simp [layoutAt?, entryAt?, found, entry, Entry.blank]
    | dir entries =>
      have here : tree.layoutAt? place = some .dir := by
        simp [layoutAt?, entryAt?, found, entry, Entry.blank]
      rw [here, layoutAt?_child found]
      cases below : entries.lookup name with
      | none => simp [below]
      | some child =>
        simp only [below, Option.map_some]
        cases child with
        | file | dir | link => rfl

end

/-- A path leads to the same spot in all trees with one layout. -/
theorem SameLayout.follow_eq {a b : Node} (same : SameLayout a b) (followLast : Bool)
    (links : Nat) (place : List String) (moves : List Move) :
    a.follow followLast links place moves = b.follow followLast links place moves := by
  induction links using Nat.strongRecOn generalizing place moves with
  | ind links fewer =>
    induction moves generalizing place with
    | nil => rw [follow, follow]
    | cons move rest ih =>
      cases move with
      | stay =>
        rw [follow_stay, follow_stay, same place]
        split
        · exact ih place
        · rfl
      | up =>
        rw [follow_up, follow_up, same place]
        split
        · exact ih place.dropLast
        · rfl
      | down name =>
        rw [follow_down, follow_down, same place, same (place ++ [name])]
        split
        · rfl
        · split
          · rfl
          · split
            · rfl
            · exact fewer _ (Nat.lt_succ_self _) _ _
        · exact ih (place ++ [name])
        · rfl

theorem SameLayout.locate_eq {a b : Node} (same : SameLayout a b) (directory : List String)
    (path : Path) : a.locate directory path = b.locate directory path := by
  simp only [locate, spot, same.follow_eq]

/-- Following some moves and then others is following all of them, with the links that the first
ones have left over. -/
theorem follow_append {tree : Node} {links : Nat} {start place : List String} {moves : List Move}
    (h : tree.follow true links start moves = .ok (.taken place)) (rest : List Move) :
    ∃ left, tree.follow true links start (moves ++ rest) = tree.follow true left place rest := by
  induction links using Nat.strongRecOn generalizing start moves with
  | ind links fewer =>
    induction moves generalizing start with
    | nil =>
      rw [follow] at h
      cases h
      exact ⟨links, rfl⟩
    | cons move moves ih =>
      cases move with
      | stay =>
        rw [List.cons_append, follow_stay]
        rw [follow_stay] at h
        split at h
        · exact ih h
        · cases h
      | up =>
        rw [List.cons_append, follow_up]
        rw [follow_up] at h
        split at h
        · exact ih h
        · cases h
      | down name =>
        rw [List.cons_append, follow_down]
        rw [follow_down] at h
        split at h
        · split at h <;> cases h
        · rw [if_neg (by simp)] at h
          rw [if_neg (by simp)]
          split at h
          · cases h
          · -- The target of the link comes before the moves that are left.
            rw [← List.append_assoc]
            exact fewer _ (Nat.lt_succ_self _) h
        · exact ih h
        · cases h

theorem locate_eq_ok_iff {tree : Node} {path : Path} (absolute : path.isAbsolute = true)
    {place : List String} : tree.locate [] path = .ok place ↔
      tree.follow true linkLimit [] (Move.ofText path.text) = .ok (.taken place) := by
  have named : path.text.isEmpty = false := by
    cases empty : path.text.isEmpty with
    | false => rfl
    | true => simp [Path.isAbsolute, String.isEmpty_iff.mp empty] at absolute
  simp only [locate, spot, named, Bool.false_eq_true, ↓reduceIte, absolute]
  split
  · rename_i spot
    simp [spot]
  · rename_i spot
    simp [spot]
  · rename_i spot
    simp [spot]

/-- A file that can be read is at a place, and a write to its path goes to that place. -/
theorem write_of_read {tree : Node} {directory : List String} {path : Path} {old : ByteArray}
    (h : tree.read directory path = .ok old) :
    ∃ place, tree.locate directory path = .ok place ∧ tree.at? place = some (.file old) ∧
      ∀ new, tree.write directory path new = .ok (tree.put place (.file new)) := by
  unfold read at h
  split at h
  · cases h
  · rename_i place located
    split at h
    · rename_i bytes found
      cases h
      refine ⟨place, located, found, fun new => ?_⟩
      have spotted : tree.spot true directory path = .ok (.taken place) := by
        unfold locate at located
        split at located
        · rename_i spot
          cases located
          exact spot
        · cases located
        · cases located
      simp [write, spotted, found]
    · cases h
    · cases h

/-! ## Trees without links -/

def LinkFree (tree : Node) : Prop := ∀ place target, tree.layoutAt? place ≠ some (.link target)

theorem LinkFree.file (bytes : ByteArray) : LinkFree (.file bytes) := by
  intro place target
  cases place <;> simp [layoutAt?, entryAt?, at?, child?, entry, Entry.blank]

theorem LinkFree.dir {entries : List (String × Node)} (h : ∀ e ∈ entries, LinkFree e.2) :
    LinkFree (.dir entries) := by
  intro place target
  cases place with
  | nil => simp [layoutAt?, entryAt?, at?, entry, Entry.blank]
  | cons name place =>
    cases found : entries.lookup name with
    | none => simp [layoutAt?, entryAt?, at?, child?, found]
    | some child =>
      obtain ⟨before, after, rfl, _⟩ := List.lookup_eq_some_iff.mp found
      have free := h (name, child) (by simp) place target
      simpa [layoutAt?, entryAt?, at?, child?, found] using free

end Node

/-- Where a move leads if nothing but names is looked at. -/
def Move.walk (place : List String) : Move → List String
  | stay => place
  | up => place.dropLast
  | down name => place ++ [name]

namespace Node

/-- Without links, moves lead where their names say. -/
theorem LinkFree.follow_eq {tree : Node} (free : LinkFree tree) {followLast : Bool} {links : Nat}
    {place target : List String} {moves : List Move}
    (h : tree.follow followLast links place moves = .ok (.taken target)) :
    target = moves.foldl Move.walk place := by
  induction moves generalizing place with
  | nil =>
    rw [follow] at h
    cases h
    rfl
  | cons move rest ih =>
    cases move with
    | stay =>
      rw [follow_stay] at h
      split at h
      · exact ih h
      · cases h
    | up =>
      rw [follow_up] at h
      split at h
      · exact ih h
      · cases h
    | down name =>
      rw [follow_down] at h
      split at h
      · split at h <;> cases h
      · rename_i link
        exact absurd link (free _ _)
      · exact ih h
      · cases h

end Node

namespace Move

theorem ofPiece?_name {name : String} (h : Path.IsName name) :
    ofPiece? name.toList = some (.down name) := by
  simp [ofPiece?, h.1, h.2.1, h.2.2.1]

theorem ofText_ofPlace {place : List String} (h : Path.IsPlace place) (ne : place ≠ []) :
    ofText (Path.ofPlace place).text = place.map .down := by
  have downs : (place.map String.toList).filterMap ofPiece? = place.map .down := by
    rw [List.filterMap_map, ← List.filterMap_eq_map]
    exact List.filterMap_congr fun name hn => ofPiece?_name (h name hn)
  -- The last piece is a name, so there is no trailing slash that would stay in a directory.
  have last : (([] :: place.map String.toList).getLast?.any List.isEmpty) = false := by
    have named := (h (place.getLast ne) (List.getLast_mem ne)).1
    have : ([] :: place.map String.toList).getLast? = some (place.getLast ne).toList := by
      rw [List.getLast?_cons, List.getLast?_map, List.getLast?_eq_some_getLast ne]
      rfl
    rw [this]
    simpa using named
  simp only [ofText, Path.pieces_ofPlace h ne, last, Bool.and_false, Bool.false_eq_true,
    ↓reduceIte, List.append_nil]
  rw [List.filterMap_cons_none (by rfl), downs]

theorem foldl_walk_down (names place : List String) :
    (names.map Move.down).foldl walk place = place ++ names := by
  induction names generalizing place with
  | nil => simp
  | cons name names ih => simp [walk, ih]

end Move

namespace Node

/-- Without links, the path of a place leads to that place. -/
theorem LinkFree.locate_ofPlace {tree : Node} (free : LinkFree tree) {place found : List String}
    (hp : Path.IsPlace place) (h : tree.locate [] (.ofPlace place) = .ok found) :
    found = place := by
  have followed := (locate_eq_ok_iff (Path.ofPlace_isAbsolute place)).mp h
  have walked := free.follow_eq followed
  by_cases ne : place = []
  · subst ne
    exact walked
  · rw [walked, Move.ofText_ofPlace hp ne, Move.foldl_walk_down, List.nil_append]

/-- What stands below a place stands in a directory. -/
theorem layoutAt?_parent {tree child : Node} {place : List String} {name : String}
    (there : tree.at? (place ++ [name]) = some child) : tree.layoutAt? place = some .dir := by
  rw [at?_append] at there
  obtain ⟨parent, found, below⟩ := Option.bind_eq_some_iff.mp there
  cases parent with
  | dir entries => simp [layoutAt?, entryAt?, found, entry, Entry.blank]
  | file | link => simp [at?, child?] at below

/-- Names are followed to what is there, unless that is a link: on the way there are directories. -/
theorem follow_names {tree node : Node} {followLast : Bool} {links : Nat}
    {place names : List String} (there : tree.at? (place ++ names) = some node)
    (solid : ∀ target, node ≠ .link target) :
    tree.follow followLast links place (names.map .down) = .ok (.taken (place ++ names)) := by
  induction names generalizing place with
  | nil => rw [List.map_nil, follow, List.append_nil]
  | cons name names ih =>
    rw [List.append_cons] at there ⊢
    have next := ih there
    have entered : ∃ entry, tree.layoutAt? (place ++ [name]) = some entry ∧
        ∀ target, entry ≠ .link target := by
      cases names with
      | nil =>
        rw [List.append_nil] at there
        refine ⟨node.entry.blank, by simp [layoutAt?, entryAt?, there], ?_⟩
        cases node with
        | file | dir => simp [entry, Entry.blank]
        | link target => exact absurd rfl (solid target)
      | cons following names =>
        rw [List.append_cons, at?_append] at there
        obtain ⟨child, found, _⟩ := Option.bind_eq_some_iff.mp there
        exact ⟨.dir, layoutAt?_parent found, by simp⟩
    obtain ⟨child, found, _⟩ := Option.bind_eq_some_iff.mp (at?_append tree _ names ▸ there)
    obtain ⟨entry, seen, noLink⟩ := entered
    rw [List.map_cons, follow_down, layoutAt?_parent found, seen]
    cases entry with
    | file | dir => exact next
    | link target => exact absurd rfl (noLink target)

theorem LinkFree.locate_of_at? {tree : Node} (free : LinkFree tree) {path : Path}
    {place : List String} {node : Node} (absolute : path.isAbsolute = true)
    (moves : Move.ofText path.text = place.map .down) (there : tree.at? place = some node) :
    tree.locate [] path = .ok place := by
  rw [locate_eq_ok_iff absolute, moves]
  refine follow_names there fun target link => ?_
  apply free place target
  simp [layoutAt?, entryAt?, there, link, entry, Entry.blank]

end Node

end LintRepair
