import LintRepair.Proofs.Edits

/-!
What one try to change a file does. A text that is in scope is replaced by what the
edit leaves of it; where there is no such text, nothing happens.
-/

namespace LintRepair

namespace Node

theorem setEntry_setEntry (name : String) (a b : Node) (entries : List (String × Node)) :
    setEntry name b (setEntry name a entries) = setEntry name b entries := by
  induction entries with
  | nil => simp [setEntry]
  | cons entry entries ih => by_cases h : entry.1 = name <;> simp [setEntry, h, ih]

theorem setEntry_self {name : String} {node : Node} {entries : List (String × Node)}
    (h : entries.lookup name = some node) : setEntry name node entries = entries := by
  induction entries with
  | nil => cases h
  | cons entry entries ih =>
    obtain ⟨first, child⟩ := entry
    rw [lookup_cons_eq] at h
    by_cases same : name = first
    · subst same
      simpa [setEntry, eq_comm] using h
    · rw [if_neg same] at h
      simp [setEntry, Ne.symm same, ih h]

theorem put_put {tree node : Node} {place : List String} (h : tree.at? place = some node)
    (a b : Node) : (tree.put place a).put place b = tree.put place b := by
  induction place generalizing tree with
  | nil => rfl
  | cons name place ih =>
    obtain ⟨child, found, below⟩ := Option.bind_eq_some_iff.mp h
    cases tree with
    | file | link => cases found
    | dir entries =>
      have now : (setEntry name (child.put place a) entries).lookup name =
          some (child.put place a) := by
        rw [lookup_setEntry, if_pos rfl]
      rw [put_into_child found, put_into_child now, put_into_child found, setEntry_setEntry,
        ih below]

theorem put_self {tree node : Node} {place : List String} (h : tree.at? place = some node) :
    tree.put place node = tree := by
  induction place generalizing tree with
  | nil =>
    cases h
    rfl
  | cons name place ih =>
    obtain ⟨child, found, below⟩ := Option.bind_eq_some_iff.mp h
    cases tree with
    | file | link => cases found
    | dir entries => rw [put_into_child found, ih below, setEntry_self found]

theorem readText?_eq (tree : Node) (path : Path) :
    tree.readText? path = match tree.locate [] path with
      | .ok place => (tree.bytesAt? place).bind String.fromUTF8?
      | .error _ => none := by
  rw [readText?, read]
  cases tree.locate [] path with
  | error => rfl
  | ok place =>
    cases found : tree.at? place with
    | none => simp [bytesAt?, found]
    | some node => cases node <;> simp [bytesAt?, found]

/-- New content for one file is not seen at the path of another. -/
theorem readText?_put {tree : Node} {place : List String} {old : ByteArray} {path : Path}
    (there : tree.at? place = some (.file old)) (new : ByteArray)
    (apart : tree.locate [] path ≠ .ok place) :
    (tree.put place (.file new)).readText? path = tree.readText? path := by
  rw [readText?_eq, readText?_eq, ← (SameLayout.put there new).locate_eq]
  cases located : tree.locate [] path with
  | error => rfl
  | ok other =>
    have ne : other ≠ place := by
      rintro rfl
      exact apart located
    simp only [bytesAt?_put there, if_neg ne]

end Node

theorem Node.readText?_of_locate {tree : Node} {path : Path} {place : List String} {text : String}
    (located : tree.locate [] path = .ok place)
    (there : tree.at? place = some (.file text.toUTF8)) : tree.readText? path = some text := by
  simp only [readText?, read, located, there]
  exact fromUTF8?_eq_some_iff.mpr rfl

/-- Without links a path that spells a place reads what is at that place. -/
theorem Node.LinkFree.readText?_ofPlace {tree : Node} (free : tree.LinkFree) {place : List String}
    (isPlace : Path.IsPlace place) (ne : place ≠ []) :
    tree.readText? (.ofPlace place) = (tree.bytesAt? place).bind String.fromUTF8? := by
  rw [readText?_eq]
  cases located : tree.locate [] (.ofPlace place) with
  | ok found =>
    obtain rfl := free.locate_ofPlace isPlace located
    rfl
  | error fault =>
    cases there : tree.at? place with
    | none => simp [bytesAt?, there]
    | some node =>
      have leads := free.locate_of_at? (Path.ofPlace_isAbsolute place)
        (Move.ofText_ofPlace isPlace ne) there
      cases located.symm.trans leads

theorem Node.at?_put {tree : Node} {place : List String} {old : ByteArray}
    (h : tree.at? place = some (.file old)) (new : ByteArray) :
    (tree.put place (.file new)).at? place = some (.file new) := by
  have entry := entryAt?_put h new place
  rw [if_pos rfl] at entry
  obtain ⟨node, found, shape⟩ := Option.map_eq_some_iff.mp entry
  cases node with
  | file bytes =>
    cases shape
    exact found
  | link | dir => cases shape

/-- A text is replaced by a text, so the same files can be read before and after. -/
theorem Edits.readText?_eq_none_iff {scope : Scope} {offer : Path → String → String → Prop}
    {a b : Node} {paths : List Path} (h : Edits scope offer a paths b) (path : Path) :
    b.readText? path = none ↔ a.readText? path = none := by
  induction h with
  | refl => rfl
  | @step tree _ _ _ content updated _ _ found _ _ written _ ih =>
    obtain ⟨place, _, there, rfl⟩ := place_of_step found written
    rw [ih]
    by_cases leads : tree.locate [] path = .ok place
    · have still := ((Node.SameLayout.put there updated.toUTF8).locate_eq [] path).symm.trans leads
      rw [Node.readText?_of_locate leads there,
        Node.readText?_of_locate still (Node.at?_put there _)]
      simp
    · rw [Node.readText?_put there _ leads]

/-- What an edit comes to, and what it leaves. -/
def outcomeOf {α : Type} [DecidableEq α] (old : α) : Option α → Outcome × α
  | none => (.noMatch, old)
  | some new => (if new = old then .unchanged else .changed, new)

theorem outcomeOf_ne_skipped {α : Type} [DecidableEq α] (old : α) (new : Option α) :
    (outcomeOf old new).1 ≠ .skipped := by
  cases new with
  | none => simp [outcomeOf]
  | some new => by_cases same : new = old <;> simp [outcomeOf, same]

theorem patch_skipped {scope : Scope} {tree : Node} {path : Path} (edit : String → Option String)
    (h : scope.admits (scope.resolve path) = false ∨
      tree.readText? (scope.resolve path) = none) :
    patch scope tree path edit = (⟨scope.resolve path, .skipped⟩, tree) := by
  unfold patch
  rcases h with outside | unreadable
  · simp [outside]
  · simp [unreadable]

/-- A try on a text puts in its place what the edit leaves of it. -/
theorem patch_text {scope : Scope} {tree : Node} {path : Path} {place : List String}
    {content : String} (edit : String → Option String)
    (admitted : scope.admits (scope.resolve path) = true)
    (located : tree.locate [] (scope.resolve path) = .ok place)
    (there : tree.at? place = some (.file content.toUTF8)) :
    patch scope tree path edit =
      (⟨scope.resolve path, (outcomeOf content (edit content)).1⟩,
        tree.put place (.file (outcomeOf content (edit content)).2.toUTF8)) := by
  have found := Node.readText?_of_locate located there
  obtain ⟨other, alsoLocated, _, write⟩ := Node.write_of_read (Node.read_of_readText? found)
  obtain rfl : place = other := Except.ok.inj (located.symm.trans alsoLocated)
  have same := Node.put_self there
  cases edited : edit content with
  | none => simpa [patch, admitted, found, edited, outcomeOf] using same.symm
  | some updated =>
    by_cases differs : updated = content
    · simpa [patch, admitted, found, edited, outcomeOf, differs] using same.symm
    · simp [patch, admitted, found, edited, outcomeOf, differs, write]

/-- A try is skipped only for what the file is: what could be read can be written. -/
theorem patch_skipped_iff {scope : Scope} {tree : Node} {path : Path}
    (edit : String → Option String) :
    (patch scope tree path edit).1.outcome = .skipped ↔
      scope.admits (scope.resolve path) = false ∨ tree.readText? (scope.resolve path) = none := by
  constructor
  · intro skipped
    by_contra reached
    obtain ⟨inside, readable⟩ := not_or.mp reached
    have admitted : scope.admits (scope.resolve path) = true := by simpa using inside
    obtain ⟨content, found⟩ := Option.ne_none_iff_exists'.mp readable
    obtain ⟨place, located, there, _⟩ := Node.write_of_read (Node.read_of_readText? found)
    rw [patch_text edit admitted located there] at skipped
    exact outcomeOf_ne_skipped _ _ skipped
  · intro h
    rw [patch_skipped edit h]

end LintRepair
