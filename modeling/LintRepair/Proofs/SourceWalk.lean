import LintRepair.Proofs.Scope
import LintRepair.Proofs.TreeAccess
import LintRepair.Tree.Walk
import Mathlib.Data.List.Nodup

/-!
What a walk lists. Every listed path is the normal path of a file below the root, no
two of them lead to one file, and the scope with the same root and the same exclusions
admits them all.
-/

namespace LintRepair

namespace Node

/-- In every directory the entries have names that a path can spell, each of them once. No file
system has other trees. -/
def WellNamed (tree : Node) : Prop :=
  ∀ place entries, tree.at? place = some (.dir entries) →
    (entries.map Prod.fst).Nodup ∧ ∀ e ∈ entries, Path.IsName e.1

namespace WellNamed

theorem below {tree node : Node} {place : List String} (h : tree.WellNamed)
    (there : tree.at? place = some node) : node.WellNamed := by
  intro more entries found
  apply h (place ++ more)
  rw [at?_append, there]
  exact found

theorem leaf {tree : Node} (h : ∀ entries, tree ≠ .dir entries) : tree.WellNamed := by
  intro place entries found
  cases place with
  | nil => exact absurd (Option.some.inj found) (h entries)
  | cons name place =>
    cases tree with
    | file | link => cases found
    | dir entries => exact absurd rfl (h entries)

theorem dir {entries : List (String × Node)} (once : (entries.map Prod.fst).Nodup)
    (names : ∀ e ∈ entries, Path.IsName e.1) (each : ∀ e ∈ entries, e.2.WellNamed) :
    WellNamed (.dir entries) := by
  rintro (_ | ⟨name, place⟩) found there
  · cases there
    exact ⟨once, names⟩
  · obtain ⟨child, member, below⟩ := Option.bind_eq_some_iff.mp there
    obtain ⟨before, after, rfl, _⟩ := List.lookup_eq_some_iff.mp member
    exact each (name, child) (by simp) place found below

end WellNamed

theorem lookup_of_mem {entries : List (String × Node)} (once : (entries.map Prod.fst).Nodup)
    {name : String} {node : Node} (h : (name, node) ∈ entries) :
    entries.lookup name = some node := by
  obtain ⟨before, after, rfl⟩ := List.append_of_mem h
  rw [List.map_append, List.map_cons, List.nodup_append] at once
  refine List.lookup_eq_some_iff.mpr ⟨before, after, rfl, fun e he => ?_⟩
  have apart := once.2.2 e.1 (List.mem_map_of_mem he) name List.mem_cons_self
  exact bne_iff_ne.mpr apart.symm

theorem at?_singleton {entries : List (String × Node)} (once : (entries.map Prod.fst).Nodup)
    {name : String} {node : Node} (h : (name, node) ∈ entries) :
    (Node.dir entries).at? [name] = some node := by
  simp [at?, child?, lookup_of_mem once h]

theorem WellNamed.entries {entries : List (String × Node)} (h : WellNamed (.dir entries)) :
    (entries.map Prod.fst).Nodup ∧ (∀ e ∈ entries, Path.IsName e.1) ∧
      ∀ e ∈ entries, e.2.WellNamed := by
  obtain ⟨once, names⟩ := h [] entries rfl
  exact ⟨once, names, fun e he => h.below (at?_singleton once he)⟩

theorem WellNamed.isPlace {tree node : Node} {place : List String} (h : tree.WellNamed)
    (there : tree.at? place = some node) : Path.IsPlace place := by
  induction place generalizing tree with
  | nil => simp [Path.IsPlace]
  | cons name place ih =>
    obtain ⟨child, found, below⟩ := Option.bind_eq_some_iff.mp there
    cases tree with
    | file | link => cases found
    | dir entries =>
      obtain ⟨before, after, rfl, _⟩ := List.lookup_eq_some_iff.mp found
      obtain ⟨_, names, each⟩ := h.entries
      intro n hn
      rcases List.mem_cons.mp hn with rfl | hn
      · exact names (n, child) (by simp)
      · exact ih (each (name, child) (by simp)) below n hn

/-! ## The names that a walk collects -/

/-- From `below` on, nothing on the way through these names is left out of the walk. -/
def Kept (f : SourceFilter) (below more : List String) : Prop :=
  ∀ upTo, upTo <+: more → upTo ≠ [] → f.prunes (below ++ upTo) = false

theorem kept_cons {f : SourceFilter} {below more : List String} {name : String} :
    Kept f below (name :: more) ↔
      f.prunes (below ++ [name]) = false ∧ Kept f (below ++ [name]) more := by
  constructor
  · intro kept
    refine ⟨kept [name] (by simp) (by simp), fun upTo within _ => ?_⟩
    rw [List.append_assoc]
    exact kept (name :: upTo) (List.cons_prefix_cons.mpr ⟨rfl, within⟩) (by simp)
  · rintro ⟨first, later⟩ upTo within ne
    obtain ⟨head, rest, rfl⟩ := List.exists_cons_of_ne_nil ne
    obtain ⟨rfl, restWithin⟩ := List.cons_prefix_cons.mp within
    by_cases stop : rest = []
    · rw [stop]
      exact first
    · rw [List.append_cons]
      exact later rest restWithin stop

mutual

/-- A walk finds the files with a wanted extension that it can reach past nothing it leaves out. -/
theorem mem_sources (f : SourceFilter) (below : List String) (node : Node)
    (named : node.WellNamed) {p : List String} :
    p ∈ node.sources f below ↔ ∃ more bytes, p = below ++ more ∧
      node.at? more = some (.file bytes) ∧ p.getLast?.any f.wants = true ∧ Kept f below more := by
  cases node with
  | file bytes =>
    have here : p ∈ (Node.file bytes).sources f below ↔
        p = below ∧ below.getLast?.any f.wants = true := by
      rw [sources]
      split
      · simp [*]
      · simp [*]
    rw [here]
    constructor
    · rintro ⟨rfl, wanted⟩
      refine ⟨[], bytes, by simp, rfl, wanted, fun upTo within ne => ?_⟩
      exact absurd (List.prefix_nil.mp within) ne
    · rintro ⟨more, bytes', rfl, found, wanted, _⟩
      cases more with
      | nil => simpa using wanted
      | cons name more => cases found
  | link target =>
    rw [sources]
    constructor
    · intro h
      cases h
    · rintro ⟨more, bytes, _, found, _⟩
      cases more <;> cases found
  | dir entries =>
    obtain ⟨once, _, each⟩ := named.entries
    rw [sources, mem_sourcesIn f below entries each]
    constructor
    · rintro ⟨name, child, more, bytes, member, rfl, found, kept⟩
      refine ⟨name :: more, bytes, rfl, ?_, kept⟩
      simpa [at?, child?, lookup_of_mem once member] using found
    · rintro ⟨more, bytes, rfl, found, kept⟩
      cases more with
      | nil => cases found
      | cons name more =>
        obtain ⟨child, there, foundIn⟩ := Option.bind_eq_some_iff.mp found
        obtain ⟨before, after, rfl, _⟩ := List.lookup_eq_some_iff.mp there
        exact ⟨name, child, more, bytes, by simp, rfl, foundIn, kept⟩

theorem mem_sourcesIn (f : SourceFilter) (below : List String) (entries : List (String × Node))
    (each : ∀ e ∈ entries, e.2.WellNamed) {p : List String} :
    p ∈ sourcesIn f below entries ↔ ∃ name node more bytes, (name, node) ∈ entries ∧
      p = below ++ name :: more ∧ node.at? more = some (.file bytes) ∧
      p.getLast?.any f.wants = true ∧ Kept f below (name :: more) := by
  cases entries with
  | nil => simp [sourcesIn]
  | cons entry entries =>
    obtain ⟨name, node⟩ := entry
    have first : (p ∈ if f.prunes (below ++ [name]) then [] else
          node.sources f (below ++ [name])) ↔
        ∃ more bytes, p = below ++ name :: more ∧ node.at? more = some (.file bytes) ∧
          p.getLast?.any f.wants = true ∧ Kept f below (name :: more) := by
      simp only [kept_cons]
      split
      · simp [*]
      · rw [mem_sources f (below ++ [name]) node (each _ List.mem_cons_self)]
        simp [*]
    have later := mem_sourcesIn f below entries (fun e he => each e (List.mem_cons_of_mem _ he))
      (p := p)
    rw [sourcesIn, List.mem_append, first, later]
    constructor
    · rintro (⟨more, bytes, found⟩ | ⟨other, child, more, bytes, member, found⟩)
      · exact ⟨name, node, more, bytes, List.mem_cons_self, found⟩
      · exact ⟨other, child, more, bytes, List.mem_cons_of_mem _ member, found⟩
    · rintro ⟨other, child, more, bytes, member, found⟩
      rcases List.mem_cons.mp member with same | member
      · cases same
        exact .inl ⟨more, bytes, found⟩
      · exact .inr ⟨other, child, more, bytes, member, found⟩

end

mutual

/-- Entries of one directory have different names, so no file is found twice. -/
theorem sources_nodup (f : SourceFilter) (below : List String) (node : Node)
    (named : node.WellNamed) : (node.sources f below).Nodup := by
  cases node with
  | file bytes =>
    rw [sources]
    split <;> simp
  | link target => simp [sources]
  | dir entries =>
    obtain ⟨once, _, each⟩ := named.entries
    rw [sources]
    exact sourcesIn_nodup f below entries once each

theorem sourcesIn_nodup (f : SourceFilter) (below : List String) (entries : List (String × Node))
    (once : (entries.map Prod.fst).Nodup) (each : ∀ e ∈ entries, e.2.WellNamed) :
    (sourcesIn f below entries).Nodup := by
  cases entries with
  | nil => exact List.nodup_nil
  | cons entry entries =>
    obtain ⟨name, node⟩ := entry
    have namedFirst : node.WellNamed := each _ List.mem_cons_self
    have eachLater : ∀ e ∈ entries, e.2.WellNamed :=
      fun e he => each e (List.mem_cons_of_mem _ he)
    obtain ⟨fresh, onceLater⟩ := List.nodup_cons.mp once
    rw [sourcesIn]
    refine List.nodup_append.mpr
      ⟨?_, sourcesIn_nodup f below entries onceLater eachLater, ?_⟩
    · split
      · exact List.nodup_nil
      · exact sources_nodup f (below ++ [name]) node namedFirst
    · -- What is found below two entries differs in the name that follows `below`.
      intro p first q later
      split at first
      · cases first
      · obtain ⟨more, _, rfl, _⟩ := (mem_sources f _ node namedFirst).mp first
        obtain ⟨other, child, rest, _, member, rfl, _⟩ :=
          (mem_sourcesIn f below entries eachLater).mp later
        intro same
        have same : name :: more = other :: rest := by simpa using same
        obtain ⟨rfl, -⟩ := List.cons.inj same
        exact fresh (List.mem_map.mpr ⟨(name, child), member, rfl⟩)

end

/-! ## Where listed paths lead -/

/-- From where the path of a place leads, names lead on to what is there, unless that is a link. -/
theorem locate_below {tree node : Node} {above below place : List String}
    (h : Path.IsPlace (above ++ below)) (located : tree.locate [] (.ofPlace above) = .ok place)
    (there : tree.at? (place ++ below) = some node) (solid : ∀ target, node ≠ .link target) :
    tree.locate [] (.ofPlace (above ++ below)) = .ok (place ++ below) := by
  have hAbove : Path.IsPlace above := fun n hn => h n (List.mem_append_left below hn)
  by_cases noBelow : below = []
  · simpa [noBelow] using located
  rw [locate_eq_ok_iff (Path.ofPlace_isAbsolute _)] at located ⊢
  rw [Move.ofText_ofPlace h (by simp [noBelow])]
  by_cases top : above = []
  · -- The path of the root is a single slash, which only stays where it is.
    subst top
    have start : Move.ofText (Path.ofPlace []).text = [.stay] := by decide
    rw [start, follow_stay] at located
    split at located
    · rw [follow] at located
      cases located
      exact follow_names there solid
    · cases located
  · rw [Move.ofText_ofPlace hAbove top] at located
    obtain ⟨left, all⟩ := follow_append located (below.map .down)
    rw [List.map_append, all]
    exact follow_names there solid

/-- What a walk from a node that is no file finds lies below that node. -/
theorem mem_sources_below {node : Node} {f : SourceFilter} {below : List String}
    (named : node.WellNamed) (notFile : ∀ bytes, node ≠ .file bytes)
    (h : below ∈ node.sources f []) :
    ∃ bytes, below ≠ [] ∧ Path.IsPlace below ∧ node.at? below = some (.file bytes) ∧
      f.prunes below = false := by
  obtain ⟨_, bytes, rfl, found, _, kept⟩ := (mem_sources f [] node named).mp h
  have ne : below ≠ [] := by
    rintro rfl
    exact notFile bytes (Option.some.inj found)
  exact ⟨bytes, ne, named.isPlace found, found, kept below List.prefix_rfl ne⟩

/-- A listed path is the path of the root with the names of a file below it, which the walk does not
leave out. -/
theorem mem_sourceFiles {tree : Node} {f : SourceFilter} {above : List String} {path : Path}
    (hAbove : Path.IsPlace above) (named : tree.WellNamed)
    (h : path ∈ tree.sourceFiles (.ofPlace above) f) :
    ∃ place below bytes, tree.locate [] (.ofPlace above) = .ok place ∧
      Path.IsPlace (above ++ below) ∧ path = .ofPlace (above ++ below) ∧
      tree.at? (place ++ below) = some (.file bytes) ∧ (below ≠ [] → f.prunes below = false) := by
  unfold sourceFiles at h
  split at h
  · cases h
  · rename_i place located
    split at h
    · rename_i bytes found
      split at h
      · refine ⟨place, [], bytes, located, by simpa using hAbove, ?_, by simpa using found, by simp⟩
        simpa using h
      · cases h
    · rename_i node notFile found
      obtain ⟨below, listed, rfl⟩ := List.mem_map.mp h
      rw [List.mem_mergeSort] at listed
      obtain ⟨bytes, ne, hBelow, there, kept⟩ :=
        mem_sources_below (named.below found) notFile listed
      have isPlace := hAbove.append hBelow
      have joined := Path.join_ofPlace isPlace ne
      refine ⟨place, below, bytes, located, isPlace, joined, ?_, fun _ => kept⟩
      rw [at?_append, found]
      exact there
    · cases h

theorem sourceFiles_nodup {tree : Node} {f : SourceFilter} {above : List String}
    (hAbove : Path.IsPlace above) (named : tree.WellNamed) :
    (tree.sourceFiles (.ofPlace above) f).Nodup := by
  unfold sourceFiles
  split
  · exact List.nodup_nil
  · split
    · split <;> simp
    · rename_i node notFile found
      have once := sources_nodup f [] node (named.below found)
      refine List.Nodup.map_on ?_ ((List.mergeSort_perm _ _).nodup_iff.mpr once)
      intro a ha b hb same
      rw [List.mem_mergeSort] at ha hb
      obtain ⟨_, neA, placeA, _⟩ := mem_sources_below (named.below found) notFile ha
      obtain ⟨_, neB, placeB, _⟩ := mem_sources_below (named.below found) notFile hb
      have placeA := hAbove.append placeA
      have placeB := hAbove.append placeB
      rw [Path.join_ofPlace placeA neA, Path.join_ofPlace placeB neB] at same
      exact List.append_cancel_left (Path.ofPlace_injOn placeA placeB same)
    · exact List.nodup_nil

end Node

/-! ## Listings -/

/-- Files that a batch can take one by one: each is in scope under the path it is listed by, and no
two of them are the same. -/
structure Listing (scope : Scope) (tree : Node) (files : List Path) : Prop where
  once : files.Nodup
  own : ∀ path ∈ files, scope.resolve path = path
  admitted : ∀ path ∈ files, scope.admits path = true
  apart : ∀ p ∈ files, ∀ q ∈ files, ∀ place, tree.locate [] p = .ok place →
    tree.locate [] q = .ok place → p = q

/-- The scope judges a path by its whole spelling below the root, and so did the walk. -/
theorem Scope.admits_ofPlace {scope : Scope} {above below : List String}
    (root : scope.root = .ofPlace above) (h : Path.IsPlace (above ++ below))
    {extensions : List String}
    (kept : below ≠ [] → SourceFilter.prunes ⟨extensions, scope.exclude⟩ below = false) :
    scope.admits (.ofPlace (above ++ below)) = true := by
  have hAbove : Path.IsPlace above := fun n hn => h n (List.mem_append_left below hn)
  have inside : (Path.ofPlace (above ++ below)).startsWith (.ofPlace above) = true :=
    (Path.startsWith_ofPlace h hAbove).mpr (List.prefix_append above below)
  have allowed : isExcluded (.ofPlace above) (.ofPlace (above ++ below)) scope.exclude = false := by
    rw [isExcluded, Path.below?_ofPlace h, Option.getD_some]
    by_cases top : below = []
    · -- The root itself has an empty spelling, which holds no text but the empty one.
      subst top
      have empty : (String.intercalate "/" []).toList = [] := by decide
      rw [List.any_eq_false]
      intro entry _
      cases chars : entry.toList <;> simp_all [occursIn]
    · have kept := kept top
      rw [SourceFilter.prunes, Bool.or_eq_false_iff] at kept
      exact kept.2
  simp [admits, root, inside, allowed]

/-- A listed path leads to a file. -/
theorem bytesAt?_sourceFiles {root : Path} (absolute : root.isAbsolute = true)
    {exclude : List String} {f : SourceFilter} {tree : Node} (named : tree.WellNamed) {path : Path}
    (listed : path ∈ tree.sourceFiles (Scope.ofRoot root exclude).root f) :
    ∃ place bytes, tree.locate [] path = .ok place ∧ tree.bytesAt? place = some bytes := by
  obtain ⟨above, hAbove, atRoot⟩ := Scope.root_ofRoot absolute exclude
  rw [atRoot] at listed
  obtain ⟨place, below, bytes, located, isPlace, rfl, there, _⟩ :=
    Node.mem_sourceFiles hAbove named listed
  exact ⟨place ++ below, bytes, Node.locate_below isPlace located there (by simp),
    Node.bytesAt?_of_at? there⟩

theorem listing_sourceFiles {root : Path} (absolute : root.isAbsolute = true)
    (extensions exclude : List String) {tree : Node} (named : tree.WellNamed) :
    Listing (.ofRoot root exclude) tree
      (tree.sourceFiles (Scope.ofRoot root exclude).root ⟨extensions, exclude⟩) := by
  obtain ⟨above, hAbove, atRoot⟩ := Scope.root_ofRoot absolute exclude
  rw [atRoot]
  refine ⟨Node.sourceFiles_nodup hAbove named, ?_, ?_, ?_⟩
  · intro path listed
    obtain ⟨_, below, _, _, isPlace, rfl, _⟩ := Node.mem_sourceFiles hAbove named listed
    rw [Scope.resolve, if_pos (Path.ofPlace_isAbsolute _), Path.normalize_ofPlace isPlace]
  · intro path listed
    obtain ⟨_, below, _, _, isPlace, rfl, _, kept⟩ := Node.mem_sourceFiles hAbove named listed
    exact Scope.admits_ofPlace atRoot isPlace kept
  · intro p hp q hq place
    obtain ⟨start, belowP, _, located, isPlaceP, rfl, thereP, _⟩ :=
      Node.mem_sourceFiles hAbove named hp
    obtain ⟨start', belowQ, _, located', isPlaceQ, rfl, thereQ, _⟩ :=
      Node.mem_sourceFiles hAbove named hq
    obtain rfl : start = start' := Except.ok.inj (located.symm.trans located')
    rw [Node.locate_below isPlaceP located thereP (by simp),
      Node.locate_below isPlaceQ located thereQ (by simp)]
    rintro ⟨⟩ same
    rw [List.append_cancel_left (Except.ok.inj same)]

end LintRepair
