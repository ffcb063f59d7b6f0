import LintRepair.Proofs.Grouping
import LintRepair.Proofs.SourceWalk
import Mathlib.Data.List.TakeWhile

/-!
Which files a walk lists. It leaves out whole directories on its way, yet a file is
listed just if its own names below the root speak for it: whatever makes the walk
leave out a directory is also found in the path of every file in it.

* `SourceFilter.extension?_eq_some_iff`, `SourceFilter.wants_iff`: extensions;
* `kept_iff`: what is left out, from the names of a file alone;
* `walk_lists_exactly`: the whole listing and its order.
-/

namespace LintRepair

namespace SourceFilter

/-- The name ends in a dot and the extension. Something stands before this dot, and it is the last
one. -/
def HasExtension (name extension : String) : Prop :=
  '.' ∉ extension.toList ∧ ∃ stem, stem ≠ [] ∧ name.toList = stem ++ '.' :: extension.toList

theorem extension?_eq_some_iff {name extension : String} :
    extension? name = some extension ↔ HasExtension name extension := by
  have cut : name.toList = (name.toList.reverse.dropWhile (· ≠ '.')).reverse ++
      (name.toList.reverse.takeWhile (· ≠ '.')).reverse := by
    rw [← List.reverse_append, List.takeWhile_append_dropWhile, List.reverse_reverse]
  constructor
  · intro h
    simp only [extension?] at h
    split at h
    · rename_i dot last stem found
      cases h
      have isDot : dot = '.' := by
        have head := List.head?_dropWhile_not (fun c => decide (c ≠ '.')) name.toList.reverse
        rw [found] at head
        simpa using head
      subst isDot
      refine ⟨fun member => ?_, (last :: stem).reverse, by simp, ?_⟩
      · rw [String.toList_ofList, List.mem_reverse] at member
        simpa using List.mem_takeWhile_imp member
      · rw [found, List.reverse_cons, List.append_assoc] at cut
        rw [String.toList_ofList]
        exact cut
    · cases h
  · rintro ⟨single, stem, ne, spelled⟩
    have before : ∀ c ∈ extension.toList.reverse, decide (c ≠ '.') = true := by
      intro c member
      rw [List.mem_reverse] at member
      simpa using fun dot : c = '.' => single (dot ▸ member)
    obtain ⟨last, others, reversed⟩ := List.exists_cons_of_ne_nil (mt List.reverse_eq_nil_iff.mp ne)
    have behind : name.toList.reverse.dropWhile (· ≠ '.') = '.' :: last :: others := by
      rw [spelled, List.reverse_append, List.reverse_cons, List.append_assoc,
        List.dropWhile_append_of_pos before, reversed]
      rfl
    have passed : name.toList.reverse.takeWhile (· ≠ '.') = extension.toList.reverse := by
      rw [spelled, List.reverse_append, List.reverse_cons, List.append_assoc,
        List.takeWhile_append_of_pos before]
      simp
    simp only [extension?, behind, passed, List.reverse_reverse, String.ofList_toList]

theorem wants_iff {f : SourceFilter} {name : String} : f.wants name = true ↔
    ∃ extension, HasExtension name extension ∧
      ∃ wanted ∈ f.extensions, wanted.toList.dropWhile (· == '.') = extension.toList := by
  simp only [← extension?_eq_some_iff, wants]
  cases extension? name with
  | none => simp
  | some extension => simp

theorem prunes_eq_false_iff {f : SourceFilter} {below : List String} :
    f.prunes below = false ↔ below.getLast? ≠ some ".git" ∧
      ∀ entry ∈ f.exclude, entry ≠ "" →
        ¬ entry.toList <:+: (String.intercalate "/" below).toList := by
  simp [prunes, ← occursIn_iff]

/-- What the names of a file below the root have to be for the walk to list it. -/
structure Admits (f : SourceFilter) (below : List String) : Prop where
  extension : ∃ name extension, below.getLast? = some name ∧ HasExtension name extension ∧
    ∃ wanted ∈ f.extensions, wanted.toList.dropWhile (· == '.') = extension.toList
  unversioned : ".git" ∉ below
  unexcluded : ∀ entry ∈ f.exclude, entry ≠ "" →
    ¬ entry.toList <:+: (String.intercalate "/" below).toList

end SourceFilter

/-- Names at the start of others are spelled at the start of their spelling. -/
theorem intercalate_starts_with {upTo below : List String} (within : upTo <+: below) :
    (String.intercalate "/" upTo).toList <+: (String.intercalate "/" below).toList := by
  obtain ⟨rest, rfl⟩ := within
  by_cases none : upTo = []
  · simp [none]
  by_cases all : rest = []
  · simp [all]
  rw [String.toList_intercalate, String.toList_intercalate, List.map_append]
  exact ⟨_, (Path.intercalate_append (by simpa using none) (by simpa using all)).symm⟩

namespace Node

/-- Nothing on the way to a file is left out just if nothing speaks against its own names. -/
theorem kept_iff {f : SourceFilter} {below : List String} :
    Kept f [] below ↔ ".git" ∉ below ∧ ∀ entry ∈ f.exclude, entry ≠ "" →
      ¬ entry.toList <:+: (String.intercalate "/" below).toList := by
  simp only [Kept, List.nil_append, SourceFilter.prunes_eq_false_iff]
  constructor
  · intro kept
    constructor
    · intro member
      obtain ⟨before, after, rfl⟩ := List.append_of_mem member
      exact (kept (before ++ [".git"]) (by simp) (by simp)).1 (by simp)
    · intro entry listed named inside
      by_cases top : below = []
      · subst top
        exact named (by simpa using inside)
      · exact (kept below List.prefix_rfl top).2 entry listed named inside
  · rintro ⟨unversioned, unexcluded⟩ upTo within -
    refine ⟨fun last => unversioned (within.subset (List.mem_of_getLast? last)), ?_⟩
    intro entry listed named inside
    exact unexcluded entry listed named (inside.trans (intercalate_starts_with within).isInfix)

theorem admits_iff {f : SourceFilter} {below : List String} :
    f.Admits below ↔ below.getLast?.any f.wants = true ∧ Kept f [] below := by
  have last : below.getLast?.any f.wants = true ↔
      ∃ name extension, below.getLast? = some name ∧ SourceFilter.HasExtension name extension ∧
        ∃ wanted ∈ f.extensions, wanted.toList.dropWhile (· == '.') = extension.toList := by
    rw [Option.any_eq_true]
    simp only [SourceFilter.wants_iff, exists_and_left]
  rw [last, kept_iff]
  exact ⟨fun h => ⟨h.extension, h.unversioned, h.unexcluded⟩, fun h => ⟨h.1, h.2.1, h.2.2⟩⟩

/-! ## The order of the listing -/

theorem namesLe_iff (a b : List String) : namesLe a b = true ↔ a ≤ b := by
  rw [← not_lt]
  induction a generalizing b with
  | nil => simp [namesLe]
  | cons x a ih =>
    cases b with
    | nil => simp [namesLe]
    | cons y b =>
      rw [namesLe, List.cons_lt_cons_iff]
      by_cases same : x = y
      · simp [same, ih]
      · have order : x < y ↔ ¬ y < x := ⟨lt_asymm, fun h => lt_of_le_of_ne (not_lt.mp h) same⟩
        rw [if_neg (by simpa using same), decide_eq_true_iff, order]
        simp only [Ne.symm same, false_and, or_false]

theorem ascending_sorted {names : List (List String)} (once : names.Nodup) :
    (names.mergeSort namesLe).Pairwise (· < ·) := by
  have sorted : (names.mergeSort namesLe).Pairwise (namesLe · · = true) := by
    refine List.pairwise_mergeSort ?_ ?_ names
    · intro a b c
      rw [namesLe_iff, namesLe_iff, namesLe_iff]
      exact le_trans
    · intro a b
      rw [Bool.or_eq_true, namesLe_iff, namesLe_iff]
      exact le_total a b
  have apart := (List.mergeSort_perm names namesLe).nodup_iff.mpr once
  exact (sorted.and apart).imp fun h => lt_of_le_of_ne ((namesLe_iff _ _).mp h.1) h.2

end Node

theorem Path.lt_ofPlace {a b : List String} (ha : IsPlace a) (hb : IsPlace b) :
    (ofPlace a).lt (ofPlace b) = true ↔ a < b := by
  have names (a b : List String) : lt.go (a.map .name) (b.map .name) = true ↔ a < b := by
    induction a generalizing b with
    | nil => cases b <;> simp [lt.go]
    | cons x a ih =>
      cases b with
      | nil => simp [lt.go]
      | cons y b => simp [lt.go, Component.lt, ih, List.cons_lt_cons_iff]
  rw [lt, components_ofPlace ha, components_ofPlace hb, ← names]
  simp [lt.go, Component.lt]

/-! ## The listing -/

namespace Node

theorem sourceFiles_directory {tree : Node} {root : Path} {place : List String}
    {entries : List (String × Node)} (located : tree.locate [] root = .ok place)
    (directory : tree.at? place = some (.dir entries)) (f : SourceFilter) :
    tree.sourceFiles root f = (((Node.dir entries).sources f []).mergeSort namesLe).map fun below =>
      root.join ⟨String.intercalate "/" below⟩ := by
  simp only [sourceFiles, located, directory]

/-- The walk from a directory lists, in ascending order and each once, just the files below it that
their own names speak for. On the way there are no links. -/
theorem walk_lists_exactly {root : Path} (absolute : root.isAbsolute = true)
    (normal : root.normalize = root) {tree : Node} (named : tree.WellNamed) {place : List String}
    {entries : List (String × Node)} (located : tree.locate [] root = .ok place)
    (directory : tree.at? place = some (.dir entries)) (f : SourceFilter) :
    (tree.sourceFiles root f).Pairwise (fun p q => p.lt q = true) ∧
      (tree.sourceFiles root f).Nodup ∧
      ∀ path, path ∈ tree.sourceFiles root f ↔
        ∃ below bytes, path = root.join ⟨String.intercalate "/" below⟩ ∧
          path.below? root = some (String.intercalate "/" below) ∧
          tree.at? (place ++ below) = some (.file bytes) ∧ f.Admits below := by
  obtain ⟨above, hAbove, atPlace⟩ := Path.normalize_absolute absolute
  obtain rfl : root = .ofPlace above := normal.symm.trans atPlace
  have namedBelow := named.below directory
  have below_file (below : List String) : tree.at? (place ++ below) = (dir entries).at? below := by
    rw [at?_append, directory, Option.bind_some]
  -- What is found below the root has names, and its path is that of a place.
  have found {below : List String} {bytes : ByteArray}
      (there : (dir entries).at? below = some (.file bytes)) :
      below ≠ [] ∧ Path.IsPlace (above ++ below) := by
    refine ⟨?_, hAbove.append (namedBelow.isPlace there)⟩
    rintro rfl
    cases there
  have listed {below : List String} :
      below ∈ ((dir entries).sources f []).mergeSort namesLe ↔
        ∃ bytes, (dir entries).at? below = some (.file bytes) ∧ f.Admits below := by
    rw [List.mem_mergeSort, mem_sources f [] _ namedBelow]
    simp only [List.nil_append, exists_and_left, exists_eq_left', admits_iff]
  have spelled {below : List String} {bytes : ByteArray}
      (there : (dir entries).at? below = some (.file bytes)) :
      (Path.ofPlace above).join ⟨String.intercalate "/" below⟩ = .ofPlace (above ++ below) :=
    Path.join_ofPlace (found there).2 (found there).1
  refine ⟨?_, sourceFiles_nodup hAbove named, ?_⟩
  · have ascending := ascending_sorted (sources_nodup f [] _ namedBelow)
    rw [sourceFiles_directory located directory]
    refine List.pairwise_map.mpr (ascending.imp_of_mem fun ha hb before => ?_)
    obtain ⟨_, thereA, _⟩ := listed.mp ha
    obtain ⟨_, thereB, _⟩ := listed.mp hb
    rw [spelled thereA, spelled thereB, Path.lt_ofPlace (found thereA).2 (found thereB).2]
    exact List.append_left_lt before
  · intro path
    rw [sourceFiles_directory located directory, List.mem_map]
    simp only [listed, below_file]
    constructor
    · rintro ⟨below, ⟨bytes, there, admitted⟩, rfl⟩
      refine ⟨below, bytes, rfl, ?_, there, admitted⟩
      rw [spelled there, Path.below?_ofPlace (found there).2]
    · rintro ⟨below, bytes, rfl, -, there, admitted⟩
      exact ⟨below, ⟨bytes, there, admitted⟩, rfl⟩

/-- An exclusion with a slash in it leaves out no directory, but every file in `gen`. The wanted
extension is written with a dot. -/
theorem walk_lists_exactly_slash :
    let root : Path := ⟨"/p"⟩
    let gen : Node := .dir [("b.ts", .file "1".toUTF8)]
    let src : Node := .dir [("a.ts", .file "2".toUTF8), ("gen", gen)]
    let tree : Node := .dir [("p", .dir [("src", src)])]
    let f : SourceFilter := ⟨["..ts"], ["gen/"]⟩
    root.isAbsolute = true ∧ root.normalize = root ∧ tree.WellNamed ∧
      tree.locate [] root = .ok ["p"] ∧ ⟨"/p/src/a.ts"⟩ ∈ tree.sourceFiles root f ∧
      ⟨"/p/src/gen/b.ts"⟩ ∉ tree.sourceFiles root f := by
  intro root gen src tree f
  have absolute : root.isAbsolute = true := by decide
  have normal : root.normalize = root := by decide
  have named : tree.WellNamed := by
    have inGen : gen.WellNamed :=
      .dir (by decide) (by simp [Path.IsName]) (by simp [WellNamed.leaf])
    have inSrc : src.WellNamed :=
      .dir (by decide) (by simp [Path.IsName]) (by simp [WellNamed.leaf, inGen])
    have inRoot : (dir [("src", src)]).WellNamed :=
      .dir (by decide) (by simp [Path.IsName]) (by simp [inSrc])
    exact .dir (by decide) (by simp [Path.IsName]) (by simp [inRoot])
  have located : tree.locate [] root = .ok ["p"] := by
    have moves : Move.ofText root.text = ["p"].map .down := by decide
    rw [locate_eq_ok_iff absolute, moves]
    exact follow_names rfl (by simp)
  obtain ⟨_, _, listed⟩ := walk_lists_exactly absolute normal named located rfl f
  refine ⟨absolute, normal, named, located, ?_, ?_⟩
  · refine (listed _).mpr ⟨["src", "a.ts"], "2".toUTF8, by decide, by decide, rfl, ?_⟩
    refine ⟨⟨"a.ts", "ts", rfl, ⟨by decide, ['a'], by decide, by decide⟩, "..ts", ?_⟩, ?_, ?_⟩
    · exact ⟨List.mem_singleton_self _, by decide⟩
    · decide
    · simp only [f, List.forall_mem_singleton]
      intro _ inside
      rw [← occursIn_iff] at inside
      revert inside
      decide
  · intro member
    obtain ⟨below, _, -, spelled, -, admitted⟩ := (listed _).mp member
    have below? : (⟨"/p/src/gen/b.ts"⟩ : Path).below? root = some "src/gen/b.ts" := by decide
    rw [below?] at spelled
    apply admitted.unexcluded "gen/" (List.mem_singleton_self _) (by decide)
    rw [← Option.some.inj spelled, ← occursIn_iff]
    decide

end Node

end LintRepair
