import LintRepair.Proofs.ContentBatch

/-!
A batch for contents over the tree that the same batch has left. New content does
not change what a walk lists, so the second batch takes the same files
(`Edits.sourceFiles_eq`). It changes one of them just if the remedy changes what it
has written itself (`Workplace.runContent_again`).
-/

namespace LintRepair

namespace Node

theorem isLink_iff {tree : Node} {directory : List String} {path : Path} :
    tree.isLink directory path = true ↔ ∃ place target,
      tree.spot false directory path = .ok (.taken place) ∧
        tree.layoutAt? place = some (.link target) := by
  rw [isLink]
  cases tree.spot false directory path with
  | error => simp
  | ok spot =>
    cases spot with
    | free => simp
    | taken place =>
      cases found : tree.at? place with
      | none => simp [layoutAt?, entryAt?, found]
      | some node => cases node <;> simp [layoutAt?, entryAt?, found, entry, Entry.blank]

/-- Whether a path is a link can be seen from the layout. -/
theorem SameLayout.isLink_eq {a b : Node} (same : SameLayout a b) (directory : List String)
    (path : Path) : a.isLink directory path = b.isLink directory path := by
  have spots : a.spot false directory path = b.spot false directory path := by
    simp only [spot, same.follow_eq]
  rw [Bool.eq_iff_iff, isLink_iff, isLink_iff]
  simp only [spots, same _]

/-! ## New content and the walk -/

section
variable {tree : Node} {place : List String} {old : ByteArray}

theorem sourcesIn_setEntry {f : SourceFilter} {below : List String} {name : String}
    {node new : Node} {entries : List (String × Node)} (found : entries.lookup name = some node)
    (same : new.sources f (below ++ [name]) = node.sources f (below ++ [name])) :
    sourcesIn f below (setEntry name new entries) = sourcesIn f below entries := by
  induction entries with
  | nil => cases found
  | cons entry entries ih =>
    obtain ⟨first, child⟩ := entry
    rw [lookup_cons_eq] at found
    by_cases here : name = first
    · subst here
      obtain rfl : child = node := by simpa using found
      simp [setEntry, sourcesIn, same]
    · rw [if_neg here] at found
      simp [setEntry, Ne.symm here, sourcesIn, ih found]

theorem sources_put (there : tree.at? place = some (.file old)) (new : ByteArray)
    (f : SourceFilter) (below : List String) :
    (tree.put place (.file new)).sources f below = tree.sources f below := by
  induction place generalizing tree below with
  | nil =>
    cases there
    simp only [put, sources]
  | cons name place ih =>
    obtain ⟨child, found, below⟩ := Option.bind_eq_some_iff.mp there
    cases tree with
    | file | link => cases found
    | dir entries =>
      rw [put_into_child found, sources, sources]
      exact sourcesIn_setEntry found (ih below _)

/-- New content is seen only from places above it, and there it is put into what stands there. -/
theorem at?_put_cases (there : tree.at? place = some (.file old)) (new : ByteArray)
    (other : List String) :
    (tree.put place (.file new)).at? other = tree.at? other ∨
      ∃ more node, place = other ++ more ∧ tree.at? other = some node ∧
        (tree.put place (.file new)).at? other = some (node.put more (.file new)) := by
  induction place generalizing tree other with
  | nil =>
    cases there
    cases other with
    | nil => exact .inr ⟨[], _, rfl, rfl, rfl⟩
    | cons name other => exact .inl rfl
  | cons name place ih =>
    obtain ⟨child, found, below⟩ := Option.bind_eq_some_iff.mp there
    cases tree with
    | file | link => cases found
    | dir entries =>
      cases other with
      | nil => exact .inr ⟨name :: place, _, rfl, rfl, rfl⟩
      | cons first other =>
        rw [put_into_child found]
        simp only [at?, child?, lookup_setEntry]
        by_cases here : first = name
        · subst here
          have found : entries.lookup first = some child := found
          simp only [found, if_pos, Option.bind_some]
          rcases ih below other with same | ⟨more, node, rfl, above, now⟩
          · exact .inl same
          · exact .inr ⟨more, node, rfl, above, now⟩
        · rw [if_neg here]
          exact .inl rfl

theorem sourceFiles_put (there : tree.at? place = some (.file old)) (new : ByteArray)
    (root : Path) (f : SourceFilter) :
    (tree.put place (.file new)).sourceFiles root f = tree.sourceFiles root f := by
  have layout := SameLayout.put there new
  unfold sourceFiles
  rw [← layout.locate_eq, ← layout.isLink_eq]
  cases tree.locate [] root with
  | error => rfl
  | ok start =>
    rcases at?_put_cases there new start with same | ⟨more, node, rfl, found, now⟩
    · simp only [same]
    · have inside : node.at? more = some (.file old) := by
        rw [at?_append, found] at there
        exact there
      have walk := sources_put inside new f []
      simp only [found, now]
      cases more with
      | nil =>
        cases inside
        rfl
      | cons name more =>
        obtain ⟨child, below, _⟩ := Option.bind_eq_some_iff.mp inside
        cases node with
        | file | link => cases below
        | dir entries =>
          rw [put_into_child below] at walk ⊢
          simp only [walk]

end

end Node

/-- Edits of texts do not change what a walk lists. -/
theorem Edits.sourceFiles_eq {scope : Scope} {offer : Path → String → String → Prop} {a b : Node}
    {paths : List Path} (h : Edits scope offer a paths b) (root : Path) (f : SourceFilter) :
    b.sourceFiles root f = a.sourceFiles root f := by
  induction h with
  | refl => rfl
  | step _ found _ _ written _ ih =>
    obtain ⟨_, _, there, rfl⟩ := place_of_step found written
    rw [ih, Node.sourceFiles_put there]

namespace Workplace

/-- A second batch for contents changes no file, in its report as in the tree, just if the remedy
leaves every text as it is that the first batch has written. -/
theorem runContent_again {root : Path} (absolute : root.isAbsolute = true)
    (extensions exclude : List String) (r : ContentRemedy) {tree : Node} (named : tree.WellNamed) :
    let w := Workplace.ofRoot root extensions exclude
    let last := (w.runContent r tree).2
    let settled := ∀ path ∈ w.sourceFiles tree, ∀ content, tree.readText? path = some content →
      r.mend (r.mend content) = r.mend content
    ((w.runContent r last).1.report.filesChanged = 0 ↔ settled) ∧
      ((w.runContent r last).2 = last ↔ settled) := by
  intro w last settled
  have listing : Listing w.scope tree (w.sourceFiles tree) :=
    listing_sourceFiles absolute extensions exclude named
  have mended : Mended r (w.sourceFiles tree) tree last (w.runContent r tree).1 :=
    w.mendSources_mended r listing
  have edits := w.run_edits (.content r) tree []
  have files : w.sourceFiles last = w.sourceFiles tree := edits.sourceFiles_eq _ _
  have again : Mended r (w.sourceFiles tree) last (w.runContent r last).2 (w.runContent r last).1 :=
    files ▸ w.mendSources_mended r (files ▸ listing.sameLayout mended.layout)
  have report : (w.runContent r last).1.report.filesChanged = 0 ↔ settled := by
    rw [again.report_eq, List.countP_eq_zero]
    refine forall₂_congr fun path listed => ?_
    cases found : tree.readText? path with
    | none =>
      have still : last.readText? path = none := (edits.readText?_eq_none_iff path).mpr found
      simp [still]
    | some content => simp [mended.listed path listed content found]
  refine ⟨report, fun same path listed content found => ?_, fun kept => ?_⟩
  · have first := mended.listed path listed content found
    have second := again.listed path listed _ first
    rw [same, first] at second
    exact (Option.some.inj second).symm
  · have idle : (w.run (.content r) last []).1.report.isEmpty = true :=
      beq_iff_eq.mpr (report.mpr kept)
    exact w.run_idle idle

end Workplace

end LintRepair
