import LintRepair.Proofs.Patching
import LintRepair.Proofs.SourceWalk
import LintRepair.Remedy.Annotation

/-!
A batch that mends whole contents. It takes the files that the walk lists, each of
them once, gives every text among them its mended content and leaves all else as it
is. Its report counts just that.
-/

namespace LintRepair

/-! ## Listings -/

namespace Listing

variable {scope : Scope} {tree : Node} {path : Path} {files : List Path}

theorem tail (h : Listing scope tree (path :: files)) : Listing scope tree files where
  once := (List.nodup_cons.mp h.once).2
  own q hq := h.own q (List.mem_cons_of_mem _ hq)
  admitted q hq := h.admitted q (List.mem_cons_of_mem _ hq)
  apart p hp q hq := h.apart p (List.mem_cons_of_mem _ hp) q (List.mem_cons_of_mem _ hq)

theorem sameLayout {next : Node} (h : Listing scope tree files) (same : tree.SameLayout next) :
    Listing scope next files where
  once := h.once
  own := h.own
  admitted := h.admitted
  apart p hp q hq place := by
    rw [← same.locate_eq, ← same.locate_eq]
    exact h.apart p hp q hq place

/-- The other listed paths do not lead where the first one does. -/
theorem locate_ne (h : Listing scope tree (path :: files)) {place : List String}
    (located : tree.locate [] path = .ok place) {q : Path} (hq : q ∈ files) :
    tree.locate [] q ≠ .ok place := by
  intro again
  have same := h.apart path List.mem_cons_self q (List.mem_cons_of_mem _ hq) place located again
  exact (List.nodup_cons.mp h.once).1 (same ▸ hq)

end Listing

/-! ## Contents -/

/-- What a try of the remedy on this text comes to; there may be no text. -/
def ContentRemedy.outcome (r : ContentRemedy) : Option String → Outcome
  | none => .skipped
  | some content => (outcomeOf content (some (r.mend content))).1

theorem ContentRemedy.outcome_cases (r : ContentRemedy) (text : Option String) :
    (r.outcome text == .changed) = (text.any fun content => r.mend content ≠ content) ∧
      (r.outcome text == .noMatch) = false ∧ (r.outcome text == .skipped) = text.isNone := by
  cases text with
  | none => exact ⟨rfl, rfl, rfl⟩
  | some content => by_cases same : r.mend content = content <;> simp [outcome, outcomeOf, same]

/-- What a batch that takes some files makes of a tree. -/
structure Mended (r : ContentRemedy) (files : List Path) (tree last : Node) (log : Log) : Prop where
  layout : tree.SameLayout last
  listed : ∀ path ∈ files, ∀ content, tree.readText? path = some content →
    last.readText? path = some (r.mend content)
  others : ∀ place, (∀ path ∈ files, tree.locate [] path = .ok place →
    tree.readText? path = none) → last.bytesAt? place = tree.bytesAt? place
  outcomes : log = files.map fun path => [⟨path, r.outcome (tree.readText? path)⟩]

namespace Mended

variable {r : ContentRemedy} {scope : Scope} {path : Path} {files : List Path} {tree last : Node}
  {log : Log}

theorem skip (unreadable : tree.readText? path = none) (h : Mended r files tree last log) :
    Mended r (path :: files) tree last ([⟨path, .skipped⟩] :: log) where
  layout := h.layout
  listed q hq content found := by
    rcases List.mem_cons.mp hq with rfl | hq
    · rw [unreadable] at found
      cases found
    · exact h.listed q hq content found
  others place spared := h.others place fun q hq => spared q (List.mem_cons_of_mem _ hq)
  outcomes := by rw [h.outcomes, List.map_cons, unreadable, ContentRemedy.outcome]

/-- One more text is mended, and then those after it, none of which is the same file. -/
theorem mend {place : List String} {content : String}
    (listing : Listing scope tree (path :: files)) (located : tree.locate [] path = .ok place)
    (there : tree.at? place = some (.file content.toUTF8))
    (h : Mended r files (tree.put place (.file (r.mend content).toUTF8)) last log) :
    Mended r (path :: files) tree last ([⟨path, r.outcome (some content)⟩] :: log) := by
  have layout := Node.SameLayout.put there (r.mend content).toUTF8
  have readable := Node.readText?_of_locate located there
  have frame : ∀ q ∈ files, (tree.put place (.file (r.mend content).toUTF8)).readText? q =
      tree.readText? q := fun q hq =>
    Node.readText?_put there _ (listing.locate_ne located hq)
  -- The rest of the batch leaves the first file alone.
  have here : last.bytesAt? place = some (r.mend content).toUTF8 := by
    rw [h.others place, Node.bytesAt?_put there, if_pos rfl]
    intro q hq again
    rw [← layout.locate_eq] at again
    exact absurd again (listing.locate_ne located hq)
  refine ⟨fun other => (layout other).trans (h.layout other), ?_, ?_, ?_⟩
  · intro q hq text found
    rcases List.mem_cons.mp hq with rfl | hq
    · obtain rfl : content = text := Option.some.inj (readable.symm.trans found)
      rw [Node.readText?_eq, ← h.layout.locate_eq, ← layout.locate_eq, located]
      simp only [here, Option.bind_some]
      exact fromUTF8?_eq_some_iff.mpr rfl
    · rw [← frame q hq] at found
      exact h.listed q hq text found
  · intro other spared
    have ne : other ≠ place := by
      rintro rfl
      have none := spared path List.mem_cons_self located
      rw [readable] at none
      cases none
    rw [h.others other, Node.bytesAt?_put there, if_neg ne]
    intro q hq leads
    rw [← layout.locate_eq] at leads
    rw [frame q hq]
    exact spared q (List.mem_cons_of_mem _ hq) leads
  · rw [h.outcomes, List.map_cons, readable]
    congr 1
    exact List.map_congr_left fun q hq => by rw [frame q hq]

/-- Texts that the remedy changes are counted as changed files and as fixes, files without a text as
skipped, and there is nothing to miss. -/
theorem report_eq (h : Mended r files tree last log) :
    let changed := files.countP fun path =>
      (tree.readText? path).any fun content => r.mend content ≠ content
    log.report = ⟨changed, changed, 0, files.countP fun path => (tree.readText? path).isNone⟩ := by
  have tries : log.flatten = files.map fun path => ⟨path, r.outcome (tree.readText? path)⟩ := by
    rw [h.outcomes, ← List.flatMap_def, List.map_eq_flatMap]
  have count (outcome : Outcome) : log.count outcome =
      files.countP fun path => r.outcome (tree.readText? path) == outcome := by
    rw [Log.count, tries, List.countP_map]
    rfl
  have perFile : log.countP (·.any (·.outcome == .changed)) =
      files.countP fun path => r.outcome (tree.readText? path) == .changed := by
    rw [h.outcomes, List.countP_map]
    simp [Function.comp_def]
  simp only [Log.report, count, perFile, (r.outcome_cases _).1, (r.outcome_cases _).2.1,
    (r.outcome_cases _).2.2, List.countP_false, Function.const_apply]

end Mended

namespace Workplace

theorem mendSources_cons (w : Workplace) (r : ContentRemedy) (tree : Node) (file : Path)
    (files : List Path) :
    let tried := patch w.scope tree file fun content => some (r.mend content)
    w.mendSources r tree (file :: files) =
      ([tried.1] :: (w.mendSources r tried.2 files).1, (w.mendSources r tried.2 files).2) := rfl

/-- Listed files are taken one after the other, and what was listed stays a listing. -/
theorem mendSources_mended (w : Workplace) (r : ContentRemedy) {tree : Node}
    {files : List Path} (listing : Listing w.scope tree files) :
    Mended r files tree (w.mendSources r tree files).2 (w.mendSources r tree files).1 := by
  induction files generalizing tree with
  | nil => exact ⟨fun _ => rfl, by simp, fun _ _ => rfl, rfl⟩
  | cons path files ih =>
    have own := listing.own path List.mem_cons_self
    have admitted := listing.admitted path List.mem_cons_self
    rw [mendSources_cons]
    cases found : tree.readText? path with
    | none =>
      have skipped : patch w.scope tree path (fun content => some (r.mend content)) =
          (⟨path, .skipped⟩, tree) := by
        rw [patch_skipped _ (.inr (own.symm ▸ found)), own]
      rw [skipped]
      exact (ih listing.tail).skip found
    | some content =>
      obtain ⟨place, located, there, _⟩ := Node.write_of_read (Node.read_of_readText? found)
      have tried := patch_text (fun content => some (r.mend content)) (own.symm ▸ admitted)
        (own.symm ▸ located) there
      rw [tried, own]
      have layout := Node.SameLayout.put there (r.mend content).toUTF8
      exact .mend listing located there (ih (listing.tail.sameLayout layout))

/-- A batch for contents does its job and no more. It takes each source file once, and the scope
admits it. Every text among them ends as the remedy has it, and every other file, whether a source or
not, ends as it was. The report counts the texts that were changed and the files without one. -/
theorem content_batch_exact {root : Path} (absolute : root.isAbsolute = true)
    (extensions exclude : List String) (r : ContentRemedy) {tree : Node} (named : tree.WellNamed) :
    let w := Workplace.ofRoot root extensions exclude
    let files := w.sourceFiles tree
    let last := (w.runContent r tree).2
    let changed := files.countP fun path =>
      (tree.readText? path).any fun content => r.mend content ≠ content
    files.Nodup ∧
      (∀ path ∈ files, w.scope.admits (w.scope.resolve path) = true ∧
        ∃ place bytes, tree.locate [] path = .ok place ∧ tree.bytesAt? place = some bytes) ∧
      (∀ path ∈ files, ∀ content, tree.readText? path = some content →
        last.readText? path = some (r.mend content)) ∧
      (∀ place, (∀ path ∈ files, tree.locate [] path = .ok place → tree.readText? path = none) →
        last.bytesAt? place = tree.bytesAt? place) ∧
      tree.SameLayout last ∧
      (w.runContent r tree).1.report =
        ⟨changed, changed, 0, files.countP fun path => (tree.readText? path).isNone⟩ := by
  intro w files last changed
  have listing : Listing w.scope tree files := listing_sourceFiles absolute extensions exclude named
  have mended : Mended r files tree last (w.runContent r tree).1 := w.mendSources_mended r listing
  refine ⟨listing.once, ?_, mended.listed, mended.others, mended.layout, mended.report_eq⟩
  intro path listed
  rw [listing.own path listed]
  exact ⟨listing.admitted path listed, bytesAt?_sourceFiles absolute named listed⟩

/-- The root is spelled with `..` and is reached through a link. Below it there are a text, bytes
that are no text, a link, and an excluded directory with a text in it, which the remedy would change
as well. -/
theorem content_batch_exact_linked :
    let root : Path := ⟨"/x/../now"⟩
    let dist : Node := .dir [("d.ts", .file "let y: any;".toUTF8)]
    let v1 : Node := .dir [("a.ts", .file "let x: any;".toUTF8), ("b.ts", .file (.mk #[0xff])),
      ("c.ts", .link "a.ts"), ("dist", dist)]
    let tree : Node := .dir [("now", .link "v1"), ("v1", v1)]
    let w := Workplace.ofRoot root ["ts"] ["dist"]
    let r := Annotation.remedy
    let last := (w.runContent r tree).2
    root.isAbsolute = true ∧ tree.WellNamed ∧
      w.sourceFiles tree = [⟨"/now/a.ts"⟩, ⟨"/now/b.ts"⟩] ∧
      last.readText? ⟨"/now/a.ts"⟩ = some "let x: unknown;" ∧
      r.mend "let y: any;" = "let y: unknown;" ∧
      last.bytesAt? ["v1", "dist", "d.ts"] = some "let y: any;".toUTF8 ∧
      (w.runContent r tree).1.report = ⟨1, 1, 0, 1⟩ := by
  intro root dist v1 tree w r last
  have absolute : root.isAbsolute = true := by decide
  have named : tree.WellNamed := by
    have inDist : dist.WellNamed :=
      .dir (by decide) (by simp [Path.IsName]) (by simp [Node.WellNamed.leaf])
    have inRoot : v1.WellNamed :=
      .dir (by decide) (by simp [Path.IsName]) (by simp [Node.WellNamed.leaf, inDist])
    exact .dir (by decide) (by simp [Path.IsName]) (by simp [Node.WellNamed.leaf, inRoot])
  have atRoot : tree.locate [] ⟨"/now"⟩ = .ok ["v1"] := by
    have moves : Move.ofText "/now" = [.down "now"] := by decide
    have target : Move.ofText "v1" = [.down "v1"] := by decide
    have relative : (Path.mk "v1").isAbsolute = false := by decide
    rw [Node.locate_eq_ok_iff (by decide), moves]
    simp [Node.follow, tree, v1, Node.at?, Node.lookup_cons_eq, Node.linkLimit, target, relative]
  have files : w.sourceFiles tree = [⟨"/now/a.ts"⟩, ⟨"/now/b.ts"⟩] := by
    have root : w.scope.root = ⟨"/now"⟩ := by decide
    have walked : v1.sources ⟨["ts"], ["dist"]⟩ [] = [["a.ts"], ["b.ts"]] := by decide
    have sorted : [["a.ts"], ["b.ts"]].mergeSort Node.namesLe = [["a.ts"], ["b.ts"]] :=
      List.mergeSort_of_pairwise (by decide)
    have unfolded : w.sourceFiles tree = (v1.sources ⟨["ts"], ["dist"]⟩ [] |>.mergeSort
        Node.namesLe).map fun below => w.scope.root.join ⟨String.intercalate "/" below⟩ := by
      rw [sourceFiles, root, Node.sourceFiles, atRoot]
      rfl
    rw [unfolded, walked, sorted, root]
    decide
  have located (name : String) (h : Path.IsPlace (["now"] ++ [name])) {bytes : ByteArray}
      (there : tree.at? (["v1"] ++ [name]) = some (.file bytes)) :
      tree.locate [] (.ofPlace (["now"] ++ [name])) = .ok (["v1"] ++ [name]) :=
    Node.locate_below h atRoot there (by simp)
  have a : tree.locate [] ⟨"/now/a.ts"⟩ = .ok ["v1", "a.ts"] :=
    located "a.ts" (by simp [Path.IsPlace, Path.IsName]) rfl
  have b : tree.locate [] ⟨"/now/b.ts"⟩ = .ok ["v1", "b.ts"] :=
    located "b.ts" (by simp [Path.IsPlace, Path.IsName]) rfl
  obtain ⟨_, _, texts, others, _, counts⟩ := content_batch_exact absolute ["ts"] ["dist"] r named
  have listed (path : Path) :
      path ∈ w.sourceFiles tree ↔ path = ⟨"/now/a.ts"⟩ ∨ path = ⟨"/now/b.ts"⟩ := by
    simp [files]
  have text : tree.readText? ⟨"/now/a.ts"⟩ = some "let x: any;" := Node.readText?_of_locate a rfl
  have bytes : tree.readText? ⟨"/now/b.ts"⟩ = none := by
    simp only [Node.readText?, Node.read, b]
    decide
  have mends : r.mend "let x: any;" = "let x: unknown;" := by decide +kernel
  refine ⟨absolute, named, files, ?_, by decide +kernel, ?_, ?_⟩
  · exact mends ▸ texts _ ((listed _).mpr (.inl rfl)) _ text
  · refine others ["v1", "dist", "d.ts"] fun path member leads => ?_
    rcases (listed path).mp member with rfl | rfl
    · simp [a] at leads
    · simp [b] at leads
  · refine counts.trans ?_
    rw [show (ofRoot root ["ts"] ["dist"]).sourceFiles tree = _ from files]
    simp [text, bytes, mends]

end Workplace

end LintRepair
