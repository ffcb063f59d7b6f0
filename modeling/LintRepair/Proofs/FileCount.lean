import LintRepair.Proofs.Accounting
import Mathlib.Data.Set.Card

/-!
The number of changed files in a report. A batch keeps a log by paths as they are
spelled, but spellings that it keeps apart can lead to one file: `a.ts` and `./a.ts`.
So a report counts the spellings with a fix, and these are the files that differ just
if no two of them lead to one file.

* `TriesOf.filesChanged_eq`: what a report counts;
* `Workplace.ncard_changedPlaces`: how many files differ;
* `Workplace.report_counts_spellings`: when the two are the same.
-/

namespace LintRepair

/-! ## Distinct paths -/

/-- Findings lead to no more files than they have paths, and to as many just if no two of the paths
lead to one file. -/
theorem distinct_resolved_le (scope : Scope) (findings : List Finding) :
    (findings.map (scope.resolve ·.file)).dedup.length ≤
        (findings.map (·.file.components)).dedup.length ∧
      ((findings.map (·.file.components)).dedup.length =
          (findings.map (scope.resolve ·.file)).dedup.length ↔
        ∀ f ∈ findings, ∀ g ∈ findings, scope.resolve f.file = scope.resolve g.file →
          f.file.components = g.file.components) := by
  -- Components decide where a path leads.
  let leads := Function.extend (fun f : Finding => f.file.components)
    (fun f => scope.resolve f.file) fun _ => scope.root
  have apply (f : Finding) : leads f.file.components = scope.resolve f.file :=
    Function.FactorsThrough.extend_apply (fun _ _ same => scope.resolve_eq_of_components same) _ f
  have image : (findings.map (scope.resolve ·.file)).toFinset =
      (findings.map (·.file.components)).toFinset.image leads := by
    ext target
    simp [apply]
  rw [← List.card_toFinset, ← List.card_toFinset, image]
  refine ⟨Finset.card_image_le, ?_⟩
  rw [eq_comm, Finset.card_image_iff, Set.InjOn]
  simp [apply]

/-- There are as many groups as the findings have paths. -/
theorem GroupsOf.length_eq {findings : List Finding} {groups : List (Path × List Finding)}
    (h : GroupsOf findings groups) :
    groups.length = (findings.map (·.file.components)).dedup.length := by
  have same : (groups.map (·.1.components)).Perm (findings.map (·.file.components)).dedup := by
    refine (List.perm_ext_iff_of_nodup h.nodup (List.nodup_dedup _)).mpr fun components => ?_
    rw [List.mem_dedup, List.mem_map, List.mem_map]
    constructor
    · rintro ⟨g, hg, rfl⟩
      exact h.named g hg
    · rintro ⟨f, hf, rfl⟩
      obtain ⟨g, hg, here⟩ := h.covered f hf
      exact ⟨g, hg, here.symm⟩
  rw [← same.length_eq, List.length_map]

/-! ## Reports and logs -/

namespace TriesOf

variable {findings : List Finding} {log : Log} {tries : List (Finding × Outcome)}

/-- A report counts the paths with a fix. -/
theorem filesChanged_eq (h : TriesOf findings log tries) :
    log.report.filesChanged = ((fixes tries).map (·.file.components)).dedup.length := by
  have groups := groupsOf_groupByFile findings
  rw [← (groups.restrict fun f hf => h.mem_of_fixes hf).length_eq, ← List.countP_eq_length_filter,
    List.countP_map]
  have outcomes : log.report.filesChanged =
      (log.map (·.map Attempt.outcome)).countP (·.any (· == .changed)) := by
    rw [List.countP_map, Log.report]
    refine List.countP_congr fun attempts _ => ?_
    simp
  rw [outcomes, h.logged, List.countP_map]
  refine List.countP_congr fun g _ => ?_
  simp [findingsOn, fixes, List.filter_eq_nil_iff]

/-- The written files are those that the fixes lead to. -/
theorem mem_written (h : TriesOf findings log tries) {scope : Scope}
    (targets : log.map (·.map Attempt.target) = (groupByFile findings).map fun group =>
      group.2.map fun _ => scope.resolve group.1) {target : Path} :
    target ∈ log.written ↔ ∃ f ∈ fixes tries, scope.resolve f.file = target := by
  have groups := groupsOf_groupByFile findings
  -- Entry by entry, the log has the path of a group and the outcomes on it.
  have both := congrArg₂ List.zip targets h.logged
  rw [List.zip_map', List.zip_map'] at both
  simp only [Log.written, List.mem_map, List.mem_filter, List.mem_flatten, beq_iff_eq]
  constructor
  · rintro ⟨attempt, ⟨⟨attempts, entry, member⟩, changed⟩, rfl⟩
    obtain ⟨g, hg, same⟩ := List.mem_map.mp (both ▸ List.mem_map_of_mem entry)
    obtain ⟨onTarget, onOutcome⟩ := Prod.mk.inj same
    have outcome : attempt.outcome ∈ attempts.map Attempt.outcome := List.mem_map_of_mem member
    have target : attempt.target ∈ attempts.map Attempt.target := List.mem_map_of_mem member
    rw [← onOutcome, changed] at outcome
    rw [← onTarget] at target
    obtain ⟨⟨f, _⟩, tried, rfl⟩ := List.mem_map.mp outcome
    obtain ⟨tried, here⟩ := List.mem_filter.mp tried
    obtain ⟨_, _, leads⟩ := List.mem_map.mp target
    refine ⟨f, mem_fixes.mpr tried, ?_⟩
    rw [← leads]
    exact scope.resolve_eq_of_components (of_decide_eq_true here)
  · rintro ⟨f, hf, rfl⟩
    obtain ⟨g, hg, here⟩ := groups.covered f (h.mem_of_fixes hf)
    obtain ⟨attempts, entry, same⟩ := List.mem_map.mp (both.symm ▸ List.mem_map_of_mem hg)
    obtain ⟨onTarget, onOutcome⟩ := Prod.mk.inj same
    have outcome : Outcome.changed ∈ attempts.map Attempt.outcome := by
      rw [onOutcome]
      exact List.mem_map.mpr
        ⟨(f, .changed), List.mem_filter.mpr ⟨mem_fixes.mp hf, decide_eq_true here⟩, rfl⟩
    obtain ⟨attempt, member, changed⟩ := List.mem_map.mp outcome
    have target : attempt.target ∈ attempts.map Attempt.target := List.mem_map_of_mem member
    rw [onTarget] at target
    obtain ⟨_, _, leads⟩ := List.mem_map.mp target
    refine ⟨attempt, ⟨⟨attempts, entry, member⟩, changed⟩, ?_⟩
    rw [← leads]
    exact (scope.resolve_eq_of_components here).symm

end TriesOf

/-! ## Files -/

/-- The places whose content is not what it was. -/
def Node.changedPlaces (before after : Node) : Set (List String) :=
  {place | after.bytesAt? place ≠ before.bytesAt? place}

/-- Without links, an edited path is the path of the place that it leads to. -/
theorem Edits.spelled {root : Path} (absolute : root.isAbsolute = true) {exclude : List String}
    {offer : Path → String → String → Prop} {a b : Node} {paths : List Path}
    (edits : Edits (.ofRoot root exclude) offer a paths b) (free : a.LinkFree) {target : Path}
    (edited : target ∈ paths) :
    ∃ place, Path.IsPlace place ∧ target = .ofPlace place ∧ a.locate [] target = .ok place := by
  obtain ⟨path, rfl, admitted⟩ := edits.path_admitted target edited
  obtain ⟨above, below, isPlace, _, resolved, _⟩ := Scope.admits_resolved absolute admitted
  obtain ⟨place, located⟩ := edits.located edited
  rw [resolved] at located ⊢
  obtain rfl := free.locate_ofPlace isPlace located
  exact ⟨above ++ below, isPlace, rfl, located⟩

namespace Workplace

variable {root : Path} {patterns : List String} {r : LineRemedy} {tree : Node}

/-- Without links, a place differs after a batch just if its path was written. -/
theorem mem_changedPlaces_iff (absolute : root.isAbsolute = true)
    (extensions exclude : List String) (standard : .line r ∈ Catalog.standard patterns)
    (free : tree.LinkFree) (findings : List Finding) (place : List String) :
    place ∈ tree.changedPlaces ((ofRoot root extensions exclude).runLine r tree findings).2 ↔
      Path.IsPlace place ∧ .ofPlace place ∈
        ((ofRoot root extensions exclude).runLine r tree findings).1.written := by
  have edits := (ofRoot root extensions exclude).runLine_edits r tree findings
  rw [Node.changedPlaces, Set.mem_ofPred_eq,
    (ofRoot root extensions exclude).bytesAt?_runLine_ne_iff standard]
  constructor
  · rintro ⟨target, written, located⟩
    obtain ⟨found, isPlace, rfl, leads⟩ := edits.spelled absolute free written
    obtain rfl := Except.ok.inj (leads.symm.trans located)
    exact ⟨isPlace, written⟩
  · rintro ⟨isPlace, written⟩
    obtain ⟨found, foundPlace, same, located⟩ := edits.spelled absolute free written
    obtain rfl := Path.ofPlace_injOn isPlace foundPlace same
    exact ⟨_, written, located⟩

/-- So as many files differ as paths were written. -/
theorem ncard_changedPlaces (absolute : root.isAbsolute = true) (extensions exclude : List String)
    (standard : .line r ∈ Catalog.standard patterns) (free : tree.LinkFree)
    (findings : List Finding) :
    (tree.changedPlaces ((ofRoot root extensions exclude).runLine r tree findings).2).ncard =
      ((ofRoot root extensions exclude).runLine r tree findings).1.written.dedup.length := by
  have edits := (ofRoot root extensions exclude).runLine_edits r tree findings
  have changed := mem_changedPlaces_iff absolute extensions exclude standard free findings
  have image : Path.ofPlace ''
      tree.changedPlaces ((ofRoot root extensions exclude).runLine r tree findings).2 =
        ↑((ofRoot root extensions exclude).runLine r tree findings).1.written.toFinset := by
    ext target
    rw [Set.mem_image, List.coe_toFinset, Set.mem_ofPred_eq]
    constructor
    · rintro ⟨place, member, rfl⟩
      exact ((changed place).mp member).2
    · intro written
      obtain ⟨place, isPlace, rfl, _⟩ := edits.spelled absolute free written
      exact ⟨place, (changed place).mpr ⟨isPlace, written⟩, rfl⟩
  rw [← List.card_toFinset, ← Set.ncard_coe_finset, ← image, Set.InjOn.ncard_image]
  intro a ha b hb same
  exact Path.ofPlace_injOn ((changed a).mp ha).1 ((changed b).mp hb).1 same

/-- A report counts the paths with a fix as the findings spell them, and the files that differ are
as many as these paths lead to. Both are one number just if no two of the paths that are kept apart
lead to one file; otherwise the report has the higher one. -/
theorem report_counts_spellings (absolute : root.isAbsolute = true)
    (extensions exclude : List String) (standard : .line r ∈ Catalog.standard patterns)
    (free : tree.LinkFree) (findings : List Finding) :
    let w := ofRoot root extensions exclude
    let report := (w.runLine r tree findings).1.report
    let changed := (tree.changedPlaces (w.runLine r tree findings).2).ncard
    ∃ tries, TriesOf (findings.filter (·.kind = r.kind)) (w.runLine r tree findings).1 tries ∧
      report.filesChanged = ((fixes tries).map (·.file.components)).dedup.length ∧
      changed = ((fixes tries).map (w.scope.resolve ·.file)).dedup.length ∧
      changed ≤ report.filesChanged ∧
      (report.filesChanged = changed ↔ ∀ f ∈ fixes tries, ∀ g ∈ fixes tries,
        w.scope.resolve f.file = w.scope.resolve g.file →
          f.file.components = g.file.components) := by
  intro w report changed
  obtain ⟨tries, tried⟩ := w.exists_tries (r := r) tree findings
  have files : report.filesChanged = _ := tried.filesChanged_eq
  have written : (w.runLine r tree findings).1.written.dedup.Perm
      ((fixes tries).map (w.scope.resolve ·.file)).dedup := by
    refine (List.perm_ext_iff_of_nodup (List.nodup_dedup _) (List.nodup_dedup _)).mpr fun _ => ?_
    rw [List.mem_dedup, List.mem_dedup, tried.mem_written (w.mendGroups_targets r tree _),
      List.mem_map]
  have places : changed = _ :=
    (ncard_changedPlaces absolute extensions exclude standard free findings).trans
      written.length_eq
  obtain ⟨fewer, equal⟩ := distinct_resolved_le w.scope (fixes tries)
  rw [← files, ← places] at fewer equal
  exact ⟨tries, tried, files, places, fewer, equal⟩

/-- Two files and four findings, all in one way of spelling. A trailing `.` is no other way. -/
theorem report_counts_spellings_alike :
    let w := Workplace.ofRoot ⟨"/p"⟩ ["ts"] []
    let tree : Node := .dir [("p", .dir [("a.ts", .file "f(x, y)\ng(z)\n".toUTF8),
      ("b.ts", .file "h(u)\n".toUTF8)])]
    let findings : List Finding := [⟨.unusedParameter, ⟨"a.ts"⟩, 1, 3, some "x"⟩,
      ⟨.unusedParameter, ⟨"b.ts"⟩, 1, 3, some "u"⟩,
      ⟨.unusedParameter, ⟨"a.ts/."⟩, 2, 3, some "z"⟩,
      ⟨.unusedParameter, ⟨"a.ts"⟩, 1, 6, some "y"⟩]
    (⟨"/p"⟩ : Path).isAbsolute = true ∧ .line Parameter.remedy ∈ Catalog.standard [] ∧
      tree.LinkFree ∧
      (w.runLine Parameter.remedy tree findings).1.report.filesChanged =
        (tree.changedPlaces (w.runLine Parameter.remedy tree findings).2).ncard := by
  intro w tree findings
  have standard : .line Parameter.remedy ∈ Catalog.standard [] := by simp [Catalog.standard]
  have free : tree.LinkFree := by
    refine .dir ?_
    simp [Node.LinkFree.file, Node.LinkFree.dir]
  obtain ⟨tries, tried, _, _, _, exact⟩ :=
    report_counts_spellings (by decide : (⟨"/p"⟩ : Path).isAbsolute = true) ["ts"] [] standard free
      findings
  have alike : ∀ f ∈ findings, ∀ g ∈ findings, w.scope.resolve f.file = w.scope.resolve g.file →
      f.file.components = g.file.components := by decide
  refine ⟨by decide, standard, free, exact.mpr fun f hf g hg => ?_⟩
  exact alike f (List.mem_filter.mp (tried.mem_of_fixes hf)).1 g
    (List.mem_filter.mp (tried.mem_of_fixes hg)).1

/-- One file differs, but it is counted under both of its spellings. -/
theorem two_spellings_count_twice :
    let w := Workplace.ofRoot ⟨"/p"⟩ ["ts"] []
    let tree : Node := .dir [("p", .dir [("a.ts", .file "f(x)\ng(y)\n".toUTF8)])]
    let x : Finding := ⟨.unusedParameter, ⟨"a.ts"⟩, 1, 3, some "x"⟩
    let y : Finding := ⟨.unusedParameter, ⟨"./a.ts"⟩, 2, 3, some "y"⟩
    tree.LinkFree ∧ (w.runLine Parameter.remedy tree [x, y]).1.report = ⟨2, 2, 0, 0⟩ ∧
      (tree.changedPlaces (w.runLine Parameter.remedy tree [x, y]).2).ncard = 1 := by
  intro w tree x y
  have free : tree.LinkFree := by
    refine .dir ?_
    simp [Node.LinkFree.file, Node.LinkFree.dir]
  have there : tree.at? ["p", "a.ts"] = some (.file "f(x)\ng(y)\n".toUTF8) := rfl
  have located : tree.locate [] ⟨"/p/a.ts"⟩ = .ok ["p", "a.ts"] :=
    free.locate_of_at? (by decide) (by decide) there
  -- The paths are two groups, and both lead to the one file.
  have grouped : groupByFile ([x, y].filter (·.kind = Parameter.remedy.kind)) =
      [(y.file, [y]), (x.file, [x])] := by decide
  have leadsX : w.scope.resolve x.file = ⟨"/p/a.ts"⟩ := by decide
  have leadsY : w.scope.resolve y.file = ⟨"/p/a.ts"⟩ := by decide
  have admitted : w.scope.admits ⟨"/p/a.ts"⟩ = true := by decide
  have mendsY : serve Parameter.remedy.mendText "f(x)\ng(y)\n" [y] =
      ([(y, .changed)], "f(x)\ng(_y)\n") := by decide +kernel
  have mendsX : serve Parameter.remedy.mendText "f(x)\ng(_y)\n" [x] =
      ([(x, .changed)], "f(_x)\ng(_y)\n") := by decide +kernel
  have run : w.runLine Parameter.remedy tree [x, y] =
      ([[⟨⟨"/p/a.ts"⟩, .changed⟩], [⟨⟨"/p/a.ts"⟩, .changed⟩]],
        tree.put ["p", "a.ts"] (.file "f(_x)\ng(_y)\n".toUTF8)) := by
    have next := (Node.SameLayout.put there "f(x)\ng(_y)\n".toUTF8).locate_eq [] ⟨"/p/a.ts"⟩
    rw [runLine, grouped, mendGroups_cons,
      w.mendFile_eq (leadsY ▸ admitted) (leadsY ▸ located) there, mendsY, mendGroups_cons,
      w.mendFile_eq (leadsX ▸ admitted) (leadsX ▸ next.symm.trans located) (Node.at?_put there _),
      mendsX, Node.put_put there, leadsX, leadsY]
    rfl
  have changed : tree.changedPlaces (w.runLine Parameter.remedy tree [x, y]).2 =
      {["p", "a.ts"]} := by
    ext place
    rw [Node.changedPlaces, Set.mem_ofPred_eq, run, Node.bytesAt?_put there, Set.mem_singleton_iff]
    split
    · rename_i here
      rw [here]
      exact iff_of_true (by decide) rfl
    · rename_i elsewhere
      exact iff_of_false (fun differs => differs rfl) elsewhere
  refine ⟨free, ?_, ?_⟩
  · rw [run]
    decide
  · rw [changed, Set.ncard_singleton]

end Workplace

end LintRepair
