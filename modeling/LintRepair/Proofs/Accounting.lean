import LintRepair.Proofs.FindingOrder
import LintRepair.Proofs.LineProgress

/-!
What becomes of the findings of a batch. Its log is kept by file; here it is read
along the findings, each with its one outcome. A try that changes nothing leaves the
tree as it was, so the fixes do not depend on the findings that came to nothing.

* `TriesOf`: the findings with their outcomes, as the log has them;
* `TriesOf.count_eq`: the counts of a report are counts of findings;
* `Workplace.mendGroups_skips`: which of them are skipped;
* `Workplace.runLine_fixes`: a batch of the fixes alone;
* `Workplace.line_batch_accounts`: all of it for the remedies of the catalog.
-/

namespace LintRepair

/-! ## Lists by key -/

section
variable {α β κ : Type} [DecidableEq κ]

/-- Taking out the members of every key in turn takes out every member once. -/
theorem flatMap_filter_perm (key : α → κ) {keys : List κ} (once : keys.Nodup) {xs : List α}
    (covered : ∀ x ∈ xs, key x ∈ keys) :
    (keys.flatMap fun k => xs.filter (key · = k)).Perm xs := by
  induction keys generalizing xs with
  | nil =>
    obtain rfl : xs = [] := List.eq_nil_iff_forall_not_mem.mpr fun x hx => by
      simpa using covered x hx
    exact .refl _
  | cons k keys ih =>
    obtain ⟨fresh, once⟩ := List.nodup_cons.mp once
    have others : (keys.flatMap fun k' => (xs.filter (key · ≠ k)).filter (key · = k')).Perm
        (xs.filter (key · ≠ k)) := ih once fun x hx => by
      obtain ⟨member, apart⟩ := List.mem_filter.mp hx
      exact (List.mem_cons.mp (covered x member)).resolve_left (by simpa using apart)
    have same : (keys.flatMap fun k' => (xs.filter (key · ≠ k)).filter (key · = k')) =
        keys.flatMap fun k' => xs.filter (key · = k') := by
      refine List.flatMap_congr fun k' hk => ?_
      rw [List.filter_filter]
      refine List.filter_congr fun x _ => ?_
      have : k' ≠ k := fun h => fresh (h ▸ hk)
      grind
    rw [same] at others
    have split := List.filter_append_perm (fun x => decide (key x = k)) xs
    rw [List.flatMap_cons]
    refine ((List.Perm.append_left _ others).trans ?_).trans split
    simp

/-- A list of labels for each of some keys is a function of the keys. -/
theorem exists_labels (key : α → κ) {xs : List α} (once : (xs.map key).Nodup)
    (labels : List (List β)) (each : labels.length = xs.length) :
    ∃ of : κ → List β, labels = xs.map (fun x => of (key x)) ∧ ∀ k ∉ xs.map key, of k = [] := by
  induction xs generalizing labels with
  | nil => exact ⟨fun _ => [], List.length_eq_zero_iff.mp each, fun _ _ => rfl⟩
  | cons x xs ih =>
    obtain ⟨first, labels, rfl⟩ := List.exists_cons_of_length_eq_add_one each
    obtain ⟨fresh, once⟩ := List.nodup_cons.mp once
    obtain ⟨of, read, rest⟩ := ih once labels (Nat.succ.inj each)
    refine ⟨Function.update of (key x) first, ?_, fun k hk => ?_⟩
    · rw [List.map_cons, Function.update_self, read]
      refine congrArg (first :: ·) (List.map_congr_left fun x' hx => ?_)
      have apart : key x' ≠ key x := fun same => fresh (same ▸ List.mem_map_of_mem hx)
      rw [Function.update_of_ne apart]
    · obtain ⟨apart, hk⟩ := not_or.mp (mt List.mem_cons.mpr hk)
      rw [Function.update_of_ne apart, rest k hk]

/-- Labels that are given out by key can be read along the list. -/
theorem exists_labelled (key : α → κ) (xs : List α) (labels : κ → List β)
    (enough : ∀ k, (labels k).length = (xs.filter (key · = k)).length) :
    ∃ ys : List (α × β), ys.map Prod.fst = xs ∧
      ∀ k, (ys.filter (key ·.1 = k)).map Prod.snd = labels k := by
  induction xs generalizing labels with
  | nil =>
    refine ⟨[], rfl, fun k => ?_⟩
    exact (List.length_eq_zero_iff.mp (enough k)).symm
  | cons x xs ih =>
    have here := enough (key x)
    rw [List.filter_cons_of_pos (by simp), List.length_cons] at here
    obtain ⟨label, rest, given⟩ := List.exists_cons_of_length_eq_add_one here
    obtain ⟨ys, all, read⟩ := ih (Function.update labels (key x) rest) fun k => by
      by_cases same : k = key x
      · subst same
        rw [Function.update_self]
        simpa [given] using here
      · rw [Function.update_of_ne same, enough k,
          List.filter_cons_of_neg (by simpa using Ne.symm same)]
    refine ⟨(x, label) :: ys, by simp [all], fun k => ?_⟩
    by_cases same : k = key x
    · subst same
      rw [List.filter_cons_of_pos (by simp), List.map_cons, read, Function.update_self, given]
    · rw [List.filter_cons_of_neg (by simpa using Ne.symm same), read, Function.update_of_ne same]

end

/-! ## Tries that change nothing -/

theorem patch_edits_any (scope : Scope) (tree : Node) (path : Path)
    (edit : String → Option String) :
    Edits scope (fun _ _ _ => True) tree (changedFiles [(patch scope tree path edit).1])
      (patch scope tree path edit).2 :=
  patch_edits tree path edit fun _ _ _ => trivial

/-- A try that does not say that it changed the file has changed nothing. -/
theorem patch_of_ne_changed {scope : Scope} {tree : Node} {path : Path}
    {edit : String → Option String} (h : (patch scope tree path edit).1.outcome ≠ .changed) :
    (patch scope tree path edit).2 = tree := by
  have edits := patch_edits_any scope tree path edit
  have none : changedFiles [(patch scope tree path edit).1] = [] := by
    simp [changedFiles, h]
  rw [none] at edits
  exact edits.eq_of_nil

theorem patch_target (scope : Scope) (tree : Node) (path : Path) (edit : String → Option String) :
    (patch scope tree path edit).1.target = scope.resolve path := by
  unfold patch
  grind

/-! ## Tries that are skipped -/

/-- Tries that turn one tree into another. They are skipped just where a file is out of scope or has
no text, and the same files have one afterwards. -/
structure SkipsUnreadable (scope : Scope) (tree : Node) (attempts : List Attempt) (last : Node) :
    Prop where
  skipped : ∀ a ∈ attempts,
    a.outcome = .skipped ↔ scope.admits a.target = false ∨ tree.readText? a.target = none
  texts : ∀ path, last.readText? path = none ↔ tree.readText? path = none

namespace SkipsUnreadable

variable {scope : Scope} {tree next last : Node} {attempts more : List Attempt}

theorem nil (scope : Scope) (tree : Node) : SkipsUnreadable scope tree [] tree :=
  ⟨by simp, fun _ => Iff.rfl⟩

theorem append (first : SkipsUnreadable scope tree attempts next)
    (second : SkipsUnreadable scope next more last) :
    SkipsUnreadable scope tree (attempts ++ more) last where
  skipped a ha := by
    rcases List.mem_append.mp ha with ha | ha
    · exact first.skipped a ha
    · rw [second.skipped a ha, first.texts]
  texts path := (second.texts path).trans (first.texts path)

end SkipsUnreadable

theorem patch_skips (scope : Scope) (tree : Node) (path : Path) (edit : String → Option String) :
    SkipsUnreadable scope tree [(patch scope tree path edit).1] (patch scope tree path edit).2 where
  skipped a ha := by
    obtain rfl := List.mem_singleton.mp ha
    rw [patch_skipped_iff, patch_target]
  texts := (patch_edits_any scope tree path edit).readText?_eq_none_iff

/-! ## Fixes -/

/-- The findings that were answered with a change. -/
def fixes (tries : List (Finding × Outcome)) : List Finding :=
  (tries.filter (·.2 = .changed)).map Prod.fst

theorem fixes_cons (f : Finding) (outcome : Outcome) (tries : List (Finding × Outcome)) :
    fixes ((f, outcome) :: tries) =
      if outcome = .changed then f :: fixes tries else fixes tries := by
  by_cases changed : outcome = .changed <;> simp [fixes, changed]

theorem mem_fixes {tries : List (Finding × Outcome)} {f : Finding} :
    f ∈ fixes tries ↔ (f, .changed) ∈ tries := by
  simp [fixes]

theorem findingsOn_fixes (tries : List (Finding × Outcome)) (file : Path) :
    findingsOn (fixes tries) file =
      fixes (tries.filter (·.1.file.components = file.components)) := by
  rw [findingsOn, fixes, fixes, List.filter_map, List.filter_filter, List.filter_filter]
  simp only [Bool.and_comm, Function.comp_apply]

namespace Workplace

variable (w : Workplace) (r : LineRemedy)

/-- On one file, the findings with a fix give the same fixes without the others. -/
theorem mendFile_fixes (file : Path) (tree : Node) (findings : List Finding) :
    w.mendFile r file tree
        (fixes (findings.zip ((w.mendFile r file tree findings).1.map Attempt.outcome))) =
      ((w.mendFile r file tree findings).1.filter (·.outcome = .changed),
        (w.mendFile r file tree findings).2) := by
  induction findings generalizing tree with
  | nil => rfl
  | cons f findings ih =>
    rw [mendFile_cons, List.map_cons, List.zip_cons_cons, fixes_cons]
    by_cases changed : (w.mendLine r file tree f).1.outcome = .changed
    · rw [if_pos changed, mendFile_cons, ih, List.filter_cons_of_pos (by simpa using changed)]
    · have same : (w.mendLine r file tree f).2 = tree := patch_of_ne_changed changed
      rw [if_neg changed, same, ih, List.filter_cons_of_neg (by simpa using changed)]

theorem mendGroups_fixes (tree : Node) (groups : List (Path × List Finding)) :
    w.mendGroups r tree
        (List.zipWith (fun group outcomes => (group.1, fixes (group.2.zip outcomes))) groups
          ((w.mendGroups r tree groups).1.map (·.map Attempt.outcome))) =
      ((w.mendGroups r tree groups).1.map (·.filter (·.outcome = .changed)),
        (w.mendGroups r tree groups).2) := by
  induction groups generalizing tree with
  | nil => rfl
  | cons group groups ih =>
    rw [mendGroups_cons, List.map_cons, List.zipWith_cons_cons, mendGroups_cons]
    simp only [mendFile_fixes, ih, List.map_cons]

theorem mendFile_targets (file : Path) (tree : Node) (findings : List Finding) :
    (w.mendFile r file tree findings).1.map Attempt.target =
      findings.map fun _ => w.scope.resolve file := by
  induction findings generalizing tree with
  | nil => rfl
  | cons f findings ih =>
    have first : (w.mendLine r file tree f).1.target = w.scope.resolve file := patch_target ..
    rw [mendFile_cons, List.map_cons, List.map_cons, ih, first]

/-- The log has an entry for each group, and in it a try for each finding of the group. -/
theorem mendGroups_targets (tree : Node) (groups : List (Path × List Finding)) :
    (w.mendGroups r tree groups).1.map (·.map Attempt.target) =
      groups.map fun group => group.2.map fun _ => w.scope.resolve group.1 := by
  induction groups generalizing tree with
  | nil => rfl
  | cons group groups ih =>
    rw [mendGroups_cons, List.map_cons, List.map_cons, ih, mendFile_targets]

theorem mendFile_skips (file : Path) (tree : Node) (findings : List Finding) :
    SkipsUnreadable w.scope tree (w.mendFile r file tree findings).1
      (w.mendFile r file tree findings).2 := by
  induction findings generalizing tree with
  | nil => exact .nil w.scope tree
  | cons f findings ih =>
    have first : SkipsUnreadable w.scope tree [(w.mendLine r file tree f).1]
        (w.mendLine r file tree f).2 := patch_skips ..
    rw [mendFile_cons]
    exact first.append (ih _)

theorem mendGroups_skips (tree : Node) (groups : List (Path × List Finding)) :
    SkipsUnreadable w.scope tree (w.mendGroups r tree groups).1.flatten
      (w.mendGroups r tree groups).2 := by
  induction groups generalizing tree with
  | nil => exact .nil w.scope tree
  | cons group groups ih =>
    rw [mendGroups_cons, List.flatten_cons]
    exact (w.mendFile_skips r group.1 tree group.2).append (ih _)

/-- Groups without findings leave no trace but an empty entry in the log. -/
theorem mendGroups_nonempty (tree : Node) (groups : List (Path × List Finding)) :
    w.mendGroups r tree (groups.filter (!·.2.isEmpty)) =
      ((w.mendGroups r tree groups).1.filter (!·.isEmpty), (w.mendGroups r tree groups).2) := by
  induction groups generalizing tree with
  | nil => rfl
  | cons group groups ih =>
    obtain ⟨file, findings⟩ := group
    rw [mendGroups_cons]
    cases findings with
    | nil =>
      have idle : w.mendFile r file tree [] = ([], tree) := rfl
      rw [List.filter_cons_of_neg (by simp), ih, idle, List.filter_cons_of_neg (by simp)]
    | cons f findings =>
      rw [List.filter_cons_of_pos (by simp), mendGroups_cons, ih,
        List.filter_cons_of_pos (by simp [mendFile_cons])]

end Workplace

/-! ## Tries by finding -/

theorem GroupsOf.nodup {findings : List Finding} {groups : List (Path × List Finding)}
    (h : GroupsOf findings groups) : (groups.map (·.1.components)).Nodup := by
  refine List.pairwise_map.mpr (h.ascending.imp fun before same => ?_)
  exact before.ne (Path.key_inj.mpr same)

/-- The groups of some of the findings. -/
theorem GroupsOf.restrict {findings kept : List Finding} {groups : List (Path × List Finding)}
    (h : GroupsOf findings groups) (among : ∀ f ∈ kept, f ∈ findings) :
    GroupsOf kept ((groups.map fun g => (g.1, findingsOn kept g.1)).filter (!·.2.isEmpty)) where
  ascending := by
    refine List.Pairwise.filter _ (List.pairwise_map.mpr ?_)
    exact h.ascending
  named := by
    intro g hg
    obtain ⟨member, full⟩ := List.mem_filter.mp hg
    obtain ⟨g, _, rfl⟩ := List.mem_map.mp member
    obtain ⟨f, hf⟩ := List.exists_mem_of_ne_nil (findingsOn kept g.1) (by simpa using full)
    obtain ⟨hf, here⟩ := List.mem_filter.mp hf
    exact ⟨f, hf, of_decide_eq_true here⟩
  members := by
    intro g hg
    obtain ⟨g, _, rfl⟩ := List.mem_map.mp (List.mem_filter.mp hg).1
    rfl
  covered := by
    intro f hf
    obtain ⟨g, hg, here⟩ := h.covered f (among f hf)
    have on : f ∈ findingsOn kept g.1 := List.mem_filter.mpr ⟨hf, decide_eq_true here⟩
    refine ⟨_, List.mem_filter.mpr ⟨List.mem_map_of_mem hg, ?_⟩, here⟩
    simpa using List.ne_nil_of_mem on

/-- The findings of a batch with their outcomes, in the order in which they were reported: what the
log says of each file is said of the findings on it, one by one. -/
structure TriesOf (findings : List Finding) (log : Log) (tries : List (Finding × Outcome)) :
    Prop where
  reported : tries.map Prod.fst = findings
  logged : log.map (·.map Attempt.outcome) = (groupByFile findings).map fun group =>
    (tries.filter (·.1.file.components = group.1.components)).map Prod.snd

theorem exists_triesOf {findings : List Finding} {log : Log}
    (lengths : log.map List.length = (groupByFile findings).map (·.2.length)) :
    ∃ tries, TriesOf findings log tries := by
  have groups := groupsOf_groupByFile findings
  obtain ⟨outcomes, read, rest⟩ := exists_labels (fun g : Path × List Finding => g.1.components)
    groups.nodup (log.map (·.map Attempt.outcome)) (by simpa using congrArg List.length lengths)
  have enough (k : List Component) :
      (outcomes k).length = (findings.filter (·.file.components = k)).length := by
    by_cases named : k ∈ (groupByFile findings).map (·.1.components)
    · obtain ⟨g, hg, rfl⟩ := List.mem_map.mp named
      have told : (List.length ∘ fun attempts : List Attempt => attempts.map Attempt.outcome) =
          List.length := funext fun _ => List.length_map _
      have sizes := congrArg (List.map List.length) read
      rw [List.map_map, List.map_map, told, lengths] at sizes
      have size := List.map_inj_left.mp sizes g hg
      rw [groups.members g hg] at size
      exact size.symm
    · rw [rest k named, List.filter_eq_nil_iff.mpr]
      · rfl
      · intro f hf here
        obtain ⟨g, hg, same⟩ := groups.covered f hf
        exact named (of_decide_eq_true here ▸ same ▸ List.mem_map_of_mem hg)
  obtain ⟨tries, reported, told⟩ := exists_labelled (·.file.components) findings outcomes enough
  refine ⟨tries, reported, read.trans (List.map_congr_left fun g _ => ?_)⟩
  exact (told g.1.components).symm

namespace TriesOf

variable {findings : List Finding} {log : Log} {tries : List (Finding × Outcome)}

theorem mem_of_fixes (h : TriesOf findings log tries) {f : Finding} (hf : f ∈ fixes tries) :
    f ∈ findings :=
  h.reported ▸ List.mem_map_of_mem (mem_fixes.mp hf)

theorem map_fst_on (h : TriesOf findings log tries) (file : Path) :
    (tries.filter (·.1.file.components = file.components)).map Prod.fst =
      findingsOn findings file := by
  rw [findingsOn, ← h.reported, List.filter_map]
  rfl

/-- The outcomes in the log are those of the findings, in another order. -/
theorem outcomes_perm (h : TriesOf findings log tries) :
    (log.flatten.map Attempt.outcome).Perm (tries.map Prod.snd) := by
  have groups := groupsOf_groupByFile findings
  have covered : ∀ t ∈ tries, t.1.file.components ∈
      (groupByFile findings).map (·.1.components) := by
    intro t ht
    obtain ⟨g, hg, same⟩ := groups.covered t.1 (h.reported ▸ List.mem_map_of_mem ht)
    exact same ▸ List.mem_map_of_mem hg
  have all := (flatMap_filter_perm (fun t : Finding × Outcome => t.1.file.components) groups.nodup
    covered).map Prod.snd
  rwa [List.flatMap_map, List.map_flatMap, List.flatMap_def, ← h.logged, ← List.map_flatten] at all

theorem count_eq (h : TriesOf findings log tries) (outcome : Outcome) :
    log.count outcome = tries.countP (·.2 = outcome) := by
  have same := h.outcomes_perm.countP_eq (· = outcome)
  rw [List.countP_map, List.countP_map] at same
  exact same

end TriesOf

/-! ## Reports -/

namespace Log

variable (log : Log)

theorem fixesApplied_eq : log.report.fixesApplied = log.written.length := by
  rw [written, List.length_map, ← List.countP_eq_length_filter]
  rfl

theorem filesChanged_le : log.report.filesChanged ≤ log.report.fixesApplied := by
  simp only [report, count]
  induction log with
  | nil => rfl
  | cons attempts log ih =>
    rw [List.countP_cons, List.flatten_cons, List.countP_append]
    have here : (if attempts.any (·.outcome == .changed) then 1 else 0) ≤
        attempts.countP (·.outcome == .changed) := by
      split
      · rename_i changed
        exact List.countP_pos_iff.mpr (by simpa using changed)
      · exact Nat.zero_le _
    omega

/-- What is left of a report if only the fixes were tried. -/
theorem report_fixes :
    report ((log.map (·.filter (·.outcome = .changed))).filter (!·.isEmpty)) =
      ⟨log.report.filesChanged, log.report.fixesApplied, 0, 0⟩ := by
  have counted (outcome : Outcome) :
      count ((log.map (·.filter (·.outcome = .changed))).filter (!·.isEmpty)) outcome =
        (log.flatten.filter (·.outcome = .changed)).countP (·.outcome == outcome) := by
    rw [count, List.flatten_filter_not_isEmpty, List.filter_flatten]
  have files : ((log.map (·.filter (·.outcome = .changed))).filter (!·.isEmpty)).countP
      (·.any (·.outcome == .changed)) = log.countP (·.any (·.outcome == .changed)) := by
    rw [List.countP_filter, List.countP_map]
    refine List.countP_congr fun attempts _ => ?_
    grind
  have others (outcome : Outcome) (other : outcome ≠ .changed) :
      (log.flatten.filter (·.outcome = .changed)).countP (·.outcome == outcome) = 0 := by
    refine List.countP_eq_zero.mpr fun attempt member => ?_
    have changed := of_decide_eq_true (List.mem_filter.mp member).2
    simpa [changed] using Ne.symm other
  have all : (log.flatten.filter (·.outcome = .changed)).countP (·.outcome == .changed) =
      log.flatten.countP (·.outcome == .changed) := by
    rw [List.countP_filter]
    refine List.countP_congr fun attempt _ => ?_
    simp
  rw [report, counted, counted, counted, files, all, others _ (by decide), others _ (by decide)]
  rfl

end Log

/-! ## Batches -/

namespace Workplace

variable (w : Workplace) {patterns : List String} {r : LineRemedy}

theorem exists_tries (tree : Node) (findings : List Finding) :
    ∃ tries, TriesOf (findings.filter (·.kind = r.kind)) (w.runLine r tree findings).1 tries := by
  have targets := congrArg (List.map List.length)
    (w.mendGroups_targets r tree (groupByFile (findings.filter (·.kind = r.kind))))
  refine exists_triesOf ?_
  simpa [Function.comp_def, runLine] using targets

/-- The try that the log has for a finding. -/
theorem exists_attempt {tree : Node} {findings : List Finding} {tries : List (Finding × Outcome)}
    (h : TriesOf (findings.filter (·.kind = r.kind)) (w.runLine r tree findings).1 tries)
    {t : Finding × Outcome} (ht : t ∈ tries) :
    ∃ a ∈ (w.runLine r tree findings).1.flatten,
      a.outcome = t.2 ∧ a.target = w.scope.resolve t.1.file := by
  have groups := groupsOf_groupByFile (findings.filter (·.kind = r.kind))
  obtain ⟨g, hg, same⟩ := groups.covered t.1 (h.reported ▸ List.mem_map_of_mem ht)
  obtain ⟨i, here⟩ := List.mem_iff_getElem?.mp hg
  -- The entry of this group says of each finding how it ended and where its file is.
  have outcomes := congrArg (·[i]?) h.logged
  have targets := congrArg (·[i]?) (w.mendGroups_targets r tree
    (groupByFile (findings.filter (·.kind = r.kind))))
  rw [← runLine] at targets
  simp only [List.getElem?_map, here, Option.map_some] at outcomes targets
  obtain ⟨attempts, entry, outcomes⟩ := Option.map_eq_some_iff.mp outcomes
  rw [entry, Option.map_some, Option.some.injEq] at targets
  have mine : t.2 ∈ attempts.map Attempt.outcome := by
    rw [outcomes]
    exact List.mem_map_of_mem (List.mem_filter.mpr ⟨ht, decide_eq_true same⟩)
  obtain ⟨a, ha, outcome⟩ := List.mem_map.mp mine
  have target : a.target ∈ g.2.map fun _ => w.scope.resolve g.1 :=
    targets ▸ List.mem_map_of_mem ha
  obtain ⟨_, _, leads⟩ := List.mem_map.mp target
  refine ⟨a, List.mem_flatten.mpr ⟨attempts, List.mem_of_getElem? entry, ha⟩, outcome, ?_⟩
  rw [← leads, w.scope.resolve_eq_of_components same]

/-- A finding is skipped just if its file is out of scope or has no text to begin with. -/
theorem skipped_iff {tree : Node} {findings : List Finding} {tries : List (Finding × Outcome)}
    (h : TriesOf (findings.filter (·.kind = r.kind)) (w.runLine r tree findings).1 tries)
    {t : Finding × Outcome} (ht : t ∈ tries) :
    t.2 = .skipped ↔ w.scope.admits (w.scope.resolve t.1.file) = false ∨
      tree.readText? (w.scope.resolve t.1.file) = none := by
  obtain ⟨a, ha, outcome, target⟩ := w.exists_attempt h ht
  rw [← outcome, ← target]
  exact (w.mendGroups_skips r tree _).skipped a ha

/-- A batch of the fixes alone writes the same and logs the fixes. -/
theorem runLine_fixes (leaves : r.LeavesText) (tree : Node) {findings : List Finding}
    {tries : List (Finding × Outcome)}
    (h : TriesOf (findings.filter (·.kind = r.kind)) (w.runLine r tree findings).1 tries) :
    (w.runLine r tree (fixes tries)).2 = (w.runLine r tree findings).2 ∧
      (w.runLine r tree (fixes tries)).1.report =
        ⟨(w.runLine r tree findings).1.report.filesChanged,
          (w.runLine r tree findings).1.report.fixesApplied, 0, 0⟩ := by
  have groups := groupsOf_groupByFile (findings.filter (·.kind = r.kind))
  have kept := groups.restrict fun f hf => h.mem_of_fixes hf
  have regrouped := groupsOf_groupByFile (fixes tries)
  have own : (fixes tries).filter (·.kind = r.kind) = fixes tries :=
    List.filter_eq_self.mpr fun f hf => (List.mem_filter.mp (h.mem_of_fixes hf)).2
  -- The fixes on a file are what the log of the whole batch says of this file.
  have read : List.zipWith (fun group outcomes => (group.1, fixes (group.2.zip outcomes)))
      (groupByFile (findings.filter (·.kind = r.kind)))
      ((w.runLine r tree findings).1.map (·.map Attempt.outcome)) =
        (groupByFile (findings.filter (·.kind = r.kind))).map fun group =>
          (group.1, findingsOn (fixes tries) group.1) := by
    rw [h.logged, List.zipWith_map_right, List.zipWith_self]
    refine List.map_congr_left fun group member => ?_
    rw [groups.members group member, findingsOn_fixes,
      ← List.zip_of_prod (h.map_fst_on group.1) rfl]
  have alone := w.mendGroups_fixes r tree (groupByFile (findings.filter (·.kind = r.kind)))
  rw [← runLine, read] at alone
  have dropped := w.mendGroups_nonempty r tree
    ((groupByFile (findings.filter (·.kind = r.kind))).map fun group =>
      (group.1, findingsOn (fixes tries) group.1))
  rw [alone] at dropped
  have files := regrouped.files_eq kept fun _ => Iff.rfl
  obtain ⟨last, log⟩ := w.mendGroups_agree leaves tree files fun x hx y hy same number => by
    rw [regrouped.members x hx, kept.members y hy, findingsOn, same]
    rfl
  rw [dropped] at last log
  rw [runLine, own]
  exact ⟨last, (Log.report_congr log).trans (Log.report_fixes _)⟩

end Workplace

/-- A batch accounts for its findings. -/
structure Accounted (w : Workplace) (r : LineRemedy) (tree : Node) (findings : List Finding)
    (tries : List (Finding × Outcome)) : Prop where
  tried : TriesOf (findings.filter (·.kind = r.kind)) (w.runLine r tree findings).1 tries
  -- Each finding of the kind is counted once.
  fixed : (w.runLine r tree findings).1.report.fixesApplied = tries.countP (·.2 = .changed)
  missed : (w.runLine r tree findings).1.report.misses = tries.countP (·.2 = .noMatch)
  skipped : (w.runLine r tree findings).1.report.skipped = tries.countP (·.2 = .skipped)
  total : (w.runLine r tree findings).1.report.fixesApplied +
      (w.runLine r tree findings).1.report.misses + (w.runLine r tree findings).1.report.skipped +
      tries.countP (·.2 = .unchanged) = (findings.filter (·.kind = r.kind)).length
  -- Only what is out of scope or has no text is skipped.
  unreadable : ∀ t ∈ tries, t.2 = .skipped ↔
    w.scope.admits (w.scope.resolve t.1.file) = false ∨
      tree.readText? (w.scope.resolve t.1.file) = none
  -- Nothing is counted just if nothing is written.
  files_le : (w.runLine r tree findings).1.report.filesChanged ≤
    (w.runLine r tree findings).1.report.fixesApplied
  files_zero : (w.runLine r tree findings).1.report.filesChanged = 0 ↔
    (w.runLine r tree findings).1.report.fixesApplied = 0
  idle : (w.runLine r tree findings).1.report.fixesApplied = 0 ↔
    (w.runLine r tree findings).2 = tree
  -- Without the other findings the fixes are the same.
  alone : (w.runLine r tree (fixes tries)).2 = (w.runLine r tree findings).2
  alone_report : (w.runLine r tree (fixes tries)).1.report =
    ⟨(w.runLine r tree findings).1.report.filesChanged,
      (w.runLine r tree findings).1.report.fixesApplied, 0, 0⟩

theorem countP_outcomes (tries : List (Finding × Outcome)) :
    tries.countP (·.2 = .changed) + tries.countP (·.2 = .noMatch) + tries.countP (·.2 = .skipped) +
      tries.countP (·.2 = .unchanged) = tries.length := by
  induction tries with
  | nil => rfl
  | cons t tries ih =>
    obtain ⟨f, outcome⟩ := t
    cases outcome <;> simp <;> omega

/-- A batch deals with each finding of its kind in one of four ways, and skips it just if its file is
out of scope or has no text. The findings that it cannot fix do not count for the others: whatever
they are, the fixes are those of a batch without them. No fix is counted just if the tree is left as
it was. -/
theorem Workplace.line_batch_accounts (w : Workplace) {patterns : List String} {r : LineRemedy}
    (standard : .line r ∈ Catalog.standard patterns) (tree : Node) (findings : List Finding) :
    ∃ tries, Accounted w r tree findings tries := by
  obtain ⟨tries, tried⟩ := w.exists_tries (r := r) tree findings
  obtain ⟨alone, report⟩ := w.runLine_fixes (Catalog.standard_leavesText standard) tree tried
  have fixes := (w.runLine r tree findings).1.fixesApplied_eq
  have files := (w.runLine r tree findings).1.isEmpty_iff
  have zero : (w.runLine r tree findings).1.report.fixesApplied = 0 ↔
      (w.runLine r tree findings).1.written = [] := by
    rw [fixes, List.length_eq_zero_iff]
  exact ⟨tries, {
    tried
    fixed := tried.count_eq .changed
    missed := tried.count_eq .noMatch
    skipped := tried.count_eq .skipped
    total := by
      rw [← tried.reported, List.length_map, ← countP_outcomes tries]
      simp only [Log.report, tried.count_eq]
    unreadable := fun t ht => w.skipped_iff tried ht
    files_le := Log.filesChanged_le _
    files_zero := by rw [zero, ← files, Report.isEmpty, beq_iff_eq]
    idle := zero.trans (w.runLine_tree_eq_iff standard tree findings).symm
    alone
    alone_report := report }⟩

/-- One finding is fixed. Two others are stale or behind the last line, four are on a file that is
missing, is excluded, lies outside or is no text, and one is of another kind. -/
theorem Workplace.line_batch_accounts_mixed :
    let w := Workplace.ofRoot ⟨"/p"⟩ ["ts"] ["lib"]
    let tree : Node := .dir [("o.ts", .file "f(x)\n".toUTF8), ("p", .dir [
      ("a.ts", .file "f(x)\ng(y)\n".toUTF8), ("b.ts", .file ⟨#[255]⟩),
      ("lib", .dir [("c.ts", .file "f(x)\n".toUTF8)])])]
    let on (file : String) (line : Nat) (name : String) : Finding :=
      ⟨.unusedParameter, ⟨file⟩, line, 3, some name⟩
    let findings : List Finding := [on "b.ts" 1 "x", on "a.ts" 1 "q", on "a.ts" 9 "x",
      on "a.ts" 2 "y", on "none.ts" 1 "x", on "lib/c.ts" 1 "x", on "../o.ts" 1 "x",
      ⟨.unusedCatchBinding, ⟨"a.ts"⟩, 1, 3, some "x"⟩]
    .line Parameter.remedy ∈ Catalog.standard [] ∧
      (findings.filter (·.kind = Parameter.remedy.kind)).length = 7 ∧
      (w.runLine Parameter.remedy tree findings).1.report = ⟨1, 1, 2, 4⟩ ∧
      ∃ tries, Accounted w Parameter.remedy tree findings tries := by
  intro w tree on findings
  have standard : .line Parameter.remedy ∈ Catalog.standard [] := by simp [Catalog.standard]
  refine ⟨standard, rfl, ?_, w.line_batch_accounts standard tree findings⟩
  have free : tree.LinkFree := by
    refine .dir ?_
    simp [Node.LinkFree.file, Node.LinkFree.dir]
  have there : tree.at? ["p", "a.ts"] = some (.file "f(x)\ng(y)\n".toUTF8) := rfl
  have located : tree.locate [] (w.scope.resolve ⟨"a.ts"⟩) = .ok ["p", "a.ts"] :=
    free.locate_of_at? (by decide) (by decide) there
  have noText : tree.readText? (w.scope.resolve ⟨"b.ts"⟩) = none := by
    rw [show w.scope.resolve ⟨"b.ts"⟩ = .ofPlace ["p", "b.ts"] by decide,
      free.readText?_ofPlace (by simp [Path.IsPlace, Path.IsName]) (by simp)]
    decide
  have missing : tree.readText? (w.scope.resolve ⟨"none.ts"⟩) = none := by
    rw [show w.scope.resolve ⟨"none.ts"⟩ = .ofPlace ["p", "none.ts"] by decide,
      free.readText?_ofPlace (by simp [Path.IsPlace, Path.IsName]) (by simp)]
    rfl
  let tried := [on "a.ts" 1 "q", on "a.ts" 9 "x", on "a.ts" 2 "y"]
  have grouped : groupByFile (findings.filter (·.kind = Parameter.remedy.kind)) =
      [(⟨"../o.ts"⟩, [on "../o.ts" 1 "x"]), (⟨"a.ts"⟩, tried), (⟨"b.ts"⟩, [on "b.ts" 1 "x"]),
        (⟨"lib/c.ts"⟩, [on "lib/c.ts" 1 "x"]), (⟨"none.ts"⟩, [on "none.ts" 1 "x"])] := by decide
  have mends : serve Parameter.remedy.mendText "f(x)\ng(y)\n" tried =
      (tried.zip [.noMatch, .noMatch, .changed], "f(x)\ng(_y)\n") := by decide +kernel
  have fixed := w.mendFile_eq (r := Parameter.remedy) (by decide) located there tried
  rw [mends] at fixed
  -- What had no text before the fix has none behind it.
  have texts := (w.mendFile_skips Parameter.remedy ⟨"a.ts"⟩ tree tried).texts
  rw [fixed] at texts
  rw [runLine, grouped, mendGroups_cons, w.mendFile_skipped (.inl (by decide)), mendGroups_cons,
    fixed, mendGroups_cons, w.mendFile_skipped (.inr ((texts _).mpr noText)), mendGroups_cons,
    w.mendFile_skipped (.inl (by decide)), mendGroups_cons,
    w.mendFile_skipped (.inr ((texts _).mpr missing))]
  rfl

end LintRepair
