import LintRepair.Proofs.Grouping
import LintRepair.Proofs.Scope
import LintRepair.Proofs.TreeAccess

/-!
A batch as a sequence of edits. Whatever a batch does to a tree, it does by
giving files new content, one after the other, each of them admitted by the
scope and offered by the remedy. What holds of every single edit holds of the
batch.
-/

namespace LintRepair

theorem fromUTF8?_eq_some_iff {bytes : ByteArray} {text : String} :
    String.fromUTF8? bytes = some text ↔ bytes = text.toUTF8 := by
  unfold String.fromUTF8?
  constructor
  · intro h
    split at h
    · cases h
      rfl
    · cases h
  · rintro rfl
    rw [String.toUTF8_eq_toByteArray, dif_pos text.isValidUTF8]
    rfl

theorem Node.read_of_readText? {tree : Node} {path : Path} {content : String}
    (h : tree.readText? path = some content) : tree.read [] path = .ok content.toUTF8 := by
  unfold readText? at h
  split at h
  · rename_i bytes found
    rw [fromUTF8?_eq_some_iff] at h
    rw [found, h]
  · cases h

/-- Files get new content one after the other, each at the path that stands next in the list.
`offer` tells which new content may take the place of which old one. -/
inductive Edits (scope : Scope) (offer : Path → String → String → Prop) :
    Node → List Path → Node → Prop
  | refl (tree : Node) : Edits scope offer tree [] tree
  | step {tree next last : Node} {path : Path} {content updated : String} {rest : List Path}
      (admitted : scope.admits (scope.resolve path) = true)
      (found : tree.readText? (scope.resolve path) = some content)
      (offered : offer (scope.resolve path) content updated)
      (differs : updated ≠ content)
      (written : tree.write [] (scope.resolve path) updated.toUTF8 = .ok next)
      (later : Edits scope offer next rest last) :
      Edits scope offer tree (scope.resolve path :: rest) last

namespace Edits

variable {scope : Scope} {offer : Path → String → String → Prop}

theorem trans {a b c : Node} {xs ys : List Path} (first : Edits scope offer a xs b)
    (second : Edits scope offer b ys c) : Edits scope offer a (xs ++ ys) c := by
  induction first with
  | refl => exact second
  | step admitted found offered differs written _ ih =>
    exact .step admitted found offered differs written (ih second)

theorem mono {more : Path → String → String → Prop} {a b : Node} {paths : List Path}
    (h : Edits scope offer a paths b)
    (wider : ∀ target content updated, offer target content updated →
      more target content updated) : Edits scope more a paths b := by
  induction h with
  | refl => exact .refl _
  | step admitted found offered differs written _ ih =>
    exact .step admitted found (wider _ _ _ offered) differs written ih

theorem eq_of_nil {a b : Node} (h : Edits scope offer a [] b) : b = a := by
  cases h
  rfl

/-- What an edit does to the tree: a text file at the place that its path leads to is replaced. -/
theorem place_of_step {tree next : Node} {target : Path} {content updated : String}
    (found : tree.readText? target = some content)
    (written : tree.write [] target updated.toUTF8 = .ok next) :
    ∃ place, tree.locate [] target = .ok place ∧
      tree.at? place = some (.file content.toUTF8) ∧
      next = tree.put place (.file updated.toUTF8) := by
  obtain ⟨place, located, there, write⟩ := Node.write_of_read (Node.read_of_readText? found)
  rw [write] at written
  cases written
  exact ⟨place, located, there, rfl⟩

theorem path_admitted {a b : Node} {paths : List Path} (h : Edits scope offer a paths b) :
    ∀ target ∈ paths, ∃ path, target = scope.resolve path ∧ scope.admits target = true := by
  induction h with
  | refl => simp
  | step admitted _ _ _ _ _ ih =>
    intro target ht
    rcases List.mem_cons.mp ht with rfl | ht
    · exact ⟨_, rfl, admitted⟩
    · exact ih target ht

/-- Every edited path leads to some place of the first tree. -/
theorem located {a b : Node} {paths : List Path} (h : Edits scope offer a paths b) {target : Path}
    (edited : target ∈ paths) : ∃ place, a.locate [] target = .ok place := by
  induction h with
  | refl => cases edited
  | step _ found _ _ written _ ih =>
    obtain ⟨place, located, there, rfl⟩ := place_of_step found written
    rcases List.mem_cons.mp edited with rfl | later
    · exact ⟨place, located⟩
    · obtain ⟨other, leads⟩ := ih later
      exact ⟨other, ((Node.SameLayout.put there _).locate_eq [] target).trans leads⟩

/-- A place that no edited path leads to keeps its content. -/
theorem bytesAt?_eq {a b : Node} {paths : List Path} (h : Edits scope offer a paths b)
    {place : List String} (spared : ∀ target ∈ paths, a.locate [] target ≠ .ok place) :
    b.bytesAt? place = a.bytesAt? place := by
  induction h with
  | refl => rfl
  | step _ found _ _ written _ ih =>
    obtain ⟨changed, located, there, rfl⟩ := place_of_step found written
    have layout := Node.SameLayout.put there
    rw [ih, Node.bytesAt?_put there, if_neg]
    · rintro rfl
      exact spared _ List.mem_cons_self located
    · intro target ht
      rw [← (layout _).locate_eq]
      exact spared target (List.mem_cons_of_mem _ ht)

end Edits

/-! ## Batches -/

/-- The files that were changed by some tries, in order. -/
def changedFiles (attempts : List Attempt) : List Path :=
  (attempts.filter (·.outcome == .changed)).map Attempt.target

theorem changedFiles_append (xs ys : List Attempt) :
    changedFiles (xs ++ ys) = changedFiles xs ++ changedFiles ys := by
  simp [changedFiles]

theorem changedFiles_cons (a : Attempt) (attempts : List Attempt) :
    changedFiles (a :: attempts) = changedFiles [a] ++ changedFiles attempts :=
  changedFiles_append [a] attempts

/-- A try changes the tree only if it says so. -/
theorem patch_edits {scope : Scope} {offer : Path → String → String → Prop} (tree : Node)
    (path : Path) (edit : String → Option String)
    (offers : ∀ content updated, edit content = some updated →
      offer (scope.resolve path) content updated) :
    Edits scope offer tree (changedFiles [(patch scope tree path edit).1])
      (patch scope tree path edit).2 := by
  unfold patch
  simp only
  split
  · exact .refl tree
  · rename_i inScope
    split
    · exact .refl tree
    · rename_i content found
      split
      · exact .refl tree
      · rename_i updated edited
        split
        · exact .refl tree
        · rename_i differs
          split
          · rename_i next written
            have admitted : scope.admits (scope.resolve path) = true := by simpa using inScope
            exact .step admitted found (offers _ _ edited) differs written (.refl next)
          · exact .refl tree

namespace Workplace

variable (w : Workplace)

/-- The new content that a remedy for lines offers: a finding of its kind has one line mended. -/
def LineOffer (r : LineRemedy) (findings : List Finding) (target : Path)
    (content updated : String) : Prop :=
  ∃ f ∈ findings, f.kind = r.kind ∧ w.scope.resolve f.file = target ∧
    editLineOf? (r.mend · f) f.line content = some updated

/-- Findings that stand together in a group are about one file. -/
def Grouped (findings : List Finding) (group : Path × List Finding) : Prop :=
  ∀ f ∈ group.2, f ∈ findings ∧ f.file.components = group.1.components

theorem groupByFile_grouped (findings : List Finding) :
    ∀ g ∈ groupByFile findings, Grouped findings g := by
  intro g hg f hf
  rw [(groupsOf_groupByFile findings).members g hg] at hf
  obtain ⟨member, same⟩ := List.mem_filter.mp hf
  exact ⟨member, of_decide_eq_true same⟩

theorem mendFile_edits {r : LineRemedy} {findings : List Finding} {file : Path}
    {group : List Finding} (grouped : Grouped findings (file, group))
    (kind : ∀ f ∈ findings, f.kind = r.kind) (tree : Node) :
    Edits w.scope (w.LineOffer r findings) tree (changedFiles (w.mendFile r file tree group).1)
      (w.mendFile r file tree group).2 := by
  induction group generalizing tree with
  | nil => exact .refl tree
  | cons f group ih =>
    obtain ⟨member, same⟩ := grouped f List.mem_cons_self
    have one : Edits w.scope (w.LineOffer r findings) tree
        (changedFiles [(w.mendLine r file tree f).1]) (w.mendLine r file tree f).2 :=
      patch_edits tree file _ fun content updated edited =>
        ⟨f, member, kind f member, w.scope.resolve_eq_of_components same, edited⟩
    have rest := ih (fun x hx => grouped x (List.mem_cons_of_mem f hx)) (w.mendLine r file tree f).2
    simp only [mendFile]
    rw [changedFiles_cons]
    exact one.trans rest

theorem mendGroups_edits {r : LineRemedy} {findings : List Finding}
    {groups : List (Path × List Finding)} (grouped : ∀ g ∈ groups, Grouped findings g)
    (kind : ∀ f ∈ findings, f.kind = r.kind) (tree : Node) :
    Edits w.scope (w.LineOffer r findings) tree (w.mendGroups r tree groups).1.written
      (w.mendGroups r tree groups).2 := by
  induction groups generalizing tree with
  | nil => exact .refl tree
  | cons group groups ih =>
    obtain ⟨file, members⟩ := group
    have one := w.mendFile_edits (grouped _ List.mem_cons_self) kind tree
    have rest := ih (fun g hg => grouped g (List.mem_cons_of_mem _ hg))
      (w.mendFile r file tree members).2
    have log : (w.mendGroups r tree ((file, members) :: groups)).1.written =
        changedFiles (w.mendFile r file tree members).1 ++
          (w.mendGroups r (w.mendFile r file tree members).2 groups).1.written :=
      changedFiles_append _ _
    rw [log]
    exact one.trans rest

theorem runLine_edits (r : LineRemedy) (tree : Node) (findings : List Finding) :
    Edits w.scope (w.LineOffer r findings) tree (w.runLine r tree findings).1.written
      (w.runLine r tree findings).2 := by
  have edits := w.mendGroups_edits (r := r) (groupByFile_grouped (findings.filter (·.kind = r.kind)))
    (by simp) tree
  apply edits.mono
  rintro target content updated ⟨f, hf, offered⟩
  exact ⟨f, (List.mem_filter.mp hf).1, offered⟩

/-- The new content that a remedy for contents offers for some files. -/
def ContentOffer (r : ContentRemedy) (files : List Path) (target : Path)
    (content updated : String) : Prop :=
  ∃ file ∈ files, w.scope.resolve file = target ∧ r.mend content = updated

theorem mendSources_edits (r : ContentRemedy) {all files : List Path} (h : ∀ f ∈ files, f ∈ all)
    (tree : Node) :
    Edits w.scope (w.ContentOffer r all) tree (w.mendSources r tree files).1.written
      (w.mendSources r tree files).2 := by
  induction files generalizing tree with
  | nil => exact .refl tree
  | cons file files ih =>
    have one : Edits w.scope (w.ContentOffer r all) tree
        (changedFiles [(patch w.scope tree file fun content => some (r.mend content)).1])
        (patch w.scope tree file fun content => some (r.mend content)).2 :=
      patch_edits tree file _ fun content updated edited =>
        ⟨file, h file List.mem_cons_self, rfl, Option.some.inj edited⟩
    have rest := ih (fun f hf => h f (List.mem_cons_of_mem file hf))
      (patch w.scope tree file fun content => some (r.mend content)).2
    have log : (w.mendSources r tree (file :: files)).1.written =
        changedFiles [(patch w.scope tree file fun content => some (r.mend content)).1] ++
          (w.mendSources r (patch w.scope tree file fun content => some (r.mend content)).2
            files).1.written :=
      changedFiles_append _ _
    rw [log]
    exact one.trans rest

/-- What a remedy offers in a tree. -/
def Offers (remedy : Remedy) (tree : Node) (findings : List Finding) :
    Path → String → String → Prop :=
  match remedy with
  | .line r => w.LineOffer r findings
  | .content r => w.ContentOffer r (w.sourceFiles tree)

/-- A batch is a sequence of edits of the files that it reports as written. -/
theorem run_edits (remedy : Remedy) (tree : Node) (findings : List Finding) :
    Edits w.scope (w.Offers remedy tree findings) tree (w.run remedy tree findings).1.written
      (w.run remedy tree findings).2 := by
  cases remedy with
  | line r => exact w.runLine_edits r tree findings
  | content r => exact w.mendSources_edits r (fun _ hf => hf) tree

end Workplace

theorem Log.isEmpty_iff (log : Log) : log.report.isEmpty = true ↔ log.written = [] := by
  simp only [report, Report.isEmpty, beq_iff_eq, List.countP_eq_zero, written, List.map_eq_nil_iff,
    List.filter_eq_nil_iff, List.mem_flatten, List.any_eq_true]
  constructor
  · rintro none a ⟨attempts, hl, ha⟩ changed
    exact none attempts hl ⟨a, ha, changed⟩
  · rintro none attempts hl ⟨a, ha, changed⟩
    exact none a ⟨attempts, hl, ha⟩ changed

/-- A batch that reports no changed file leaves the tree as it was. -/
theorem Workplace.run_idle (w : Workplace) {remedy : Remedy} {tree : Node}
    {findings : List Finding} (h : (w.run remedy tree findings).1.report.isEmpty = true) :
    (w.run remedy tree findings).2 = tree := by
  have edits := w.run_edits remedy tree findings
  rw [(Log.isEmpty_iff _).mp h] at edits
  exact edits.eq_of_nil

end LintRepair
