import LintRepair.Campaign.Script
import LintRepair.Remedy.Catalog
import LintRepair.Proofs.CampaignTrace

/-!
No change goes unchecked. A campaign starts with a check, every batch that
changed a file is checked before anything else is done, and nothing follows a
check that fails. So the tree is never further from a tree that passed than one
batch.
-/

namespace LintRepair

/-- Collaborators that answer and leave the tree alone. -/
def Collaborators.LeavesTree {σ : Type} (c : Collaborators σ) : Prop :=
  ∀ world tree, (c.check world tree).2.2 = tree ∧ (c.analyze world tree).2.2 = tree

theorem Script.leavesTree : Script.collaborators.LeavesTree := fun _ _ => ⟨rfl, rfl⟩

namespace Campaign

namespace Act

def IsCheck (act : Act) : Prop := ∃ checkpoint verdict, act.deed = .check checkpoint verdict

/-- A check that passes. -/
def Passes (act : Act) : Prop :=
  ∃ checkpoint verdict, act.deed = .check checkpoint verdict ∧ verdict.passed = true

end Act

/-- What comes next, if anything, is not a check. -/
def NoCheckNext (acts : List Act) : Prop := ∀ act ∈ acts.head?, ¬ act.IsCheck

/-- The acts of a campaign in which every change is checked. -/
structure Gated (acts : List Act) : Prop where
  /-- The first act is the check of the baseline, and the only one if it fails. -/
  baseline : ∃ verdict before after rest,
    acts = ⟨.check .baseline verdict, before, after⟩ :: rest ∧ (verdict.passed = false → rest = [])
  /-- A batch that changed files is followed by one check; one that did not leaves the tree as it
  was and is followed by none. -/
  batch : ∀ earlier remedy findings report before after later,
    acts = earlier ++ ⟨.batch remedy findings report, before, after⟩ :: later →
    (0 < report.filesChanged → ∃ verdict checked rest,
      later = ⟨.check (.after remedy.id) verdict, after, checked⟩ :: rest ∧ NoCheckNext rest) ∧
    (report.filesChanged = 0 → after = before ∧ NoCheckNext later)
  /-- Nothing follows a check that fails. -/
  failure : ∀ earlier checkpoint verdict before after later,
    acts = earlier ++ ⟨.check checkpoint verdict, before, after⟩ :: later →
    verdict.passed = false → later = []

/-- Acts behind a check that passed: passes of the analyzer, batches that changed nothing, and
batches with their check, the last of which may fail. -/
inductive Guarded (remedies : List Remedy) : List Act → Prop
  | nil : Guarded remedies []
  | analyze {rest : List Act} (pass : Pass) (before after : Node) (later : Guarded remedies rest) :
      Guarded remedies (⟨.analyze pass, before, after⟩ :: rest)
  | idle {rest : List Act} {remedy : Remedy} {report : Report} (findings : List Finding)
      (tree : Node) (member : remedy ∈ remedies) (empty : report.isEmpty = true)
      (later : Guarded remedies rest) :
      Guarded remedies (⟨.batch remedy findings report, tree, tree⟩ :: rest)
  | kept {rest : List Act} {remedy : Remedy} {report : Report} {verdict : Verdict}
      (findings : List Finding) (before mended after : Node) (member : remedy ∈ remedies)
      (changed : report.isEmpty = false) (passed : verdict.passed = true)
      (later : Guarded remedies rest) :
      Guarded remedies (⟨.batch remedy findings report, before, mended⟩ ::
        ⟨.check (.after remedy.id) verdict, mended, after⟩ :: rest)
  | halted {remedy : Remedy} {report : Report} {verdict : Verdict}
      (findings : List Finding) (before mended after : Node) (member : remedy ∈ remedies)
      (changed : report.isEmpty = false) (failed : verdict.passed = false) :
      Guarded remedies [⟨.batch remedy findings report, before, mended⟩,
        ⟨.check (.after remedy.id) verdict, mended, after⟩]

theorem Collects.guarded {all : List Remedy} {remedy : Remedy} {pass next : Option Pass}
    {acts rest : List Act} {findings : List Finding} (h : Collects remedy pass acts findings next)
    (later : Guarded all rest) : Guarded all (acts ++ rest) := by
  cases h with
  | needless | reuse => exact later
  | fresh r pass before after => exact .analyze pass before after later

theorem Rounds.guarded {all remedies : List Remedy} {pass : Option Pass} {acts tail : List Act}
    {ending : Ending} {records : List BatchRecord} (h : Rounds remedies pass acts ending records)
    (members : ∀ r ∈ remedies, r ∈ all) (tailGuarded : Guarded all tail)
    (closed : ending ≠ .completed → tail = []) : Guarded all (acts ++ tail) := by
  induction h with
  | done => exact tailGuarded
  | idle tree collected empty _ ih =>
    rw [List.append_assoc]
    apply collected.guarded
    exact .idle _ tree (members _ List.mem_cons_self) empty
      (ih (fun r hr => members r (List.mem_cons_of_mem _ hr)) closed)
  | kept before mended after collected changed passed _ ih =>
    rw [List.append_assoc]
    apply collected.guarded
    exact .kept _ before mended after (members _ List.mem_cons_self) changed passed
      (ih (fun r hr => members r (List.mem_cons_of_mem _ hr)) closed)
  | halted before mended after collected changed failed =>
    rw [closed (by simp), List.append_nil]
    apply collected.guarded
    exact .halted _ before mended after (members _ List.mem_cons_self) changed failed

theorem Course.guarded {remedies : List Remedy} {acts : List Act} {summary : Summary}
    (h : Course remedies acts summary) : ∃ verdict before after rest,
      acts = ⟨.check .baseline verdict, before, after⟩ :: rest ∧
        (verdict.passed = false → rest = []) ∧ Guarded remedies rest := by
  cases h with
  | @refused verdict before after failed =>
    exact ⟨verdict, before, after, [], rfl, fun _ => rfl, .nil⟩
  | @broken verdict first acts _ _ before checked analyzed passed rounds unfinished =>
    refine ⟨verdict, before, checked, _, rfl, by simp [passed], ?_⟩
    have guarded := rounds.guarded (fun _ hr => hr) .nil (fun _ => rfl)
    rw [List.append_nil] at guarded
    exact .analyze first checked analyzed guarded
  | @completed verdict first last acts _ before checked analyzed mended after passed rounds =>
    refine ⟨verdict, before, checked, _, rfl, by simp [passed], ?_⟩
    exact .analyze first checked analyzed
      (rounds.guarded (fun _ hr => hr) (.analyze last mended after .nil) (by simp))

/-- An act among guarded ones, with what follows it. -/
inductive Followed (remedies : List Remedy) : Act → List Act → Prop
  | analyze {rest : List Act} (pass : Pass) (before after : Node) (later : Guarded remedies rest) :
      Followed remedies ⟨.analyze pass, before, after⟩ rest
  | idle {rest : List Act} {remedy : Remedy} {report : Report} (findings : List Finding)
      (tree : Node) (empty : report.filesChanged = 0) (later : Guarded remedies rest) :
      Followed remedies ⟨.batch remedy findings report, tree, tree⟩ rest
  | changed {rest : List Act} {remedy : Remedy} {report : Report} (verdict : Verdict)
      (findings : List Finding) (before mended after : Node) (changed : 0 < report.filesChanged)
      (later : Guarded remedies rest) :
      Followed remedies ⟨.batch remedy findings report, before, mended⟩
        (⟨.check (.after remedy.id) verdict, mended, after⟩ :: rest)
  | passed {rest : List Act} {verdict : Verdict} (checkpoint : Checkpoint) (before after : Node)
      (passed : verdict.passed = true) (later : Guarded remedies rest) :
      Followed remedies ⟨.check checkpoint verdict, before, after⟩ rest
  | failed {verdict : Verdict} (checkpoint : Checkpoint) (before after : Node)
      (failed : verdict.passed = false) :
      Followed remedies ⟨.check checkpoint verdict, before, after⟩ []

namespace Guarded

variable {remedies : List Remedy} {acts : List Act}

theorem noCheckNext (h : Guarded remedies acts) : NoCheckNext acts := by
  intro act ha
  rintro ⟨checkpoint, verdict, hd⟩
  cases h with
  | nil => cases ha
  | analyze | idle | kept | halted =>
    cases ha
    cases hd

/-- Each act is looked at once, together with the list behind it. -/
theorem followed (h : Guarded remedies acts) {earlier later : List Act} {act : Act}
    (split : acts = earlier ++ act :: later) : Followed remedies act later := by
  have changes {report : Report} (h : report.isEmpty = false) : 0 < report.filesChanged := by
    simp only [Report.isEmpty, beq_eq_false_iff_ne] at h
    omega
  induction h generalizing earlier with
  | nil => simp at split
  | analyze pass before after guarded ih =>
    cases earlier with
    | nil =>
      cases split
      exact .analyze pass before after guarded
    | cons first earlier => exact ih (List.cons.inj split).2
  | idle findings tree _ empty guarded ih =>
    cases earlier with
    | nil =>
      cases split
      exact .idle findings tree (by simpa [Report.isEmpty] using empty) guarded
    | cons first earlier => exact ih (List.cons.inj split).2
  | kept findings before mended after _ changed passed guarded ih =>
    cases earlier with
    | nil =>
      cases split
      exact .changed _ findings before mended after (changes changed) guarded
    | cons first earlier =>
      cases earlier with
      | nil =>
        cases (List.cons.inj split).2
        exact .passed _ mended after passed guarded
      | cons second earlier => exact ih (List.cons.inj (List.cons.inj split).2).2
  | halted findings before mended after _ changed failed =>
    cases earlier with
    | nil =>
      cases split
      exact .changed _ findings before mended after (changes changed) .nil
    | cons first earlier =>
      cases earlier with
      | nil =>
        cases (List.cons.inj split).2
        exact .failed _ mended after failed
      | cons second earlier => simp at split

end Guarded

/-- A baseline and what is guarded by it make a gated campaign. -/
theorem gated_of_guarded {remedies : List Remedy} {verdict : Verdict} {before after : Node}
    {rest : List Act} (guarded : Guarded remedies rest)
    (stops : verdict.passed = false → rest = []) :
    Gated (⟨.check .baseline verdict, before, after⟩ :: rest) where
  baseline := ⟨verdict, before, after, rest, rfl, stops⟩
  batch := by
    intro earlier remedy findings report tree mended later split
    cases earlier with
    | nil => cases split
    | cons first earlier =>
      cases guarded.followed (List.cons.inj split).2 with
      | idle _ _ empty later => exact ⟨by omega, fun _ => ⟨rfl, later.noCheckNext⟩⟩
      | changed verdict _ _ _ checked changed later =>
        exact ⟨fun _ => ⟨verdict, checked, _, rfl, later.noCheckNext⟩, by omega⟩
  failure := by
    intro earlier checkpoint verdict tree checked later split failed
    cases earlier with
    | nil =>
      cases split
      exact stops failed
    | cons first earlier =>
      cases guarded.followed (List.cons.inj split).2 with
      | passed _ _ _ passed _ =>
        rw [passed] at failed
        cases failed
      | failed => rfl

/-! ## How far the tree gets from one that passed -/

/-- The tree that some acts leave. -/
def treeAfter : Node → List Act → Node
  | tree, [] => tree
  | _, act :: acts => treeAfter act.after acts

/-- The second tree is the first, or what a batch of one remedy makes of it. -/
def OneBatchApart (w : Workplace) (remedies : List Remedy) (old new : Node) : Prop :=
  new = old ∨ ∃ remedy ∈ remedies, ∃ findings, new = (w.run remedy old findings).2

/-- Whenever a campaign is looked at, its tree is close to the one that passed last. -/
structure NearChecked (w : Workplace) (remedies : List Remedy) (start : Node) (acts : List Act) :
    Prop where
  /-- Before any check has passed, the tree is the one that the campaign started with. -/
  untouched : ∀ earlier later, acts = earlier ++ later → (∀ act ∈ earlier, ¬ act.Passes) →
    treeAfter start earlier = start
  /-- Since the last check that passed, at most one batch has changed the tree. -/
  near : ∀ earlier check since later, acts = earlier ++ check :: (since ++ later) → check.Passes →
    (∀ act ∈ since, ¬ act.Passes) →
    OneBatchApart w remedies check.after (treeAfter check.after since)

section
variable {σ : Type} {c : Collaborators σ} {w : Workplace}

theorem Act.Faithful.check_leaves {checkpoint : Checkpoint} {verdict : Verdict}
    {before after : Node} (leaves : c.LeavesTree)
    (h : Act.Faithful c w ⟨.check checkpoint verdict, before, after⟩) : after = before := by
  obtain ⟨world, world', checked⟩ := h
  have kept := (leaves world before).1
  rw [checked] at kept
  exact kept

theorem Act.Faithful.analyze_leaves {pass : Pass} {before after : Node} (leaves : c.LeavesTree)
    (h : Act.Faithful c w ⟨.analyze pass, before, after⟩) : after = before := by
  obtain ⟨text, world, world', analyzed, _⟩ := h
  have kept := (leaves world before).2
  rw [analyzed] at kept
  exact kept

/-- Up to the next check that passes, only the last batch can have changed the tree. -/
theorem Guarded.near {remedies : List Remedy} {acts : List Act} (h : Guarded remedies acts)
    (leaves : c.LeavesTree) (faithful : ∀ act ∈ acts, act.Faithful c w) {tree last : Node}
    (chained : Chained tree acts last) {since later : List Act} (split : acts = since ++ later)
    (unpassed : ∀ act ∈ since, ¬ act.Passes) :
    OneBatchApart w remedies tree (treeAfter tree since) := by
  induction h generalizing tree since with
  | nil =>
    obtain ⟨rfl, _⟩ := List.append_eq_nil_iff.mp split.symm
    exact .inl rfl
  | analyze pass before after _ ih =>
    cases since with
    | nil => exact .inl rfl
    | cons first since =>
      obtain ⟨rfl, rest⟩ := List.cons.inj split
      obtain ⟨rfl, chain⟩ := chained
      have same := (faithful _ List.mem_cons_self).analyze_leaves leaves
      subst same
      have apart := ih (fun act ha => faithful act (List.mem_cons_of_mem _ ha)) chain rest
        (fun act ha => unpassed act (List.mem_cons_of_mem _ ha))
      exact apart
  | idle findings kept _ _ _ ih =>
    cases since with
    | nil => exact .inl rfl
    | cons first since =>
      obtain ⟨rfl, rest⟩ := List.cons.inj split
      obtain ⟨rfl, chain⟩ := chained
      have apart := ih (fun act ha => faithful act (List.mem_cons_of_mem _ ha)) chain rest
        (fun act ha => unpassed act (List.mem_cons_of_mem _ ha))
      exact apart
  | kept findings before mended after member _ passed _ _ =>
    cases since with
    | nil => exact .inl rfl
    | cons first since =>
      obtain ⟨rfl, rest⟩ := List.cons.inj split
      obtain ⟨rfl, _⟩ := chained
      obtain ⟨log, ran, _⟩ := faithful _ List.mem_cons_self
      cases since with
      | nil => exact .inr ⟨_, member, findings, by rw [ran]; rfl⟩
      | cons second since =>
        obtain ⟨rfl, _⟩ := List.cons.inj rest
        have impossible := unpassed _ (List.mem_cons_of_mem _ List.mem_cons_self)
        exact absurd ⟨_, _, rfl, passed⟩ impossible
  | halted findings before mended after member _ _ =>
    cases since with
    | nil => exact .inl rfl
    | cons first since =>
      obtain ⟨rfl, rest⟩ := List.cons.inj split
      obtain ⟨rfl, _⟩ := chained
      obtain ⟨log, ran, _⟩ := faithful _ List.mem_cons_self
      have apart : OneBatchApart w remedies before mended :=
        .inr ⟨_, member, findings, by rw [ran]⟩
      cases since with
      | nil => exact apart
      | cons second since =>
        obtain ⟨rfl, done⟩ := List.cons.inj rest
        obtain ⟨rfl, _⟩ := List.append_eq_nil_iff.mp done.symm
        have checked := faithful _ (List.mem_cons_of_mem _ List.mem_cons_self)
        have same := checked.check_leaves leaves
        subst same
        exact apart

theorem nearChecked_of_guarded {remedies : List Remedy} {verdict : Verdict}
    {before after start last : Node} {rest : List Act} (leaves : c.LeavesTree)
    (guarded : Guarded remedies rest) (stops : verdict.passed = false → rest = [])
    (faithful : ∀ act ∈ ⟨.check .baseline verdict, before, after⟩ :: rest, act.Faithful c w)
    (chained : Chained start (⟨.check .baseline verdict, before, after⟩ :: rest) last) :
    NearChecked w remedies start (⟨.check .baseline verdict, before, after⟩ :: rest) where
  untouched := by
    intro earlier later split unpassed
    cases earlier with
    | nil => rfl
    | cons first earlier =>
      obtain ⟨rfl, behind⟩ := List.cons.inj split
      have failed : verdict.passed = false := by
        cases passed : verdict.passed
        · rfl
        · exact absurd ⟨_, _, rfl, passed⟩ (unpassed _ List.mem_cons_self)
      rw [stops failed] at behind
      obtain ⟨rfl, _⟩ := List.append_eq_nil_iff.mp behind.symm
      have same := (faithful _ List.mem_cons_self).check_leaves leaves
      exact same.trans chained.1
  near := by
    intro earlier check since later split passed unpassed
    have rests : Guarded remedies (since ++ later) := by
      cases earlier with
      | nil =>
        cases split
        exact guarded
      | cons first earlier =>
        obtain ⟨_, _, hd, ok⟩ := passed
        have followed := guarded.followed (List.cons.inj split).2
        generalize since ++ later = behind at followed ⊢
        cases followed with
        | passed _ _ _ _ later => exact later
        | failed _ _ _ failed =>
          cases hd
          rw [ok] at failed
          cases failed
        | analyze | idle | changed => cases hd
    rw [split] at chained faithful
    obtain ⟨_, _, _, chain⟩ := chained.split
    exact rests.near leaves
      (fun act ha => faithful act (List.mem_append_right _ (List.mem_cons_of_mem _ ha))) chain rfl
      unpassed

end

/-- No change goes unchecked, whatever the remedies are and whatever the collaborators answer. -/
theorem no_ungated_change {σ : Type} (c : Collaborators σ) (w : Workplace)
    (remedies : List Remedy) (s : State σ) :
    ∃ acts, Trace c w s acts (run c w remedies s).2 ∧ Gated acts ∧
      (c.LeavesTree → NearChecked w remedies s.tree acts) := by
  obtain ⟨acts, trace, course⟩ := run_course c w remedies s
  obtain ⟨verdict, before, after, rest, rfl, stops, guarded⟩ := course.guarded
  exact ⟨_, trace, gated_of_guarded guarded stops, fun leaves =>
    nearChecked_of_guarded leaves guarded stops trace.faithful trace.chained⟩

/-- A script in which the second check fails, and a parameter is reported. -/
theorem no_ungated_change_regressing :
    Script.collaborators.LeavesTree ∧
      let w := Workplace.ofRoot ⟨"/p"⟩ ["ts"] ["node_modules"]
      let script : Script := ⟨[.ofStages [], ⟨false, some .build, []⟩],
        [some "  ! Parameter 'x' is declared but never used.\n   ,-[a.ts:1:3]\n"], 0, 0⟩
      let tree : Node := .dir [("p", .dir [("a.ts", .file "f(x: T)\n".toUTF8)])]
      let remedies := Catalog.standard []
      ∃ acts, Trace Script.collaborators w (.start script tree) acts
          (run Script.collaborators w remedies (.start script tree)).2 ∧
        Gated acts ∧ NearChecked w remedies tree acts := by
  refine ⟨Script.leavesTree, ?_⟩
  intro w script tree remedies
  obtain ⟨acts, trace, gated, near⟩ :=
    no_ungated_change Script.collaborators w remedies (.start script tree)
  exact ⟨acts, trace, gated, near Script.leavesTree⟩

end Campaign

end LintRepair
