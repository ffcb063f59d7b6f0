import LintRepair.Proofs.FindingOrder
import LintRepair.Proofs.Gating
import LintRepair.Proofs.Independence
import LintRepair.Proofs.Scope

/-!
What a campaign writes lies in its scope, whatever paths the analyzer reports.
In a tree without links every other file keeps its content.
-/

namespace LintRepair

/-- A path at or below the root under plain names, whose spelling below the root holds no excluded
text. -/
def Confined (root : Path) (exclude : List String) (path : Path) : Prop :=
  ∃ names, Path.IsPlace names ∧
    path.components = root.normalize.components ++ names.map .name ∧
    path.below? root.normalize = some (String.intercalate "/" names) ∧
    ∀ entry ∈ exclude, entry ≠ "" → ¬ entry.toList <:+: (String.intercalate "/" names).toList

theorem confined_of_admits {root : Path} (absolute : root.isAbsolute = true)
    {exclude : List String} {path : Path}
    (admitted : (Scope.ofRoot root exclude).admits
      ((Scope.ofRoot root exclude).resolve path) = true) :
    Confined root exclude ((Scope.ofRoot root exclude).resolve path) := by
  obtain ⟨above, below, place, atRoot, resolved, allowed⟩ :=
    Scope.admits_resolved absolute admitted
  have normal : root.normalize = .ofPlace above := atRoot
  have hAbove : Path.IsPlace above := fun n hn => place n (List.mem_append_left below hn)
  refine ⟨below, fun n hn => place n (List.mem_append_right above hn), ?_, ?_, allowed⟩
  · rw [resolved, normal, Path.components_ofPlace place, Path.components_ofPlace hAbove]
    simp
  · rw [resolved, normal, Path.below?_ofPlace place]

/-- Without links, edits in a scope change only what their paths spell. -/
theorem Edits.bytesAt?_of_linkFree {root : Path} (absolute : root.isAbsolute = true)
    {exclude : List String} {offer : Path → String → String → Prop} {a b : Node}
    {paths : List Path} (edits : Edits (.ofRoot root exclude) offer a paths b) (free : a.LinkFree)
    {place : List String}
    (spared : ∀ target ∈ paths, target.components ≠ .root :: place.map .name) :
    b.bytesAt? place = a.bytesAt? place := by
  apply edits.bytesAt?_eq
  -- A written path is spelled like the place it leads to, so it does not lead to `place`.
  intro target ht located
  have differs := spared target ht
  obtain ⟨path, rfl, admitted⟩ := edits.path_admitted target ht
  obtain ⟨above, below, isPlace, _, resolved, _⟩ := Scope.admits_resolved absolute admitted
  rw [resolved] at located differs
  rw [free.locate_ofPlace isPlace located, Path.components_ofPlace isPlace] at differs
  exact differs rfl

namespace Campaign

section
variable {σ : Type} {c : Collaborators σ} {w : Workplace}

/-- All files that have been written, in order. -/
def State.written (s : State σ) : List Path := s.moments.flatMap Moment.written

theorem State.written_note (s : State σ) (event : Event) : (s.note event).written = s.written := by
  simp [written, note]

theorem State.written_check (s : State σ) (c : Collaborators σ) (checkpoint : Checkpoint) :
    (s.check c checkpoint).2.written = s.written := by
  simp [written, check, note]

theorem State.written_analyze (s : State σ) (c : Collaborators σ) :
    (s.analyze c).2.written = s.written := by
  simp [written, analyze, note]

theorem State.written_batch (s : State σ) (w : Workplace) (remedy : Remedy)
    (findings : List Finding) :
    (s.batch w remedy findings).2.written =
      s.written ++ (w.run remedy s.tree findings).1.written := by
  simp [written, batch]

/-- Whatever is written was resolved and admitted. -/
theorem Trace.written_admitted {s t : State σ} {acts : List Act} (h : Trace c w s acts t) :
    ∀ target ∈ t.written, target ∈ s.written ∨
      ∃ path, target = w.scope.resolve path ∧ w.scope.admits target = true := by
  induction h with
  | refl => exact fun _ ht => .inl ht
  | note event _ _ ih => simpa only [State.written_note] using ih
  | check checkpoint _ ih => simpa only [State.written_check] using ih
  | analyze _ ih => simpa only [State.written_analyze] using ih
  | @batch s _ _ remedy findings _ ih =>
    intro target ht
    rcases ih target ht with before | admitted
    · rw [State.written_batch] at before
      rcases List.mem_append.mp before with before | now
      · exact .inl before
      · exact .inr ((w.run_edits remedy s.tree findings).path_admitted target now)
    · exact .inr admitted

/-- If the collaborators leave the tree alone, the files written are all that happens to it. -/
theorem Trace.edits {s t : State σ} {acts : List Act} (leaves : c.LeavesTree)
    (h : Trace c w s acts t) :
    ∃ paths, t.written = s.written ++ paths ∧
      Edits w.scope (fun _ _ _ => True) s.tree paths t.tree := by
  induction h with
  | refl s => exact ⟨[], by simp, .refl s.tree⟩
  | @note s _ _ event _ _ ih =>
    have same : (s.note event).tree = s.tree := rfl
    simpa only [State.written_note, same] using ih
  | @check s _ _ checkpoint _ ih =>
    have same : (s.check c checkpoint).2.tree = s.tree := (leaves s.world s.tree).1
    simpa only [State.written_check, same] using ih
  | @analyze s _ _ _ ih =>
    have same : (s.analyze c).2.tree = s.tree := (leaves s.world s.tree).2
    simpa only [State.written_analyze, same] using ih
  | @batch s _ _ remedy findings _ ih =>
    obtain ⟨later, written, edits⟩ := ih
    have now := (w.run_edits remedy s.tree findings).mono (fun _ _ _ _ => trivial)
    refine ⟨_, ?_, now.trans edits⟩
    rw [written, State.written_batch, List.append_assoc]

/-- What the batch of one remedy writes, whatever a check says afterwards. -/
theorem written_runBatches_single (c : Collaborators σ) (w : Workplace) (r : LineRemedy)
    (pass : Pass) (s : State σ) :
    (runBatches c w [.line r] (some pass) s).2.2.written =
      s.written ++ (w.runLine r s.tree pass.findings).1.written := by
  simp only [runBatches, collect, Remedy.needsFindings, ↓reduceIte]
  split
  · rw [State.written_batch, State.written_note, State.written_note]
    rfl
  · split
    all_goals
      rw [State.written_check, State.written_batch, State.written_note, State.written_note]
      rfl

theorem written_run_single (c : Collaborators σ) (w : Workplace) (r : LineRemedy) (s : State σ)
    (passed : (s.check c .baseline).1.passed = true) :
    let analyzed := (s.check c .baseline).2.analyze c
    (run c w [.line r] s).2.written =
      s.written ++ (w.runLine r analyzed.2.tree analyzed.1.findings).1.written := by
  intro analyzed
  have batch := written_runBatches_single c w r ((s.check c .baseline).2.analyze c).1
    ((s.check c .baseline).2.analyze c).2
  rw [State.written_analyze, State.written_check] at batch
  simp only [run, passed, Bool.not_true, Bool.false_eq_true, ↓reduceIte]
  rw [← batch]
  split
  · exact State.written_analyze ..
  · rfl

/-- A script without verdicts lets every check pass. -/
theorem written_script (w : Workplace) (r : LineRemedy) (text : String) (tree : Node) :
    (run Script.collaborators w [.line r] (.start ⟨[], [some text], 0, 0⟩ tree)).2.written =
      (w.runLine r tree (readFindings text)).1.written := by
  let s : State Script := .start ⟨[], [some text], 0, 0⟩ tree
  let analyzed := (s.check Script.collaborators .baseline).2.analyze Script.collaborators
  have findings : analyzed.1.findings = readFindings text := rfl
  have same : analyzed.2.tree = tree := rfl
  have fresh : s.written = [] := rfl
  rw [written_run_single Script.collaborators w r s rfl, findings, same, fresh, List.nil_append]

end

/-- Every file that a campaign writes lies in its scope. In a tree without links, which the
collaborators leave alone, all other files end as they were. No try to write fails
(`patch_skipped_iff`), so `written` lists them all. -/
theorem writes_stay_in_scope {σ : Type} (c : Collaborators σ) {root : Path}
    (absolute : root.isAbsolute = true) (extensions exclude : List String)
    (remedies : List Remedy) (world : σ) (tree : Node) :
    let last := (run c (.ofRoot root extensions exclude) remedies (.start world tree)).2
    (∀ path ∈ last.written, Confined root exclude path) ∧
      (c.LeavesTree → tree.LinkFree → ∀ place,
        (∀ path ∈ last.written, path.components ≠ .root :: place.map .name) →
        last.tree.bytesAt? place = tree.bytesAt? place) := by
  intro last
  obtain ⟨acts, trace, _⟩ :=
    run_course c (.ofRoot root extensions exclude) remedies (.start world tree)
  refine ⟨?_, ?_⟩
  · intro target ht
    rcases trace.written_admitted target ht with before | ⟨path, rfl, admitted⟩
    · cases before
    · exact confined_of_admits absolute admitted
  · intro leaves free place spared
    obtain ⟨paths, written, edits⟩ := trace.edits leaves
    have all : last.written = paths := written
    rw [all] at spared
    exact edits.bytesAt?_of_linkFree absolute free spared

/-- The analyzer names a file beside the root and one below it, both spelled with `..` and repeated
slashes. The one below is written. -/
theorem writes_stay_in_scope_escaping :
    let content := "f(x: T)\n".toUTF8
    let tree : Node := .dir [("p", .dir [("a.ts", .file content)]), ("q.ts", .file content)]
    let first := "  ! Parameter 'x' is declared but never used.\n   ,-[.//../q.ts:1:3]\n"
    let second := "  ! Parameter 'x' is declared but never used.\n   ,-[b/..//a.ts:1:3]\n"
    let last := (run Script.collaborators (.ofRoot ⟨"/p"⟩ ["ts"] ["node_modules"])
      [.line Parameter.remedy] (.start ⟨[], [some (first ++ second)], 0, 0⟩ tree)).2
    (⟨"/p"⟩ : Path).isAbsolute = true ∧ Script.collaborators.LeavesTree ∧ tree.LinkFree ∧
      last.written = [⟨"/p/a.ts"⟩] ∧ Confined ⟨"/p"⟩ ["node_modules"] ⟨"/p/a.ts"⟩ ∧
      last.tree.bytesAt? ["q.ts"] = some content := by
  intro content tree first second last
  subst last
  let outside : Finding := ⟨.unusedParameter, ⟨".//../q.ts"⟩, 1, 3, some "x"⟩
  let inside : Finding := ⟨.unusedParameter, ⟨"b/..//a.ts"⟩, 1, 3, some "x"⟩
  have reported : readFindings first = [outside] ∧ readFindings second = [inside] := by
    decide +kernel
  have found : readFindings (first ++ second) = [outside, inside] := by
    rw [readFindings_append (by decide) (by decide), reported.1, reported.2, List.singleton_append]
  have absolute : (⟨"/p"⟩ : Path).isAbsolute = true := by decide
  have free : tree.LinkFree := by
    refine .dir ?_
    simp [Node.LinkFree.file, Node.LinkFree.dir]
  have there : tree.at? ["p", "a.ts"] = some (.file content) := rfl
  have located : tree.locate [] ⟨"/p/a.ts"⟩ = .ok ["p", "a.ts"] :=
    free.locate_of_at? (by decide) (by decide) there
  let w := Workplace.ofRoot ⟨"/p"⟩ ["ts"] ["node_modules"]
  have leads : w.scope.resolve inside.file = ⟨"/p/a.ts"⟩ := by decide
  have grouped : groupByFile ([outside, inside].filter (·.kind = Parameter.remedy.kind)) =
      [(outside.file, [outside]), (inside.file, [inside])] := by decide
  have mends : serve Parameter.remedy.mendText "f(x: T)\n" [inside] =
      ([(inside, .changed)], "f(_x: T)\n") := by decide +kernel
  have batch : (w.runLine Parameter.remedy tree (readFindings (first ++ second))).1.written =
      [⟨"/p/a.ts"⟩] := by
    rw [found, Workplace.runLine, grouped, Workplace.mendGroups_cons,
      w.mendFile_skipped (.inl (by decide)), Workplace.mendGroups_cons,
      w.mendFile_eq (by decide) (leads ▸ located) there, mends, leads]
    rfl
  have written := (written_script (.ofRoot ⟨"/p"⟩ ["ts"] ["node_modules"]) Parameter.remedy
    (first ++ second) tree).trans batch
  obtain ⟨confined, frame⟩ := writes_stay_in_scope Script.collaborators absolute ["ts"]
    ["node_modules"] [.line Parameter.remedy] ⟨[], [some (first ++ second)], 0, 0⟩ tree
  rw [written] at confined frame
  have beside := frame Script.leavesTree free ["q.ts"] (List.forall_mem_singleton.mpr (by decide))
  exact ⟨absolute, Script.leavesTree, free, written, confined _ (by simp), beside⟩

end Campaign

end LintRepair
