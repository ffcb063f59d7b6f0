import LintRepair.Campaign.Run
import LintRepair.Proofs.Edits

/-!
The course of a campaign: its checks, passes and batches one after the other,
with the tree before and after each of them.

* `Trace` ties a list of acts to what the collaborators answer and what the
  batches do;
* `Course` says which lists of acts a campaign can have, and how each ends;
* `run_course`: every campaign is a trace that follows such a course.
-/

namespace LintRepair

/-- Events that only announce or count something. -/
def Event.IsRemark : Event → Prop
  | .batchStarted _ _ | .findingsCollected _ _ => True
  | _ => False

namespace Campaign

/-- What a campaign does: it has the tree checked, has it analyzed, or runs a batch. -/
inductive Deed where
  | check (checkpoint : Checkpoint) (verdict : Verdict)
  | analyze (pass : Pass)
  | batch (remedy : Remedy) (findings : List Finding) (report : Report)

/-- A deed between two trees. -/
structure Act where
  deed : Deed
  before : Node
  after : Node

section
variable {σ : Type}

/-- The acts that take a campaign from one state to another. All that happens between them is that
remarks are noted. -/
inductive Trace (c : Collaborators σ) (w : Workplace) : State σ → List Act → State σ → Prop
  | refl (s : State σ) : Trace c w s [] s
  | note {s t : State σ} {acts : List Act} (event : Event) (remark : event.IsRemark)
      (later : Trace c w (s.note event) acts t) : Trace c w s acts t
  | check {s t : State σ} {acts : List Act} (checkpoint : Checkpoint)
      (later : Trace c w (s.check c checkpoint).2 acts t) :
      Trace c w s (⟨.check checkpoint (s.check c checkpoint).1, s.tree,
        (s.check c checkpoint).2.tree⟩ :: acts) t
  | analyze {s t : State σ} {acts : List Act} (later : Trace c w (s.analyze c).2 acts t) :
      Trace c w s (⟨.analyze (s.analyze c).1, s.tree, (s.analyze c).2.tree⟩ :: acts) t
  | batch {s t : State σ} {acts : List Act} (remedy : Remedy) (findings : List Finding)
      (later : Trace c w (s.batch w remedy findings).2 acts t) :
      Trace c w s (⟨.batch remedy findings (s.batch w remedy findings).1, s.tree,
        (s.batch w remedy findings).2.tree⟩ :: acts) t

theorem Trace.trans {c : Collaborators σ} {w : Workplace} {s t u : State σ} {xs ys : List Act}
    (first : Trace c w s xs t) (second : Trace c w t ys u) : Trace c w s (xs ++ ys) u := by
  induction first with
  | refl => exact second
  | note event remark _ ih => exact .note event remark (ih second)
  | check checkpoint _ ih => exact .check checkpoint (ih second)
  | analyze _ ih => exact .analyze (ih second)
  | batch remedy findings _ ih => exact .batch remedy findings (ih second)

/-- An act is what the collaborators, or the workplace, really do with the tree before it. -/
def Act.Faithful (c : Collaborators σ) (w : Workplace) (act : Act) : Prop :=
  match act.deed with
  | .check _ verdict => ∃ world world', c.check world act.before = (verdict, world', act.after)
  | .analyze pass => ∃ text world world',
      c.analyze world act.before = (text, world', act.after) ∧ pass = .ofRun text
  | .batch remedy findings report => ∃ log,
      w.run remedy act.before findings = (log, act.after) ∧ report = log.report

theorem Trace.faithful {c : Collaborators σ} {w : Workplace} {s t : State σ} {acts : List Act}
    (h : Trace c w s acts t) : ∀ act ∈ acts, act.Faithful c w := by
  induction h with
  | refl => simp
  | note _ _ _ ih => exact ih
  | @check s _ _ checkpoint _ ih =>
    intro act ha
    rcases List.mem_cons.mp ha with rfl | ha
    · exact ⟨s.world, _, rfl⟩
    · exact ih act ha
  | @analyze s _ _ _ ih =>
    intro act ha
    rcases List.mem_cons.mp ha with rfl | ha
    · exact ⟨_, s.world, _, rfl, rfl⟩
    · exact ih act ha
  | batch remedy findings _ ih =>
    intro act ha
    rcases List.mem_cons.mp ha with rfl | ha
    · exact ⟨_, rfl, rfl⟩
    · exact ih act ha

end

/-- Each act starts with the tree that the act before it left. -/
def Chained : Node → List Act → Node → Prop
  | tree, [], last => last = tree
  | tree, act :: acts, last => act.before = tree ∧ Chained act.after acts last

theorem Trace.chained {σ : Type} {c : Collaborators σ} {w : Workplace} {s t : State σ}
    {acts : List Act} (h : Trace c w s acts t) : Chained s.tree acts t.tree := by
  induction h with
  | refl => rfl
  | note _ _ _ ih => exact ih
  | check _ _ ih => exact ⟨rfl, ih⟩
  | analyze _ ih => exact ⟨rfl, ih⟩
  | batch _ _ _ ih => exact ⟨rfl, ih⟩

theorem Chained.split {tree last : Node} {xs ys : List Act} (h : Chained tree (xs ++ ys) last) :
    ∃ middle, Chained tree xs middle ∧ Chained middle ys last := by
  induction xs generalizing tree with
  | nil => exact ⟨tree, rfl, h⟩
  | cons act xs ih =>
    obtain ⟨middle, first, second⟩ := ih h.2
    exact ⟨middle, ⟨h.1, first⟩, second⟩

/-! ## Which courses there are -/

/-- How a remedy gets its findings: it needs none, an earlier pass holds, or there is a new pass. -/
inductive Collects : Remedy → Option Pass → List Act → List Finding → Option Pass → Prop
  | needless (r : ContentRemedy) (pass : Option Pass) : Collects (.content r) pass [] [] pass
  | reuse (r : LineRemedy) (pass : Pass) :
      Collects (.line r) (some pass) [] pass.findings (some pass)
  | fresh (r : LineRemedy) (pass : Pass) (before after : Node) :
      Collects (.line r) none [⟨.analyze pass, before, after⟩] pass.findings (some pass)

/-- The rounds of a campaign, one for each remedy. A round that changed nothing goes on with the
same pass; any other is checked, and either goes on without a pass or is the last. -/
inductive Rounds : List Remedy → Option Pass → List Act → Ending → List BatchRecord → Prop
  | done (pass : Option Pass) : Rounds [] pass [] .completed []
  | idle {remedy : Remedy} {remedies : List Remedy} {pass next : Option Pass} {acts rest : List Act}
      {findings : List Finding} {report : Report} {ending : Ending} {records : List BatchRecord}
      (tree : Node) (collected : Collects remedy pass acts findings next)
      (empty : report.isEmpty = true) (later : Rounds remedies next rest ending records) :
      Rounds (remedy :: remedies) pass (acts ++ ⟨.batch remedy findings report, tree, tree⟩ :: rest)
        ending (⟨remedy.id, findings.length, report⟩ :: records)
  | kept {remedy : Remedy} {remedies : List Remedy} {pass next : Option Pass} {acts rest : List Act}
      {findings : List Finding} {report : Report} {verdict : Verdict} {ending : Ending}
      {records : List BatchRecord} (before mended after : Node)
      (collected : Collects remedy pass acts findings next)
      (changed : report.isEmpty = false) (passed : verdict.passed = true)
      (later : Rounds remedies none rest ending records) :
      Rounds (remedy :: remedies) pass
        (acts ++ ⟨.batch remedy findings report, before, mended⟩ ::
          ⟨.check (.after remedy.id) verdict, mended, after⟩ :: rest)
        ending (⟨remedy.id, findings.length, report⟩ :: records)
  | halted {remedy : Remedy} {remedies : List Remedy} {pass next : Option Pass} {acts : List Act}
      {findings : List Finding} {report : Report} {verdict : Verdict} (before mended after : Node)
      (collected : Collects remedy pass acts findings next)
      (changed : report.isEmpty = false) (failed : verdict.passed = false) :
      Rounds (remedy :: remedies) pass
        (acts ++ [⟨.batch remedy findings report, before, mended⟩,
          ⟨.check (.after remedy.id) verdict, mended, after⟩])
        (.regressed remedy.id verdict) [⟨remedy.id, findings.length, report⟩]

/-- A whole campaign with its summary. -/
inductive Course (remedies : List Remedy) : List Act → Summary → Prop
  | refused {verdict : Verdict} (before after : Node) (failed : verdict.passed = false) :
      Course remedies [⟨.check .baseline verdict, before, after⟩]
        ⟨.baselineFailed verdict, [], none, none, 0⟩
  | broken {verdict : Verdict} {first : Pass} {acts : List Act} {ending : Ending}
      {records : List BatchRecord} (before checked analyzed : Node)
      (passed : verdict.passed = true) (rounds : Rounds remedies (some first) acts ending records)
      (unfinished : ending ≠ .completed) :
      Course remedies (⟨.check .baseline verdict, before, checked⟩ ::
          ⟨.analyze first, checked, analyzed⟩ :: acts)
        ⟨ending, records, some first.count, none, 0⟩
  | completed {verdict : Verdict} {first last : Pass} {acts : List Act}
      {records : List BatchRecord} (before checked analyzed mended after : Node)
      (passed : verdict.passed = true)
      (rounds : Rounds remedies (some first) acts .completed records) :
      Course remedies (⟨.check .baseline verdict, before, checked⟩ ::
          ⟨.analyze first, checked, analyzed⟩ :: (acts ++ [⟨.analyze last, mended, after⟩]))
        ⟨.completed, records, some first.count, some last.count, 0⟩

section
variable {σ : Type} (c : Collaborators σ) (w : Workplace)

theorem collect_trace (remedy : Remedy) (pass : Option Pass) (s : State σ) :
    ∃ acts, Trace c w s acts (collect c remedy pass s).2.2 ∧
      Collects remedy pass acts (collect c remedy pass s).1 (collect c remedy pass s).2.1 := by
  cases remedy with
  | content r => exact ⟨[], .refl s, .needless r pass⟩
  | line r =>
    cases pass with
    | some pass =>
      exact ⟨[], .note (.findingsCollected _ _) trivial (.refl _), .reuse r pass⟩
    | none =>
      exact ⟨_, .analyze (.note (.findingsCollected _ _) trivial (.refl _)), .fresh r _ _ _⟩

/-- What `runBatches` does is a trace of rounds. -/
theorem runBatches_rounds (remedies : List Remedy) (pass : Option Pass) (s : State σ) :
    ∃ acts, Trace c w s acts (runBatches c w remedies pass s).2.2 ∧
      Rounds remedies pass acts (runBatches c w remedies pass s).1
        (runBatches c w remedies pass s).2.1 := by
  induction remedies generalizing pass s with
  | nil => exact ⟨[], .refl s, .done pass⟩
  | cons remedy remedies ih =>
    let announced := s.note (.batchStarted remedy.id remedy.description)
    have announcing {xs : List Act} {t : State σ} (later : Trace c w announced xs t) :
        Trace c w s xs t :=
      .note (.batchStarted remedy.id remedy.description) trivial later
    obtain ⟨acts, collecting, collected⟩ := collect_trace c w remedy pass announced
    let findings := (collect c remedy pass announced).1
    let next := (collect c remedy pass announced).2.1
    let ready := (collect c remedy pass announced).2.2
    let report := (ready.batch w remedy findings).1
    let mended := (ready.batch w remedy findings).2
    simp only [runBatches]
    split
    · rename_i empty
      obtain ⟨rest, trace, rounds⟩ := ih next mended
      have same : mended.tree = ready.tree := w.run_idle empty
      refine ⟨_, announcing (collecting.trans (.batch remedy findings trace)), ?_⟩
      have round := Rounds.idle ready.tree collected empty rounds
      change Rounds _ _ (_ ++ ⟨_, ready.tree, mended.tree⟩ :: _) _ _
      rw [same]
      exact round
    · rename_i changed
      have changed : report.isEmpty = false := by simpa using changed
      let verdict := (mended.check c (.after remedy.id)).1
      let checked := (mended.check c (.after remedy.id)).2
      split
      · rename_i passed
        obtain ⟨rest, trace, rounds⟩ := ih none checked
        exact ⟨_, announcing (collecting.trans (.batch remedy findings (.check _ trace))),
          .kept ready.tree mended.tree checked.tree collected changed passed rounds⟩
      · rename_i failed
        have failed : verdict.passed = false := by simpa using failed
        exact ⟨_, announcing (collecting.trans (.batch remedy findings (.check _ (.refl checked)))),
          .halted ready.tree mended.tree checked.tree collected changed failed⟩

/-- Every campaign is a trace that follows a course. -/
theorem run_course (remedies : List Remedy) (s : State σ) :
    ∃ acts, Trace c w s acts (run c w remedies s).2 ∧
      Course remedies acts (run c w remedies s).1 := by
  let baseline := (s.check c .baseline).1
  let checked := (s.check c .baseline).2
  simp only [run]
  split
  · rename_i failed
    have failed : baseline.passed = false := by simpa using failed
    exact ⟨_, .check .baseline (.refl checked), .refused s.tree checked.tree failed⟩
  · rename_i passed
    have passed : baseline.passed = true := by simpa using passed
    let first := (checked.analyze c).1
    let analyzed := (checked.analyze c).2
    obtain ⟨acts, trace, rounds⟩ := runBatches_rounds c w remedies (some first) analyzed
    let mended := (runBatches c w remedies (some first) analyzed).2.2
    split
    · rename_i ending completed
      rw [completed] at rounds
      refine ⟨_, .check .baseline (.analyze (trace.trans (.analyze (.refl _)))), ?_⟩
      exact .completed s.tree checked.tree analyzed.tree mended.tree _ passed rounds
    · rename_i ending unfinished
      exact ⟨_, .check .baseline (.analyze trace),
        .broken s.tree checked.tree analyzed.tree passed rounds unfinished⟩

end

end Campaign

end LintRepair
