import LintRepair.Proofs.Gating

/-!
What a summary says is what happened. Its records are the batches that ran, in
the order of the remedies, and they alone have changed the tree; there was one
check for the baseline and one for each batch that changed something; and how a
campaign ended tells which of its checks passed.
-/

namespace LintRepair.Campaign

/-! ## What is among the acts -/

/-- A batch that ran. -/
structure BatchRun where
  remedy : Remedy
  findings : List Finding
  report : Report

def BatchRun.record (b : BatchRun) : BatchRecord := ⟨b.remedy.id, b.findings.length, b.report⟩

def Deed.check? : Deed → Option (Checkpoint × Verdict)
  | check checkpoint verdict => some (checkpoint, verdict)
  | _ => none

def Deed.batch? : Deed → Option BatchRun
  | batch remedy findings report => some ⟨remedy, findings, report⟩
  | _ => none

/-- The checks that were made, with their verdicts. -/
def checksIn (acts : List Act) : List (Checkpoint × Verdict) := acts.filterMap (·.deed.check?)

def batchesIn (acts : List Act) : List BatchRun := acts.filterMap (·.deed.batch?)

theorem checksIn_append (xs ys : List Act) : checksIn (xs ++ ys) = checksIn xs ++ checksIn ys :=
  List.filterMap_append

theorem batchesIn_append (xs ys : List Act) : batchesIn (xs ++ ys) = batchesIn xs ++ batchesIn ys :=
  List.filterMap_append

theorem Collects.checksIn {remedy : Remedy} {pass next : Option Pass} {acts : List Act}
    {findings : List Finding} (h : Collects remedy pass acts findings next) :
    checksIn acts = [] := by
  cases h <;> rfl

theorem Collects.batchesIn {remedy : Remedy} {pass next : Option Pass} {acts : List Act}
    {findings : List Finding} (h : Collects remedy pass acts findings next) :
    batchesIn acts = [] := by
  cases h <;> rfl

/-! ## The account of the rounds -/

/-- How rounds end by their checks: all of them passed, or the last one failed, and it came after
the last batch. -/
inductive Judged (checks : List (Checkpoint × Verdict)) (records : List BatchRecord) : Ending → Prop
  | passed (all : ∀ check ∈ checks, check.2.passed = true) : Judged checks records .completed
  | failed {remedy : RemedyId} {verdict : Verdict} {record : BatchRecord}
      (last : checks.getLast? = some (.after remedy, verdict)) (failed : verdict.passed = false)
      (recorded : records.getLast? = some record) (culprit : record.remedy = remedy)
      (changed : record.report.isEmpty = false) : Judged checks records (.regressed remedy verdict)

namespace Judged

variable {checks : List (Checkpoint × Verdict)} {records : List BatchRecord} {ending : Ending}

theorem behind (h : Judged checks records ending) {sooner : List (Checkpoint × Verdict)}
    (passed : ∀ check ∈ sooner, check.2.passed = true) :
    Judged (sooner ++ checks) records ending := by
  cases h with
  | passed all => exact .passed (List.forall_mem_append.mpr ⟨passed, all⟩)
  | failed last failed recorded culprit changed =>
    exact .failed (by simp [last]) failed recorded culprit changed

theorem cons (h : Judged checks records ending) (record : BatchRecord) :
    Judged checks (record :: records) ending := by
  cases h with
  | passed all => exact .passed all
  | failed last failed recorded culprit changed =>
    exact .failed last failed (by simp [List.getLast?_cons, recorded]) culprit changed

theorem completed_iff (h : Judged checks records ending) :
    ending = .completed ↔ ∀ check ∈ checks, check.2.passed = true := by
  cases h with
  | passed all => simpa using all
  | failed last failed =>
    have falls (all : ∀ check ∈ checks, check.2.passed = true) : False := by
      have passed := all _ (List.mem_of_getLast? last)
      rw [failed] at passed
      cases passed
    simpa using falls

theorem regressed_iff (h : Judged checks records ending) (remedy : RemedyId) (verdict : Verdict) :
    ending = .regressed remedy verdict ↔
      checks.getLast? = some (.after remedy, verdict) ∧ verdict.passed = false := by
  cases h with
  | passed all =>
    have holds (last : checks.getLast? = some (.after remedy, verdict)) : verdict.passed = true :=
      all _ (List.mem_of_getLast? last)
    simpa using holds
  | failed last failed =>
    rw [last]
    constructor
    · rintro ⟨⟩
      exact ⟨rfl, failed⟩
    · rintro ⟨⟨⟩, _⟩
      rfl

theorem culprit (h : Judged checks records ending) {remedy : RemedyId} {verdict : Verdict}
    (regressed : ending = .regressed remedy verdict) :
    ∃ record, records.getLast? = some record ∧ record.remedy = remedy ∧
      record.report.isEmpty = false := by
  cases h with
  | passed => cases regressed
  | failed _ _ recorded culprit changed =>
    cases regressed
    exact ⟨_, recorded, culprit, changed⟩

theorem ne_baselineFailed (h : Judged checks records ending) (verdict : Verdict) :
    ending ≠ .baselineFailed verdict := by
  cases h <;> simp

end Judged

namespace Rounds

variable {remedies : List Remedy} {pass : Option Pass} {acts : List Act} {ending : Ending}
  {records : List BatchRecord}

theorem recorded (h : Rounds remedies pass acts ending records) :
    records = (batchesIn acts).map BatchRun.record := by
  induction h with
  | done => rfl
  | idle _ collected _ _ ih | kept _ _ _ collected _ _ _ ih =>
    rw [batchesIn_append, collected.batchesIn, ih]
    rfl
  | halted _ _ _ collected =>
    rw [batchesIn_append, collected.batchesIn]
    rfl

theorem in_order (h : Rounds remedies pass acts ending records) :
    (batchesIn acts).map BatchRun.remedy <+: remedies := by
  induction h with
  | done => exact List.prefix_refl []
  | idle _ collected _ _ ih | kept _ _ _ collected _ _ _ ih =>
    rw [batchesIn_append, collected.batchesIn]
    exact List.cons_prefix_cons.mpr ⟨rfl, ih⟩
  | halted _ _ _ collected =>
    rw [batchesIn_append, collected.batchesIn]
    exact List.cons_prefix_cons.mpr ⟨rfl, List.nil_prefix⟩

/-- There is a check for every record of a change. -/
theorem checked (h : Rounds remedies pass acts ending records) :
    (checksIn acts).length = records.countP (!·.report.isEmpty) := by
  induction h with
  | done => rfl
  | idle _ collected empty _ ih =>
    rw [checksIn_append, collected.checksIn, List.countP_cons_of_neg (by simp [empty]), ← ih]
    rfl
  | kept _ _ _ collected changed _ _ ih =>
    rw [checksIn_append, collected.checksIn, List.countP_cons_of_pos (by simp [changed]), ← ih]
    rfl
  | halted _ _ _ collected changed =>
    rw [checksIn_append, collected.checksIn, List.countP_cons_of_pos (by simp [changed])]
    rfl

theorem judged (h : Rounds remedies pass acts ending records) :
    Judged (checksIn acts) records ending := by
  induction h with
  | done => exact .passed (by simp [checksIn])
  | idle _ collected _ _ ih =>
    rw [checksIn_append, collected.checksIn]
    exact ih.cons _
  | @kept remedy _ _ _ _ _ _ _ verdict _ _ _ _ _ collected _ passed _ ih =>
    have later : ∀ check ∈ [(Checkpoint.after remedy.id, verdict)], check.2.passed = true := by
      simpa using passed
    rw [checksIn_append, collected.checksIn]
    exact (ih.behind later).cons _
  | halted _ _ _ collected changed failed =>
    rw [checksIn_append, collected.checksIn]
    exact .failed rfl failed rfl rfl changed

end Rounds

/-! ## The account of a campaign -/

/-- What a summary says agrees with the acts of the campaign. -/
structure Account (remedies : List Remedy) (acts : List Act) (summary : Summary) : Prop where
  /-- The batches that ran are those of the first remedies, in their order. -/
  in_order : (batchesIn acts).map BatchRun.remedy <+: remedies
  recorded : summary.batches = (batchesIn acts).map BatchRun.record
  checked : (checksIn acts).length = 1 + summary.remediesApplied
  completed : summary.ending = .completed ↔ ∀ check ∈ checksIn acts, check.2.passed = true
  baselineFailed : ∀ verdict, summary.ending = .baselineFailed verdict ↔
    (checksIn acts).head? = some (.baseline, verdict) ∧ verdict.passed = false
  /-- Nothing was done after a baseline that failed. -/
  refused : ∀ verdict, summary.ending = .baselineFailed verdict → summary.batches = []
  regressed : ∀ remedy verdict, summary.ending = .regressed remedy verdict ↔
    (checksIn acts).getLast? = some (.after remedy, verdict) ∧ verdict.passed = false
  /-- The remedy that is blamed is that of the last batch, which changed something. -/
  culprit : ∀ remedy verdict, summary.ending = .regressed remedy verdict →
    ∃ record, summary.batches.getLast? = some record ∧ record.remedy = remedy ∧
      record.report.isEmpty = false
  issuesBefore : summary.issuesBefore = none ↔ ∃ verdict, summary.ending = .baselineFailed verdict
  issuesAfter : summary.issuesAfter.isSome = true ↔ summary.ending = .completed

/-- The account of a campaign with a baseline that passed: besides that check, and the batches and
checks of its rounds, there are only passes of the analyzer. -/
theorem Rounds.account {remedies : List Remedy} {pass : Option Pass} {acts rounds : List Act}
    {baseline : Verdict} {summary : Summary}
    (h : Rounds remedies pass rounds summary.ending summary.batches)
    (passed : baseline.passed = true)
    (checks : checksIn acts = (.baseline, baseline) :: checksIn rounds)
    (batches : batchesIn acts = batchesIn rounds) (issuesBefore : summary.issuesBefore ≠ none)
    (issuesAfter : summary.issuesAfter.isSome = true ↔ summary.ending = .completed) :
    Account remedies acts summary := by
  have judged : Judged (checksIn acts) summary.batches summary.ending := by
    have first : ∀ check ∈ [(Checkpoint.baseline, baseline)], check.2.passed = true := by
      simpa using passed
    rw [checks]
    exact h.judged.behind first
  refine ⟨batches ▸ h.in_order, batches ▸ h.recorded, ?_, judged.completed_iff, ?_, ?_,
    judged.regressed_iff, fun _ _ => judged.culprit, ?_, issuesAfter⟩
  · rw [checks, List.length_cons, h.checked, Nat.add_comm]
    rfl
  · intro verdict
    refine ⟨fun failed => absurd failed (judged.ne_baselineFailed verdict), ?_⟩
    rw [checks]
    rintro ⟨⟨⟩, failed⟩
    rw [passed] at failed
    cases failed
  · exact fun verdict failed => absurd failed (judged.ne_baselineFailed verdict)
  · refine ⟨fun missing => absurd missing issuesBefore, ?_⟩
    rintro ⟨verdict, failed⟩
    exact absurd failed (judged.ne_baselineFailed verdict)

theorem Course.account {remedies : List Remedy} {acts : List Act} {summary : Summary}
    (h : Course remedies acts summary) : Account remedies acts summary := by
  cases h with
  | @refused verdict before after failed =>
    refine ⟨List.nil_prefix, rfl, rfl, ?_, ?_, fun _ _ => rfl, ?_, ?_, ?_, ?_⟩ <;>
      simp [checksIn, Deed.check?, failed]
  | broken before checked analyzed passed rounds unfinished =>
    refine rounds.account passed ?_ ?_ (by simp) (by simpa using unfinished)
    · rfl
    · rfl
  | @completed _ _ last acts _ _ _ _ mended after passed rounds =>
    have checks : checksIn (acts ++ [⟨.analyze last, mended, after⟩]) = checksIn acts := by
      rw [checksIn_append]
      exact List.append_nil _
    have batches : batchesIn (acts ++ [⟨.analyze last, mended, after⟩]) = batchesIn acts := by
      rw [batchesIn_append]
      exact List.append_nil _
    exact rounds.account passed (congrArg _ checks) batches (by simp) (by simp)

/-! ## What is left of the batches and the checks -/

/-- What batches make of a tree, one after the other, with a record of each. -/
def replay (w : Workplace) : Node → List BatchRun → List BatchRecord × Node
  | tree, [] => ([], tree)
  | tree, b :: batches =>
    let (log, mended) := w.run b.remedy tree b.findings
    let (records, last) := replay w mended batches
    (⟨b.remedy.id, b.findings.length, log.report⟩ :: records, last)

/-- The verdict that an event tells of. -/
def verdictOf? : Event → Option (Checkpoint × Verdict)
  | .checkFinished checkpoint verdict => some (checkpoint, verdict)
  | _ => none

section
variable {σ : Type} {c : Collaborators σ} {w : Workplace} {s t : State σ} {acts : List Act}

/-- If the collaborators leave the tree alone, the batches alone have made it what it is. -/
theorem Trace.replay_batches (leaves : c.LeavesTree) (h : Trace c w s acts t) :
    replay w s.tree (batchesIn acts) = ((batchesIn acts).map BatchRun.record, t.tree) := by
  induction h with
  | refl => rfl
  | note _ _ _ ih => exact ih
  | @check s t acts checkpoint _ ih =>
    have same : (s.check c checkpoint).2.tree = s.tree := (leaves s.world s.tree).1
    rw [same] at ih
    exact ih
  | @analyze s t acts _ ih =>
    have same : (s.analyze c).2.tree = s.tree := (leaves s.world s.tree).2
    rw [same] at ih
    exact ih
  | @batch s t acts remedy findings _ ih =>
    have mended : (s.batch w remedy findings).2.tree = (w.run remedy s.tree findings).2 := rfl
    rw [mended] at ih
    simp only [batchesIn, List.filterMap_cons, Deed.batch?, replay, List.map_cons] at ih ⊢
    rw [ih]
    rfl

theorem State.events_note (s : State σ) (event : Event) :
    (s.note event).events = s.events ++ [event] := by
  simp [State.events, State.note]

theorem State.events_check (s : State σ) (checkpoint : Checkpoint) :
    (s.check c checkpoint).2.events =
      s.events ++
        [.checkStarted checkpoint, .checkFinished checkpoint (s.check c checkpoint).1] := by
  simp [State.events, State.check, State.note]

theorem State.events_analyze (s : State σ) :
    (s.analyze c).2.events =
      s.events ++ [.analyzerStarted, .analyzerFinished (s.analyze c).1.count] := by
  simp [State.events, State.analyze, State.note]

theorem State.events_batch (s : State σ) (remedy : Remedy) (findings : List Finding) :
    (s.batch w remedy findings).2.events =
      s.events ++ [.batchFinished remedy.id (s.batch w remedy findings).1] := by
  simp [State.events, State.batch]

/-- The checks that were made are those whose verdicts were noted. -/
theorem Trace.verdicts_noted (h : Trace c w s acts t) :
    t.events.filterMap verdictOf? = s.events.filterMap verdictOf? ++ checksIn acts := by
  induction h with
  | refl => exact (List.append_nil _).symm
  | note event remark _ ih =>
    have silent : verdictOf? event = none := by
      cases event <;> first | rfl | cases remark
    rw [ih, State.events_note, List.filterMap_append]
    simp [silent]
  | check checkpoint _ ih =>
    rw [ih, State.events_check, List.filterMap_append, List.append_assoc]
    rfl
  | analyze _ ih =>
    rw [ih, State.events_analyze, List.filterMap_append, List.append_assoc]
    rfl
  | batch remedy findings _ ih =>
    rw [ih, State.events_batch, List.filterMap_append, List.append_assoc]
    rfl

end

/-- The summary of a campaign agrees with its acts, whatever the remedies are and whatever the
collaborators answer. If those leave the tree alone, the batches on record, run again one after the
other, give the tree that the campaign leaves. -/
theorem summary_agrees {σ : Type} (c : Collaborators σ) (w : Workplace)
    (remedies : List Remedy) (s : State σ) :
    ∃ acts, Trace c w s acts (run c w remedies s).2 ∧
      (run c w remedies s).2.events.filterMap verdictOf? =
        s.events.filterMap verdictOf? ++ checksIn acts ∧
      Account remedies acts (run c w remedies s).1 ∧
      (c.LeavesTree → replay w s.tree (batchesIn acts) =
        ((run c w remedies s).1.batches, (run c w remedies s).2.tree)) := by
  obtain ⟨acts, trace, course⟩ := run_course c w remedies s
  refine ⟨acts, trace, trace.verdicts_noted, course.account, fun leaves => ?_⟩
  rw [course.account.recorded]
  exact trace.replay_batches leaves

/-- A script that does not let the batch for a reported parameter pass. -/
theorem summary_agrees_regressing :
    Script.collaborators.LeavesTree ∧
      let w := Workplace.ofRoot ⟨"/p"⟩ ["ts"] ["node_modules"]
      let script : Script := ⟨[.ofStages [], ⟨false, some .build, []⟩],
        [some "  ! Parameter 'x' is declared but never used.\n   ,-[a.ts:1:3]\n"], 0, 0⟩
      let tree : Node := .dir [("p", .dir [("a.ts", .file "f(x: T)\n".toUTF8)])]
      let remedies := Catalog.standard []
      ∃ acts, Account remedies acts (run Script.collaborators w remedies (.start script tree)).1 ∧
        replay w tree (batchesIn acts) =
          ((run Script.collaborators w remedies (.start script tree)).1.batches,
            (run Script.collaborators w remedies (.start script tree)).2.tree) := by
  refine ⟨Script.leavesTree, ?_⟩
  intro w script tree remedies
  obtain ⟨acts, _, _, account, replayed⟩ :=
    summary_agrees Script.collaborators w remedies (.start script tree)
  exact ⟨acts, account, replayed Script.leavesTree⟩

end LintRepair.Campaign
