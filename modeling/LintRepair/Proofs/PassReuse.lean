import LintRepair.Proofs.CampaignTrace

/-!
Taking an earlier pass instead of a new one cannot be told from the outside, if
what the analyzer says depends on the tree alone. The pass that a campaign keeps
is always the one that a new run of the analyzer would give.
-/

namespace LintRepair

/-- A check of any kind, and an analyzer whose answer is a function of the tree. -/
def Collaborators.ofAnswer {σ : Type} (check : σ → Node → Verdict × σ × Node)
    (answer : Node → Option String) : Collaborators σ :=
  ⟨check, fun world tree => (answer tree, world, tree)⟩

namespace Campaign

section
variable {σ : Type}

/-- The findings for a remedy, from a new pass if it needs any. -/
def collectAnew (c : Collaborators σ) (remedy : Remedy) (s : State σ) : List Finding × State σ :=
  if remedy.needsFindings then
    let (pass, s) := s.analyze c
    (pass.findings, s)
  else ([], s)

/-- Runs the batches with a new pass before every remedy that needs findings. -/
def plainBatches (c : Collaborators σ) (w : Workplace) :
    List Remedy → State σ → Ending × List BatchRecord × State σ
  | [], s => (.completed, [], s)
  | remedy :: remedies, s =>
    let (findings, s) := collectAnew c remedy s
    let (report, s) := s.batch w remedy findings
    let record := BatchRecord.mk remedy.id findings.length report
    if report.isEmpty then
      let (ending, records, s) := plainBatches c w remedies s
      (ending, record :: records, s)
    else
      let (verdict, s) := s.check c (.after remedy.id)
      if verdict.passed then
        let (ending, records, s) := plainBatches c w remedies s
        (ending, record :: records, s)
      else (.regressed remedy.id verdict, [record], s)

/-- The campaign that keeps no pass. -/
def plainRun (c : Collaborators σ) (w : Workplace) (remedies : List Remedy) (s : State σ) :
    Summary × State σ :=
  let (baseline, s) := s.check c .baseline
  if !baseline.passed then (⟨.baselineFailed baseline, [], none, none, 0⟩, s)
  else
    let (before, s) := s.analyze c
    let (ending, batches, s) := plainBatches c w remedies s
    match ending with
    | .completed =>
      let (after, s) := s.analyze c
      (⟨.completed, batches, some before.count, some after.count, 0⟩, s)
    | ending => (⟨ending, batches, some before.count, none, 0⟩, s)

/-- Two states that differ at most in what was noted. -/
def State.Agrees (s t : State σ) : Prop := s.world = t.world ∧ s.tree = t.tree

namespace State.Agrees

variable {s t : State σ} (h : s.Agrees t)
include h

theorem note (event : Event) : (s.note event).Agrees t := h

theorem check (c : Collaborators σ) (checkpoint : Checkpoint) :
    (s.check c checkpoint).1 = (t.check c checkpoint).1 ∧
      (s.check c checkpoint).2.Agrees (t.check c checkpoint).2 := by
  obtain ⟨world, tree⟩ := h
  simp only [State.check, State.note, Agrees, world, tree, and_self]

theorem analyze (c : Collaborators σ) :
    (s.analyze c).1 = (t.analyze c).1 ∧ (s.analyze c).2.Agrees (t.analyze c).2 := by
  obtain ⟨world, tree⟩ := h
  simp only [State.analyze, State.note, Agrees, world, tree, and_self]

theorem batch (w : Workplace) (remedy : Remedy) (findings : List Finding) :
    (s.batch w remedy findings).1 = (t.batch w remedy findings).1 ∧
      (s.batch w remedy findings).2.Agrees (t.batch w remedy findings).2 := by
  obtain ⟨world, tree⟩ := h
  simp only [State.batch, Agrees, world, tree, and_self]

end State.Agrees

end

/-- A pass that is kept is what the analyzer would say of this tree. -/
def Fresh (answer : Node → Option String) (pass : Option Pass) (tree : Node) : Prop :=
  ∀ kept ∈ pass, kept = .ofRun (answer tree)

theorem fresh_none (answer : Node → Option String) (tree : Node) : Fresh answer none tree := by
  rintro _ ⟨⟩

section
variable {σ : Type} (check : σ → Node → Verdict × σ × Node) (answer : Node → Option String)

theorem collect_eq_anew {s t : State σ} (agrees : s.Agrees t) (remedy : Remedy)
    {pass : Option Pass} (fresh : Fresh answer pass s.tree) :
    let kept := collect (.ofAnswer check answer) remedy pass s
    let anew := collectAnew (.ofAnswer check answer) remedy t
    kept.1 = anew.1 ∧ kept.2.2.Agrees anew.2 ∧ Fresh answer kept.2.1 kept.2.2.tree := by
  cases remedy with
  | content r => exact ⟨rfl, agrees, fresh⟩
  | line r =>
    cases pass with
    | some pass =>
      have same : pass = .ofRun (answer t.tree) := agrees.2 ▸ fresh pass rfl
      refine ⟨?_, agrees, fresh⟩
      change pass.findings = (Pass.ofRun (answer t.tree)).findings
      rw [same]
    | none =>
      obtain ⟨same, agrees'⟩ := agrees.analyze (.ofAnswer check answer)
      refine ⟨congrArg Pass.findings same, agrees', ?_⟩
      rintro kept ⟨⟩
      rfl

/-- The rounds of a campaign that keeps a fresh pass go as those of one that keeps none. -/
theorem runBatches_eq_plain (w : Workplace) (remedies : List Remedy) {pass : Option Pass}
    {s t : State σ} (agrees : s.Agrees t) (fresh : Fresh answer pass s.tree) :
    let kept := runBatches (.ofAnswer check answer) w remedies pass s
    let plain := plainBatches (.ofAnswer check answer) w remedies t
    kept.1 = plain.1 ∧ kept.2.1 = plain.2.1 ∧ kept.2.2.Agrees plain.2.2 := by
  induction remedies generalizing pass s t with
  | nil => exact ⟨rfl, rfl, agrees⟩
  | cons remedy remedies ih =>
    have announced := agrees.note (.batchStarted remedy.id remedy.description)
    obtain ⟨found, ready, stillFresh⟩ := collect_eq_anew check answer announced remedy fresh
    obtain ⟨reported, mended⟩ :=
      ready.batch w remedy (collectAnew (.ofAnswer check answer) remedy t).1
    simp only [runBatches, plainBatches, found, ← reported]
    split
    · rename_i empty
      have idle := w.run_idle empty
      obtain ⟨ending, records, last⟩ := ih mended (by
        intro kept hk
        rw [stillFresh kept hk]
        exact congrArg (fun tree => Pass.ofRun (answer tree)) idle.symm)
      exact ⟨ending, by rw [records], last⟩
    · obtain ⟨judged, checked⟩ := mended.check (.ofAnswer check answer) (.after remedy.id)
      simp only [← judged]
      split
      · -- The pass is given up here, whatever the check has done to the tree.
        obtain ⟨ending, records, last⟩ := ih checked (fresh_none answer _)
        exact ⟨ending, by rw [records], last⟩
      · exact ⟨rfl, rfl, checked⟩

theorem run_eq_plain (w : Workplace) (remedies : List Remedy) (s : State σ) :
    (run (.ofAnswer check answer) w remedies s).1 =
        (plainRun (.ofAnswer check answer) w remedies s).1 ∧
      (run (.ofAnswer check answer) w remedies s).2.Agrees
        (plainRun (.ofAnswer check answer) w remedies s).2 := by
  simp only [run, plainRun]
  split
  · exact ⟨rfl, rfl, rfl⟩
  · generalize (s.check (.ofAnswer check answer) .baseline).2 = checked
    have first : Fresh answer (some (checked.analyze (.ofAnswer check answer)).1)
        (checked.analyze (.ofAnswer check answer)).2.tree := by
      rintro kept ⟨⟩
      rfl
    have agrees : (checked.analyze (.ofAnswer check answer)).2.Agrees
        (checked.analyze (.ofAnswer check answer)).2 := ⟨rfl, rfl⟩
    obtain ⟨ending, records, last⟩ := runBatches_eq_plain check answer w remedies agrees first
    generalize runBatches (.ofAnswer check answer) w remedies _ _ = kept at ending records last ⊢
    generalize plainBatches (.ofAnswer check answer) w remedies _ = plain at ending records last ⊢
    obtain ⟨outcome, batches, mended⟩ := kept
    obtain ⟨outcome', batches', mended'⟩ := plain
    cases ending
    cases records
    cases outcome with
    | completed =>
      obtain ⟨counted, after⟩ := last.analyze (.ofAnswer check answer)
      simp only at counted ⊢
      exact ⟨by rw [counted], after⟩
    | baselineFailed | regressed => exact ⟨rfl, last⟩

/-- If the act is a batch that needs findings, its findings are what the analyzer says of the tree
that the batch starts with. -/
def Act.Current (act : Act) : Prop :=
  match act.deed with
  | .batch remedy findings _ =>
    remedy.needsFindings = true → findings = (Pass.ofRun (answer act.before)).findings
  | _ => True

theorem Collects.current {w : Workplace} {remedy : Remedy} {pass next : Option Pass}
    {acts rest : List Act} {findings : List Finding} {tree last : Node}
    (h : Collects remedy pass acts findings next)
    (faithful : ∀ act ∈ acts, act.Faithful (.ofAnswer check answer) w)
    (chained : Chained tree (acts ++ rest) last) (fresh : Fresh answer pass tree) :
    Chained tree rest last ∧ Fresh answer next tree ∧ (∀ act ∈ acts, act.Current answer) ∧
      (remedy.needsFindings = true → findings = (Pass.ofRun (answer tree)).findings) := by
  cases h with
  | needless r => exact ⟨chained, fresh, by simp, by simp [Remedy.needsFindings]⟩
  | reuse r pass => exact ⟨chained, fresh, by simp, fun _ => by rw [fresh pass rfl]⟩
  | fresh r pass before after =>
    obtain ⟨rfl, chain⟩ := chained
    obtain ⟨text, _, _, analyzed, read⟩ := faithful _ List.mem_cons_self
    cases analyzed
    refine ⟨chain, ?_, by simp [Act.Current], fun _ => congrArg Pass.findings read⟩
    rintro kept ⟨⟩
    exact read

theorem Rounds.current {w : Workplace} {remedies : List Remedy} {pass : Option Pass}
    {acts : List Act} {ending : Ending} {records : List BatchRecord} {tree last : Node}
    (h : Rounds remedies pass acts ending records)
    (faithful : ∀ act ∈ acts, act.Faithful (.ofAnswer check answer) w)
    (chained : Chained tree acts last) (fresh : Fresh answer pass tree) :
    ∀ act ∈ acts, act.Current answer := by
  induction h generalizing tree with
  | done => simp
  | idle here collected _ _ ih =>
    rw [List.forall_mem_append, List.forall_mem_cons] at faithful ⊢
    obtain ⟨⟨rfl, chain⟩, stillFresh, passes, current⟩ :=
      collected.current check answer faithful.1 chained fresh
    exact ⟨passes, current, ih faithful.2.2 chain stillFresh⟩
  | kept before mended after collected _ _ _ ih =>
    rw [List.forall_mem_append, List.forall_mem_cons, List.forall_mem_cons] at faithful ⊢
    obtain ⟨⟨rfl, _, chain⟩, _, passes, current⟩ :=
      collected.current check answer faithful.1 chained fresh
    exact ⟨passes, current, trivial, ih faithful.2.2.2 chain (fresh_none answer _)⟩
  | halted before mended after collected _ _ =>
    rw [List.forall_mem_append, List.forall_mem_cons] at faithful ⊢
    obtain ⟨⟨rfl, _⟩, _, passes, current⟩ :=
      collected.current check answer faithful.1 chained fresh
    exact ⟨passes, current, by simp [Act.Current]⟩

theorem Course.current {w : Workplace} {remedies : List Remedy} {acts : List Act}
    {summary : Summary} {tree last : Node} (h : Course remedies acts summary)
    (faithful : ∀ act ∈ acts, act.Faithful (.ofAnswer check answer) w)
    (chained : Chained tree acts last) : ∀ act ∈ acts, act.Current answer := by
  have opening {verdict : Verdict} {first : Pass} {rest : List Act} {before checked analyzed : Node}
      (faithful : ∀ act ∈ ⟨.check .baseline verdict, before, checked⟩ ::
        ⟨.analyze first, checked, analyzed⟩ :: rest, act.Faithful (.ofAnswer check answer) w) :
      Fresh answer (some first) analyzed := by
    obtain ⟨_, _, _, ran, read⟩ := faithful _ (List.mem_cons_of_mem _ List.mem_cons_self)
    cases ran
    rintro kept ⟨⟩
    exact read
  cases h with
  | refused => simp [Act.Current]
  | broken before checked analyzed passed rounds unfinished =>
    have fresh := opening faithful
    rw [List.forall_mem_cons, List.forall_mem_cons] at faithful ⊢
    exact ⟨trivial, trivial, rounds.current check answer faithful.2.2 chained.2.2 fresh⟩
  | completed before checked analyzed mended after passed rounds =>
    have fresh := opening faithful
    rw [List.forall_mem_cons, List.forall_mem_cons, List.forall_mem_append] at faithful ⊢
    obtain ⟨_, chain, _⟩ := chained.2.2.split
    exact ⟨trivial, trivial, rounds.current check answer faithful.2.2.1 chain fresh,
      by simp [Act.Current]⟩

/-- Keeping a pass cannot be told from taking a new one each time: the summary, the tree and what
the check has seen are the same, and each batch that needs findings gets those of its own tree. -/
theorem pass_reuse_invisible (w : Workplace) (remedies : List Remedy) (s : State σ) :
    (run (.ofAnswer check answer) w remedies s).1 =
        (plainRun (.ofAnswer check answer) w remedies s).1 ∧
      (run (.ofAnswer check answer) w remedies s).2.Agrees
        (plainRun (.ofAnswer check answer) w remedies s).2 ∧
      ∃ acts, Trace (.ofAnswer check answer) w s acts (run (.ofAnswer check answer) w remedies s).2 ∧
        ∀ act ∈ acts, act.Current answer := by
  obtain ⟨summary, agrees⟩ := run_eq_plain check answer w remedies s
  obtain ⟨acts, trace, course⟩ := run_course (.ofAnswer check answer) w remedies s
  exact ⟨summary, agrees, acts, trace,
    course.current check answer trace.faithful trace.chained⟩

end

end Campaign

end LintRepair
