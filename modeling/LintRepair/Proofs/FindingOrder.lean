import LintRepair.Proofs.LineLocality
import LintRepair.Proofs.Patching

/-!
The order of findings matters only among those on one line of one file. A batch
re-reads and rewrites a file for each of its findings, yet the file ends as if its
text were held in memory and each line were mended apart from the others.

* `Apart.view_serve`, `Apart.answers_serve`: requests to different parts of a state;
* `LineRemedy.LeavesText.apart`: the lines of a text are such parts;
* `Workplace.mendFile_eq`: the lines of a file are mended in its text;
* `Workplace.line_batch_order_free`: the whole batch.
-/

namespace LintRepair

/-! ## Requests to the parts of a state -/

section
variable {σ α β γ κ : Type}

/-- Deals with requests one after the other and keeps each of them with its answer. -/
def serve (step : σ → α → β × σ) : σ → List α → List (α × β) × σ
  | state, [] => ([], state)
  | state, a :: rest =>
    let (answer, next) := step state a
    let (answers, last) := serve step next rest
    ((a, answer) :: answers, last)

/-- Each request is answered from one part of the state and changes no other; `own` is what it does
to that part. -/
structure Apart (step : σ → α → β × σ) (own : γ → α → β × γ) (part : α → κ) (view : σ → κ → γ) :
    Prop where
  answer : ∀ s a, (step s a).1 = (own (view s (part a)) a).1
  here : ∀ s a, view (step s a).2 (part a) = (own (view s (part a)) a).2
  elsewhere : ∀ s a k, k ≠ part a → view (step s a).2 k = view s k

namespace Apart

variable [DecidableEq κ] {step : σ → α → β × σ} {own : γ → α → β × γ} {part : α → κ}
  {view : σ → κ → γ}

/-- What becomes of a part is decided by the requests to it. -/
theorem view_serve (h : Apart step own part view) (s : σ) (xs : List α) (k : κ) :
    view (serve step s xs).2 k = (serve own (view s k) (xs.filter (part · = k))).2 := by
  induction xs generalizing s with
  | nil => rfl
  | cons a xs ih =>
    rw [serve, ih]
    by_cases mine : part a = k
    · subst mine
      rw [h.here, List.filter_cons_of_pos (by simp), serve]
    · rw [h.elsewhere s a k (Ne.symm mine), List.filter_cons_of_neg (by simpa using mine)]

/-- The answers to the requests to one part are decided by these requests. -/
theorem answers_serve (h : Apart step own part view) (s : σ) (xs : List α) (k : κ) :
    (serve step s xs).1.filter (part ·.1 = k) =
      (serve own (view s k) (xs.filter (part · = k))).1 := by
  induction xs generalizing s with
  | nil => rfl
  | cons a xs ih =>
    by_cases mine : part a = k
    · subst mine
      rw [serve, List.filter_cons_of_pos (by simp), ih, h.here, h.answer,
        List.filter_cons_of_pos (by simp), serve]
    · rw [serve, List.filter_cons_of_neg (by simpa using mine), ih,
        h.elsewhere s a k (Ne.symm mine), List.filter_cons_of_neg (by simpa using mine)]

end Apart

/-- Lists that agree on the members of every kind have the same members. -/
theorem perm_of_filter_eq [DecidableEq α] [DecidableEq κ] {part : α → κ} {xs ys : List α}
    (h : ∀ k, xs.filter (part · = k) = ys.filter (part · = k)) : xs.Perm ys := by
  refine List.perm_iff_count.mpr fun a => ?_
  have counted (zs : List α) : zs.count a = (zs.filter (part · = part a)).count a :=
    (List.count_filter (by simp)).symm
  rw [counted xs, counted ys, h]

end

/-! ## Texts -/

/-- The raw line of a text with this number, counted from one. -/
def rawAt? (content : String) : Nat → Option (List Char)
  | 0 => none
  | index + 1 => (rawLines content.toList)[index]?

theorem eq_of_rawAt? {a b : String} (h : ∀ number, rawAt? a number = rawAt? b number) : a = b := by
  have lines : rawLines a.toList = rawLines b.toList := List.ext_getElem? fun i => h (i + 1)
  have chars := congrArg List.flatten lines
  rw [rawLines_flatten, rawLines_flatten] at chars
  exact String.toList_inj.mp chars

namespace LineRemedy

variable (r : LineRemedy)

def mendText (content : String) (f : Finding) : Outcome × String :=
  outcomeOf content (editLineOf? (r.mend · f) f.line content)

def mendRaw? (raw : List Char) (f : Finding) : Option (List Char) :=
  (r.mend (.ofList (Line.ofRaw raw).body) f).bind fun mended =>
    if Unbroken mended.toList then some (rebody raw mended.toList) else none

/-- Mends one line, if there is such a line. -/
def mendRaw : Option (List Char) → Finding → Outcome × Option (List Char)
  | none, _ => (.noMatch, none)
  | some raw, f =>
    let (outcome, new) := outcomeOf raw (r.mendRaw? raw f)
    (outcome, some new)

variable {r}

theorem mendRaw?_eq_some_iff {raw new : List Char} {f : Finding} :
    r.mendRaw? raw f = some new ↔ ∃ mended, r.mend (.ofList (Line.ofRaw raw).body) f = some mended ∧
      Unbroken mended.toList ∧ new = rebody raw mended.toList := by
  rw [mendRaw?, Option.bind_eq_some_iff]
  refine exists_congr fun mended => and_congr_right fun _ => ?_
  by_cases fits : Unbroken mended.toList <;> simp [fits, eq_comm]

theorem LeavesText.edit_eq_some (leaves : r.LeavesText) {content : String} {f : Finding}
    {raw new : List Char} (there : rawAt? content f.line = some raw)
    (mends : r.mendRaw? raw f = some new) :
    ∃ updated, editLineOf? (r.mend · f) f.line content = some updated ∧
      ∀ number, rawAt? updated number =
        if number = f.line then some new else rawAt? content number := by
  obtain ⟨mended, mendsTo, fits, rfl⟩ := mendRaw?_eq_some_iff.mp mends
  cases line : f.line with
  | zero =>
    rw [line] at there
    cases there
  | succ index =>
    rw [line] at there
    have there : (rawLines content.toList)[index]? = some raw := there
    refine ⟨_, editLineOf?_eq_some_iff.mpr ⟨index, raw, mended, rfl, there, mendsTo, fits, rfl⟩, ?_⟩
    rintro (_ | number)
    · rfl
    · have bound := (List.getElem?_eq_some_iff.mp there).1
      rw [rawAt?, String.toList_ofList, rawLines_editLine there fits (leaves.remains there mendsTo),
        List.getElem?_set, rawAt?]
      by_cases same : index = number
      · simp [same, same ▸ bound]
      · simp [same, Ne.symm same]

theorem edit_eq_none {content : String} {f : Finding}
    (h : ∀ raw, rawAt? content f.line = some raw → r.mendRaw? raw f = none) :
    editLineOf? (r.mend · f) f.line content = none := by
  rw [Option.eq_none_iff_forall_ne_some]
  intro updated edited
  obtain ⟨index, raw, mended, line, there, mendsTo, fits, -⟩ := editLineOf?_eq_some_iff.mp edited
  have answer := h raw (by rw [line]; exact there)
  rw [mendRaw?_eq_some_iff.mpr ⟨mended, mendsTo, fits, rfl⟩] at answer
  cases answer

/-- Mending a line of a text takes that line alone, and leaves the others as they are. -/
theorem LeavesText.apart (leaves : r.LeavesText) :
    Apart r.mendText r.mendRaw Finding.line rawAt? where
  answer := by
    intro content f
    cases there : rawAt? content f.line with
    | none => rw [mendText, edit_eq_none (by simp [there]), mendRaw, outcomeOf]
    | some raw =>
      cases mends : r.mendRaw? raw f with
      | none => rw [mendText, edit_eq_none (by simp [there, mends]), mendRaw, mends]; rfl
      | some new =>
        obtain ⟨updated, edited, lines⟩ := leaves.edit_eq_some there mends
        -- The text is unchanged just if the line is, since the lines make up the text.
        have same : updated = content ↔ new = raw := by
          constructor
          · rintro rfl
            have here := lines f.line
            rw [if_pos rfl, there] at here
            exact (Option.some.inj here).symm
          · rintro rfl
            refine eq_of_rawAt? fun number => ?_
            rw [lines]
            split
            · rename_i here
              rw [here, there]
            · rfl
        simp [mendText, edited, mendRaw, mends, outcomeOf, same]
  here := by
    intro content f
    cases there : rawAt? content f.line with
    | none => rw [mendText, edit_eq_none (by simp [there]), mendRaw, outcomeOf, there]
    | some raw =>
      cases mends : r.mendRaw? raw f with
      | none =>
        rw [mendText, edit_eq_none (by simp [there, mends]), mendRaw, mends, outcomeOf, there]
        rfl
      | some new =>
        obtain ⟨updated, edited, lines⟩ := leaves.edit_eq_some there mends
        simp [mendText, edited, mendRaw, mends, outcomeOf, lines]
  elsewhere := by
    intro content f number other
    cases edited : editLineOf? (r.mend · f) f.line content with
    | none => rw [mendText, edited, outcomeOf]
    | some updated =>
      have same : SameLines (· = f.line) (rawLines content.toList) (rawLines updated.toList) :=
        leaves.sameLines edited rfl
      cases number with
      | zero => rfl
      | succ index => simpa [mendText, edited, outcomeOf, rawAt?] using same.spared index other

/-- The findings on each line, in their order, decide what a text becomes and how often each outcome
occurs. -/
theorem LeavesText.serve_eq (leaves : r.LeavesText) (content : String)
    {findings others : List Finding}
    (agree : ∀ number, findings.filter (·.line = number) = others.filter (·.line = number)) :
    (serve r.mendText content findings).2 = (serve r.mendText content others).2 ∧
      (serve r.mendText content findings).1.Perm (serve r.mendText content others).1 := by
  constructor
  · refine eq_of_rawAt? fun number => ?_
    rw [leaves.apart.view_serve, leaves.apart.view_serve, agree]
  · have each : ∀ number, (serve r.mendText content findings).1.filter (·.1.line = number) =
        (serve r.mendText content others).1.filter (·.1.line = number) := by
      intro number
      rw [leaves.apart.answers_serve, leaves.apart.answers_serve, agree]
    exact perm_of_filter_eq each

end LineRemedy

/-! ## Files -/

namespace Workplace

variable (w : Workplace) {r : LineRemedy} {file : Path} {tree : Node}

theorem mendFile_cons (f : Finding) (findings : List Finding) :
    w.mendFile r file tree (f :: findings) =
      ((w.mendLine r file tree f).1 :: (w.mendFile r file (w.mendLine r file tree f).2 findings).1,
        (w.mendFile r file (w.mendLine r file tree f).2 findings).2) := rfl

theorem mendFile_skipped (h : w.scope.admits (w.scope.resolve file) = false ∨
    tree.readText? (w.scope.resolve file) = none) (findings : List Finding) :
    w.mendFile r file tree findings =
      (findings.map fun _ => ⟨w.scope.resolve file, .skipped⟩, tree) := by
  induction findings with
  | nil => rfl
  | cons f findings ih =>
    have first : w.mendLine r file tree f = (⟨w.scope.resolve file, .skipped⟩, tree) :=
      patch_skipped _ h
    rw [mendFile_cons, first, ih, List.map_cons]

/-- Reading and writing the file for each finding comes to the same as mending its text in memory
and writing it once. -/
theorem mendFile_eq {place : List String} {content : String}
    (admitted : w.scope.admits (w.scope.resolve file) = true)
    (located : tree.locate [] (w.scope.resolve file) = .ok place)
    (there : tree.at? place = some (.file content.toUTF8)) (findings : List Finding) :
    w.mendFile r file tree findings =
      ((serve r.mendText content findings).1.map fun x => ⟨w.scope.resolve file, x.2⟩,
        tree.put place (.file (serve r.mendText content findings).2.toUTF8)) := by
  induction findings generalizing tree content with
  | nil => rw [mendFile, serve, List.map_nil, Node.put_self there]
  | cons f findings ih =>
    have first : w.mendLine r file tree f = (⟨w.scope.resolve file, (r.mendText content f).1⟩,
        tree.put place (.file (r.mendText content f).2.toUTF8)) :=
      patch_text _ admitted located there
    have next := (Node.SameLayout.put there (r.mendText content f).2.toUTF8).locate_eq []
      (w.scope.resolve file)
    -- The file is found at the same place again, with the text that the first try has left there.
    have rest := ih (next.symm.trans located) (Node.at?_put there _)
    rw [Node.put_put there] at rest
    rw [mendFile_cons, first, rest]
    rfl

/-- The findings on each line of a file, in their order, decide what the file becomes. -/
theorem mendFile_agree (leaves : r.LeavesText) (tree : Node) {other : Path}
    (same : file.components = other.components) {findings others : List Finding}
    (agree : ∀ number, findings.filter (·.line = number) = others.filter (·.line = number)) :
    (w.mendFile r file tree findings).2 = (w.mendFile r other tree others).2 ∧
      (w.mendFile r file tree findings).1.Perm (w.mendFile r other tree others).1 := by
  have target := w.scope.resolve_eq_of_components same
  by_cases skipped : w.scope.admits (w.scope.resolve file) = false ∨
      tree.readText? (w.scope.resolve file) = none
  · rw [w.mendFile_skipped skipped, w.mendFile_skipped (target ▸ skipped), target]
    exact ⟨rfl, (perm_of_filter_eq agree).map _⟩
  · obtain ⟨admitted, readable⟩ := not_or.mp skipped
    obtain ⟨content, found⟩ := Option.ne_none_iff_exists'.mp readable
    obtain ⟨place, located, there, _⟩ := Node.write_of_read (Node.read_of_readText? found)
    have admitted : w.scope.admits (w.scope.resolve file) = true := by simpa using admitted
    obtain ⟨text, outcomes⟩ := leaves.serve_eq content agree
    rw [w.mendFile_eq admitted located there,
      w.mendFile_eq (target ▸ admitted) (target ▸ located) there, target, text]
    exact ⟨rfl, outcomes.map _⟩

/-! ## Batches -/

theorem mendGroups_cons (group : Path × List Finding) (groups : List (Path × List Finding)) :
    w.mendGroups r tree (group :: groups) =
      ((w.mendFile r group.1 tree group.2).1 ::
          (w.mendGroups r (w.mendFile r group.1 tree group.2).2 groups).1,
        (w.mendGroups r (w.mendFile r group.1 tree group.2).2 groups).2) := rfl

theorem mendGroups_agree (leaves : r.LeavesText) (tree : Node) {xs ys : List (Path × List Finding)}
    (files : xs.map (·.1.components) = ys.map (·.1.components))
    (agree : ∀ x ∈ xs, ∀ y ∈ ys, x.1.components = y.1.components →
      ∀ number, x.2.filter (·.line = number) = y.2.filter (·.line = number)) :
    (w.mendGroups r tree xs).2 = (w.mendGroups r tree ys).2 ∧
      List.Forall₂ List.Perm (w.mendGroups r tree xs).1 (w.mendGroups r tree ys).1 := by
  induction xs generalizing ys tree with
  | nil =>
    obtain rfl : ys = [] := List.map_eq_nil_iff.mp files.symm
    exact ⟨rfl, .nil⟩
  | cons x xs ih =>
    cases ys with
    | nil => cases files
    | cons y ys =>
      obtain ⟨first, later⟩ := List.cons.inj files
      obtain ⟨sameTree, outcomes⟩ := w.mendFile_agree leaves tree first
        (agree x List.mem_cons_self y List.mem_cons_self first)
      rw [mendGroups_cons, mendGroups_cons, sameTree]
      obtain ⟨last, log⟩ := ih _ later fun x' hx y' hy =>
        agree x' (List.mem_cons_of_mem x hx) y' (List.mem_cons_of_mem y hy)
      exact ⟨last, .cons outcomes log⟩

end Workplace

theorem Log.report_congr {log other : Log} (h : List.Forall₂ List.Perm log other) :
    log.report = other.report := by
  have count (outcome : Outcome) : log.count outcome = other.count outcome :=
    (List.Perm.flatten_congr h).countP_eq _
  have files : log.countP (·.any (·.outcome == .changed)) =
      other.countP (·.any (·.outcome == .changed)) := by
    clear count
    induction h with
    | nil => rfl
    | cons attempts _ ih => rw [List.countP_cons, List.countP_cons, ih, attempts.any_eq]
  simp only [report, count, files]

theorem findingsOn_filter (all : List Finding) (kind : Kind) (file : Path) (number : Nat) :
    (findingsOn (all.filter (·.kind = kind)) file).filter (·.line = number) =
      all.filter fun f =>
        f.kind = kind ∧ f.file.components = file.components ∧ f.line = number := by
  rw [findingsOn, List.filter_filter, List.filter_filter]
  refine List.filter_congr fun f _ => ?_
  rw [← Bool.decide_and, ← Bool.decide_and, decide_eq_decide]
  tauto

theorem exists_on_of_lines {findings others : List Finding} {file : Path}
    (same : ∀ number, (findingsOn findings file).filter (·.line = number) =
      (findingsOn others file).filter (·.line = number))
    (named : ∃ f ∈ findings, f.file.components = file.components) :
    ∃ f ∈ others, f.file.components = file.components := by
  obtain ⟨f, hf, here⟩ := named
  have member : f ∈ (findingsOn findings file).filter (·.line = f.line) := by
    simp [findingsOn, hf, here]
  rw [same] at member
  obtain ⟨among, on⟩ := List.mem_filter.mp (List.mem_filter.mp member).1
  exact ⟨f, among, of_decide_eq_true on⟩

namespace Workplace

/-- Two reports that agree, in order, on the findings on each line of each file lead to the same
tree and the same counts. How they mix the findings on different lines does not matter, nor whether
there are links in the tree. -/
theorem line_batch_order_free (w : Workplace) {patterns : List String} {r : LineRemedy}
    (standard : .line r ∈ Catalog.standard patterns) (tree : Node) {findings others : List Finding}
    (agree : ∀ (file : Path) (number : Nat),
      (findings.filter fun f =>
          f.kind = r.kind ∧ f.file.components = file.components ∧ f.line = number) =
        others.filter fun f =>
          f.kind = r.kind ∧ f.file.components = file.components ∧ f.line = number) :
    (w.runLine r tree findings).2 = (w.runLine r tree others).2 ∧
      (w.runLine r tree findings).1.report = (w.runLine r tree others).1.report := by
  have leaves := Catalog.standard_leavesText standard
  have groups := groupsOf_groupByFile (findings.filter (·.kind = r.kind))
  have groups' := groupsOf_groupByFile (others.filter (·.kind = r.kind))
  have lines (file : Path) (number : Nat) :
      (findingsOn (findings.filter (·.kind = r.kind)) file).filter (·.line = number) =
        (findingsOn (others.filter (·.kind = r.kind)) file).filter (·.line = number) := by
    rw [findingsOn_filter, findingsOn_filter, agree]
  have files := groups.files_eq groups' fun file =>
    ⟨exists_on_of_lines (lines file), exists_on_of_lines fun number => (lines file number).symm⟩
  obtain ⟨last, log⟩ := w.mendGroups_agree leaves tree files fun x hx y hy same number => by
    rw [groups.members x hx, groups'.members y hy, findingsOn, same]
    exact lines y.1 number
  exact ⟨last, Log.report_congr log⟩

/-- Two lines of a file and a second file, in two orders and two spellings. The findings on the
first line keep their order. -/
theorem line_batch_order_free_shuffled :
    let w := Workplace.ofRoot ⟨"/p"⟩ ["ts"] []
    let tree : Node := .dir [("p", .dir [("a.ts", .file "f(x, y)\ng(z)\n".toUTF8),
      ("b.ts", .file "h(u)\r\n".toUTF8)])]
    let x : Finding := ⟨.unusedParameter, ⟨"a.ts"⟩, 1, 3, some "x"⟩
    let y : Finding := ⟨.unusedParameter, ⟨"a.ts/."⟩, 1, 6, some "y"⟩
    let z : Finding := ⟨.unusedParameter, ⟨"a.ts"⟩, 2, 3, some "z"⟩
    let u : Finding := ⟨.unusedParameter, ⟨"b.ts"⟩, 1, 3, some "u"⟩
    let other : Finding := ⟨.unusedCatchBinding, ⟨"a.ts"⟩, 2, 1, some "e"⟩
    .line Parameter.remedy ∈ Catalog.standard [] ∧
      [other, x, z, y, u].Perm [u, x, y, other, z] ∧
      (w.runLine Parameter.remedy tree [other, x, z, y, u]).2 =
        (w.runLine Parameter.remedy tree [u, x, y, other, z]).2 ∧
      (w.runLine Parameter.remedy tree [other, x, z, y, u]).1.report =
        (w.runLine Parameter.remedy tree [u, x, y, other, z]).1.report := by
  intro w tree x y z u other
  have standard : .line Parameter.remedy ∈ Catalog.standard [] := by simp [Catalog.standard]
  have shuffled : [other, x, z, y, u].Perm [u, x, y, other, z] := by decide
  refine ⟨standard, shuffled, w.line_batch_order_free standard tree fun file number => ?_⟩
  have apart : (⟨"a.ts"⟩ : Path).components ≠ (⟨"b.ts"⟩ : Path).components := by decide
  have spelled : (⟨"a.ts/."⟩ : Path).components = (⟨"a.ts"⟩ : Path).components := by decide
  by_cases first : (⟨"a.ts"⟩ : Path).components = file.components
  · have second : (⟨"b.ts"⟩ : Path).components ≠ file.components := fun same =>
      apart (first.trans same.symm)
    by_cases one : 1 = number
    · simp [x, y, z, u, other, Parameter.remedy, spelled, first, second, ← one]
    · simp [List.filter_cons, x, y, z, u, other, Parameter.remedy, spelled, first, second, one]
  · simp [List.filter_cons, x, y, z, u, other, Parameter.remedy, spelled, first]

end Workplace

end LintRepair
