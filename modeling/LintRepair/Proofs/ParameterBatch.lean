import LintRepair.Proofs.OneLine
import LintRepair.Proofs.ParameterMarks

/-!
A batch for unused parameters that are all on one line. Whatever the order of
the findings, it puts an underscore before each of the reported parameters and
changes nothing else, as long as every column still leads to its own parameter
when all the others are marked.
-/

namespace LintRepair.Parameter

/-- The position of the parameter on its line, counted from zero. -/
def position (f : Finding) : Nat := f.column - 1

/-- The finding names a parameter at its position, and its column leads there however many of these
positions are marked. -/
structure Reported (line : List Char) (positions : List Nat) (f : Finding) : Prop where
  kind : f.kind = .unusedParameter
  column : 0 < f.column
  captured : ∃ name ∈ f.captured, IsName name.toList ∧
    Clear positions line name.toList (position f)

theorem betweenNames_of_free {positions : List Nat} {line : List Char}
    (h : ∀ p ∈ positions, Free (line.take p)) : BetweenNames positions 0 line := by
  intro j c there joins marked
  have free := h _ marked
  rw [Nat.zero_add, List.take_add_one, there, Option.toList_some, free_concat, joins] at free
  cases free

theorem mem_markedFrom {positions : List Nat} {i : Nat} {s : List Char} {c : Char}
    (h : c ∈ markedFrom positions i s) : c = '_' ∨ c ∈ s := by
  induction s generalizing i with
  | nil => cases h
  | cons d s ih =>
    rw [markedFrom] at h
    rcases List.mem_append.mp h with here | later
    · have either : c = '_' ∨ c = d := by
        split at here
        · simpa using here
        · exact .inr (by simpa using here)
      rcases either with rfl | rfl
      · exact .inl rfl
      · exact .inr List.mem_cons_self
    · exact (ih later).imp_right (List.mem_cons_of_mem d)

theorem unbroken_markedAt {positions : List Nat} {line : List Char} (h : Unbroken line) :
    Unbroken (markedAt positions line) :=
  ⟨fun feed => (mem_markedFrom feed).elim (by decide) h.1,
    fun ret => (mem_markedFrom ret).elim (by decide) h.2⟩

section
variable {line : List Char} {positions : List Nat}

/-- Mending the line for one of the findings marks its position. -/
theorem Reported.mendBody_eq {f : Finding} (h : Reported line positions f)
    (unbroken : Unbroken line) (between : BetweenNames positions 0 line) {done : List Nat}
    (among : done ⊆ positions) (fresh : position f ∉ done) :
    remedy.mendBody (markedAt done line) f = some (markedAt (position f :: done) line) := by
  obtain ⟨name, captured, named, clear⟩ := h.captured
  have captured : f.captured = some name := captured
  have column : f.column = position f + 1 := (Nat.sub_add_cancel h.column).symm
  have mends : remedy.mend (.ofList (markedAt done line)) f =
      some (.ofList (markedAt (position f :: done) line)) := by
    have mended := clear.mendLine_eq named among (between.mono among) fresh
    simp only [remedy, mend, captured, Option.bind_eq_bind, Option.bind_some, String.toList_ofList,
      column, mended]
    rfl
  have remains : markedAt (position f :: done) line ≠ [] := by
    intro empty
    have bound := clear.lt_length
    rw [markedFrom_eq_nil empty] at bound
    cases bound
  have fits : Unbroken (markedAt (position f :: done) line) := unbroken_markedAt unbroken
  rw [LineRemedy.mendBody, mends, Option.map_some, String.toList_ofList]
  simp [fits, remains]

/-- The findings are dealt with one after the other, and the positions of those that were dealt with
are marked. -/
theorem foldlM_mendBody (unbroken : Unbroken line) (between : BetweenNames positions 0 line)
    {todo : List Finding} (reported : ∀ f ∈ todo, Reported line positions f) {done all : List Nat}
    (total : (todo.map position).reverse ++ done = all) (distinct : all.Nodup)
    (among : all ⊆ positions) :
    todo.foldlM remedy.mendBody (markedAt done line) = some (markedAt all line) := by
  induction todo generalizing done with
  | nil =>
    obtain rfl : done = all := total
    rfl
  | cons f todo ih =>
    rw [List.map_cons, List.reverse_cons, List.append_assoc, List.singleton_append] at total
    have amongDone : done ⊆ positions := fun p hp => among (by simp [← total, hp])
    have fresh : position f ∉ done := by
      rw [← total] at distinct
      exact (List.nodup_cons.mp (List.nodup_append.mp distinct).2.1).1
    have first := (reported f List.mem_cons_self).mendBody_eq unbroken between amongDone fresh
    rw [List.foldlM_cons, first]
    exact ih (fun g hg => reported g (List.mem_cons_of_mem f hg)) total

end

/-- The batch marks exactly the reported parameters of the line, in whatever order the findings
come. -/
theorem marks_reported_parameters (w : Workplace) {tree : Node} {place : List String}
    {content : String} {index : Nat} {raw : List Char} {findings : List Finding}
    (file : tree.at? place = some (.file content.toUTF8))
    (there : (rawLines content.toList)[index]? = some raw)
    (unbroken : Unbroken (Line.ofRaw raw).body)
    (onLine : ∀ f ∈ findings, w.OnLine tree place index f)
    (reported : ∀ f ∈ findings, Reported (Line.ofRaw raw).body (findings.map position) f)
    (distinct : (findings.map position).Nodup) (other : List String) :
    (w.runLine remedy tree findings).2.bytesAt? other =
      if other = place then
        some (withBody content index raw
          (markedAt (findings.map position) (Line.ofRaw raw).body)).toUTF8
      else tree.bytesAt? other := by
  let order := (groupByFile findings).flatMap Prod.snd
  have perm : order.Perm findings := groupByFile_perm findings
  let marks := (order.map position).reverse ++ []
  have permuted : marks.Perm (findings.map position) := by
    simp only [marks, List.append_nil]
    exact (List.reverse_perm _).trans (perm.map position)
  have between : BetweenNames (findings.map position) 0 (Line.ofRaw raw).body := by
    apply betweenNames_of_free
    intro p hp
    obtain ⟨f, hf, rfl⟩ := List.mem_map.mp hp
    obtain ⟨_, _, _, clear⟩ := (reported f hf).captured
    exact clear.stands.1
  have mends : order.foldlM remedy.mendBody (Line.ofRaw raw).body =
      some (markedAt (findings.map position) (Line.ofRaw raw).body) := by
    have marked := foldlM_mendBody unbroken between
      (fun f hf => reported f (perm.mem_iff.mp hf)) rfl (permuted.nodup_iff.mpr distinct)
      permuted.subset
    have same : markedAt marks (Line.ofRaw raw).body =
        markedAt (findings.map position) (Line.ofRaw raw).body :=
      markedFrom_congr fun _ _ _ => permuted.mem_iff
    rwa [same, markedAt, markedFrom_nil] at marked
  exact Workplace.runLine_onLine file there unbroken (fun f hf => (reported f hf).kind) onLine mends
    other

/-- In a project of one file, the findings that resolve to it are on the line they name. -/
theorem onLine_onlyFile {content : ByteArray} {findings : List Finding}
    (resolved : ∀ f ∈ findings,
      (Workplace.ofRoot ⟨"/p"⟩ ["ts"] ["node_modules"]).scope.resolve f.file = ⟨"/p/a.ts"⟩ ∧
        f.line = 0 + 1) :
    ∀ f ∈ findings, (Workplace.ofRoot ⟨"/p"⟩ ["ts"] ["node_modules"]).OnLine
      (.dir [("p", .dir [("a.ts", .file content)])]) ["p", "a.ts"] 0 f := by
  have free : (Node.dir [("p", .dir [("a.ts", .file content)])]).LinkFree := by
    refine .dir ?_
    simp [Node.LinkFree.file, Node.LinkFree.dir]
  exact fun f hf => .of_linkFree free rfl (by decide) (by decide) (by decide) (resolved f hf).1
    (resolved f hf).2

/-- Two parameters, and a third that hides an argument of the same name shortly before it. -/
theorem marks_reported_parameters_shadowing :
    let w := Workplace.ofRoot ⟨"/p"⟩ ["ts"] ["node_modules"]
    let line := "const f = (a, b) => emit(e, (e) => 0);"
    let tree : Node := .dir [("p", .dir [("a.ts", .file (line ++ "\r\n").toUTF8)])]
    let findings : List Finding := [⟨.unusedParameter, ⟨"a.ts"⟩, 1, 15, some "b"⟩,
      ⟨.unusedParameter, ⟨"a.ts"⟩, 1, 12, some "a"⟩,
      ⟨.unusedParameter, ⟨"./a.ts"⟩, 1, 30, some "e"⟩]
    (∀ f ∈ findings, w.OnLine tree ["p", "a.ts"] 0 f) ∧
      (∀ f ∈ findings, Reported line.toList (findings.map position) f) ∧
      (findings.map position).Nodup ∧
      (w.runLine remedy tree findings).2.bytesAt? ["p", "a.ts"] =
        some "const f = (_a, _b) => emit(e, (_e) => 0);\r\n".toUTF8 := by
  intro w line tree findings
  have there : (rawLines (line ++ "\r\n").toList)[0]? = some (line ++ "\r\n").toList := by decide
  have body : (Line.ofRaw (line ++ "\r\n").toList).body = line.toList := by decide
  have onLine : ∀ f ∈ findings, w.OnLine tree ["p", "a.ts"] 0 f := onLine_onlyFile (by decide)
  have reported : ∀ f ∈ findings, Reported line.toList (findings.map position) f := by
    simp only [findings, List.forall_mem_cons]
    refine ⟨⟨rfl, by decide, "b", rfl, ⟨by decide, 'b', rfl, by decide⟩, ?_⟩,
      ⟨rfl, by decide, "a", rfl, ⟨by decide, 'a', rfl, by decide⟩, ?_⟩,
      ⟨rfl, by decide, "e", rfl, ⟨by decide, 'e', rfl, by decide⟩, ?_⟩, by simp⟩
    all_goals exact ⟨by decide, by decide, by decide⟩
  have distinct : (findings.map position).Nodup := by decide
  refine ⟨onLine, reported, distinct, ?_⟩
  have marked := marks_reported_parameters w rfl there (by decide) onLine (body ▸ reported) distinct
    ["p", "a.ts"]
  rw [marked]
  decide

/-- Two marks move the line so far that the third column leads to an argument of the same name. -/
theorem third_column_misleads :
    let w := Workplace.ofRoot ⟨"/p"⟩ ["ts"] ["node_modules"]
    let line := "(a,b)=>g(e,(e)=>0)"
    let tree : Node := .dir [("p", .dir [("a.ts", .file (line ++ "\n").toUTF8)])]
    let findings : List Finding := [⟨.unusedParameter, ⟨"a.ts"⟩, 1, 2, some "a"⟩,
      ⟨.unusedParameter, ⟨"a.ts"⟩, 1, 4, some "b"⟩, ⟨.unusedParameter, ⟨"a.ts"⟩, 1, 13, some "e"⟩]
    (∀ f ∈ findings, w.OnLine tree ["p", "a.ts"] 0 f) ∧
      (∀ f ∈ findings, ∃ name ∈ f.captured, StandsAt name.toList line.toList (position f)) ∧
      (findings.map position).Nodup ∧
      markedAt (findings.map position) line.toList = "(_a,_b)=>g(e,(_e)=>0)".toList ∧
      (w.runLine remedy tree findings).2.bytesAt? ["p", "a.ts"] =
        some "(_a,_b)=>g(_e,(e)=>0)\n".toUTF8 := by
  intro w line tree findings
  have there : (rawLines (line ++ "\n").toList)[0]? = some (line ++ "\n").toList := by decide
  have onLine : ∀ f ∈ findings, w.OnLine tree ["p", "a.ts"] 0 f := onLine_onlyFile (by decide)
  refine ⟨onLine, by decide, by decide, by decide, ?_⟩
  have mends : ((groupByFile findings).flatMap Prod.snd).foldlM remedy.mendBody
      (Line.ofRaw (line ++ "\n").toList).body = some "(_a,_b)=>g(_e,(e)=>0)".toList := by
    decide +kernel
  rw [Workplace.runLine_onLine rfl there (by decide) (by decide) onLine mends]
  decide

end LintRepair.Parameter
