import LintRepair.Proofs.Lines
import LintRepair.Proofs.Patching

/-!
A batch all of whose findings are about one line of one file.

* `groupByFile_perm`: grouping by file loses no finding and adds none;
* `mendGroups_tree`: a batch mends the reported lines one after the other;
* `Rewritten.mendLine`: mending a line replaces its body and nothing else;
* `Workplace.runLine_onLine`: what the batch makes of the line.
-/

namespace LintRepair

/-! ## The findings of a batch one by one -/

theorem addFinding_perm (groups : List (Path × List Finding)) (f : Finding) :
    ((addFinding groups f).flatMap Prod.snd).Perm (f :: groups.flatMap Prod.snd) := by
  induction groups with
  | nil => exact .refl _
  | cons group groups ih =>
    obtain ⟨file, members⟩ := group
    simp only [addFinding]
    split
    · simp only [List.flatMap_cons, List.append_assoc]
      exact List.perm_middle
    · split
      · exact .refl _
      · exact (ih.append_left members).trans List.perm_middle

theorem groupByFile_perm (findings : List Finding) :
    ((groupByFile findings).flatMap Prod.snd).Perm findings := by
  have run (groups : List (Path × List Finding)) :
      ((findings.foldl addFinding groups).flatMap Prod.snd).Perm
        (findings ++ groups.flatMap Prod.snd) := by
    induction findings generalizing groups with
    | nil => exact .refl _
    | cons f findings ih =>
      have first := (addFinding_perm groups f).append_left findings
      exact (ih (addFinding groups f)).trans (first.trans List.perm_middle)
  have all := run []
  rwa [List.flatMap_nil, List.append_nil] at all

namespace Workplace

variable (w : Workplace) (r : LineRemedy)

/-- Mends lines one after the other, each in the file that stands with its finding. -/
def mendEach (tree : Node) (todo : List (Path × Finding)) : Node :=
  todo.foldl (fun tree x => (w.mendLine r x.1 tree x.2).2) tree

/-- The findings of all groups, each with the file of its group. -/
def ungroup (groups : List (Path × List Finding)) : List (Path × Finding) :=
  groups.flatMap fun group => group.2.map (group.1, ·)

theorem ungroup_findings (groups : List (Path × List Finding)) :
    (ungroup groups).map Prod.snd = groups.flatMap Prod.snd := by
  simp [ungroup, List.map_flatMap, Function.comp_def]

theorem mendFile_tree (file : Path) (tree : Node) (findings : List Finding) :
    (w.mendFile r file tree findings).2 = w.mendEach r tree (findings.map (file, ·)) := by
  induction findings generalizing tree with
  | nil => rfl
  | cons f findings ih =>
    rw [mendFile, ih]
    rfl

theorem mendGroups_tree (tree : Node) (groups : List (Path × List Finding)) :
    (w.mendGroups r tree groups).2 = w.mendEach r tree (ungroup groups) := by
  induction groups generalizing tree with
  | nil => rfl
  | cons group groups ih =>
    have first : ungroup (group :: groups) = group.2.map (group.1, ·) ++ ungroup groups := rfl
    rw [mendGroups, ih, mendFile_tree, first, mendEach, mendEach, mendEach, List.foldl_append]

end Workplace

/-! ## A tree with one text replaced -/

/-- The new tree is the old one, with this text for the file at a place. -/
structure Rewritten (old new : Node) (place : List String) (text : String) : Prop where
  layout : Node.SameLayout old new
  here : new.at? place = some (.file text.toUTF8)
  elsewhere : ∀ other, other ≠ place → new.bytesAt? other = old.bytesAt? other

namespace Rewritten

variable {old new : Node} {place : List String} {text updated : String}

theorem put (h : Rewritten old new place text) :
    Rewritten old (new.put place (.file updated.toUTF8)) place updated where
  layout other := (h.layout other).trans (Node.SameLayout.put h.here _ other)
  here := Node.at?_put h.here _
  elsewhere other apart := by
    rw [Node.bytesAt?_put h.here, if_neg apart]
    exact h.elsewhere other apart

theorem patch {scope : Scope} {path : Path} {edit : String → Option String}
    (h : Rewritten old new place text) (admitted : scope.admits (scope.resolve path) = true)
    (located : old.locate [] (scope.resolve path) = .ok place) (edited : edit text = some updated) :
    Rewritten old (patch scope new path edit).2 place updated := by
  rw [h.layout.locate_eq] at located
  rw [patch_text edit admitted located h.here, edited]
  exact h.put

end Rewritten

/-! ## A text with one line rewritten -/

/-- The text with another body for its line `raw` at this index. -/
def withBody (content : String) (index : Nat) (raw body : List Char) : String :=
  .ofList ((rawLines content.toList).set index (rebody raw body)).flatten

section
variable {content : String} {index : Nat} {raw : List Char}

theorem withBody_self (there : (rawLines content.toList)[index]? = some raw) :
    withBody content index raw (Line.ofRaw raw).body = content := by
  obtain ⟨bound, rfl⟩ := List.getElem?_eq_some_iff.mp there
  have same : rebody (rawLines content.toList)[index]
      (Line.ofRaw (rawLines content.toList)[index]).body = (rawLines content.toList)[index] :=
    Line.ofRaw_text _
  rw [withBody, same, List.set_getElem_self, rawLines_flatten, String.ofList_toList]

/-- Editing the line once more works on its new body. -/
theorem editLineOf?_withBody (there : (rawLines content.toList)[index]? = some raw)
    {edit : String → Option String} {body mended : List Char} (fits : Unbroken body)
    (remains : rebody raw body ≠ []) (edited : edit (.ofList body) = some (.ofList mended))
    (fitsThen : Unbroken mended) :
    editLineOf? edit (index + 1) (withBody content index raw body) =
      some (withBody content index raw mended) := by
  have cut : rawLines (withBody content index raw body).toList =
      (rawLines content.toList).set index (rebody raw body) := by
    rw [withBody, String.toList_ofList, rawLines_editLine there fits remains]
  have bound := (List.getElem?_eq_some_iff.mp there).1
  have again : rebody (rebody raw body) mended = rebody raw mended := by
    rw [rebody, ofRaw_rebody fits, rebody]
  refine editLineOf?_eq_some_iff.mpr
    ⟨index, rebody raw body, .ofList mended, rfl, ?_, ?_, by rwa [String.toList_ofList], ?_⟩
  · rw [cut, List.getElem?_set_self bound]
  · rw [ofRaw_rebody fits, edited]
  · rw [cut, List.set_set, String.toList_ofList, again, withBody]

end

/-! ## Findings on one line -/

/-- What a remedy makes of a line, if that is a line again and not an empty one. -/
def LineRemedy.mendBody (r : LineRemedy) (body : List Char) (f : Finding) : Option (List Char) :=
  ((r.mend (.ofList body) f).map String.toList).filter fun mended =>
    Unbroken mended ∧ mended ≠ []

/-- The finding is about this line of the file at a place, which may be edited. -/
structure Workplace.OnLine (w : Workplace) (tree : Node) (place : List String) (index : Nat)
    (f : Finding) : Prop where
  admitted : w.scope.admits (w.scope.resolve f.file) = true
  located : tree.locate [] (w.scope.resolve f.file) = .ok place
  number : f.line = index + 1

theorem Workplace.OnLine.of_linkFree {w : Workplace} {tree node : Node} {place : List String}
    {index : Nat} {f : Finding} {target : Path} (free : tree.LinkFree)
    (there : tree.at? place = some node) (moves : Move.ofText target.text = place.map .down)
    (absolute : target.isAbsolute = true) (admitted : w.scope.admits target = true)
    (resolved : w.scope.resolve f.file = target) (number : f.line = index + 1) :
    w.OnLine tree place index f where
  admitted := resolved ▸ admitted
  located := resolved ▸ free.locate_of_at? absolute moves there
  number := number

section
variable {w : Workplace} {r : LineRemedy} {old new : Node} {place : List String}
  {content : String} {index : Nat} {raw : List Char}

/-- Mending the line for one finding gives it the body that the remedy makes of it. -/
theorem Rewritten.mendLine {file : Path} {f : Finding} {body mended : List Char}
    (h : Rewritten old new place (withBody content index raw body))
    (there : (rawLines content.toList)[index]? = some raw) (fits : Unbroken body)
    (remains : rebody raw body ≠ []) (onLine : w.OnLine old place index f)
    (named : f.file.components = file.components) (mends : r.mendBody body f = some mended) :
    Rewritten old (w.mendLine r file new f).2 place (withBody content index raw mended) := by
  obtain ⟨admitted, located, number⟩ := onLine
  rw [w.scope.resolve_eq_of_components named] at admitted located
  obtain ⟨mapped, passed⟩ := Option.filter_eq_some_iff.mp mends
  obtain ⟨text, edited, rfl⟩ := Option.map_eq_some_iff.mp mapped
  have fitsThen : Unbroken text.toList ∧ text.toList ≠ [] := by simpa using passed
  refine h.patch admitted located ?_
  rw [number]
  exact editLineOf?_withBody there fits remains (by rw [edited, String.ofList_toList]) fitsThen.1

/-- The findings are dealt with one after the other, each on the line that the one before left. -/
theorem Rewritten.mendEach {todo : List (Path × Finding)} {body mended : List Char}
    (h : Rewritten old new place (withBody content index raw body))
    (there : (rawLines content.toList)[index]? = some raw) (fits : Unbroken body)
    (remains : rebody raw body ≠ []) (onLine : ∀ x ∈ todo, w.OnLine old place index x.2)
    (named : ∀ x ∈ todo, x.2.file.components = x.1.components)
    (mends : (todo.map Prod.snd).foldlM r.mendBody body = some mended) :
    Rewritten old (w.mendEach r new todo) place (withBody content index raw mended) := by
  induction todo generalizing new body with
  | nil =>
    cases mends
    exact h
  | cons x todo ih =>
    obtain ⟨next, first, later⟩ := Option.bind_eq_some_iff.mp mends
    have stage := h.mendLine there fits remains (onLine x List.mem_cons_self)
      (named x List.mem_cons_self) first
    have fitsThen : Unbroken next ∧ next ≠ [] := by
      simpa using (Option.filter_eq_some_iff.mp first).2
    refine ih stage fitsThen.1 ?_ (fun y hy => onLine y (List.mem_cons_of_mem x hy))
      (fun y hy => named y (List.mem_cons_of_mem x hy)) later
    simp [rebody, fitsThen.2]

/-- A batch all of whose findings are about one line gives that line the body that the remedy makes
of it, finding by finding in the order of the groups, and leaves all else as it is. -/
theorem Workplace.runLine_onLine {tree : Node} {findings : List Finding} {mended : List Char}
    (file : tree.at? place = some (.file content.toUTF8))
    (there : (rawLines content.toList)[index]? = some raw)
    (fits : Unbroken (Line.ofRaw raw).body) (kind : ∀ f ∈ findings, f.kind = r.kind)
    (onLine : ∀ f ∈ findings, w.OnLine tree place index f)
    (mends : ((groupByFile findings).flatMap Prod.snd).foldlM r.mendBody (Line.ofRaw raw).body =
      some mended) (other : List String) :
    (w.runLine r tree findings).2.bytesAt? other =
      if other = place then some (withBody content index raw mended).toUTF8
      else tree.bytesAt? other := by
  have selected : findings.filter (·.kind = r.kind) = findings :=
    List.filter_eq_self.mpr fun f hf => decide_eq_true (kind f hf)
  have start : Rewritten tree tree place
      (withBody content index raw (Line.ofRaw raw).body) := by
    rw [withBody_self there]
    exact ⟨fun _ => rfl, file, fun _ _ => rfl⟩
  have remains : rebody raw (Line.ofRaw raw).body ≠ [] := by
    intro empty
    have whole : raw = [] := (Line.ofRaw_text raw).symm.trans empty
    exact (rawLines_isCut content.toList).ne_nil (whole ▸ List.mem_of_getElem? there)
  have members : ∀ x ∈ ungroup (groupByFile findings),
      x.2 ∈ findings ∧ x.2.file.components = x.1.components := by
    intro x hx
    obtain ⟨group, hg, hx⟩ := List.mem_flatMap.mp hx
    obtain ⟨f, hf, rfl⟩ := List.mem_map.mp hx
    exact groupByFile_grouped findings group hg f hf
  rw [← ungroup_findings] at mends
  have done := start.mendEach there fits remains (fun x hx => onLine x.2 (members x hx).1)
    (fun x hx => (members x hx).2) mends
  rw [runLine, selected, mendGroups_tree]
  split
  · rename_i here
    rw [here]
    exact Node.bytesAt?_of_at? done.here
  · rename_i apart
    exact done.elsewhere other apart

end

end LintRepair
