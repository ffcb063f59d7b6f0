import LintRepair.Proofs.Edits
import LintRepair.Proofs.Lines
import LintRepair.Remedy.Catalog

/-!
A batch that mends lines touches no line but those that its findings name.
Files keep the number of their lines and each line keeps what ends it, so the
line numbers of findings stay right for as long as the batch runs.
-/

namespace LintRepair

/-! ## Texts with the same lines -/

/-- The same lines up to the bodies of those whose numbers are `anchored`. -/
structure SameLines (anchored : Nat → Prop) (old new : List (List Char)) : Prop where
  length : new.length = old.length
  ending : ∀ (i : Nat) (raw raw' : List Char), old[i]? = some raw → new[i]? = some raw' →
    (Line.ofRaw raw').ending = (Line.ofRaw raw).ending
  spared : ∀ i : Nat, ¬ anchored (i + 1) → new[i]? = old[i]?

namespace SameLines

variable {anchored : Nat → Prop}

theorem trans {a b c : List (List Char)} (first : SameLines anchored a b)
    (second : SameLines anchored b c) : SameLines anchored a c where
  length := second.length.trans first.length
  ending := by
    intro i raw raw' inA inC
    have bound : i < b.length := by
      rw [first.length]
      exact (List.getElem?_eq_some_iff.mp inA).1
    have inB : b[i]? = some b[i] := List.getElem?_eq_getElem bound
    rw [second.ending i _ raw' inB inC, first.ending i raw _ inA inB]
  spared i h := (second.spared i h).trans (first.spared i h)

/-- Giving one anchored line another body keeps all that has to be kept. -/
theorem rebody {lines : List (List Char)} {index : Nat} {raw body : List Char}
    (there : lines[index]? = some raw) (fits : Unbroken body) (here : anchored (index + 1)) :
    SameLines anchored lines (lines.set index (LintRepair.rebody raw body)) where
  length := List.length_set
  ending := by
    intro i old new inOld inNew
    by_cases same : index = i
    · subst same
      rw [List.getElem?_set_self (List.getElem?_eq_some_iff.mp there).1] at inNew
      cases inNew
      rw [there] at inOld
      cases inOld
      rw [ofRaw_rebody fits]
    · rw [List.getElem?_set_ne same, inOld] at inNew
      cases inNew
      rfl
  spared := by
    intro i apart
    have ne : index ≠ i := by
      rintro rfl
      exact apart here
    exact List.getElem?_set_ne ne

end SameLines

/-! ## Remedies that leave something of a line -/

/-- A line with something on it is never emptied. -/
def LineRemedy.LeavesText (r : LineRemedy) : Prop :=
  ∀ line f mended, r.mend line f = some mended → line.toList ≠ [] → mended.toList ≠ []

/-- Remedies hand the characters of the line and of the captured name to a function of their own,
and it is enough to look at that. -/
theorem LineRemedy.LeavesText.of_chars {r : LineRemedy}
    (mendLine : List Char → List Char → Finding → Option (List Char))
    (form : ∀ line f, r.mend line f = f.captured.bind fun name =>
      (mendLine line.toList name.toList f).bind fun mended => some (.ofList mended))
    (keeps : ∀ line name f mended, mendLine line name f = some mended → line ≠ [] → mended ≠ []) :
    r.LeavesText := by
  intro line f mended h ne
  rw [form] at h
  obtain ⟨name, _, h⟩ := Option.bind_eq_some_iff.mp h
  obtain ⟨chars, mendsTo, h⟩ := Option.bind_eq_some_iff.mp h
  cases h
  simpa using keeps _ _ f chars mendsTo ne

theorem Parameter.mendLine_ne_nil {line name mended : List Char} {column : Nat}
    (h : mendLine line name column = some mended) (ne : line ≠ []) : mended ≠ [] := by
  unfold mendLine at h
  split at h
  · cases h
    exact ne
  · obtain ⟨site, _, rfl⟩ := Option.map_eq_some_iff.mp h
    split
    · exact ne
    · simp

theorem Parameter.leavesText : remedy.LeavesText :=
  .of_chars (fun line name f => mendLine line name f.column) (fun _ _ => rfl)
    fun _ _ _ _ => mendLine_ne_nil

theorem CatchClause.replaceFirst?_ne_nil
    {recognise : Option Char → List Char → Option (List Char)} {text s out : List Char}
    {previous : Option Char} (h : replaceFirst? recognise text previous s = some out)
    (ne : text ≠ []) : out ≠ [] := by
  cases s with
  | nil => cases h
  | cons c s =>
    rw [replaceFirst?] at h
    split at h
    · cases h
      simp [ne]
    · obtain ⟨rest, _, rfl⟩ := Option.map_eq_some_iff.mp h
      simp

theorem CatchClause.mendLine_ne_nil {line name mended : List Char}
    (h : mendLine line name = some mended) (ne : line ≠ []) : mended ≠ [] := by
  unfold mendLine at h
  rcases Option.or_eq_some_iff.mp h with braced | ⟨_, h⟩
  · exact replaceFirst?_ne_nil braced (by simp)
  · rcases Option.or_eq_some_iff.mp h with word | ⟨_, h⟩
    · exact replaceFirst?_ne_nil word (by simp)
    · obtain ⟨_, _, rfl⟩ := Option.map_eq_some_iff.mp h
      exact ne

theorem CatchClause.leavesText : remedy.LeavesText :=
  .of_chars (fun line name _ => mendLine line name) (fun _ _ => rfl)
    fun _ _ _ _ => mendLine_ne_nil

theorem Catalog.standard_leavesText {patterns : List String} {r : LineRemedy}
    (h : .line r ∈ Catalog.standard patterns) : r.LeavesText := by
  have known : r = Parameter.remedy ∨ r = CatchClause.remedy := by simpa [standard] using h
  rcases known with rfl | rfl
  · exact Parameter.leavesText
  · exact CatchClause.leavesText

/-- A raw line is not empty, and neither is what is left of it. -/
theorem LineRemedy.LeavesText.remains {r : LineRemedy} (leaves : r.LeavesText) {content : String}
    {index : Nat} {raw : List Char} {f : Finding} {mended : String}
    (there : (rawLines content.toList)[index]? = some raw)
    (mends : r.mend (.ofList (Line.ofRaw raw).body) f = some mended) :
    rebody raw mended.toList ≠ [] := by
  intro gone
  obtain ⟨emptied, unended⟩ := List.append_eq_nil_iff.mp gone
  have bodied : (Line.ofRaw raw).body ≠ [] := by
    intro noBody
    have whole := Line.ofRaw_text raw
    rw [Line.text, noBody, unended, List.append_nil] at whole
    exact (rawLines_isCut content.toList).ne_nil (whole ▸ List.mem_of_getElem? there)
  exact leaves _ f mended mends (by simpa using bodied) emptied

/-- Mending a line keeps all other lines and the way each of them ends. -/
theorem LineRemedy.LeavesText.sameLines {r : LineRemedy} (leaves : r.LeavesText) {f : Finding}
    {content updated : String} (h : editLineOf? (r.mend · f) f.line content = some updated)
    {anchored : Nat → Prop} (here : anchored f.line) :
    SameLines anchored (rawLines content.toList) (rawLines updated.toList) := by
  obtain ⟨index, raw, mended, number, there, mendsTo, fits, rfl⟩ := editLineOf?_eq_some_iff.mp h
  rw [String.toList_ofList, rawLines_editLine there fits (leaves.remains there mendsTo)]
  exact .rebody there fits (number ▸ here)

/-! ## Trees with the same lines -/

/-- At every place there is the same as before, or a text with the same lines. -/
def KeepsLines (anchored : List String → Nat → Prop) (before after : Node) : Prop :=
  ∀ place, after.bytesAt? place = before.bytesAt? place ∨
    ∃ old new : String, before.bytesAt? place = some old.toUTF8 ∧
      after.bytesAt? place = some new.toUTF8 ∧
      SameLines (anchored place) (rawLines old.toList) (rawLines new.toList)

namespace KeepsLines

variable {anchored : List String → Nat → Prop}

theorem refl (tree : Node) : KeepsLines anchored tree tree := fun _ => .inl rfl

theorem trans {a b c : Node} (first : KeepsLines anchored a b) (second : KeepsLines anchored b c) :
    KeepsLines anchored a c := by
  intro place
  rcases second place with same | ⟨mid, new, inMid, inNew, later⟩
  · rw [same]
    exact first place
  · rcases first place with same | ⟨old, mid', inOld, inMid', sooner⟩
    · exact .inr ⟨mid, new, same ▸ inMid, inNew, later⟩
    · have bytes : mid'.toUTF8 = mid.toUTF8 := Option.some.inj (inMid'.symm.trans inMid)
      have text : mid' = mid := by
        have decoded := fromUTF8?_eq_some_iff.mpr bytes
        rw [fromUTF8?_eq_some_iff.mpr rfl] at decoded
        exact Option.some.inj decoded
      subst text
      exact .inr ⟨old, new, inOld, inNew, sooner.trans later⟩

theorem put {tree : Node} {place : List String} {content updated : String}
    (there : tree.at? place = some (.file content.toUTF8))
    (same : SameLines (anchored place) (rawLines content.toList) (rawLines updated.toList)) :
    KeepsLines anchored tree (tree.put place (.file updated.toUTF8)) := by
  intro other
  rw [Node.bytesAt?_put there]
  split
  · rename_i here
    subst here
    exact .inr ⟨content, updated, Node.bytesAt?_of_at? there, rfl, same⟩
  · exact .inl rfl

end KeepsLines

/-- Edits keep lines if each of them does. The places that paths lead to stay the same throughout,
since edits change nothing but contents. -/
theorem Edits.keepsLines {scope : Scope} {offer : Path → String → String → Prop}
    {anchored : List String → Nat → Prop} {a b : Node} {paths : List Path}
    (edits : Edits scope offer a paths b)
    (each : ∀ target content updated place, offer target content updated →
      a.locate [] target = .ok place →
      SameLines (anchored place) (rawLines content.toList) (rawLines updated.toList)) :
    KeepsLines anchored a b := by
  induction edits with
  | refl tree => exact .refl tree
  | step _ found offered _ written _ ih =>
    obtain ⟨place, located, there, rfl⟩ := place_of_step found written
    have one := KeepsLines.put there (each _ _ _ place offered located)
    refine one.trans (ih ?_)
    intro target content updated place offered located
    rw [← (Node.SameLayout.put there _).locate_eq] at located
    exact each target content updated place offered located

namespace Workplace

variable (w : Workplace)

/-- Some finding for the remedy names this line of the file at this place. -/
def Anchored (r : LineRemedy) (tree : Node) (findings : List Finding) (place : List String)
    (number : Nat) : Prop :=
  ∃ f ∈ findings, f.kind = r.kind ∧ tree.locate [] (w.scope.resolve f.file) = .ok place ∧
    f.line = number

theorem keepsLines_of_edits {r : LineRemedy} (leaves : r.LeavesText) {findings : List Finding}
    {tree last : Node} {paths : List Path}
    (edits : Edits w.scope (w.LineOffer r findings) tree paths last) :
    KeepsLines (w.Anchored r tree findings) tree last := by
  apply edits.keepsLines
  rintro target content updated place ⟨f, hf, kind, rfl, edited⟩ located
  exact leaves.sameLines edited ⟨f, hf, kind, located, rfl⟩

/-- The groups up to some point of a batch group the findings up to that point. -/
theorem grouped_upto {all : List Finding} {earlier rest : List (Path × List Finding)} {file : Path}
    {now later : List Finding}
    (grouped : ∀ g ∈ earlier ++ (file, now ++ later) :: rest, Grouped all g) :
    (∀ g ∈ earlier ++ [(file, now)], Grouped (earlier.flatMap Prod.snd ++ now) g) ∧
      ∀ f ∈ earlier.flatMap Prod.snd ++ now, f ∈ all := by
  have sooner : ∀ g ∈ earlier, Grouped all g := fun g hg => grouped g (List.mem_append_left _ hg)
  have current : Grouped all (file, now ++ later) := grouped _ (by simp)
  constructor
  · intro g hg f hf
    rcases List.mem_append.mp hg with hg | hg
    · exact ⟨List.mem_append_left _ (List.mem_flatMap_of_mem hg hf), (sooner g hg f hf).2⟩
    · obtain rfl := List.mem_singleton.mp hg
      exact ⟨List.mem_append_right _ hf, (current f (List.mem_append_left _ hf)).2⟩
  · intro f hf
    rcases List.mem_append.mp hf with hf | hf
    · obtain ⟨g, hg, hf⟩ := List.mem_flatMap.mp hf
      exact (sooner g hg f hf).1
    · exact (current f (List.mem_append_left _ hf)).1

/-- A batch of a remedy of the catalog keeps all lines that no finding of its kind names. At any
point of the batch this holds of the findings that were dealt with until then. -/
theorem line_batch_keeps_lines {patterns : List String} {r : LineRemedy}
    (standard : .line r ∈ Catalog.standard patterns) (tree : Node) (findings : List Finding) :
    KeepsLines (w.Anchored r tree findings) tree (w.runLine r tree findings).2 ∧
      ∀ earlier file now later rest,
        groupByFile (findings.filter (·.kind = r.kind)) =
          earlier ++ (file, now ++ later) :: rest →
        KeepsLines (w.Anchored r tree (earlier.flatMap Prod.snd ++ now)) tree
          (w.mendGroups r tree (earlier ++ [(file, now)])).2 := by
  have leaves := Catalog.standard_leavesText standard
  refine ⟨w.keepsLines_of_edits leaves (w.runLine_edits r tree findings), ?_⟩
  intro earlier file now later rest split
  have grouped := groupByFile_grouped (findings.filter (·.kind = r.kind))
  rw [split] at grouped
  obtain ⟨regrouped, among⟩ := grouped_upto grouped
  have kind : ∀ f ∈ earlier.flatMap Prod.snd ++ now, f.kind = r.kind := fun f hf => by
    simpa using (List.mem_filter.mp (among f hf)).2
  exact w.keepsLines_of_edits leaves (w.mendGroups_edits regrouped kind tree)

/-- Two findings in two spellings of one file, whose lines end in different ways. -/
theorem line_batch_keeps_lines_mixed :
    let w := Workplace.ofRoot ⟨"/p"⟩ ["ts"] ["node_modules"]
    let tree : Node := .dir [("p", .dir [("a.ts", .file "f(x: T)\r\n\ng(y)".toUTF8)])]
    let first : Finding := ⟨.unusedParameter, ⟨"a.ts"⟩, 3, 3, some "y"⟩
    let second : Finding := ⟨.unusedParameter, ⟨"a.ts/."⟩, 1, 3, some "x"⟩
    .line Parameter.remedy ∈ Catalog.standard [] ∧
      groupByFile [first, second] = [(⟨"a.ts"⟩, [first, second])] ∧
      KeepsLines (w.Anchored Parameter.remedy tree [first, second]) tree
        (w.runLine Parameter.remedy tree [first, second]).2 ∧
      KeepsLines (w.Anchored Parameter.remedy tree [first]) tree
        (w.mendGroups Parameter.remedy tree [(⟨"a.ts"⟩, [first])]).2 := by
  intro w tree first second
  have standard : .line Parameter.remedy ∈ Catalog.standard [] := by simp [Catalog.standard]
  have groups : groupByFile [first, second] = [(⟨"a.ts"⟩, [first, second])] := by decide
  obtain ⟨whole, within⟩ := w.line_batch_keeps_lines standard tree [first, second]
  exact ⟨standard, groups, whole, within [] ⟨"a.ts"⟩ [first] [second] [] groups⟩

end Workplace

end LintRepair
