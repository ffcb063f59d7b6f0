import LintRepair.Proofs.CatchRepeat
import LintRepair.Proofs.LineLocality
import LintRepair.Proofs.ParameterEffect

/-!
Edits of lines never cancel out. Every line that a remedy of the catalog changes has
more underscores than before, or fewer parentheses. So a file that was written is not
what it was, however often it was written and by whatever paths.

* `Catalog.standard_raises`: what the remedies do to a line;
* `LineRemedy.Raises.content`: what they do to a text;
* `Workplace.bytesAt?_runLine_ne_iff`: where a batch leaves something new.
-/

namespace LintRepair

/-! ## Lines -/

/-- How often a character occurs, with a sign. -/
def tally (sign : Int) (c : Char) (s : List Char) : Int := sign * s.count c

theorem tally_append (sign : Int) (c : Char) (s t : List Char) :
    tally sign c (s ++ t) = tally sign c s + tally sign c t := by
  simp only [tally, List.count_append, Int.natCast_add, Int.mul_add]

/-- A line that the remedy changes has a higher tally than before. -/
def LineRemedy.Raises (r : LineRemedy) (sign : Int) (c : Char) : Prop :=
  ∀ line f mended, r.mend line f = some mended → mended ≠ line →
    tally sign c line.toList < tally sign c mended.toList

theorem Parameter.raises : remedy.Raises 1 '_' := by
  intro line f mended mends differs
  obtain ⟨name, captured, _⟩ := Option.bind_eq_some_iff.mp mends
  have mends : mend line f = some mended := mends
  rw [mend_of_captured captured] at mends
  obtain ⟨chars, mendsTo, rfl⟩ := Option.map_eq_some_iff.mp mends
  rcases mendLine_eq_some mendsTo with ⟨rfl, _⟩ | ⟨p, _, rfl⟩
  · exact absurd String.ofList_toList differs
  · have cut := congrArg (List.count '_') (List.take_append_drop p line.toList)
    rw [List.count_append] at cut
    simp only [tally, String.toList_ofList, List.count_append, List.count_cons_self]
    omega

theorem CatchClause.Binding.count_parenthesis {name line : List Char} (b : Binding name line) :
    b.dropped.count '(' < line.count '(' := by
  obtain ⟨stem, gap, fill, cut⟩ := b.exists_cut
  have none {s : List Char} (h : Blank s) : s.count '(' = 0 :=
    List.count_eq_zero.mpr (h.not_mem (by decide))
  have bare : ("catch \x7b".toList).count '(' = 0 := by decide
  have clause := b.shape.count_parenthesis
  rw [cut.dropped, congrArg (List.count '(') b.cut, cut.before]
  simp only [List.count_append, none cut.blank, none cut.filled, bare, clause]
  omega

theorem CatchClause.raises : remedy.Raises (-1) '(' := by
  intro line f mended mends differs
  obtain ⟨name, captured, _⟩ := Option.bind_eq_some_iff.mp mends
  rw [mend_of_captured captured] at mends
  obtain ⟨chars, mendsTo, rfl⟩ := Option.map_eq_some_iff.mp mends
  rcases mendLine_cases name.toList line.toList with ⟨b, _, dropped⟩ | ⟨_, kept⟩
  · obtain rfl := Option.some.inj (mendsTo.symm.trans dropped)
    have fewer := b.count_parenthesis
    simp only [tally, String.toList_ofList]
    omega
  · obtain ⟨_, _, rfl⟩ := Option.map_eq_some_iff.mp (kept.symm.trans mendsTo)
    exact absurd String.ofList_toList differs

theorem Catalog.standard_raises {patterns : List String} {r : LineRemedy}
    (h : .line r ∈ Catalog.standard patterns) : ∃ sign c, r.Raises sign c := by
  have known : r = Parameter.remedy ∨ r = CatchClause.remedy := by simpa [standard] using h
  rcases known with rfl | rfl
  · exact ⟨1, '_', Parameter.raises⟩
  · exact ⟨-1, '(', CatchClause.raises⟩

/-! ## Texts -/

theorem tally_flatten_set (sign : Int) (c : Char) {lines : List (List Char)} {index : Nat}
    {old : List Char} (there : lines[index]? = some old) (new : List Char) :
    tally sign c (lines.set index new).flatten + tally sign c old =
      tally sign c lines.flatten + tally sign c new := by
  induction lines generalizing index with
  | nil => cases there
  | cons line lines ih =>
    cases index with
    | zero =>
      obtain rfl : line = old := by simpa using there
      simp only [List.set_cons_zero, List.flatten_cons, tally_append]
      omega
    | succ index =>
      have later := ih there
      simp only [List.set_cons_succ, List.flatten_cons, tally_append]
      omega

/-- Mending a line of a text raises the tally of the text, or leaves the text as it is. -/
theorem LineRemedy.Raises.content {r : LineRemedy} {sign : Int} {c : Char}
    (raises : r.Raises sign c) {f : Finding} {content updated : String}
    (h : editLineOf? (r.mend · f) f.line content = some updated) (differs : updated ≠ content) :
    tally sign c content.toList < tally sign c updated.toList := by
  obtain ⟨index, raw, mended, _, there, mendsTo, _, rfl⟩ := editLineOf?_eq_some_iff.mp h
  have whole := Line.ofRaw_text raw
  have changed : mended ≠ .ofList (Line.ofRaw raw).body := by
    rintro rfl
    apply differs
    obtain ⟨bound, rfl⟩ := List.getElem?_eq_some_iff.mp there
    rw [String.toList_ofList, rebody, ← Line.text, whole, List.set_getElem_self, rawLines_flatten,
      String.ofList_toList]
  have higher := raises _ f mended mendsTo changed
  have sums := tally_flatten_set sign c there (rebody raw mended.toList)
  have before := congrArg (tally sign c) whole
  rw [Line.text, tally_append] at before
  rw [rebody, tally_append, rawLines_flatten] at sums
  rw [String.toList_ofList] at higher ⊢
  simp only [rebody] at sums ⊢
  omega

/-! ## Trees -/

theorem toUTF8_inj {a b : String} : a.toUTF8 = b.toUTF8 ↔ a = b := by
  rw [String.toUTF8_eq_toByteArray, String.toUTF8_eq_toByteArray, String.toByteArray_inj]

/-- A text was replaced by one of a higher rank. -/
def Raised (rank : String → Int) (before after : Option ByteArray) : Prop :=
  ∃ old new : String, before = some old.toUTF8 ∧ after = some new.toUTF8 ∧ rank old < rank new

theorem Raised.ne {rank : String → Int} {before after : Option ByteArray}
    (h : Raised rank before after) : after ≠ before := by
  obtain ⟨old, new, rfl, rfl, higher⟩ := h
  intro same
  rw [toUTF8_inj.mp (Option.some.inj same)] at higher
  exact lt_irrefl _ higher

namespace Edits

variable {scope : Scope} {offer : Path → String → String → Prop} {a b : Node} {paths : List Path}
  (rank : String → Int)

/-- If every edit raises the rank of its text, so do all edits of one file together. -/
theorem raised (edits : Edits scope offer a paths b)
    (rises : ∀ target content updated, offer target content updated → updated ≠ content →
      rank content < rank updated) {target : Path} (edited : target ∈ paths) {place : List String}
    (located : a.locate [] target = .ok place) :
    Raised rank (a.bytesAt? place) (b.bytesAt? place) := by
  induction edits generalizing target with
  | refl => cases edited
  | @step tree _ _ _ content updated rest _ found offered differs written later ih =>
    obtain ⟨first, firstLocated, there, rfl⟩ := place_of_step found written
    have layout := (Node.SameLayout.put there updated.toUTF8).locate_eq []
    have higher := rises _ _ _ offered differs
    have after := Node.bytesAt?_put there updated.toUTF8 place
    by_cases again : ∃ target ∈ rest, tree.locate [] target = .ok place
    · obtain ⟨other, member, leads⟩ := again
      rw [layout] at leads
      obtain ⟨old, new, before, now, above⟩ := ih member leads
      by_cases here : place = first
      · rw [after, if_pos here] at before
        rw [← toUTF8_inj.mp (Option.some.inj before)] at above
        exact ⟨content, new, here ▸ Node.bytesAt?_of_at? there, now, higher.trans above⟩
      · rw [after, if_neg here] at before
        exact ⟨old, new, before, now, above⟩
    · -- No later edit leads here, so the first one does and has left what it wrote.
      have spared : ∀ other ∈ rest,
          (tree.put first (.file updated.toUTF8)).locate [] other ≠ .ok place :=
        fun other member leads => again ⟨other, member, (layout other).trans leads⟩
      have now := later.bytesAt?_eq spared
      rcases List.mem_cons.mp edited with rfl | member
      · obtain rfl := Except.ok.inj (firstLocated.symm.trans located)
        rw [after, if_pos rfl] at now
        exact ⟨content, updated, Node.bytesAt?_of_at? there, now, higher⟩
      · exact absurd ⟨target, member, located⟩ again

/-- Such edits leave something new just at the places that their paths lead to. -/
theorem bytesAt?_ne_iff (edits : Edits scope offer a paths b)
    (rises : ∀ target content updated, offer target content updated → updated ≠ content →
      rank content < rank updated) (place : List String) :
    b.bytesAt? place ≠ a.bytesAt? place ↔ ∃ target ∈ paths, a.locate [] target = .ok place := by
  constructor
  · intro differs
    by_contra spared
    exact differs (edits.bytesAt?_eq fun target member leads => spared ⟨target, member, leads⟩)
  · rintro ⟨target, member, located⟩
    exact (edits.raised rank rises member located).ne

end Edits

namespace Workplace

variable (w : Workplace) {patterns : List String} {r : LineRemedy}

/-- A file differs after a batch just if it was written. -/
theorem bytesAt?_runLine_ne_iff (standard : .line r ∈ Catalog.standard patterns) (tree : Node)
    (findings : List Finding) (place : List String) :
    (w.runLine r tree findings).2.bytesAt? place ≠ tree.bytesAt? place ↔
      ∃ target ∈ (w.runLine r tree findings).1.written, tree.locate [] target = .ok place := by
  obtain ⟨sign, c, raises⟩ := Catalog.standard_raises standard
  refine (w.runLine_edits r tree findings).bytesAt?_ne_iff
    (fun content => tally sign c content.toList) ?_ place
  rintro _ content updated ⟨f, _, _, _, edited⟩ differs
  exact raises.content edited differs

/-- A batch leaves the tree as it was just if it has written nothing. -/
theorem runLine_tree_eq_iff (standard : .line r ∈ Catalog.standard patterns) (tree : Node)
    (findings : List Finding) :
    (w.runLine r tree findings).2 = tree ↔ (w.runLine r tree findings).1.written = [] := by
  have edits := w.runLine_edits r tree findings
  constructor
  · intro same
    refine List.eq_nil_iff_forall_not_mem.mpr fun target written => ?_
    obtain ⟨place, located⟩ := edits.located written
    refine (w.bytesAt?_runLine_ne_iff standard tree findings place).mpr
      ⟨target, written, located⟩ ?_
    rw [same]
  · intro nothing
    rw [nothing] at edits
    exact edits.eq_of_nil

end Workplace

end LintRepair
