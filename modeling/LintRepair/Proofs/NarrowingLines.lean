import LintRepair.Proofs.Lines
import LintRepair.Proofs.NarrowingEffect

/-!
What narrowing does to the lines of a text. It keeps their number and what ends each of
them, except where a line break stands in the space of a `Record<string, any>`: this space
becomes a single blank, and the lines on both sides of it become one.

* `lineEndings_resultOf`: pieces whose changed space has no line feed keep all line endings;
* `Narrowing.record_kept`: the first three passes leave every record for the last one;
* `line_endings_kept_iff`: both together, for a whole run.
-/

namespace LintRepair

/-! ## What ends the lines of a text -/

def lineEndings (text : List Char) : List LineEnding :=
  (rawLines text).map fun raw => (Line.ofRaw raw).ending

/-- The endings of lines of which the first begins sooner. If there was none, there is one now. -/
def begun : List LineEnding → List LineEnding
  | [] => [.missing]
  | endings => endings

@[simp] theorem begun_begun (endings : List LineEnding) : begun (begun endings) = begun endings := by
  cases endings <;> rfl

theorem length_lineEndings (s : List Char) : (lineEndings s).length = (rawLines s).length :=
  List.length_map _

variable {c : Char} {s w : List Char}

theorem lineEndings_feed (s : List Char) : lineEndings ('\n' :: s) = .lineFeed :: lineEndings s :=
  rfl

theorem lineEndings_returnFeed (s : List Char) :
    lineEndings ('\r' :: '\n' :: s) = .returnFeed :: lineEndings s := rfl

theorem lineEndings_cons (ink : c ≠ '\n') (apart : c = '\r' → s.head? ≠ some '\n') :
    lineEndings (c :: s) = begun (lineEndings s) := by
  rw [lineEndings, lineEndings, rawLines, if_neg ink]
  cases cut : rawLines s with
  | nil =>
    have alone : Line.ofRaw [c] = ⟨[c], .missing⟩ := Line.ofRaw_cons (by simpa using ink) (by simp)
    simp [alone, begun]
  | cons line lines =>
    have longer : c :: line ≠ ['\r', '\n'] := by
      rintro ⟨⟩
      have first := congrArg List.head? (rawLines_flatten s)
      rw [cut] at first
      exact apart rfl (first.symm.trans rfl)
    have feed : c :: line ≠ ['\n'] := by
      rintro ⟨⟩
      exact ink rfl
    simp [Line.ofRaw_cons feed longer, begun]

/-- Text without a line feed changes no ending, unless it comes between a line feed and its carriage
return. -/
theorem lineEndings_append (ne : w ≠ []) (unbroken : '\n' ∉ w)
    (apart : w.getLast? = some '\r' → s.head? ≠ some '\n') :
    lineEndings (w ++ s) = begun (lineEndings s) := by
  induction w with
  | nil => exact absurd rfl ne
  | cons c w ih =>
    simp only [List.mem_cons, not_or] at unbroken
    cases w with
    | nil =>
      refine lineEndings_cons (Ne.symm unbroken.1) fun ret => apart ?_
      rw [ret]
      rfl
    | cons d w =>
      have next : (d :: w ++ s).head? ≠ some '\n' := by
        rintro ⟨⟩
        exact unbroken.2 List.mem_cons_self
      rw [List.cons_append, lineEndings_cons (Ne.symm unbroken.1) fun _ => next,
        ih (by simp) unbroken.2 (by simpa using apart), begun_begun]

/-- A text has as many lines as line feeds, and one more if it does not end in one. -/
theorem length_rawLines (s : List Char) :
    (rawLines s).length = s.count '\n' + if WholeLines s then 0 else 1 := by
  induction s with
  | nil => rfl
  | cons c s ih =>
    have whole (d : Char) (s : List Char) : WholeLines (c :: d :: s) ↔ WholeLines (d :: s) := by
      simp [WholeLines, List.getLast?_cons]
    rw [rawLines]
    split
    · rename_i feed
      subst feed
      cases s with
      | nil => rfl
      | cons d s =>
        simp only [whole, List.length_cons, List.count_cons_self] at ih ⊢
        omega
    · rename_i ink
      cases s with
      | nil => simp [rawLines, WholeLines, ink]
      | cons d s =>
        cases cut : rawLines (d :: s) with
        | nil => simpa [cut] using rawLines_flatten (d :: s)
        | cons line lines =>
          rw [cut] at ih
          rw [List.count_cons_of_ne ink]
          simpa only [whole, List.length_cons] using ih

namespace Annotation

variable {offer : Option Char → List Char → Option Substitution} {start head : Char}
  {previous : Option Char} {t part text before more gap : List Char} {further : Nat}
  {pieces : List Piece}

/-! ## Line breaks in pieces -/

theorem Piece.source_respaced (gap : List Char) : (respaced gap).source = gap := rfl

theorem Piece.result_respaced (gap : List Char) : (respaced gap).result = [' '] := rfl

theorem count_feed_resultOf (pieces : List Piece) :
    (resultOf pieces).count '\n' ≤ (sourceOf pieces).count '\n' := by
  induction pieces with
  | nil => exact Nat.le_refl _
  | cons piece pieces ih =>
    have here : piece.result.count '\n' ≤ piece.source.count '\n' := by
      cases piece with
      | kept => exact Nat.le_refl _
      | narrowed => decide
      | respaced => exact Nat.zero_le _
    simp only [resultOf_cons, sourceOf_cons, List.count_append]
    exact Nat.add_le_add here ih

/-- Only the space in a record can take a line feed with it. Without one in there, every line is
ended as it was. -/
theorem lineEndings_resultOf {passed : List Char} (allowed : Conservative passed pieces)
    (unbroken : ∀ gap, .respaced gap ∈ pieces → '\n' ∉ gap) :
    lineEndings (resultOf pieces) = lineEndings (sourceOf pieces) ∧
      ((resultOf pieces).head? = some '\n' ↔ (sourceOf pieces).head? = some '\n') := by
  induction pieces generalizing passed with
  | nil => exact ⟨rfl, Iff.rfl⟩
  | cons piece pieces ih =>
    obtain ⟨here, later⟩ := conservative_cons.mp allowed
    obtain ⟨endings, heads⟩ := ih later fun gap member => unbroken gap (List.mem_cons_of_mem _ member)
    have word (w s : List Char) (ne : w ≠ []) (feed : '\n' ∉ w) (ret : '\r' ∉ w) :
        lineEndings (w ++ s) = begun (lineEndings s) :=
      lineEndings_append ne feed fun last => absurd (List.mem_of_getLast? last) ret
    cases piece with
    | kept c =>
      simp only [resultOf_cons, sourceOf_cons, Piece.result_kept, Piece.source_kept,
        List.singleton_append, List.head?_cons, and_true]
      by_cases feed : c = '\n'
      · rw [feed, lineEndings_feed, lineEndings_feed, endings]
      · by_cases ret : c = '\r' ∧ (sourceOf pieces).head? = some '\n'
        · -- Both texts go on with the line feed, so the carriage return belongs to it in both.
          obtain ⟨rfl, first⟩ := ret
          obtain ⟨s, source⟩ := List.head?_eq_some_iff.mp first
          obtain ⟨t, result⟩ := List.head?_eq_some_iff.mp (heads.mpr first)
          rw [source, result, lineEndings_feed, lineEndings_feed] at endings
          rw [source, result, lineEndings_returnFeed, lineEndings_returnFeed,
            (List.cons.inj endings).2]
        · have apart : c = '\r' → (sourceOf pieces).head? ≠ some '\n' := not_and.mp ret
          rw [lineEndings_cons feed apart,
            lineEndings_cons feed fun ret => mt heads.mp (apart ret), endings]
    | narrowed =>
      refine ⟨?_, by simp⟩
      rw [resultOf_cons, sourceOf_cons, word _ _ (by decide) (by decide) (by decide),
        word _ _ (by decide) (by decide) (by decide), endings]
    | respaced gap =>
      obtain ⟨_, _, more, _, rfl, _⟩ := here
      have feedless := unbroken gap List.mem_cons_self
      have begins : begun (lineEndings (sourceOf (.narrowed :: more))) =
          lineEndings (sourceOf (.narrowed :: more)) := by
        rw [sourceOf_cons, word _ _ (by decide) (by decide) (by decide), begun_begun]
      rw [resultOf_cons, sourceOf_cons, Piece.result_respaced, Piece.source_respaced,
        word _ _ (by decide) (by decide) (by decide), endings, begins]
      cases gap with
      | nil => exact ⟨rfl, by simp⟩
      | cons c gap =>
        have ink : c ≠ '\n' := by
          rintro rfl
          exact feedless List.mem_cons_self
        rw [lineEndings_append (by simp) feedless (fun _ => by simp), begins]
        exact ⟨rfl, by simpa using ink⟩

/-! ## Records -/

/-- A record of `any` with this space in it. -/
def recordText (gap : List Char) : List Char := "Record<string,".toList ++ (gap ++ "any>".toList)

/-- What follows the first letter of a record. -/
def recordRest (gap : List Char) : List Char := "ecord<string,".toList ++ (gap ++ "any>".toList)

theorem recordText_eq (gap : List Char) : recordText gap = 'R' :: recordRest gap := rfl

theorem recordText_append (gap rest : List Char) : recordText gap ++ rest =
    "Record<string,".toList ++ (gap ++ ("any>".toList ++ rest)) := by
  have opened : recordText gap = "Record<string,".toList ++ (gap ++ "any>".toList) := rfl
  rw [opened, List.append_assoc, List.append_assoc]

theorem recordRest_append (gap rest : List Char) : recordRest gap ++ rest =
    ("ecord<string,".toList ++ gap) ++ 'a' :: ("ny>".toList ++ rest) := by
  have opened : recordRest gap = "ecord<string,".toList ++ (gap ++ "any>".toList) := rfl
  rw [opened]
  simp

theorem length_recordText (gap : List Char) : (recordText gap).length = 18 + gap.length := by
  rw [← List.append_nil (recordText gap), recordText_append]
  simp
  omega

theorem mem_recordRest {c : Char} :
    c ∈ recordRest gap ↔ c ∈ "ecord<string,any>".toList ∨ c ∈ gap := by
  have letters : "ecord<string,any>".toList = "ecord<string,".toList ++ 'a' :: "ny>".toList := rfl
  rw [← List.append_nil (recordRest gap), recordRest_append, letters]
  simp only [List.mem_append, List.append_nil]
  tauto

/-- A text, behind some character, that has such a record in it at the start of a word. -/
def HasRecord (gap : List Char) (previous : Option Char) (s : List Char) : Prop :=
  ∃ before rest, s = before ++ (recordText gap ++ rest) ∧
    atWordStart (lastOf previous before) = true

theorem HasRecord.prepend {w : List Char} (h : HasRecord gap (lastOf previous w) s) :
    HasRecord gap previous (w ++ s) := by
  obtain ⟨before, rest, rfl, boundary⟩ := h
  exact ⟨w ++ before, rest, by simp, by rwa [lastOf_append]⟩

/-- An edit ends with the character that it stands for. -/
theorem Narrowing.lastOf_edit (narrowing : Narrowing offer start head)
    (taken : offer previous (part ++ s) = some ⟨text, further⟩) (width : further + 1 = part.length) :
    lastOf previous text = lastOf previous part := by
  rw [lastOf, lastOf, (narrowing.offers.replaces taken width).ends]

/-- Behind its first letter, a record is copied by the first three passes. -/
theorem Narrowing.record_copied (narrowing : Narrowing offer start head) (notLast : start ≠ 'R')
    (blank : Blank gap) {rest : List Char}
    (h : Substituted offer previous (recordRest gap ++ rest) t) :
    ∃ rest', t = recordRest gap ++ rest' := by
  have letters : start ∉ "ecord<string,".toList ∧ start ∉ "ny>".toList := by
    cases narrowing <;> decide
  have absent : start ∉ "ecord<string,".toList ++ gap := by
    simp only [List.mem_append, not_or]
    exact ⟨letters.1, blank.not_mem narrowing.ink.1⟩
  have refused (previous : Option Char) : offer previous ('a' :: ("ny>".toList ++ rest)) = none := by
    cases narrowing with
    | listed =>
      rw [Option.eq_none_iff_forall_ne_some]
      intro edit found
      obtain ⟨_, behind, whole, _⟩ := listed?_eq_some_iff.mp found
      simp at whole
    | declared => exact declared.offers.refuses (by decide)
    | promised => exact promised.offers.refuses (by decide)
    | recorded => exact recorded.offers.refuses (by decide)
  rw [recordRest_append] at h
  obtain ⟨_, rfl, atAny⟩ := h.copied narrowing.offers absent
  obtain ⟨_, rfl, behind⟩ := atAny.of_refused (refused _)
  obtain ⟨rest', rfl, _⟩ := behind.copied narrowing.offers letters.2
  exact ⟨rest', (recordRest_append gap rest').symm⟩

/-- An edit of the first three passes reaches into a record no further than to its first letter,
which it keeps, and leaves the character before it. -/
theorem Narrowing.edit_before_record (narrowing : Narrowing offer start head) (notLast : start ≠ 'R')
    (taken : offer previous (part ++ s) = some ⟨text, further⟩) (width : further + 1 = part.length)
    (cut : part = before ++ 'R' :: more) :
    more = [] ∧ ∃ before', text = before' ++ ['R'] ∧
      lastOf previous before' = lastOf previous before := by
  have letter : 'R' ∈ part := by simp [cut]
  cases narrowing with
  | declared =>
    obtain ⟨gap, gap', mark, blank, blank', marked, rfl, rfl⟩ := declared?_edit taken width
    have absent : 'R' ∉ ':' :: (gap ++ ("any".toList ++ gap')) := by
      simp [blank.not_mem (c := 'R') (by decide), blank'.not_mem (c := 'R') (by decide)]
    have shape (type : List Char) : typing gap type gap' mark =
        ':' :: (gap ++ (type ++ gap')) ++ mark := by simp [typing]
    rw [shape] at cut ⊢
    obtain ⟨tail, rfl, inMark⟩ := exists_cut_of_not_mem absent cut
    have equals (w : List Char) : lastOf previous (w ++ ['=']) = some '=' := by simp [lastOf]
    cases marked with
    | semicolon => simp [List.cons_eq_append_iff] at inMark
    | last => simp [List.cons_eq_append_iff] at inMark
    | @assigned c =>
      obtain ⟨rfl, rfl, rfl⟩ : tail = ['='] ∧ 'R' = c ∧ more = [] := by
        simpa [List.cons_eq_append_iff] using inMark
      exact ⟨rfl, _, List.append_cons _ '=' ['R'], (equals _).trans (equals _).symm⟩
  | promised =>
    obtain ⟨_, _, whole, same⟩ := promised?_eq_some_iff.mp taken
    cases same
    obtain ⟨rfl, _⟩ := List.append_inj whole width.symm
    exact absurd letter (by decide)
  | listed =>
    obtain ⟨_, _, whole, same⟩ := listed?_eq_some_iff.mp taken
    cases same
    obtain ⟨rfl, _⟩ := List.append_inj whole width.symm
    exact absurd letter (by decide)
  | recorded => exact absurd rfl notLast

/-- The first three passes leave every record where it can be seen. -/
theorem Narrowing.record_kept (narrowing : Narrowing offer start head) (notLast : start ≠ 'R')
    (blank : Blank gap) (h : Substituted offer previous s t) (there : HasRecord gap previous s) :
    HasRecord gap previous t := by
  induction h with
  | nil =>
    obtain ⟨before, rest, cut, _⟩ := there
    simp [recordText_eq] at cut
  | @copy previous c s t refused pass ih =>
    obtain ⟨before, rest, cut, boundary⟩ := there
    cases before with
    | nil =>
      rw [recordText_eq] at cut
      obtain ⟨rfl, rfl⟩ := List.cons.inj cut
      obtain ⟨rest', rfl⟩ := narrowing.record_copied notLast blank pass
      exact ⟨[], rest', rfl, boundary⟩
    | cons d before =>
      obtain ⟨rfl, rfl⟩ := List.cons.inj cut
      rw [lastOf_cons] at boundary
      exact (ih ⟨before, rest, rfl, boundary⟩).prepend (w := [c])
  | @edit previous part text s t further taken width pass ih =>
    obtain ⟨before, rest, cut, boundary⟩ := there
    have ends := narrowing.lastOf_edit taken width
    have behind {more : List Char} (begins : before = part ++ more)
        (there : s = more ++ (recordText gap ++ rest)) : HasRecord gap previous (text ++ t) := by
      rw [begins, lastOf_append] at boundary
      have kept := ih ⟨more, rest, there, boundary⟩
      rw [← ends] at kept
      exact kept.prepend
    rcases List.append_eq_append_iff.mp cut with ⟨more, begins, there⟩ | ⟨more, begins, there⟩
    · exact behind begins there
    · cases more with
      | nil =>
        have there : s = [] ++ (recordText gap ++ rest) := there.symm
        exact behind (by rw [begins, List.append_nil, List.append_nil]) there
      | cons c more =>
        rw [recordText_eq] at there
        obtain ⟨rfl, others⟩ := List.cons.inj there
        obtain ⟨rfl, before', rfl, same⟩ :=
          narrowing.edit_before_record notLast taken width begins
        obtain rfl : recordRest gap ++ rest = s := others
        obtain ⟨rest', rfl⟩ := narrowing.record_copied notLast blank pass
        exact ⟨before', rest', by simp [recordText_eq], same ▸ boundary⟩

/-! ## Line breaks in records -/

theorem Narrowing.count_feed_le (narrowing : Narrowing offer start head)
    (h : Substituted offer previous s t) : t.count '\n' ≤ s.count '\n' := by
  induction h with
  | nil => exact Nat.le_refl _
  | copy refused pass ih =>
    simp only [List.count_cons]
    exact Nat.add_le_add_right ih _
  | edit taken width pass ih =>
    obtain ⟨edited, rfl, rfl, _⟩ := narrowing.edit_pieces taken width
    simp only [List.count_append]
    exact Nat.add_le_add (count_feed_resultOf edited) ih

theorem recorded?_recordText (blank : Blank gap) (boundary : atWordStart previous = true)
    (rest : List Char) : recorded? previous (recordText gap ++ rest) =
      some ⟨"Record<string, unknown>".toList, 17 + gap.length⟩ :=
  recorded?_eq_some_iff.mpr ⟨boundary, gap, rest, blank, recordText_append gap rest, rfl⟩

/-- A part that the last pass takes for a record is one, and has no line feed when it is written
again. -/
theorem recorded?_edit (taken : recorded? previous (part ++ s) = some ⟨text, further⟩)
    (width : further + 1 = part.length) :
    ∃ gap, Blank gap ∧ part = recordText gap ∧ text.count '\n' = 0 := by
  obtain ⟨_, gap, rest, blank, cut, same⟩ := recorded?_eq_some_iff.mp taken
  cases same
  rw [← recordText_append] at cut
  obtain ⟨rfl, _⟩ := List.append_inj cut (by rw [← width, length_recordText]; omega)
  exact ⟨gap, blank, rfl, by decide⟩

/-- The last pass takes the line feeds out of the records. -/
theorem count_feed_lt (blank : Blank gap) (broken : '\n' ∈ gap)
    (h : Substituted recorded? previous s t) (there : HasRecord gap previous s) :
    t.count '\n' < s.count '\n' := by
  induction h with
  | nil =>
    obtain ⟨before, rest, cut, _⟩ := there
    simp [recordText_eq] at cut
  | @copy previous c s t refused pass ih =>
    obtain ⟨before, rest, cut, boundary⟩ := there
    cases before with
    | nil =>
      have boundary : atWordStart previous = true := boundary
      rw [cut, List.nil_append, recorded?_recordText blank boundary] at refused
      cases refused
    | cons d before =>
      obtain ⟨rfl, rfl⟩ := List.cons.inj cut
      rw [lastOf_cons] at boundary
      have fewer := ih ⟨before, rest, rfl, boundary⟩
      simp only [List.count_cons]
      omega
  | @edit previous part text s t further taken width pass ih =>
    obtain ⟨before, rest, cut, boundary⟩ := there
    obtain ⟨gap', blank', rfl, feedless⟩ := recorded?_edit taken width
    simp only [List.count_append]
    cases before with
    | nil =>
      -- The record is the one that is taken.
      have boundary : atWordStart previous = true := boundary
      have same := taken
      rw [List.nil_append] at cut
      rw [cut, recorded?_recordText blank boundary] at same
      cases same
      obtain ⟨same, _⟩ := List.append_inj cut (by rw [← width, length_recordText]; omega)
      have fewer := Narrowing.recorded.count_feed_le pass
      have feed : 0 < (recordText gap').count '\n' := by
        rw [same, recordText_eq]
        exact List.count_pos_iff.mpr (List.mem_cons_of_mem _ (mem_recordRest.mpr (.inr broken)))
      omega
    | cons d before =>
      -- There is no other beginning of a record in one.
      have absent : 'R' ∉ recordRest gap' := by
        rw [mem_recordRest, not_or]
        exact ⟨by decide, blank'.not_mem (by decide)⟩
      simp only [recordText_eq, List.cons_append] at cut
      obtain ⟨rfl, behind⟩ := List.cons.inj cut
      obtain ⟨more, rfl, there⟩ := exists_cut_of_not_mem absent behind
      rw [← List.cons_append, ← recordText_eq, lastOf_append] at boundary
      have fewer := ih ⟨more, rest, there, boundary⟩
      omega

/-! ## The whole run -/

/-- Somewhere in the text a line break stands between the comma and the `any` of a record. -/
def BreaksRecord (content : List Char) : Prop :=
  ∃ before gap rest, content = before ++ (recordText gap ++ rest) ∧
    atWordStart before.getLast? = true ∧ Blank gap ∧ '\n' ∈ gap

/-- A pass ends with the character that the text ends with. -/
theorem lastOf_substituted (narrowing : Narrowing offer start head)
    (h : Substituted offer previous s t) : lastOf previous t = lastOf previous s := by
  induction h with
  | nil => rfl
  | copy refused pass ih => rw [lastOf_cons, lastOf_cons, ih]
  | edit taken width pass ih =>
    rw [lastOf_append, lastOf_append, narrowing.lastOf_edit taken width, ih]

theorem count_feed_narrow_lt {content : List Char} (broken : BreaksRecord content) :
    (narrow content).count '\n' < content.count '\n' := by
  obtain ⟨before, gap, rest, cut, boundary, blank, feed⟩ := broken
  have there : HasRecord gap none content := ⟨before, rest, cut, by simpa [lastOf] using boundary⟩
  have first := Narrowing.declared.substituted_all content
  have second := Narrowing.promised.substituted_all (substituteAll declared? content)
  have third := Narrowing.listed.substituted_all
    (substituteAll promised? (substituteAll declared? content))
  have fourth := Narrowing.recorded.substituted_all
    (substituteAll listed? (substituteAll promised? (substituteAll declared? content)))
  have there := Narrowing.declared.record_kept (by decide) blank first there
  have there := Narrowing.promised.record_kept (by decide) blank second there
  have there := Narrowing.listed.record_kept (by decide) blank third there
  calc (narrow content).count '\n'
      < _ := count_feed_lt blank feed fourth there
    _ ≤ _ := Narrowing.listed.count_feed_le third
    _ ≤ _ := Narrowing.promised.count_feed_le second
    _ ≤ content.count '\n' := Narrowing.declared.count_feed_le first

theorem getLast?_narrow (content : List Char) : (narrow content).getLast? = content.getLast? := by
  have kept {offer : Option Char → List Char → Option Substitution} {start head : Char}
      (narrowing : Narrowing offer start head) (s : List Char) :
      (substituteAll offer s).getLast? = s.getLast? := by
    simpa [lastOf] using lastOf_substituted narrowing (narrowing.substituted_all s)
  rw [narrow_eq, kept .recorded, kept .listed, kept .promised, kept .declared]

theorem lineEndings_narrow {content : List Char} (unbroken : ¬ BreaksRecord content) :
    lineEndings (narrow content) = lineEndings content := by
  obtain ⟨pieces, rfl, result, allowed⟩ := exists_pieces content
  rw [← result]
  refine (lineEndings_resultOf allowed fun gap member feed => unbroken ?_).1
  obtain ⟨left, right, rfl⟩ := List.append_of_mem member
  obtain ⟨blank, ⟨start, passed, boundary⟩, more, behind, rfl, rest⟩ :=
    allowed left (.respaced gap) right rfl
  rw [List.nil_append] at passed
  refine ⟨start, gap, behind, ?_, boundary, blank, feed⟩
  rw [recordText_append, sourceOf_append, passed, sourceOf_cons, sourceOf_cons, rest]
  simp [Piece.source_respaced]

/-- Narrowing keeps the lines of a text, their number and what ends each of them, just if no line
break stands in the space of a record. If one does, lines are lost. -/
theorem line_endings_kept_iff (content : String) :
    (lineEndings (remedy.mend content).toList = lineEndings content.toList ↔
        ¬ BreaksRecord content.toList) ∧
      ((rawLines (remedy.mend content).toList).length < (rawLines content.toList).length ↔
        BreaksRecord content.toList) := by
  have mended : (remedy.mend content).toList = narrow content.toList := String.toList_ofList
  have whole : WholeLines (narrow content.toList) ↔ WholeLines content.toList := by
    rw [WholeLines, WholeLines, getLast?_narrow]
  have fewer (broken : BreaksRecord content.toList) :
      (rawLines (narrow content.toList)).length < (rawLines content.toList).length := by
    simp only [length_rawLines, whole]
    exact Nat.add_lt_add_right (count_feed_narrow_lt broken) _
  have same (endings : lineEndings (narrow content.toList) = lineEndings content.toList) :
      (rawLines (narrow content.toList)).length = (rawLines content.toList).length := by
    rw [← length_lineEndings, endings, length_lineEndings]
  rw [mended]
  refine ⟨⟨fun endings broken => ?_, lineEndings_narrow⟩, ⟨fun less => ?_, fewer⟩⟩
  · exact Nat.ne_of_lt (fewer broken) (same endings)
  · by_contra unbroken
    exact Nat.ne_of_lt less (same (lineEndings_narrow unbroken))

/-- A record on two lines, which are ended differently, comes out on one. -/
theorem record_on_two_lines_joined :
    remedy.mend "let x: Record<string,\r\n  any> = y;\n" = "let x: Record<string, unknown> = y;\n" ∧
      lineEndings "let x: Record<string,\r\n  any> = y;\n".toList = [.returnFeed, .lineFeed] ∧
      lineEndings "let x: Record<string, unknown> = y;\n".toList = [.lineFeed] := by
  decide

end Annotation

end LintRepair
