import LintRepair.Proofs.BatchRepeat
import LintRepair.Proofs.NarrowingPasses

/-!
Narrowing a text once more. Where a declared type is followed by an equals sign, its
annotation takes the next character with it. If that is the colon of another
annotation, this one is passed over, and only then a second time finds something to do
(`narrow_narrow_eq_iff`).
-/

namespace LintRepair.Annotation

variable {offer : Option Char → List Char → Option Substitution} {start head : Char}
  {previous : Option Char} {s t part text : List Char} {further : Nat}

/-! ## Annotations that touch -/

/-- Somewhere in the text an annotation is assigned what is another annotation itself: the colon of
the second follows the equals sign of the first. -/
def Chained (content : List Char) : Prop :=
  ∃ before gap gap' rest, Blank gap ∧ Blank gap' ∧
    content = before ++ (typing gap "any".toList gap' ['=', ':'] ++ rest) ∧
    Declared (':' :: rest)

theorem Chained.append {w : List Char} (h : Chained s) : Chained (w ++ s) := by
  obtain ⟨before, gap, gap', rest, blank, blank', rfl, declared⟩ := h
  exact ⟨w ++ before, gap, gap', rest, blank, blank', by simp, declared⟩

/-- An edit of an annotation writes the new type for the old one. -/
theorem declared?_edit (taken : declared? previous (part ++ s) = some ⟨text, further⟩)
    (width : further + 1 = part.length) : ∃ gap gap' mark, Blank gap ∧ Blank gap' ∧ Mark mark s ∧
      part = typing gap "any".toList gap' mark ∧
      text = typing gap "unknown".toList gap' mark := by
  obtain ⟨gap, gap', mark, rest, blank, blank', marked, cut, same⟩ := declared?_eq_some_iff.mp taken
  cases same
  obtain ⟨rfl, rfl⟩ := List.append_inj cut (by simp [← width, typing]; omega)
  exact ⟨gap, gap', mark, blank, blank', marked, rfl, rfl⟩

/-- Annotations are seen the same behind every character. -/
theorem untouched_declared?_congr (previous previous' : Option Char) :
    Untouched declared? previous s ↔ Untouched declared? previous' s := by
  cases s <;> exact Iff.rfl

theorem not_declared_unknown {gap gap' mark rest : List Char} (blank : Blank gap) :
    ¬ Declared (typing gap "unknown".toList gap' mark ++ rest) := by
  intro declared
  obtain ⟨inner, inner', tail, blank', _, _, whole⟩ := declared_iff.mp declared
  have behind : gap ++ ('u' :: ("nknown".toList ++ (gap' ++ (mark ++ rest)))) =
      inner ++ ('a' :: ("ny".toList ++ (inner' ++ tail))) := by simpa [typing] using whole
  have words := congrArg dropSpaces behind
  rw [blank.dropSpaces_ink (by decide), blank'.dropSpaces_ink (by decide)] at words
  cases words

theorem colon_not_mem {gap type gap' mark : List Char} (blank : Blank gap) (blank' : Blank gap')
    (letters : ':' ∉ type) (absent : ':' ∉ mark) : ':' ∉ gap ++ (type ++ (gap' ++ mark)) := by
  simp only [List.mem_append, not_or]
  exact ⟨blank.not_mem (by decide), letters, blank'.not_mem (by decide), absent⟩

/-- What is written for an annotation has no other one in it. -/
theorem untouched_typing {previous' : Option Char} {gap gap' mark : List Char} (blank : Blank gap)
    (blank' : Blank gap') (absent : ':' ∉ mark) (idle : Untouched declared? previous' t) :
    Untouched declared? previous (typing gap "unknown".toList gap' mark ++ t) := by
  have plain := colon_not_mem blank blank' (show ':' ∉ "unknown".toList by decide) absent
  refine ⟨declared?_eq_none_iff.mpr (not_declared_unknown blank), ?_⟩
  exact Untouched.append Narrowing.declared.offers plain ((untouched_declared?_congr _ _).mp idle)

/-- Going over annotations that do not touch leaves none. -/
theorem untouched_declared (h : Substituted declared? previous s t) (apart : ¬ Chained s) :
    Untouched declared? previous t := by
  induction h with
  | nil => trivial
  | @copy previous c s t refused rest ih =>
    refine ⟨Narrowing.declared.refuses_copied .declared rest refused, ih fun chained => apart ?_⟩
    exact chained.append (w := [c])
  | @edit previous part text s t further taken width rest ih =>
    have idle := ih fun chained => apart chained.append
    obtain ⟨gap, gap', mark, blank, blank', marked, rfl, rfl⟩ := declared?_edit taken width
    cases marked with
    | semicolon => exact untouched_typing blank blank' (by decide) idle
    | last => exact untouched_typing blank blank' (by decide) idle
    | @assigned c _ other =>
      by_cases colon : c = ':'
      · -- The colon is passed over; what it begins must not be an annotation.
        subst colon
        have lone : declared? (some '=') (':' :: s) = none :=
          declared?_eq_none_iff.mpr fun declared =>
            apart ⟨[], gap, gap', s, blank, blank', rfl, declared⟩
        have last : lastOf previous (typing gap "any".toList gap' ['=', ':']) = some ':' := by
          rw [lastOf, getLast?_typing (by simp)]
          rfl
        rw [last] at rest
        have next : Untouched declared? (some '=') (':' :: t) :=
          ⟨Narrowing.declared.refuses_copied .declared rest lone,
            (untouched_declared?_congr _ _).mp idle⟩
        have shape : typing gap "unknown".toList gap' ['=', ':'] ++ t =
            typing gap "unknown".toList gap' ['='] ++ ':' :: t := by simp [typing]
        rw [shape]
        exact untouched_typing blank blank' (by decide) next
      · exact untouched_typing blank blank' (by simpa using Ne.symm colon) idle

/-! ## Annotations that are passed over -/

/-- There is an annotation of a declaration in the text that can be narrowed. -/
def Declares (content : List Char) : Prop := ∃ before rest, content = before ++ rest ∧ Declared rest

theorem Declares.append {w : List Char} (h : Declares s) : Declares (w ++ s) := by
  obtain ⟨before, rest, rfl, declared⟩ := h
  exact ⟨w ++ before, rest, by simp, declared⟩

theorem Declared.colon (h : Declared s) : ∃ rest, s = ':' :: rest := by
  obtain ⟨_, _, _, _, _, _, rfl⟩ := declared_iff.mp h
  exact ⟨_, rfl⟩

theorem Declares.not_untouched (h : Declares s) : ¬ Untouched declared? previous s := by
  obtain ⟨before, rest, rfl, declared⟩ := h
  obtain ⟨rest, rfl⟩ := declared.colon
  intro idle
  exact declared?_eq_none_iff.mp (untouched_append idle).1 declared

/-- The later narrowings leave the annotations of declarations. -/
theorem Narrowing.declares_kept (narrowing : Narrowing offer start head) (later : start ≠ ':')
    (h : Substituted offer previous s t) (declares : Declares s) : Declares t := by
  induction h with
  | nil =>
    obtain ⟨before, tail, cut, declared⟩ := declares
    obtain ⟨tail, rfl⟩ := declared.colon
    simp at cut
  | @copy previous c s t refused rest ih =>
    obtain ⟨before, tail, cut, declared⟩ := declares
    cases before with
    | nil =>
      obtain rfl : c :: s = tail := cut
      obtain ⟨_, colon⟩ := declared.colon
      obtain ⟨rfl, _⟩ := List.cons.inj colon
      exact ⟨[], _, rfl, narrowing.declared_kept rest declared⟩
    | cons d before =>
      obtain ⟨rfl, rfl⟩ := List.cons.inj cut
      exact (ih ⟨before, tail, rfl, declared⟩).append (w := [c])
  | @edit previous part text s t further taken width rest ih =>
    obtain ⟨before, tail, cut, declared⟩ := declares
    rcases List.append_eq_append_iff.mp cut with ⟨more, _, there⟩ | ⟨more, inPart, there⟩
    · exact (ih ⟨more, tail, there, declared⟩).append
    · -- An annotation that begins in the part would begin with a colon there.
      cases more with
      | nil => exact (ih ⟨[], tail, there.symm, declared⟩).append
      | cons c more =>
        obtain ⟨_, colon⟩ := declared.colon
        obtain ⟨rfl, _⟩ := List.cons.inj (there.symm.trans colon)
        exact absurd ((narrowing.narrowed_part taken width).colon (by simp [inPart])) later

/-- Behind the first colon of an annotation there is another only if it is the last character. -/
theorem Mark.last_of_colon {gap gap' mark before rest : List Char} (marked : Mark mark s)
    (blank : Blank gap) (blank' : Blank gap')
    (cut : (gap ++ ("any".toList ++ (gap' ++ mark))) ++ s = before ++ ':' :: rest)
    (short : before.length < (gap ++ ("any".toList ++ (gap' ++ mark))).length) :
    mark.getLast? = some ':' ∧ s = rest := by
  have plain {w : List Char} (h : ':' ∉ w) : ':' ∉ gap ++ ("any".toList ++ (gap' ++ w)) :=
    colon_not_mem blank blank' (by decide) h
  cases marked with
  | semicolon => exact absurd (length_le_of_not_mem (plain (by decide)) cut) (Nat.not_le.mpr short)
  | last => exact absurd (length_le_of_not_mem (plain (by decide)) cut) (Nat.not_le.mpr short)
  | @assigned c =>
    have shape (u : List Char) : gap ++ ("any".toList ++ (gap' ++ ['=', c])) ++ u =
        (gap ++ ("any".toList ++ (gap' ++ ['=']))) ++ c :: u := by simp
    rw [shape] at cut
    have far := length_le_of_not_mem (plain (w := ['=']) (by decide)) cut
    have whole := congrArg List.length (shape [])
    simp only [List.length_append, List.length_cons] at short far whole
    have even : (gap ++ ("any".toList ++ (gap' ++ ['=']))).length = before.length := by
      simp only [List.length_append, List.length_cons]
      omega
    obtain ⟨_, same⟩ := List.append_inj cut even
    obtain ⟨rfl, rfl⟩ := List.cons.inj same
    exact ⟨rfl, rfl⟩

/-- If the annotation that a part of the text holds is chained to another one, this begins with the
last character of the part. -/
theorem chained_edit {before gap gap' tail : List Char}
    (taken : declared? previous (part ++ s) = some ⟨text, further⟩)
    (width : further + 1 = part.length) (blank : Blank gap) (blank' : Blank gap')
    (cut : part ++ s = before ++ (typing gap "any".toList gap' ['=', ':'] ++ tail))
    (declared : Declared (':' :: tail)) (short : before.length < part.length) :
    text.getLast? = some ':' ∧ Declared (':' :: s) := by
  cases before with
  | nil =>
    -- The part is the first of the two annotations.
    rw [List.nil_append] at cut
    have same := taken
    rw [cut, declared?_eq_some_iff.mpr
      ⟨gap, gap', _, tail, blank, blank', .assigned (by decide), rfl, rfl⟩] at same
    cases same
    obtain ⟨rfl, rfl⟩ := List.append_inj cut (by rw [← width]; simp [typing]; omega)
    exact ⟨getLast?_typing (by simp), declared⟩
  | cons d before =>
    -- The first of the two annotations begins with the last character of the part itself.
    obtain ⟨inner, inner', mark, blank₁, blank₂, marked, rfl, rfl⟩ := declared?_edit taken width
    obtain ⟨last, rfl⟩ := marked.last_of_colon blank₁ blank₂ (List.cons.inj cut).2
      (Nat.lt_of_succ_lt_succ short)
    rw [getLast?_typing marked.ne_nil]
    exact ⟨last, .mk blank blank' (.assigned (by decide))⟩

theorem declares_of_chained (h : Substituted declared? previous s t) (chained : Chained s) :
    Declares t := by
  induction h with
  | nil =>
    obtain ⟨before, _, _, _, _, _, cut, _⟩ := chained
    simp [typing] at cut
  | @copy previous c s t refused rest ih =>
    obtain ⟨before, gap, gap', tail, blank, blank', cut, declared⟩ := chained
    cases before with
    | nil =>
      rw [cut] at refused
      exact absurd (.mk blank blank' (.assigned (by decide))) (declared?_eq_none_iff.mp refused)
    | cons d before =>
      obtain ⟨rfl, rfl⟩ := List.cons.inj cut
      exact (ih ⟨before, gap, gap', tail, blank, blank', rfl, declared⟩).append (w := [c])
  | @edit previous part text s t further taken width rest ih =>
    obtain ⟨before, gap, gap', tail, blank, blank', cut, declared⟩ := chained
    by_cases short : before.length < part.length
    · obtain ⟨last, next⟩ := chained_edit taken width blank blank' cut declared short
      have ends := (Narrowing.declared.narrowed_part taken width).ends
      rw [lastOf, ← ends, last] at rest
      obtain ⟨w, rfl⟩ := List.getLast?_eq_some_iff.mp last
      refine ⟨w, ':' :: t, by simp, Narrowing.declared.declared_kept rest next⟩
    · obtain ⟨more, rfl⟩ : part <+: before :=
        List.prefix_of_prefix_length_le ⟨s, cut⟩ (List.prefix_append _ _) (Nat.not_lt.mp short)
      rw [List.append_assoc] at cut
      have there := List.append_cancel_left cut
      exact (ih ⟨more, gap, gap', tail, blank, blank', there, declared⟩).append

/-! ## Narrowing twice -/

theorem narrow_eq (content : List Char) :
    narrow content = substituteAll recorded? (substituteAll listed?
      (substituteAll promised? (substituteAll declared? content))) := rfl

theorem Narrowing.substituted_all (narrowing : Narrowing offer start head) (s : List Char) :
    Substituted offer none s (substituteAll offer s) :=
  substituted_substitute narrowing.offers none s

/-- If no annotations touch, all four narrowings have nothing left to do. -/
theorem untouched_narrow (apart : ¬ Chained s) (narrowing : Narrowing offer start head) :
    Untouched offer none (narrow s) := by
  have second := Narrowing.promised.substituted_all (substituteAll declared? s)
  have third := Narrowing.listed.substituted_all
    (substituteAll promised? (substituteAll declared? s))
  have fourth := Narrowing.recorded.substituted_all
    (substituteAll listed? (substituteAll promised? (substituteAll declared? s)))
  rw [narrow_eq]
  -- Each of them is idle after its own pass, and the passes behind it change nothing about that.
  apply Narrowing.recorded.untouched_later (by decide) narrowing fourth
  refine or_iff_not_imp_left.mpr fun notLast => ?_
  apply Narrowing.listed.untouched_later (by decide) narrowing third
  refine or_iff_not_imp_left.mpr fun notThird => ?_
  apply Narrowing.promised.untouched_later (by decide) narrowing second
  refine or_iff_not_imp_left.mpr fun notSecond => ?_
  cases narrowing with
  | declared => exact untouched_declared (Narrowing.declared.substituted_all s) apart
  | promised => exact absurd rfl notSecond
  | listed => exact absurd rfl notThird
  | recorded => exact absurd rfl notLast

theorem narrow_of_untouched
    (h : ∀ {offer : Option Char → List Char → Option Substitution} {start head : Char},
      Narrowing offer start head → Untouched offer none s) : narrow s = s := by
  rw [narrow_eq]
  simp only [substituteAll, substitute_of_untouched (h .declared),
    substitute_of_untouched (h .promised), substitute_of_untouched (h .listed),
    substitute_of_untouched (h .recorded)]

/-- A text that narrowing leaves as it is has no annotation to narrow: each edit costs a letter that
none brings back. -/
theorem untouched_of_narrow_eq (h : narrow s = s) : Untouched declared? none s := by
  have less {offer : Option Char → List Char → Option Substitution} {start head : Char}
      (narrowing : Narrowing offer start head) (s : List Char) :=
    (narrowing.substituted_all s).count_le (x := 'a') fun _ _ _ _ _ taken width =>
      (narrowing.narrowed_part taken width).fewer
  apply (less .declared s).2
  calc s.count 'a'
      = (narrow s).count 'a' := by rw [h]
    _ ≤ _ := by
      rw [narrow_eq]
      exact (less .recorded _).1
    _ ≤ _ := (less .listed _).1
    _ ≤ _ := (less .promised _).1

theorem narrow_narrow_eq_iff : narrow (narrow s) = narrow s ↔ ¬ Chained s := by
  constructor
  · intro same chained
    have declares := declares_of_chained (Narrowing.declared.substituted_all s) chained
    have declares := Narrowing.promised.declares_kept (by decide)
      (Narrowing.promised.substituted_all _) declares
    have declares := Narrowing.listed.declares_kept (by decide)
      (Narrowing.listed.substituted_all _) declares
    have declares := Narrowing.recorded.declares_kept (by decide)
      (Narrowing.recorded.substituted_all _) declares
    exact declares.not_untouched (untouched_of_narrow_eq same)
  · intro apart
    exact narrow_of_untouched (untouched_narrow apart)

theorem mend_mend_eq_iff (content : String) :
    mend (mend content) = mend content ↔ ¬ Chained content.toList := by
  rw [← narrow_narrow_eq_iff]
  simp [mend, String.ext_iff]

/-- A second pass over a text changes nothing just if no two annotations touch. So a second batch
over a tree changes no file, in its report as in the tree, just if there is no such text among the
source files. -/
theorem second_narrowing_keeps_iff {root : Path} (absolute : root.isAbsolute = true)
    (extensions exclude : List String) {tree : Node} (named : tree.WellNamed) :
    let w := Workplace.ofRoot root extensions exclude
    let last := (w.runContent remedy tree).2
    let apart := ∀ path ∈ w.sourceFiles tree, ∀ content, tree.readText? path = some content →
      ¬ Chained content.toList
    (∀ content, remedy.mend (remedy.mend content) = remedy.mend content ↔
        ¬ Chained content.toList) ∧
      ((w.runContent remedy last).1.report.filesChanged = 0 ↔ apart) ∧
      ((w.runContent remedy last).2 = last ↔ apart) := by
  intro w last apart
  have texts : ∀ content, remedy.mend (remedy.mend content) = remedy.mend content ↔
      ¬ Chained content.toList := mend_mend_eq_iff
  have again := Workplace.runContent_again absolute extensions exclude remedy named
  simp only [texts] at again
  exact ⟨texts, again⟩

/-- In one of two files the annotations touch. A batch for both of them has to be run again, and a
batch that leaves this file out has not. -/
theorem second_narrowing_keeps_iff_mixed :
    let root : Path := ⟨"/"⟩
    let tree : Node := .dir [("a.ts", .file "let x: any = f(y as any[]);".toUTF8),
      ("b.ts", .file "let x: any =: any;".toUTF8)]
    let both := Workplace.ofRoot root ["ts"] []
    let one := Workplace.ofRoot root ["ts"] ["b"]
    root.isAbsolute = true ∧ tree.WellNamed ∧
      both.sourceFiles tree = [⟨"/a.ts"⟩, ⟨"/b.ts"⟩] ∧ one.sourceFiles tree = [⟨"/a.ts"⟩] ∧
      (both.runContent remedy (both.runContent remedy tree).2).1.report.filesChanged ≠ 0 ∧
      (one.runContent remedy (one.runContent remedy tree).2).1.report.filesChanged = 0 := by
  intro root tree both one
  have absolute : root.isAbsolute = true := by decide
  have named : tree.WellNamed :=
    .dir (by decide) (by simp [Path.IsName]) (by simp [Node.WellNamed.leaf])
  have atRoot : tree.locate [] root = .ok [] := by
    have moves : Move.ofText root.text = [.stay] := by decide
    rw [Node.locate_eq_ok_iff absolute, moves]
    simp [Node.follow, tree, Node.at?]
  have files (exclude names : List String)
      (walked : tree.sources ⟨["ts"], exclude⟩ [] = names.map ([·]))
      (sorted : (names.map ([·])).Pairwise fun a b => Node.namesLe a b = true) :
      (Workplace.ofRoot root ["ts"] exclude).sourceFiles tree =
        names.map fun name => root.join ⟨String.intercalate "/" [name]⟩ := by
    have top : (Workplace.ofRoot root ["ts"] exclude).scope.root = root :=
      show root.normalize = root by decide
    have unfolded : (Workplace.ofRoot root ["ts"] exclude).sourceFiles tree =
        (tree.sources ⟨["ts"], exclude⟩ [] |>.mergeSort Node.namesLe).map fun below =>
          root.join ⟨String.intercalate "/" below⟩ := by
      rw [Workplace.sourceFiles, top, Node.sourceFiles, atRoot]
      rfl
    rw [unfolded, walked, List.mergeSort_of_pairwise sorted, List.map_map]
    rfl
  have located (name : String) (h : Path.IsPlace ([] ++ [name])) {bytes : ByteArray}
      (there : tree.at? ([] ++ [name]) = some (.file bytes)) :
      tree.locate [] (.ofPlace ([] ++ [name])) = .ok ([] ++ [name]) :=
    Node.locate_below h atRoot there (by simp)
  have a : tree.locate [] ⟨"/a.ts"⟩ = .ok ["a.ts"] :=
    located "a.ts" (by simp [Path.IsPlace, Path.IsName]) rfl
  have b : tree.locate [] ⟨"/b.ts"⟩ = .ok ["b.ts"] :=
    located "b.ts" (by simp [Path.IsPlace, Path.IsName]) rfl
  have filesBoth : both.sourceFiles tree = [⟨"/a.ts"⟩, ⟨"/b.ts"⟩] :=
    (files [] ["a.ts", "b.ts"] (by decide) (by decide)).trans (by decide)
  have filesOne : one.sourceFiles tree = [⟨"/a.ts"⟩] :=
    (files ["b"] ["a.ts"] (by decide) (by decide)).trans (by decide)
  obtain ⟨texts, report, _⟩ := second_narrowing_keeps_iff absolute ["ts"] [] named
  obtain ⟨_, report', _⟩ := second_narrowing_keeps_iff absolute ["ts"] ["b"] named
  have second : Declared ": any;".toList :=
    declared_iff.mpr ⟨[' '], [], [';'], by decide, by decide, .semicolon, by decide⟩
  have touch : Chained "let x: any =: any;".toList :=
    ⟨"let x".toList, [' '], [' '], " any;".toList, by decide, by decide, by decide, second⟩
  have apart : ¬ Chained "let x: any = f(y as any[]);".toList := (texts _).mp (by decide)
  refine ⟨absolute, named, filesBoth, filesOne, ?_, ?_⟩
  · intro none
    have listed : ⟨"/b.ts"⟩ ∈ both.sourceFiles tree := by simp [filesBoth]
    exact report.mp none _ listed _ (Node.readText?_of_locate b rfl) touch
  · refine report'.mpr fun path listed content found => ?_
    have listed : path ∈ one.sourceFiles tree := listed
    obtain rfl : path = ⟨"/a.ts"⟩ := by simpa [filesOne] using listed
    rw [Node.readText?_of_locate a rfl] at found
    exact Option.some.inj found ▸ apart

/-- The first pass takes the second colon with the first annotation, so that only a second pass
finds the other one. -/
theorem touching_annotations_narrowed_in_turn :
    remedy.mend ": any =: any;" = ": unknown =: any;" ∧
      remedy.mend (remedy.mend ": any =: any;") = ": unknown =: unknown;" := by
  decide

end LintRepair.Annotation
