import LintRepair.Proofs.CatchEffect

/-!
Mending a line with catch clauses once more. Every run drops one binding, so a
second run for the same finding keeps the line just if no clause is left for it.

* `beside`: two clauses do not overlap, unless there is a brace in the name;
* `Binding.ne_of_dropped` and `Binding.dropped_of_ne`: dropping a binding leaves all
  others and adds none;
* `second_mending_keeps_iff`: so a second run keeps the line just if it had no two
  clauses for the name.
-/

namespace LintRepair.CatchClause

variable {name line : List Char}

/-! ## Clauses beside each other -/

/-- Of two words with a brace at their end and nowhere else, one comes before the other, or both end
at the same place. -/
theorem beside {before body after before' body' after' : List Char} (clean : '{' ∉ body)
    (clean' : '{' ∉ body')
    (same : before ++ (body ++ '{' :: after) = before' ++ (body' ++ '{' :: after')) :
    (∃ between, before = before' ++ (body' ++ '{' :: between)) ∨
      (∃ between, before' = before ++ (body ++ '{' :: between)) ∨ after = after' := by
  -- The one that ends first ends before the other one begins.
  have earlier {p u s p' u' s' more : List Char} (clean : '{' ∉ u')
      (ends : p' ++ u' = (p ++ u) ++ more) (rest : '{' :: s = more ++ '{' :: s') :
      (∃ between, p' = p ++ (u ++ '{' :: between)) ∨ s = s' := by
    cases more with
    | nil => exact .inr (List.cons.inj rest).2
    | cons c more =>
      obtain ⟨rfl, _⟩ := List.cons.inj rest
      have within : (p ++ u) ++ ['{'] <+: p' ++ u' := ⟨more, by rw [ends]; simp⟩
      obtain ⟨between, rfl⟩ := prefix_of_not_mem clean within
      exact .inl ⟨between, by simp⟩
  rw [← List.append_assoc, ← List.append_assoc] at same
  rcases List.append_eq_append_iff.mp same with ⟨more, ends, rest⟩ | ⟨more, ends, rest⟩
  · exact .inr (earlier clean' ends rest)
  · rcases earlier clean ends rest with sooner | together
    · exact .inl sooner
    · exact .inr (.inr together.symm)

theorem Clause.ends {clause : List Char} (h : Clause name clause) (clean : '{' ∉ name) : ∃ body,
    clause = body ++ ['{'] ∧ '{' ∉ body := by
  obtain ⟨body, rfl, letters⟩ := h.letters
  refine ⟨body, rfl, fun member => ?_⟩
  rcases letters _ member with inName | other
  · exact clean inName
  · revert other
    decide

theorem Clause.closing {clause : List Char} (h : Clause name clause) :
    ∃ body gap, Blank gap ∧ clause = (body ++ ')' :: gap) ++ ['{'] := by
  obtain @⟨gap, gap', note, _, _, _, _, @⟨gap₁, gap₂, _, blank⟩⟩ := h
  exact ⟨"catch".toList ++ (gap ++ '(' :: (gap' ++ (name ++ (note ++ gap₁)))), gap₂, blank, by simp⟩

/-- No clause with a binding ends in one without. -/
theorem Clause.not_bare {clause : List Char} (h : Clause name clause) (before stem : List Char) :
    before ++ clause ≠ stem ++ "catch \x7b".toList := by
  obtain ⟨body, gap, blank, rfl⟩ := h.closing
  intro same
  have bare : stem ++ "catch \x7b".toList = ((stem ++ "catc".toList) ++ 'h' :: [' ']) ++ ['{'] := by
    simp
  rw [bare, ← List.append_assoc, ← List.append_assoc] at same
  have words := congrArg (List.rdropWhile isSpace) (List.append_cancel_right same)
  have space : Blank [' '] := by decide
  rw [blank.rdropWhile_ink (by decide), space.rdropWhile_ink (by decide)] at words
  have last := congrArg List.getLast? words
  rw [List.getLast?_concat, List.getLast?_concat] at last
  cases last

theorem Clause.count_parenthesis {clause : List Char} (h : Clause name clause) :
    clause.count '(' = name.count '(' + 1 := by
  obtain @⟨gap, gap', note, _, blank, blank', noted, @⟨gap₁, gap₂, blank₁, blank₂⟩⟩ := h
  have none {s : List Char} (h : Blank s) : s.count '(' = 0 :=
    List.count_eq_zero.mpr (h.not_mem (by decide))
  have ofNote : note.count '(' = 0 := by
    cases noted with
    | bare => rfl
    | typed blank blank' known =>
      rcases known with rfl | rfl
      · simp [none blank, none blank']
      · simp [none blank, none blank']
  simp [none blank, none blank', none blank₁, none blank₂, ofNote]

/-- Clauses for one name that end at the same place begin at the same place. -/
theorem Clause.eq_nil_of_suffix {clause clause' passed : List Char} (h : Clause name clause)
    (h' : Clause name clause') (same : clause = passed ++ clause') : passed = [] := by
  by_contra ne
  have parentheses := congrArg (List.count '(') same
  rw [List.count_append, h.count_parenthesis, h'.count_parenthesis] at parentheses
  have absent : '(' ∉ passed := List.count_eq_zero.mp (by omega)
  obtain ⟨inner, more, blank, rfl⟩ := h.opening
  obtain ⟨inner', more', _, rfl⟩ := h'.opening
  have within : "catch".toList ++ (inner ++ ['(']) <+: passed :=
    List.prefix_of_prefix_length_le ⟨more, by simp⟩ ⟨_, same.symm⟩ (opening_length_le blank ne same)
  exact absent (within.subset (by simp))

/-! ## The other clauses of the line -/

namespace Binding

theorem eq_of_after {b b' : Binding name line} (h : b.after = b'.after) : b = b' := by
  have cut : b.before ++ (b.clause ++ b.after) = b'.before ++ (b'.clause ++ b'.after) := by
    rw [← b.cut, ← b'.cut]
  rw [h, ← List.append_assoc, ← List.append_assoc] at cut
  apply ext_length
  rcases List.append_eq_append_iff.mp (List.append_cancel_right cut) with
    ⟨passed, before, clause⟩ | ⟨passed, before, clause⟩
  · rw [before, b.shape.eq_nil_of_suffix b'.shape clause, List.append_nil]
  · rw [before, b'.shape.eq_nil_of_suffix b.shape clause, List.append_nil]

theorem hasBare_dropped (b : Binding name line) : HasBare b.dropped := by
  obtain ⟨stem, gap, fill, cut⟩ := b.exists_cut
  have bare : Bare "catch \x7b".toList := .mk (show Blank [' '] by decide)
  exact ⟨stem ++ fill, _, b.after, by rw [cut.dropped, List.append_assoc], cut.start, bare⟩

theorem getLast?_brace (s t : List Char) : (s ++ '{' :: t).getLast? = ('{' :: t).getLast? := by
  rw [List.getLast?_append, List.getLast?_cons, Option.some_or]

/-- Two lines that differ only in a word with a brace at its end, and in white space before it, have
the same clauses beside this word. -/
theorem carry {stem gap gap' word word' after line' : List Char} (clean : '{' ∉ name)
    (blank : Blank gap) (cleanWord : '{' ∉ word)
    (cut : line = stem ++ (gap ++ (word ++ '{' :: after)))
    (cut' : line' = stem ++ (gap' ++ (word' ++ '{' :: after)))
    (b : Binding name line) (apart : b.after ≠ after) :
    ∃ b' : Binding name line', b'.after ≠ after := by
  obtain ⟨body, clause, cleanBody⟩ := b.shape.ends clean
  have whole : (stem ++ gap) ++ (word ++ '{' :: after) = b.before ++ (body ++ '{' :: b.after) := by
    have here := cut.symm.trans b.cut
    rw [clause] at here
    simpa using here
  rcases beside cleanWord cleanBody whole with ⟨between, left⟩ | ⟨between, right⟩ | together
  · have within : (b.before ++ body) ++ ['{'] <+: stem ++ gap := ⟨between, by rw [left]; simp⟩
    obtain ⟨rest, rfl⟩ := prefix_of_not_mem (blank.not_mem (by decide)) within
    refine ⟨⟨b.before, b.clause, rest ++ (gap' ++ (word' ++ '{' :: after)), ?_, b.start, b.shape⟩,
      ?_⟩
    · rw [cut', clause]
      simp
    · intro same
      have lengths := congrArg List.length same
      simp at lengths
      omega
  · have behind : after = between ++ (b.clause ++ b.after) := by
      rw [right] at whole
      rw [clause]
      simpa using whole
    refine ⟨⟨stem ++ (gap' ++ (word' ++ '{' :: between)), b.clause, b.after, ?_, ?_, b.shape⟩,
      apart⟩
    · rw [cut', behind]
      simp
    · have start := b.start
      rw [right, ← List.append_assoc, getLast?_brace] at start
      rwa [← List.append_assoc, ← List.append_assoc, getLast?_brace]
  · exact absurd together.symm apart

theorem Cut.line_eq {b : Binding name line} {stem gap fill body : List Char}
    (cut : b.Cut stem gap fill) (clause : b.clause = body ++ ['{']) :
    line = stem ++ (gap ++ (body ++ '{' :: b.after)) := by
  have whole := b.cut
  rw [cut.before, clause] at whole
  simpa using whole

theorem Cut.dropped_eq {b : Binding name line} {stem gap fill : List Char}
    (cut : b.Cut stem gap fill) :
    b.dropped = stem ++ (fill ++ ("catch ".toList ++ '{' :: b.after)) := by
  rw [cut.dropped]
  simp

/-- A clause of the line with a binding dropped was there before, and was another one. -/
theorem ne_of_dropped (clean : '{' ∉ name) (b : Binding name line) (b' : Binding name b.dropped) :
    ∃ other : Binding name line, other ≠ b := by
  obtain ⟨stem, gap, fill, cut⟩ := b.exists_cut
  obtain ⟨body, clause, _⟩ := b.shape.ends clean
  have apart : b'.after ≠ b.after := by
    intro same
    have here := cut.dropped.symm.trans b'.cut
    rw [same, ← List.append_assoc, ← List.append_assoc, ← List.append_assoc] at here
    exact b'.shape.not_bare b'.before (stem ++ fill) (List.append_cancel_right here).symm
  obtain ⟨other, differs⟩ :=
    carry clean cut.filled (by decide) cut.dropped_eq (cut.line_eq clause) b' apart
  refine ⟨other, ?_⟩
  rintro rfl
  exact differs rfl

/-- Dropping a binding leaves every other clause. -/
theorem dropped_of_ne (clean : '{' ∉ name) {b other : Binding name line} (h : other ≠ b) :
    Nonempty (Binding name b.dropped) := by
  obtain ⟨stem, gap, fill, cut⟩ := b.exists_cut
  obtain ⟨body, clause, cleanBody⟩ := b.shape.ends clean
  have apart : other.after ≠ b.after := fun same => h (eq_of_after same)
  obtain ⟨b', _⟩ :=
    carry clean cut.blank cleanBody (cut.line_eq clause) cut.dropped_eq other apart
  exact ⟨b'⟩

end Binding

/-! ## The second run -/

variable {mended : List Char}

theorem mendLine_again_iff (h : mendLine line name = some mended) :
    mendLine mended name = some mended ↔ IsEmpty (Binding name mended) := by
  have bare : HasBare mended := by
    rcases mendLine_cases name line with ⟨b, _, dropped⟩ | ⟨_, kept⟩
    · obtain rfl := Option.some.inj (h.symm.trans dropped)
      exact b.hasBare_dropped
    · obtain ⟨_, found, rfl⟩ := Option.map_eq_some_iff.mp (kept.symm.trans h)
      exact hasBare_iff.mp (by rw [found]; rfl)
  rw [mendLine_eq_self_iff, and_iff_left bare]

theorem isEmpty_mended_iff (clean : '{' ∉ name) (h : mendLine line name = some mended) :
    IsEmpty (Binding name mended) ↔ Subsingleton (Binding name line) := by
  rcases mendLine_cases name line with ⟨b, _, dropped⟩ | ⟨empty, kept⟩
  · obtain rfl := Option.some.inj (h.symm.trans dropped)
    constructor
    · intro none
      have only (other : Binding name line) : other = b := by
        by_contra differs
        obtain ⟨b'⟩ := Binding.dropped_of_ne clean differs
        exact none.elim b'
      exact ⟨fun x y => (only x).trans (only y).symm⟩
    · intro only
      refine ⟨fun b' => ?_⟩
      obtain ⟨other, differs⟩ := b.ne_of_dropped clean b'
      exact differs (Subsingleton.elim other b)
  · obtain ⟨_, _, rfl⟩ := Option.map_eq_some_iff.mp (kept.symm.trans h)
    exact iff_of_true empty inferInstance

/-- A line that was mended stays as it is when it is mended for the same finding again just if no
clause with the name is left on it. For a name without an opening brace this is so just if the line
had at most one such clause in the first place. -/
theorem second_mending_keeps_iff {line mended : String} {f : Finding} {name : String}
    (captured : f.captured = some name) (h : remedy.mend line f = some mended) :
    (remedy.mend mended f = some mended ↔ IsEmpty (Binding name.toList mended.toList)) ∧
    ('{' ∉ name.toList →
      (remedy.mend mended f = some mended ↔ Subsingleton (Binding name.toList line.toList))) := by
  rw [mend_of_captured captured] at h ⊢
  obtain ⟨chars, mends, rfl⟩ := Option.map_eq_some_iff.mp h
  rw [String.toList_ofList]
  have again : (mendLine chars name.toList).map String.ofList = some (.ofList chars) ↔
      IsEmpty (Binding name.toList chars) := by
    rw [← mendLine_again_iff mends]
    constructor
    · intro same
      obtain ⟨other, found, eq⟩ := Option.map_eq_some_iff.mp same
      rw [found, String.ofList_injective eq]
    · intro same
      rw [same, Option.map_some]
  exact ⟨again, fun clean => again.trans (isEmpty_mended_iff clean mends)⟩

/-- The other clause of the line binds a longer name. In the second line the clause without a
binding completes a name, so that a clause is found that was not there before. -/
theorem second_mending_keeps_iff_longer :
    let line := "\x7d catch (e) \x7b \x7d catch (err) \x7b"
    let mended := "\x7d catch \x7b \x7d catch (err) \x7b"
    let f : Finding := ⟨.unusedCatchBinding, ⟨"a.ts"⟩, 1, 10, some "e"⟩
    let other := "catch (catch (catch \x7b) \x7b) \x7b"
    let g : Finding := ⟨.unusedCatchBinding, ⟨"a.ts"⟩, 1, 15, some "catch \x7b"⟩
    (f.captured = some "e" ∧ remedy.mend line f = some mended ∧ '{' ∉ "e".toList ∧
      remedy.mend mended f = some mended ∧ Subsingleton (Binding "e".toList line.toList)) ∧
    g.captured = some "catch \x7b" ∧ remedy.mend other g = some "catch (catch \x7b) \x7b" ∧
      ¬ IsEmpty (Binding "catch \x7b".toList "catch (catch \x7b) \x7b".toList) ∧
      remedy.mend "catch (catch \x7b) \x7b" g ≠ some "catch (catch \x7b) \x7b" := by
  intro line mended f other g
  have first : remedy.mend line f = some mended := by decide +kernel
  have again : remedy.mend mended f = some mended := by decide +kernel
  have second : remedy.mend other g = some "catch (catch \x7b) \x7b" := by decide +kernel
  have clean : '{' ∉ "e".toList := by decide
  have left : ¬ IsEmpty (Binding "catch \x7b".toList "catch (catch \x7b) \x7b".toList) := by
    intro empty
    exact empty.elim ⟨[], "catch (catch \x7b) \x7b".toList, [], by decide, by decide, by decide⟩
  refine ⟨⟨rfl, first, clean, again, ?_⟩, rfl, second, left, ?_⟩
  · exact ((second_mending_keeps_iff rfl first).2 clean).mp again
  · rwa [Ne, (second_mending_keeps_iff rfl second).1]

/-- Of two clauses for one name each run drops one. -/
theorem two_bindings_dropped_in_turn :
    let f : Finding := ⟨.unusedCatchBinding, ⟨"a.ts"⟩, 1, 10, some "e"⟩
    remedy.mend "\x7d catch (e) \x7b \x7d catch (e) \x7b" f =
        some "\x7d catch \x7b \x7d catch (e) \x7b" ∧
      remedy.mend "\x7d catch \x7b \x7d catch (e) \x7b" f =
        some "\x7d catch \x7b \x7d catch \x7b" := by
  decide +kernel

end LintRepair.CatchClause
