import LintRepair.Proofs.ParameterFound
import LintRepair.Proofs.ParameterMarks

/-!
What mending can do to a line. Of all the places where the name stands, with or
without its mark, some place is always found, and at most one of them gets a
mark.

* `Shape.places_ne_nil`: where a word stands, a place is found;
* `sites_eq_nil_iff`: there is no site just where the name stands nowhere;
* `mendLine_eq_some`: a mended line is the line, or has one mark more;
* `Whole.kept`: a mark leaves every longer identifier as it is.
-/

namespace LintRepair.Parameter

variable {name line : List Char}

theorem closing_not_joins : ∀ c ∈ marked.closings, joinsName c = false := by
  simp only [marked, List.forall_mem_cons]
  exact ⟨by decide, by decide, by decide, by simp⟩

/-! ## Sites and where the name stands -/

theorem standsAt_of_cut {word before after : List Char} (free : Free before)
    (opens : Opens word marked.closings after) : StandsAt word (before ++ after) before.length := by
  refine ⟨?_, ?_⟩
  · rwa [List.take_left]
  · rwa [List.drop_left]

theorem Site.Sound.standsAt {word : List Char} {site : Site}
    (h : site.Sound word Parameter.marked.closings line) :
    StandsAt word line site.before.length := by
  rw [h.cut]
  exact standsAt_of_cut h.free h.opens

theorem Shape.sites_sound_any {shape : Shape} (known : shape ∈ shapes) {site : Site}
    (h : site ∈ shape.sites name line) :
    site.marked = false ∧ site.Sound name Parameter.marked.closings line := by
  obtain ⟨plain, sound, _⟩ := sites_sound known h
  have opens := sound.opens.mono (closing_of_shape shape known)
  exact ⟨plain, sound.cut, sound.offset, sound.free, opens⟩

theorem sites_sound {site : Site} (h : site ∈ sites name line) :
    site.Sound (if site.marked then '_' :: name else name) marked.closings line := by
  rw [sites_eq] at h
  rcases List.mem_append.mp h with found | found
  · obtain ⟨mark, sound⟩ := markedSites_sound found
    rwa [mark]
  · obtain ⟨shape, known, found⟩ := List.mem_flatMap.mp found
    obtain ⟨plain, sound⟩ := Shape.sites_sound_any known found
    rwa [plain]

/-- Where a word stands, it is found there or at a place that reaches up to there. -/
theorem Shape.places_ne_nil (shape : Shape) {p : Nat}
    (h : Stands (shape.opening ++ name) shape.closings line p) : shape.places name line ≠ [] := by
  rcases shape.finds_or_covered h with found | ⟨_, _, found, _⟩ <;> exact List.ne_nil_of_mem found

theorem sites_ne_nil {p : Nat} (h : StandsAt name line p ∨ StandsAt ('_' :: name) line p) :
    sites name line ≠ [] := by
  rw [sites_eq]
  rcases h with ⟨free, c, closing, rest, there⟩ | ⟨free, opens⟩
  · -- The shape that is nothing but this end finds a place.
    have known : ⟨[], [c]⟩ ∈ shapes := List.mem_of_mem_take (mem_shapesUpTo c closing)
    have stands : Stands name [c] line p := ⟨free, c, List.mem_singleton_self c, rest, there⟩
    obtain ⟨place, found⟩ := List.exists_mem_of_ne_nil _ (Shape.places_ne_nil ⟨[], [c]⟩ stands)
    apply List.append_ne_nil_of_right_ne_nil
    exact List.ne_nil_of_mem (List.mem_flatMap.mpr ⟨_, known, List.mem_map.mpr ⟨place, found, rfl⟩⟩)
  · have stands : Stands ('_' :: name) marked.closings line p := ⟨free, opens⟩
    obtain ⟨place, found⟩ := List.exists_mem_of_ne_nil _ (marked.places_ne_nil stands)
    apply List.append_ne_nil_of_left_ne_nil
    exact List.ne_nil_of_mem (List.mem_map.mpr ⟨place, found, rfl⟩)

theorem sites_eq_nil_iff : sites name line = [] ↔
    ∀ p, ¬ StandsAt name line p ∧ ¬ StandsAt ('_' :: name) line p := by
  constructor
  · intro none p
    constructor
    · exact fun plain => sites_ne_nil (.inl plain) none
    · exact fun mark => sites_ne_nil (.inr mark) none
  · intro nowhere
    apply List.eq_nil_iff_forall_not_mem.mpr
    intro site found
    have stands := (sites_sound found).standsAt
    split at stands
    · exact (nowhere _).2 stands
    · exact (nowhere _).1 stands

/-! ## Lines with one mark more -/

theorem mendLine_eq_none_iff {column : Nat} : mendLine line name column = none ↔
    name.head? ≠ some '_' ∧ ∀ p, ¬ StandsAt name line p ∧ ¬ StandsAt ('_' :: name) line p := by
  unfold mendLine
  split
  · rename_i marked
    simp [marked]
  · rename_i unmarked
    rw [Option.map_eq_none_iff, closest?_eq_none_iff, sites_eq_nil_iff]
    simp [unmarked]

/-- A line is kept only if the name is marked already, and gets one mark otherwise. -/
theorem mendLine_eq_some {column : Nat} {mended : List Char}
    (h : mendLine line name column = some mended) :
    mended = line ∧ (name.head? = some '_' ∨ ∃ p, StandsAt ('_' :: name) line p) ∨
      ∃ p, StandsAt name line p ∧ mended = line.take p ++ '_' :: line.drop p := by
  unfold mendLine at h
  split at h
  · rename_i marked
    cases h
    exact .inl ⟨rfl, .inl marked⟩
  · obtain ⟨site, chosen, rfl⟩ := Option.map_eq_some_iff.mp h
    have sound := sites_sound (mem_of_closest? chosen)
    split
    · rename_i mark
      rw [if_pos mark] at sound
      exact .inl ⟨rfl, .inr ⟨_, sound.standsAt⟩⟩
    · rename_i plain
      rw [if_neg plain] at sound
      refine .inr ⟨_, sound.standsAt, ?_⟩
      rw [sound.cut, List.take_left, List.drop_left]

/-- An identifier in full: nothing on either side joins with it. -/
structure Whole (before word after : List Char) : Prop where
  joined : Joined word
  free : Free before
  ends : ∀ c ∈ after.head?, joinsName c = false

theorem free_append_cons {before more : List Char} {c : Char} (ne : more ≠ []) :
    Free (before ++ c :: more) ↔ Free (before ++ more) := by
  have last (s : List Char) : (s ++ more).getLast? = more.getLast? := by
    rw [List.getLast?_append, List.getLast?_eq_some_getLast ne]
    rfl
  rw [List.append_cons, Free, Free, last, last]

/-- A name does not stand at the start of a longer identifier, since something that joins follows
it there. -/
theorem Whole.not_opens {before word after : List Char} (whole : Whole before word after)
    (inside : name <:+: word) (longer : name ≠ word) :
    ¬ Opens name marked.closings (word ++ after) := by
  rintro ⟨c, closing, rest, same⟩
  have shorter : name.length < word.length := by
    have bound := inside.length_le
    have differs : name.length ≠ word.length := fun h => longer (inside.eq_of_length h)
    omega
  have begins : name ++ [c] <+: word := by
    refine List.prefix_of_prefix_length_le ⟨rest, ?_⟩ (List.prefix_append word after) ?_
    · rw [same, List.append_assoc]
      rfl
    · simp
      omega
  have joins := whole.joined c (begins.subset (by simp))
  rw [closing_not_joins c closing] at joins
  cases joins

/-- Marking a place of the name leaves a longer identifier that contains the name as it is. -/
theorem Whole.kept {before word after : List Char} (whole : Whole before word after)
    (inside : name <:+: word) (longer : name ≠ word) {p : Nat}
    (stands : StandsAt name (before ++ (word ++ after)) p) :
    ∃ before' after', (before ++ (word ++ after)).take p ++
        '_' :: (before ++ (word ++ after)).drop p = before' ++ (word ++ after') ∧
      Whole before' word after' ∧ (before' = before ∨ after' = after) := by
  obtain ⟨free, opens⟩ := stands
  have nonempty : word ≠ [] := by
    rintro rfl
    exact longer (List.eq_nil_of_infix_nil inside)
  have cut := List.take_append_drop p (before ++ (word ++ after))
  generalize (before ++ (word ++ after)).take p = first at *
  generalize (before ++ (word ++ after)).drop p = second at *
  rcases List.append_eq_append_iff.mp cut with ⟨more, rfl, rfl⟩ | ⟨more, rfl, behind⟩
  · -- The mark stands left of the identifier.
    by_cases here : more = []
    · rw [here, List.nil_append] at opens
      exact absurd opens (whole.not_opens inside longer)
    · refine ⟨first ++ '_' :: more, after, by simp, ⟨whole.joined, ?_, whole.ends⟩, .inr rfl⟩
      exact (free_append_cons here).mpr whole.free
  · rcases List.append_eq_append_iff.mp behind with ⟨more', rfl, rfl⟩ | ⟨more', rfl, rfl⟩
    · -- It would stand right behind the identifier, or further on.
      by_cases here : more' = []
      · rw [here, List.append_nil] at free
        exact absurd free.of_append (whole.joined.not_free nonempty)
      · refine ⟨before, more' ++ '_' :: second, by simp, ⟨whole.joined, whole.free, ?_⟩, .inl rfl⟩
        rw [List.head?_append_of_ne_nil _ here]
        intro c first
        apply whole.ends c
        rw [List.head?_append_of_ne_nil _ here]
        exact first
    · -- It would stand inside, where the character before it joins.
      by_cases start : more = []
      · subst start
        exact absurd opens (whole.not_opens inside longer)
      · have part : Joined more := fun c hc => whole.joined c (List.mem_append_left _ hc)
        exact absurd free.of_append (part.not_free start)

theorem mend_of_captured {f : Finding} {name : String} (captured : f.captured = some name)
    (line : String) :
    mend line f = (mendLine line.toList name.toList f.column).map String.ofList := by
  rw [mend, captured, Option.map_eq_bind]
  rfl

/-- Mending a line has no answer just where the name stands nowhere on it. Otherwise the line is
kept, since the name is marked already, or one place of the name is marked; longer identifiers
stay. -/
theorem marks_one_place_at_most (line : String) {f : Finding} {name : String}
    (captured : f.captured = some name) :
    (remedy.mend line f = none ↔ name.toList.head? ≠ some '_' ∧
      ∀ p, ¬ StandsAt name.toList line.toList p ∧ ¬ StandsAt ('_' :: name.toList) line.toList p) ∧
    ∀ mended, remedy.mend line f = some mended →
      (mended = line ∧ (name.toList.head? = some '_' ∨
          ∃ p, StandsAt ('_' :: name.toList) line.toList p) ∨
        ∃ p, StandsAt name.toList line.toList p ∧
          mended.toList = line.toList.take p ++ '_' :: line.toList.drop p) ∧
      ∀ before word after, line.toList = before ++ (word ++ after) → Whole before word after →
        name.toList <:+: word → name.toList ≠ word →
        ∃ before' after', mended.toList = before' ++ (word ++ after') ∧
          Whole before' word after' ∧ (before' = before ∨ after' = after) := by
  have mends : remedy.mend line f =
      (mendLine line.toList name.toList f.column).map String.ofList :=
    mend_of_captured captured line
  rw [mends]
  refine ⟨?_, ?_⟩
  · rw [Option.map_eq_none_iff, mendLine_eq_none_iff]
  · intro mended answer
    obtain ⟨chars, mended', rfl⟩ := Option.map_eq_some_iff.mp answer
    rw [String.toList_ofList]
    rcases mendLine_eq_some mended' with ⟨rfl, already⟩ | ⟨p, stands, rfl⟩
    · refine ⟨.inl ⟨String.ofList_toList, already⟩, ?_⟩
      intro before word after cut whole _ _
      exact ⟨before, after, cut, whole, .inl rfl⟩
    · refine ⟨.inr ⟨p, stands, rfl⟩, ?_⟩
      intro before word after cut whole inside longer
      rw [cut] at stands ⊢
      exact whole.kept inside longer stands

/-- Two longer identifiers end in the name or begin with it, and the column points behind the
line. -/
theorem marks_one_place_at_most_among_longer :
    let line := "f(myreq: T, req, req_id)"
    let f : Finding := ⟨.unusedParameter, ⟨"a.ts"⟩, 1, 99, some "req"⟩
    f.captured = some "req" ∧ remedy.mend line f = some "f(myreq: T, _req, req_id)" ∧
      (∃ p, StandsAt "req".toList line.toList p ∧ "f(myreq: T, _req, req_id)".toList =
        line.toList.take p ++ '_' :: line.toList.drop p) ∧
      Whole "f(".toList "myreq".toList ": T, req, req_id)".toList ∧
      ∃ before' after', "f(myreq: T, _req, req_id)".toList =
          before' ++ ("myreq".toList ++ after') ∧ Whole before' "myreq".toList after' ∧
        (before' = "f(".toList ∨ after' = ": T, req, req_id)".toList) := by
  intro line f
  have mends : remedy.mend line f = some "f(myreq: T, _req, req_id)" := by decide +kernel
  have whole : Whole "f(".toList "myreq".toList ": T, req, req_id)".toList :=
    ⟨by decide, by decide, fun c hc => by cases hc; decide⟩
  obtain ⟨_, answers⟩ := marks_one_place_at_most line (rfl : f.captured = some "req")
  obtain ⟨shape, kept⟩ := answers _ mends
  refine ⟨rfl, mends, ?_, whole, ?_⟩
  · exact shape.resolve_left fun same => absurd same.1 (by decide)
  · exact kept _ _ _ (by decide) whole (by decide) (by decide)

end LintRepair.Parameter
