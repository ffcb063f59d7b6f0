import LintRepair.Proofs.ParameterEffect
import Mathlib.Data.List.Chain

/-!
Mending a line for a finding once more. The mark has moved the rest of the line,
and with it the places that were found and those that were not.

* `stands_left_iff` and `opens_before_mark`: where the name stands beside a new
  mark;
* `closer_left` and `closer_right`: how the distances to the column change;
* `mendLine_eq_self_iff`: a line is kept just if a place with a mark is closest to
  the column;
* `Chosen.exists_closer`: after a mark was set no place without one is closer to the
  column than all places with one, unless places touch each other and the mark
  stands left of the column;
* `mended_line_stays_iff`: so much for mending a line twice.
-/

namespace LintRepair.Parameter

variable {name line : List Char}

/-! ## Words around a new mark -/

section
variable {closings first second x y : List Char}

theorem Free.drop (h : Free x) (q : Nat) : Free (x.drop q) := by
  rw [← List.take_append_drop q x] at h
  exact h.of_append

/-- A word that begins before a place where a name may begin, and not only with what opens it, ends
before that place. -/
theorem opens_within (opening : List Char) (joined : Joined name) (free : Free x)
    (long : opening.length < x.length) (h : Opens (opening ++ name) closings (x ++ y)) :
    ∃ c ∈ closings, ∃ rest, x = opening ++ name ++ c :: rest := by
  obtain ⟨c, closing, rest, same⟩ := h
  rcases List.append_eq_append_iff.mp same with ⟨more, word, _⟩ | ⟨more, rfl, behind⟩
  · -- Otherwise the place would be inside of the name or right behind it, where nothing is free.
    obtain ⟨start, rfl⟩ : opening <+: x :=
      List.prefix_of_prefix_length_le ⟨name, rfl⟩ ⟨more, word.symm⟩ (Nat.le_of_lt long)
    have ne : start ≠ [] := by
      rintro rfl
      simp at long
    obtain rfl : name = start ++ more := by simpa using word
    have part : Joined start := fun d hd => joined d (List.mem_append_left _ hd)
    exact absurd free.of_append (part.not_free ne)
  · cases more with
    | nil =>
      have ne : name ≠ [] := by
        rintro rfl
        simp at long
      rw [List.append_nil] at free
      exact absurd free.of_append (joined.not_free ne)
    | cons d more =>
      obtain ⟨rfl, _⟩ := List.cons.inj behind
      exact ⟨c, closing, more, rfl⟩

/-- What stands left of such a place does not depend on what is behind it. -/
theorem stands_left_iff {opening : List Char} (joined : Joined name) (free : Free first) {q : Nat}
    (left : q + opening.length < first.length) (y z : List Char) :
    Stands (opening ++ name) closings (first ++ y) q ↔
      Stands (opening ++ name) closings (first ++ z) q := by
  have half (y z : List Char) (h : Stands (opening ++ name) closings (first ++ y) q) :
      Stands (opening ++ name) closings (first ++ z) q := by
    obtain ⟨start, opens⟩ := h
    rw [List.take_append_of_le_length (by omega)] at start
    rw [List.drop_append_of_le_length (by omega)] at opens
    have rest : Free (first.drop q) := free.drop q
    obtain ⟨c, closing, more, inside⟩ :=
      opens_within opening joined rest (by rw [List.length_drop]; omega) opens
    refine ⟨?_, ?_⟩
    · rwa [List.take_append_of_le_length (by omega)]
    · rw [List.drop_append_of_le_length (by omega), inside]
      exact ⟨c, closing, more ++ z, by simp⟩
  exact ⟨half y z, half z y⟩

/-- An underscore inside of the word stands behind a character that joins. -/
def Seamless (word : List Char) : Prop := word.IsChain fun c d => d = '_' → joinsName c = true

instance (word : List Char) : Decidable (Seamless word) :=
  inferInstanceAs (Decidable (word.IsChain _))

/-- A word that begins before a mark ends before it. -/
theorem opens_before_mark (seamless : Seamless name) (free : Free x) (ne : x ≠ [])
    (h : Opens name marked.closings (x ++ '_' :: y)) : Opens name marked.closings (x ++ y) := by
  obtain ⟨c, closing, rest, same⟩ := h
  have unmarked : c ≠ '_' := by
    rintro rfl
    exact absurd closing (by decide)
  rcases List.append_eq_append_iff.mp same with ⟨more, rfl, behind⟩ | ⟨more, rfl, behind⟩
  · cases more with
    | nil => exact absurd (List.cons.inj behind).1.symm unmarked
    | cons d more =>
      obtain ⟨rfl, _⟩ := List.cons.inj behind
      obtain ⟨start, e, rfl⟩ := List.eq_nil_or_concat' x |>.resolve_left ne
      have joins : joinsName e = true := by
        rw [Seamless, List.append_assoc] at seamless
        exact (List.isChain_append_cons_cons.mp seamless).2.1 rfl
      rw [free_concat, joins] at free
      cases free
  · cases more with
    | nil => exact absurd (List.cons.inj behind).1 unmarked
    | cons d more =>
      obtain ⟨rfl, _⟩ := List.cons.inj behind
      exact ⟨c, closing, more ++ y, by simp⟩

/-- Where a name may begin in a line with a new mark. -/
theorem cut_mark {before after : List Char} (h : before ++ after = first ++ '_' :: second)
    (free : Free before) :
    (∃ x, x ≠ [] ∧ first = before ++ x ∧ after = x ++ '_' :: second) ∨
      before = first ∧ after = '_' :: second ∨
      ∃ z, z ≠ [] ∧ before = first ++ '_' :: z ∧ second = z ++ after := by
  rcases List.append_eq_append_iff.mp h with ⟨x, rfl, rfl⟩ | ⟨z, rfl, behind⟩
  · by_cases here : x = []
    · subst here
      exact .inr (.inl (by simp))
    · exact .inl ⟨x, here, rfl, rfl⟩
  · cases z with
    | nil => exact .inr (.inl (by simpa using behind.symm))
    | cons d z =>
      obtain ⟨rfl, rfl⟩ := List.cons.inj behind
      refine .inr (.inr ⟨z, ?_, rfl, rfl⟩)
      rintro rfl
      rw [free_concat] at free
      exact absurd free (by decide)

theorem Seamless.marked (h : Seamless name) : Seamless ('_' :: name) := by
  cases name with
  | nil => exact .singleton _
  | cons c name => exact List.isChain_cons_cons.mpr ⟨fun _ => by decide, h⟩

end

/-! ## Where the column points -/

section
variable {first second : List Char} {column : Nat}

theorem columnOffset_left (h : column - 1 ≤ first.length) (y : List Char) :
    columnOffset (first ++ y) column = byteLength (first.take (column - 1)) := by
  rw [columnOffset, List.take_append_of_le_length h]

theorem columnOffset_right {k : Nat} (h : column - 1 = first.length + k) (y : List Char) :
    columnOffset (first ++ y) column = byteLength first + byteLength (y.take k) := by
  rw [columnOffset, h, List.take_length_add_append, byteLength_append]

theorem byteLength_take_le (k : Nat) (s : List Char) : byteLength (s.take k) ≤ byteLength s := by
  have whole := byteLength_take_add_drop k s
  omega

theorem byteLength_take_lt {k : Nat} {s : List Char} (h : k < s.length) :
    byteLength (s.take k) < byteLength (s.take (k + 1)) := by
  have weighs := s[k].utf8Size_pos
  rw [List.take_succ_eq_append_getElem h, byteLength_append]
  simp only [byteLength]
  omega

/-- A place to the left is no closer to the column than the mark if it was no closer than the
name. -/
theorem closer_left {before x : List Char} (cut : first = before ++ x)
    (h : distance (byteLength first) (columnOffset (first ++ second) column) ≤
      distance (byteLength before) (columnOffset (first ++ second) column)) :
    distance (byteLength first) (columnOffset (first ++ '_' :: second) column) ≤
      distance (byteLength before) (columnOffset (first ++ '_' :: second) column) := by
  by_cases left : column - 1 ≤ first.length
  · rw [columnOffset_left left] at h ⊢
    exact h
  · have shorter : byteLength before ≤ byteLength first := by
      rw [cut, byteLength_append]
      exact Nat.le_add_right _ _
    rw [columnOffset_right (k := column - 1 - first.length) (by omega)]
    simp only [distance]
    omega

/-- The same to the right: the place moves by one byte, and the column by no more than that. -/
theorem closer_right {z after : List Char} (apart : z ≠ []) (remains : after ≠ [])
    (h : distance (byteLength first) (columnOffset (first ++ (z ++ after)) column) ≤
      distance (byteLength (first ++ z)) (columnOffset (first ++ (z ++ after)) column)) :
    distance (byteLength first) (columnOffset (first ++ '_' :: (z ++ after)) column) ≤
      distance (byteLength (first ++ '_' :: z))
        (columnOffset (first ++ '_' :: (z ++ after)) column) := by
  have mark : '_'.utf8Size = 1 := by decide
  have moved : byteLength (first ++ '_' :: z) = byteLength first + 1 + byteLength z := by
    rw [byteLength_append, byteLength, mark]
    omega
  by_cases left : column - 1 ≤ first.length
  · have bound := byteLength_take_le (column - 1) first
    rw [columnOffset_left left, moved]
    simp only [distance]
    omega
  · obtain ⟨k, right⟩ : ∃ k, column - 1 = first.length + (k + 1) :=
      ⟨column - 1 - first.length - 1, by omega⟩
    rw [columnOffset_right right, byteLength_append] at h
    rw [columnOffset_right right, moved, List.take_succ_cons, byteLength, mark]
    have between := byteLength_pos apart
    have rest := byteLength_pos remains
    simp only [distance] at h ⊢
    by_cases inside : k < (z ++ after).length
    · have next := byteLength_take_lt inside
      omega
    · rw [List.take_of_length_le (by omega)] at h ⊢
      rw [byteLength_append] at h ⊢
      omega

end

/-! ## Lines that are kept -/

section
variable {column : Nat}

/-- A line with sites is kept if for each of those without a mark there is one with a mark that is
no farther from the column. -/
theorem mendLine_eq_self (some_site : sites name line ≠ [])
    (closer : ∀ shape ∈ shapes, ∀ site ∈ shape.sites name line, ∃ mark ∈ markedSites name line,
      distance mark.offset (columnOffset line column) ≤
        distance site.offset (columnOffset line column)) :
    mendLine line name column = some line := by
  unfold mendLine
  split
  · rfl
  · cases found : closest? (columnOffset line column) (sites name line) with
    | none => exact absurd (closest?_eq_none_iff.mp found) some_site
    | some site =>
      rw [sites_eq] at found
      rcases closest?_append found with among | ⟨behind, farther⟩
      · simp [(markedSites_sound among).1]
      · obtain ⟨shape, known, member⟩ := List.mem_flatMap.mp behind
        obtain ⟨mark, marks, noFarther⟩ := closer shape known site member
        exact absurd (farther mark marks) (Nat.not_lt.mpr noFarther)

/-- A place with a mark is as close to the column as any place without one. -/
def MarkClosest (name line : List Char) (column : Nat) : Prop :=
  ∃ p, marked.Counts name line p ∧ ∀ shape ∈ shapes, ∀ q, shape.Counts name line q →
    distance (byteLength (line.take p)) (columnOffset line column) ≤
      distance (byteLength (line.take (q + shape.opening.length))) (columnOffset line column)

/-- What is marked anew gets longer, so where the line is kept the closest site has its mark. -/
theorem marked_of_mendLine (unmarked : name.head? ≠ some '_')
    (h : mendLine line name column = some line) :
    ∃ site ∈ markedSites name line,
      closest? (columnOffset line column) (sites name line) = some site := by
  rw [mendLine, if_neg unmarked] at h
  obtain ⟨site, found, mends⟩ := Option.map_eq_some_iff.mp h
  have member := mem_of_closest? found
  have mark : site.marked = true := by
    by_contra plain
    rw [if_neg plain] at mends
    have lengths := congrArg List.length (mends.trans (sites_sound member).cut)
    simp at lengths
  rw [sites_eq] at member
  refine ⟨site, (List.mem_append.mp member).resolve_right fun behind => ?_, found⟩
  obtain ⟨shape, known, among⟩ := List.mem_flatMap.mp behind
  rw [(Shape.sites_sound_any known among).1] at mark
  cases mark

theorem mendLine_eq_self_iff : mendLine line name column = some line ↔
    name.head? = some '_' ∨ MarkClosest name line column := by
  constructor
  · intro kept
    by_cases own : name.head? = some '_'
    · exact .inl own
    · obtain ⟨site, member, found⟩ := marked_of_mendLine own kept
      obtain ⟨p, finds, offset⟩ := exists_finds_marked member
      refine .inr ⟨p, Shape.finds_iff.mp finds, fun shape known q counts => ?_⟩
      obtain ⟨other, among, place⟩ := (Shape.finds_iff.mpr counts).exists_site
      rw [← offset, ← place]
      apply closest?_le found
      rw [sites_eq]
      exact List.mem_append_right _ (List.mem_flatMap.mpr ⟨shape, known, among⟩)
  · rintro (marked | ⟨p, counts, closest⟩)
    · rw [mendLine, if_pos marked]
    · obtain ⟨mark, member, offset⟩ := exists_markedSite (Shape.finds_iff.mpr counts)
      refine mendLine_eq_self (List.ne_nil_of_mem (List.mem_append_left _ member)) ?_
      intro shape known site among
      obtain ⟨q, finds, before, place⟩ := Shape.exists_finds among
      refine ⟨mark, member, ?_⟩
      rw [offset, place, before]
      exact closest shape known q (Shape.finds_iff.mp finds)

end

/-! ## No other place is closer than the mark -/

/-- Places of the name keep apart, so that none of them is overlooked, and the mark of none of them
will be: where two have the same end, or the first has a mark, more than that end is between them.
An underscore inside of the name stands behind a character that joins, as in any identifier. -/
structure Spaced (name line : List Char) : Prop where
  plain : ∀ q < line.length, ∀ p < q, StandsAt name line p → StandsAt name line q →
    closingAt name line p = closingAt name line q → p + name.length + 1 < q
  marked : ∀ q < line.length, ∀ p < q, StandsAt ('_' :: name) line p → StandsAt name line q →
    p + name.length + 2 < q
  seamless : Seamless name

theorem StandsAt.lt_length {word : List Char} {p : Nat} (h : StandsAt word line p) :
    p < line.length := by
  obtain ⟨_, c, _, rest, there⟩ := h
  have length := congrArg List.length there
  simp at length
  omega

theorem Spaced.exists_site (spaced : Spaced name line) {q : Nat} (h : StandsAt name line q) :
    ∃ site ∈ sites name line, site.offset = byteLength (line.take q) := by
  obtain ⟨free, c, closing, rest, there⟩ := h
  have stands : Stands name [c] line q := ⟨free, c, List.mem_singleton_self c, rest, there⟩
  rcases Shape.finds_or_covered ⟨[], [c]⟩ stands with found | ⟨p, left, found, covers⟩
  · obtain ⟨site, member, offset⟩ := found.exists_site
    refine ⟨site, ?_, offset⟩
    rw [sites_eq]
    exact List.mem_append_right _ (List.mem_flatMap.mpr
      ⟨_, List.mem_of_mem_take (mem_shapesUpTo c closing), member⟩)
  · obtain ⟨start, d, same, more, below⟩ := found.stands
    obtain rfl := List.mem_singleton.mp same
    have here : StandsAt name line q := ⟨free, d, closing, rest, there⟩
    have apart := spaced.plain q here.lt_length p left ⟨start, d, closing, more, below⟩ here
      ((closingAt_eq below).trans (closingAt_eq there).symm)
    simp [Shape.width] at covers
    omega

/-- The name stands between these parts of a line, and no site is closer to the column. -/
structure Chosen (name first second : List Char) (column : Nat) : Prop where
  free : Free first
  opens : Opens name marked.closings second
  unmarked : name.head? ≠ some '_'
  closest : ∀ site ∈ sites name (first ++ second),
    distance (byteLength first) (columnOffset (first ++ second) column) ≤
      distance site.offset (columnOffset (first ++ second) column)

namespace Chosen

variable {first second : List Char} {column : Nat}

theorem stands_mark (h : Chosen name first second column) :
    Stands (marked.opening ++ name) marked.closings (first ++ '_' :: second) first.length := by
  obtain ⟨c, closing, rest, there⟩ := h.opens
  refine ⟨?_, ?_⟩
  · rw [List.take_left]
    exact h.free
  · rw [List.drop_left, there]
    exact ⟨c, closing, rest, rfl⟩

/-- Without its mark, the name stands elsewhere. -/
theorem cut_site (h : Chosen name first second column) {site : Site}
    (sound : site.Sound name marked.closings (first ++ '_' :: second)) :
    (∃ x, x ≠ [] ∧ first = site.before ++ x ∧ site.after = x ++ '_' :: second) ∨
      ∃ z, z ≠ [] ∧ site.before = first ++ '_' :: z ∧ second = z ++ site.after := by
  rcases cut_mark sound.cut.symm sound.free with left | ⟨_, here⟩ | right
  · exact .inl left
  · obtain ⟨c, closing, rest, there⟩ := sound.opens
    rw [here] at there
    cases name with
    | nil =>
      obtain rfl := (List.cons.inj there).1
      exact absurd closing (by decide)
    | cons d name =>
      obtain rfl := (List.cons.inj there).1
      exact absurd rfl h.unmarked
  · exact .inr right

theorem finds_mark (h : Chosen name first second column)
    (spaced : Spaced name (first ++ second)) :
    marked.Finds name (first ++ '_' :: second) first.length := by
  rcases marked.finds_or_covered h.stands_mark with found | ⟨q, left, found, covers⟩
  · exact found
  · obtain ⟨start, opens⟩ := found.stands
    rw [List.take_append_of_le_length (Nat.le_of_lt left)] at start
    rw [List.drop_append_of_le_length (Nat.le_of_lt left)] at opens
    have free : Free (first.drop q) := h.free.drop q
    have ne : first.drop q ≠ [] := by
      rw [Ne, List.drop_eq_nil_iff]
      omega
    have sooner : StandsAt ('_' :: name) (first ++ second) q := by
      refine ⟨?_, ?_⟩
      · rwa [List.take_append_of_le_length (Nat.le_of_lt left)]
      · rw [List.drop_append_of_le_length (Nat.le_of_lt left)]
        exact opens_before_mark spaced.seamless.marked free ne opens
    have here : StandsAt name (first ++ second) first.length := standsAt_of_cut h.free h.opens
    have apart := spaced.marked _ here.lt_length q left sooner here
    simp [Shape.width, marked] at covers
    omega

theorem le_of_spaced (h : Chosen name first second column)
    (spaced : Spaced name (first ++ second)) {site : Site}
    (sound : site.Sound name marked.closings (first ++ '_' :: second)) :
    distance (byteLength first) (columnOffset (first ++ '_' :: second) column) ≤
      distance site.offset (columnOffset (first ++ '_' :: second) column) := by
  rw [sound.offset]
  rcases h.cut_site sound with ⟨x, ne, cut, behind⟩ | ⟨z, ne, before, behind⟩
  · have free : Free x := by
      have whole := h.free
      rw [cut] at whole
      exact whole.of_append
    have opens := sound.opens
    rw [behind] at opens
    have stands : StandsAt name (first ++ second) site.before.length := by
      rw [cut, List.append_assoc]
      exact standsAt_of_cut sound.free (opens_before_mark spaced.seamless free ne opens)
    obtain ⟨other, member, offset⟩ := spaced.exists_site stands
    have bound := h.closest other member
    rw [offset] at bound
    apply closer_left cut
    rwa [cut, List.append_assoc, List.take_left, ← List.append_assoc, ← cut] at bound
  · have free : Free (first ++ z) := by
      rw [← free_append_cons (c := '_') ne, ← before]
      exact sound.free
    have remains : site.after ≠ [] := by
      obtain ⟨c, _, rest, there⟩ := sound.opens
      rw [there]
      simp
    subst behind
    have stands : StandsAt name (first ++ (z ++ site.after)) (first ++ z).length := by
      rw [← List.append_assoc]
      exact standsAt_of_cut free sound.opens
    obtain ⟨other, member, offset⟩ := spaced.exists_site stands
    have bound := h.closest other member
    rw [offset, ← List.append_assoc, List.take_left, List.append_assoc] at bound
    rw [before]
    exact closer_right ne remains bound

/-- The mark of an identifier is found, or one that directly precedes it. -/
theorem finds_mark_or_neighbour (h : Chosen name first second column) (joined : Joined name) :
    marked.Finds name (first ++ '_' :: second) first.length ∨
      ∃ sooner, ∃ c ∈ marked.closings, first = sooner ++ ('_' :: name ++ [c]) ∧
        marked.Finds name (first ++ '_' :: second) sooner.length := by
  rcases marked.finds_or_covered h.stands_mark with found | ⟨q, left, found, covers⟩
  · exact .inl found
  · have marks : Joined ('_' :: name) := List.forall_mem_cons.mpr ⟨by decide, joined⟩
    have opens := found.stands.2
    rw [List.drop_append_of_le_length (Nat.le_of_lt left)] at opens
    have free : Free (first.drop q) := h.free.drop q
    have long : ([] : List Char).length < (first.drop q).length := by
      rw [List.length_drop, List.length_nil]
      omega
    obtain ⟨c, closing, rest, inside⟩ := opens_within [] marks free long opens
    have length := congrArg List.length inside
    have ends : rest = [] := by
      simp [Shape.width, marked] at length covers
      exact List.length_eq_zero_iff.mp (by omega)
    subst ends
    refine .inr ⟨first.take q, c, closing, ?_, ?_⟩
    · rw [List.nil_append] at inside
      rw [← inside, List.take_append_drop]
    · rwa [List.length_take_of_le (Nat.le_of_lt left)]

/-- Left of the mark the same sites are found as before. -/
theorem le_of_site_left (h : Chosen name first second column) (joined : Joined name)
    {shape : Shape} (known : shape ∈ shapes) {site : Site}
    (found : site ∈ shape.sites name (first ++ '_' :: second))
    (left : site.before.length < first.length) :
    distance (byteLength first) (columnOffset (first ++ second) column) ≤
      distance site.offset (columnOffset (first ++ second) column) := by
  obtain ⟨q, finds, before, offset⟩ := Shape.exists_finds found
  have reach : site.before.length = q + shape.opening.length := by
    obtain ⟨c, _, rest, there⟩ := finds.stands.2
    have length := congrArg List.length there
    rw [before, List.length_take]
    simp at length ⊢
    omega
  have same : shape.Finds name (first ++ second) q := by
    refine (Shape.finds_congr fun r hr => ?_).mpr finds
    exact stands_left_iff joined h.free (by omega) _ _
  obtain ⟨other, member, there⟩ := same.exists_site
  have bound := h.closest other (by
    rw [sites_eq]
    exact List.mem_append_right _ (List.mem_flatMap.mpr ⟨shape, known, member⟩))
  have equal : other.offset = site.offset := by
    rw [there, offset, before, List.take_append_of_le_length (by omega),
      List.take_append_of_le_length (by omega)]
  rwa [equal] at bound

/-- Right of the mark, a site lies behind the end of the marked name. -/
theorem lt_of_site_right (h : Chosen name first second column) (joined : Joined name) {site : Site}
    (sound : site.Sound name marked.closings (first ++ '_' :: second)) {z : List Char}
    (ne : z ≠ []) (before : site.before = first ++ '_' :: z) (behind : second = z ++ site.after) :
    byteLength first + byteLength ('_' :: name) < site.offset := by
  have free : Free z := by
    have whole := sound.free
    rw [before] at whole
    exact whole.of_append.tail
  have opens := h.opens
  rw [behind] at opens
  obtain ⟨c, _, rest, inside⟩ :=
    opens_within [] joined free (List.length_pos_iff.mpr ne) opens
  have weighs := c.utf8Size_pos
  rw [sound.offset, before, inside, byteLength_append]
  simp only [List.nil_append, byteLength, byteLength_append]
  omega

end Chosen

theorem closing_utf8Size : ∀ c ∈ marked.closings, c.utf8Size = 1 := by
  simp only [marked, List.forall_mem_cons]
  exact ⟨by decide, by decide, by decide, by simp⟩

/-- A place inside of a marked name and its end is not free. -/
theorem byteLength_le_of_neighbour (joined : Joined name) {before x sooner : List Char} {c : Char}
    (cut : before ++ x = sooner ++ ('_' :: name ++ [c])) (ne : x ≠ []) (free : Free before) :
    byteLength before ≤ byteLength sooner := by
  rcases List.append_eq_append_iff.mp cut with ⟨more, rfl, _⟩ | ⟨more, rfl, behind⟩
  · rw [byteLength_append]
    exact Nat.le_add_right _ _
  · have part : more <+: '_' :: name := by
      refine List.prefix_of_prefix_length_le ⟨x, behind.symm⟩ (List.prefix_append _ [c]) ?_
      have length := congrArg List.length behind
      have positive := List.length_pos_iff.mpr ne
      simp at length ⊢
      omega
    by_cases here : more = []
    · rw [here, List.append_nil]
    · have marks : Joined ('_' :: name) := List.forall_mem_cons.mpr ⟨by decide, joined⟩
      have inside : Joined more := fun d hd => marks d (part.subset hd)
      exact absurd free.of_append (inside.not_free here)

namespace Chosen

variable {first second : List Char} {column : Nat}

/-- A site without a mark lies left of the new mark and is no closer to the column than the name
was, or it lies well to the right. -/
theorem site_bounds (h : Chosen name first second column) (joined : Joined name) {shape : Shape}
    (known : shape ∈ shapes) {site : Site}
    (found : site ∈ shape.sites name (first ++ '_' :: second))
    (sound : site.Sound name marked.closings (first ++ '_' :: second)) :
    (∃ x, x ≠ [] ∧ first = site.before ++ x ∧
        distance (byteLength first) (columnOffset (first ++ second) column) ≤
          distance site.offset (columnOffset (first ++ second) column)) ∨
      byteLength first + byteLength ('_' :: name) < site.offset := by
  rcases h.cut_site sound with ⟨x, ne, left, _⟩ | ⟨z, ne, before, right⟩
  · have shorter : site.before.length < first.length := by
      have positive := List.length_pos_iff.mpr ne
      rw [left, List.length_append]
      omega
    exact .inl ⟨x, ne, left, h.le_of_site_left joined known found shorter⟩
  · exact .inr (h.lt_of_site_right joined sound ne before right)

/-- If the mark stands at the column or behind it, it is closer than all places without one, or the
mark right before it is. -/
theorem exists_closer_of_joined (h : Chosen name first second column) (joined : Joined name)
    (reached : column - 1 ≤ first.length) {shape : Shape} (known : shape ∈ shapes) {site : Site}
    (found : site ∈ shape.sites name (first ++ '_' :: second))
    (sound : site.Sound name marked.closings (first ++ '_' :: second)) :
    ∃ mark ∈ markedSites name (first ++ '_' :: second),
      distance mark.offset (columnOffset (first ++ '_' :: second) column) ≤
        distance site.offset (columnOffset (first ++ '_' :: second) column) := by
  have bounds := h.site_bounds joined known found sound
  have behind := byteLength_take_le (column - 1) first
  -- The column points to the same byte as before.
  rw [columnOffset_left reached] at bounds ⊢
  rcases h.finds_mark_or_neighbour joined with here | ⟨sooner, c, closing, cut, there⟩
  · obtain ⟨mark, member, offset⟩ := exists_markedSite here
    rw [List.take_left] at offset
    refine ⟨mark, member, ?_⟩
    rw [offset]
    rcases bounds with ⟨_, _, _, bound⟩ | far
    · exact bound
    · simp only [distance]
      omega
  · obtain ⟨mark, member, offset⟩ := exists_markedSite there
    have place : mark.offset = byteLength sooner := by
      rw [offset, cut, List.append_assoc, List.take_left]
    have width : byteLength first = byteLength sooner + byteLength ('_' :: name) + 1 := by
      rw [cut, byteLength_append, byteLength_append]
      simp only [byteLength, closing_utf8Size c closing]
      omega
    refine ⟨mark, member, ?_⟩
    rw [place]
    rcases bounds with ⟨x, ne, left, bound⟩ | far
    · have left := byteLength_le_of_neighbour joined (left.symm.trans cut) ne sound.free
      rw [← sound.offset] at left
      simp only [distance] at bound ⊢
      omega
    · simp only [distance]
      omega

/-- No place without a mark is closer to the column than all places with one. -/
theorem exists_closer (h : Chosen name first second column)
    (steady : Joined name ∧ column - 1 ≤ first.length ∨ Spaced name (first ++ second))
    {shape : Shape} (known : shape ∈ shapes) {site : Site}
    (found : site ∈ shape.sites name (first ++ '_' :: second)) :
    ∃ mark ∈ markedSites name (first ++ '_' :: second),
      distance mark.offset (columnOffset (first ++ '_' :: second) column) ≤
        distance site.offset (columnOffset (first ++ '_' :: second) column) := by
  have sound := (Shape.sites_sound_any known found).2
  rcases steady with ⟨joined, reached⟩ | spaced
  · exact h.exists_closer_of_joined joined reached known found sound
  · obtain ⟨mark, member, offset⟩ := exists_markedSite (h.finds_mark spaced)
    rw [List.take_left] at offset
    refine ⟨mark, member, ?_⟩
    rw [offset]
    exact h.le_of_spaced spaced sound

theorem mendLine_eq (h : Chosen name first second column)
    (steady : Joined name ∧ column - 1 ≤ first.length ∨ Spaced name (first ++ second)) :
    mendLine (first ++ '_' :: second) name column = some (first ++ '_' :: second) :=
  mendLine_eq_self (sites_ne_nil (.inr h.stands_mark)) fun _ known _ found =>
    h.exists_closer steady known found

end Chosen

/-! ## Mending again -/

/-- Nothing is changed left of the column if the mark does not stand there. -/
theorem reached_of_prefix {first second : List Char} {column : Nat}
    (opens : Opens name marked.closings second) (unmarked : name.head? ≠ some '_')
    (h : (first ++ second).take (column - 1) <+: first ++ '_' :: second) :
    column - 1 ≤ first.length := by
  apply Nat.not_lt.mp
  intro beyond
  have starts : second.head? ≠ some '_' := by
    obtain ⟨c, closing, rest, rfl⟩ := opens
    cases name with
    | nil =>
      intro same
      obtain rfl : c = '_' := by simpa using same
      exact absurd closing (by decide)
    | cons d name => simpa using unmarked
  obtain ⟨d, more, rfl⟩ : ∃ d more, second = d :: more := by
    obtain ⟨c, _, rest, rfl⟩ := opens
    cases name <;> simp
  have within : first ++ [d] <+: (first ++ d :: more).take (column - 1) := by
    refine List.prefix_take_iff.mpr ⟨⟨more, by simp⟩, ?_⟩
    simp
    omega
  have same := (List.prefix_append_right_inj first).mp (within.trans h)
  obtain rfl := (List.cons_prefix_cons.mp same).1
  exact starts rfl

theorem mendLine_again {column : Nat} {mended : List Char}
    (h : mendLine line name column = some mended)
    (steady : Joined name ∧ line.take (column - 1) <+: mended ∨ Spaced name line) :
    mendLine mended name column = some mended := by
  unfold mendLine at h
  split at h
  · rename_i marked
    cases h
    rw [mendLine, if_pos marked]
  · rename_i unmarked
    obtain ⟨site, found, mends⟩ := Option.map_eq_some_iff.mp h
    have sound := sites_sound (mem_of_closest? found)
    by_cases mark : site.marked = true
    · rw [if_pos mark] at mends
      rw [← mends, mendLine, if_neg unmarked, found]
      simp [mark]
    · rw [if_neg mark] at mends sound
      have chosen : Chosen name site.before site.after column := by
        refine ⟨sound.free, sound.opens, unmarked, ?_⟩
        rw [← sound.cut, ← sound.offset]
        exact closest?_le found
      rw [← mends] at steady ⊢
      rw [sound.cut] at steady
      apply chosen.mendLine_eq
      rcases steady with ⟨joined, kept⟩ | spaced
      · exact .inl ⟨joined, reached_of_prefix sound.opens unmarked kept⟩
      · exact .inr spaced

theorem mend_eq_self_iff {f : Finding} {name : String} (captured : f.captured = some name)
    (line : String) : remedy.mend line f = some line ↔
      mendLine line.toList name.toList f.column = some line.toList := by
  have mends : remedy.mend line f =
      (mendLine line.toList name.toList f.column).map String.ofList :=
    mend_of_captured captured line
  rw [mends, Option.map_eq_some_iff]
  constructor
  · rintro ⟨chars, answer, rfl⟩
    rw [answer, String.toList_ofList]
  · intro answer
    exact ⟨_, answer, String.ofList_toList⟩

/-- A line that was mended stays as it is when it is mended for the same finding again just if the
name begins with an underscore or a place with a mark is closest to the column. So it is if the name
is an identifier and nothing was changed left of the column, or if the places of the name keep
apart. -/
theorem mended_line_stays_iff {line mended : String} {f : Finding} {name : String}
    (captured : f.captured = some name) (h : remedy.mend line f = some mended) :
    (remedy.mend mended f = some mended ↔
      name.toList.head? = some '_' ∨ MarkClosest name.toList mended.toList f.column) ∧
    (Joined name.toList ∧ line.toList.take (f.column - 1) <+: mended.toList ∨
        Spaced name.toList line.toList →
      remedy.mend mended f = some mended) := by
  have kept := mend_eq_self_iff captured mended
  have mends : mend line f = some mended := h
  rw [mend_of_captured captured] at mends
  obtain ⟨chars, answer, rfl⟩ := Option.map_eq_some_iff.mp mends
  rw [String.toList_ofList] at kept ⊢
  rw [kept]
  exact ⟨mendLine_eq_self_iff, mendLine_again answer⟩

/-- The reported parameter comes behind an object key of the same name, and its column is off to the
left; in the second line it is off to the right, and one with its mark is there already. The third
line is not kept. -/
theorem mended_line_stays_iff_shadowing :
    let line := "items.map(({ key: 1 }), (key,key, idx) => idx);"
    let mended := "items.map(({ key: 1 }), (_key,key, idx) => idx);"
    let f : Finding := ⟨.unusedParameter, ⟨"a.ts"⟩, 1, 25, some "key"⟩
    let other := "(id) => run(_id, (id: T, a) => a)"
    let g : Finding := ⟨.unusedParameter, ⟨"a.ts"⟩, 1, 25, some "id"⟩
    let a : Finding := ⟨.unusedParameter, ⟨"a.ts"⟩, 1, 4, some "a"⟩
    (f.captured = some "key" ∧ remedy.mend line f = some mended ∧
      Joined "key".toList ∧ line.toList.take (f.column - 1) <+: mended.toList ∧
      remedy.mend mended f = some mended ∧
      MarkClosest "key".toList mended.toList f.column) ∧
    (g.captured = some "id" ∧ remedy.mend other g = some "(id) => run(_id, (_id: T, a) => a)" ∧
      Spaced "id".toList other.toList ∧
      remedy.mend "(id) => run(_id, (_id: T, a) => a)" g =
        some "(id) => run(_id, (_id: T, a) => a)") ∧
    a.captured = some "a" ∧ remedy.mend "(a,a,b)" a = some "(_a,a,b)" ∧
      ¬ MarkClosest "a".toList "(_a,a,b)".toList a.column := by
  intro line mended f other g a
  have first : remedy.mend line f = some mended := by decide +kernel
  have second : remedy.mend other g = some "(id) => run(_id, (_id: T, a) => a)" := by
    decide +kernel
  have third : remedy.mend "(a,a,b)" a = some "(_a,a,b)" := by decide +kernel
  have joined : Joined "key".toList := by decide
  have kept : line.toList.take (f.column - 1) <+: mended.toList := by decide
  have spaced : Spaced "id".toList other.toList :=
    ⟨by decide +kernel, by decide +kernel, by decide⟩
  obtain ⟨exactly, steady⟩ := mended_line_stays_iff rfl first
  have again := steady (.inl ⟨joined, kept⟩)
  refine ⟨⟨rfl, first, joined, kept, again, ?_⟩, ⟨rfl, second, spaced, ?_⟩, rfl, third, ?_⟩
  · exact (exactly.mp again).resolve_left (by decide)
  · exact (mended_line_stays_iff rfl second).2 (.inr spaced)
  · intro closest
    have same := (mended_line_stays_iff rfl third).1.mpr (.inr closest)
    exact absurd same (by decide +kernel)

/-- Of two names that touch, the second is overlooked until the first one has its mark. -/
theorem touching_names_mended_in_turn :
    let f : Finding := ⟨.unusedParameter, ⟨"a.ts"⟩, 1, 4, some "a"⟩
    remedy.mend "(a,a,b)" f = some "(_a,a,b)" ∧
      remedy.mend "(_a,a,b)" f = some "(_a,_a,b)" := by
  decide +kernel

end LintRepair.Parameter
