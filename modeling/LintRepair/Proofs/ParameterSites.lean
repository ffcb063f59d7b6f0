import LintRepair.Remedy.Parameter

/-!
Which places of a line can be taken for a parameter. A name stands at a place
if no character before it belongs to it and a closing character follows.

* `markedSites_sound` and `Shape.sites_sound`: the sites of a name are such
  places of the name, or of the name with its underscore;
* `mem_sites`: a place where the name stands is a site, unless it directly
  follows another one that ends in the same character, since places of one shape
  do not overlap;
* `closest?_eq_some`: the closest site is taken, and the first of several.
-/

namespace LintRepair.Parameter

/-- A name may begin behind this text. -/
def Free (before : List Char) : Prop := ∀ c ∈ before.getLast?, joinsName c = false

instance (before : List Char) : Decidable (Free before) :=
  Option.decidableForallMem before.getLast?

/-- The text begins with the word, and one of these characters follows it. -/
def Opens (word closings s : List Char) : Prop := ∃ c ∈ closings, ∃ rest, s = word ++ c :: rest

theorem opens_iff {word closings s : List Char} :
    (closings.any fun c => (word ++ [c]).isPrefixOf s) = true ↔ Opens word closings s := by
  simp only [List.any_eq_true, List.isPrefixOf_iff_prefix]
  constructor
  · rintro ⟨c, closing, rest, rfl⟩
    exact ⟨c, closing, rest, by simp⟩
  · rintro ⟨c, closing, rest, rfl⟩
    exact ⟨c, closing, rest, by simp⟩

instance (word closings s : List Char) : Decidable (Opens word closings s) :=
  decidable_of_iff _ opens_iff

/-- Every character joins with the one before it. -/
def Joined (word : List Char) : Prop := ∀ c ∈ word, joinsName c = true

instance (word : List Char) : Decidable (Joined word) :=
  decidable_of_iff (word.all joinsName) List.all_eq_true

theorem Opens.mono {word closings more s : List Char} (h : Opens word closings s)
    (wider : ∀ c ∈ closings, c ∈ more) : Opens word more s := by
  obtain ⟨c, closing, rest⟩ := h
  exact ⟨c, wider c closing, rest⟩

theorem free_nil : Free [] := by simp [Free]

theorem free_concat {before : List Char} {c : Char} :
    Free (before ++ [c]) ↔ joinsName c = false := by
  simp [Free]

theorem Free.of_append {first second : List Char} (h : Free (first ++ second)) : Free second := by
  intro c hc
  apply h c
  rw [List.getLast?_append, hc]
  rfl

theorem Free.tail {c : Char} {s : List Char} (h : Free (c :: s)) : Free s := by
  have whole : Free ([c] ++ s) := h
  exact whole.of_append

theorem Joined.not_free {word : List Char} (h : Joined word) (ne : word ≠ []) : ¬ Free word := by
  intro free
  have last := List.getLast?_eq_some_getLast ne
  have joins := h _ (List.getLast_mem ne)
  rw [free _ last] at joins
  cases joins

/-- Where a word begins, the next place that is free lies behind its closing character, and further
on if the two do not touch. -/
theorem Joined.passed {word closings before mid after : List Char} (joined : Joined word)
    (opens : Opens word closings (mid ++ after)) (ne : mid ≠ []) (start : Free before)
    (free : Free (before ++ mid)) (apart : ∀ sooner, ∀ c ∈ closings, Free sooner →
      before ++ mid ≠ sooner ++ word ++ [c]) : word.length + 1 < mid.length := by
  obtain ⟨c, closing, rest, h⟩ := opens
  rcases List.append_eq_append_iff.mp h.symm with ⟨more, rfl, follows⟩ | ⟨more, rfl, _⟩
  · cases more with
    | nil =>
      rw [List.append_nil] at ne free
      exact absurd free.of_append (joined.not_free ne)
    | cons d more =>
      obtain ⟨rfl, _⟩ := List.cons.inj follows
      cases more with
      | nil => exact absurd (List.append_assoc _ _ _).symm (apart before c closing start)
      | cons => simp
  · have inside : Joined mid := fun d hd => joined d (List.mem_append_left _ hd)
    exact absurd free.of_append (inside.not_free ne)

namespace Shape

variable {shape : Shape} {name : List Char}

theorem standsAt_iff {s : List Char} :
    shape.standsAt name s = true ↔ Opens (shape.opening ++ name) shape.closings s := by
  simp only [standsAt, Bool.and_eq_true, List.isPrefixOf_iff_prefix, Option.any_eq_true,
    List.contains_iff_mem, Opens]
  constructor
  · rintro ⟨⟨rest, rfl⟩, c, next, closing⟩
    rw [List.drop_left] at next
    obtain ⟨more, rfl⟩ := List.head?_eq_some_iff.mp next
    exact ⟨c, closing, more, rfl⟩
  · rintro ⟨c, closing, rest, rfl⟩
    exact ⟨List.prefix_append _ _, c, by rw [List.drop_left]; rfl, closing⟩

theorem placesFrom_sound {skip : Nat} {before s : List Char} {place : List Char × List Char}
    (h : place ∈ shape.placesFrom name skip before s) :
    place.1 ++ place.2 = before.reverse ++ s ∧ Free place.1 ∧
      Opens (shape.opening ++ name) shape.closings place.2 := by
  fun_induction placesFrom shape name skip before s with
  | case1 => cases h
  | case2 skip before c s ih => simpa using ih h
  | case3 before c s here ih =>
    obtain ⟨start, stands⟩ := Bool.and_eq_true_iff.mp here
    obtain rfl := List.isEmpty_iff.mp start
    rcases List.mem_cons.mp h with rfl | h
    · exact ⟨rfl, free_nil, standsAt_iff.mp stands⟩
    · simpa using ih h
  | case4 before c s _ here ih =>
    obtain ⟨boundary, stands⟩ := Bool.and_eq_true_iff.mp here
    rcases List.mem_cons.mp h with rfl | h
    · refine ⟨by simp, ?_, standsAt_iff.mp stands⟩
      rw [List.reverse_cons, free_concat]
      simpa using boundary
    · simpa using ih h
  | case5 before c s _ _ ih => simpa using ih h

/-- Going on from some point, a place whose boundary still lies ahead is found, unless a place that
is found reaches up to that boundary. -/
theorem placesFrom_or_covered {skip : Nat} {before s mid after : List Char} (cut : s = mid ++ after)
    (ahead : skip < mid.length ∨ skip = 0 ∧ before = [] ∧ mid = [])
    (free : Free (before.reverse ++ mid))
    (opens : Opens (shape.opening ++ name) shape.closings after) :
    (before.reverse ++ mid, after) ∈ shape.placesFrom name skip before s ∨
      ∃ place ∈ shape.placesFrom name skip before s,
        place.1.length < (before.reverse ++ mid).length ∧
          (before.reverse ++ mid).length ≤ place.1.length + shape.width name := by
  fun_induction placesFrom shape name skip before s generalizing mid with
  | case1 =>
    obtain ⟨_, rfl⟩ := List.append_eq_nil_iff.mp cut.symm
    obtain ⟨c, _, rest, h⟩ := opens
    simp at h
  | case2 skip before c s ih =>
    cases mid with
    | nil => simp at ahead
    | cons d mid =>
      obtain ⟨rfl, rfl⟩ := List.cons.inj cut
      rw [List.append_cons, ← List.reverse_cons] at free ⊢
      exact ih rfl (.inl (by simpa using ahead)) free
  | case3 before c s here ih =>
    obtain rfl := List.isEmpty_iff.mp (Bool.and_eq_true_iff.mp here).1
    cases mid with
    | nil =>
      rw [cut]
      exact .inl List.mem_cons_self
    | cons d mid =>
      obtain ⟨rfl, rfl⟩ := List.cons.inj cut
      by_cases near : (c :: mid).length ≤ shape.width name
      · exact .inr ⟨_, List.mem_cons_self, by simp, by simpa using near⟩
      · have far : shape.width name - 1 < mid.length := by
          have positive : 0 < shape.width name := Nat.succ_pos _
          simp only [List.length_cons] at near
          omega
        rw [List.append_cons] at free ⊢
        rcases ih rfl (.inl far) free with found | ⟨place, found, covers⟩
        · exact .inl (List.mem_cons_of_mem _ found)
        · exact .inr ⟨place, List.mem_cons_of_mem _ found, covers⟩
  | case4 before c s elsewhere here ih =>
    cases mid with
    | nil =>
      obtain ⟨_, rfl, _⟩ := ahead.resolve_left (by simp)
      exact absurd (by simpa [cut] using standsAt_iff.mpr opens) elsewhere
    | cons d mid =>
      obtain ⟨rfl, rfl⟩ := List.cons.inj cut
      rw [List.append_cons, ← List.reverse_cons] at free ⊢
      by_cases next : mid = []
      · subst next
        rw [List.append_nil]
        exact .inl List.mem_cons_self
      · by_cases near : mid.length ≤ shape.width name
        · have longer : 0 < mid.length := List.length_pos_iff.mpr next
          exact .inr ⟨_, List.mem_cons_self, by simpa using longer, by simp; omega⟩
        · rcases ih rfl (.inl (by omega)) free with found | ⟨place, found, covers⟩
          · exact .inl (List.mem_cons_of_mem _ found)
          · exact .inr ⟨place, List.mem_cons_of_mem _ found, covers⟩
  | case5 before c s elsewhere nowhere ih =>
    cases mid with
    | nil =>
      obtain ⟨_, rfl, _⟩ := ahead.resolve_left (by simp)
      exact absurd (by simpa [cut] using standsAt_iff.mpr opens) elsewhere
    | cons d mid =>
      obtain ⟨rfl, rfl⟩ := List.cons.inj cut
      rw [List.append_cons, ← List.reverse_cons] at free ⊢
      by_cases next : mid = []
      · subst next
        rw [List.append_nil, List.reverse_cons, free_concat] at free
        exact absurd (by simpa [free] using standsAt_iff.mpr opens) nowhere
      · exact ih rfl (.inl (List.length_pos_iff.mpr next)) free

theorem places_or_covered {before after : List Char} (free : Free before)
    (opens : Opens (shape.opening ++ name) shape.closings after) :
    (before, after) ∈ shape.places name (before ++ after) ∨
      ∃ place ∈ shape.places name (before ++ after), place.1.length < before.length ∧
        before.length ≤ place.1.length + shape.width name := by
  have ahead : 0 < before.length ∨ 0 = 0 ∧ ([] : List Char) = [] ∧ before = [] := by
    cases before <;> simp
  have either : ([].reverse ++ before, after) ∈ shape.placesFrom name 0 [] (before ++ after) ∨
      ∃ place ∈ shape.placesFrom name 0 [] (before ++ after),
        place.1.length < ([].reverse ++ before).length ∧
          ([].reverse ++ before).length ≤ place.1.length + shape.width name :=
    placesFrom_or_covered rfl ahead free opens
  exact either

theorem mem_places {before after : List Char} (joined : Joined (shape.opening ++ name))
    (free : Free before) (opens : Opens (shape.opening ++ name) shape.closings after)
    (apart : ∀ sooner, ∀ c ∈ shape.closings, Free sooner →
      before ≠ sooner ++ (shape.opening ++ name) ++ [c]) :
    (before, after) ∈ shape.places name (before ++ after) := by
  rcases places_or_covered free opens with found | ⟨⟨sooner, later⟩, found, shorter, covers⟩
  · exact found
  · obtain ⟨cut, start, stands⟩ := placesFrom_sound found
    obtain ⟨mid, rfl⟩ : sooner <+: before :=
      List.prefix_of_prefix_length_le ⟨later, cut⟩ (List.prefix_append before after)
        (Nat.le_of_lt shorter)
    obtain rfl : later = mid ++ after := by simpa using cut
    have next : mid ≠ [] := by
      rintro rfl
      simp at shorter
    have far := joined.passed stands next start free apart
    simp [width] at covers far
    omega

end Shape

/-! ## Sites -/

/-- The sites of the name in one shape. -/
def Shape.sites (shape : Shape) (name line : List Char) : List Site :=
  (shape.places name line).map fun (before, after) =>
    let before := before ++ shape.opening
    ⟨before, after.drop shape.opening.length, byteLength before, false⟩

/-- The sites of the name with its underscore. -/
def markedSites (name line : List Char) : List Site :=
  (marked.places name line).map fun (before, after) => ⟨before, after, byteLength before, true⟩

theorem sites_eq (name line : List Char) :
    sites name line = markedSites name line ++ shapes.flatMap (·.sites name line) := rfl

/-- A site of a line: the word stands there and one of the closing characters follows. -/
structure Site.Sound (word closings line : List Char) (site : Site) : Prop where
  cut : line = site.before ++ site.after
  offset : site.offset = byteLength site.before
  free : Free site.before
  opens : Opens word closings site.after

theorem markedSites_sound {name line : List Char} {site : Site} (h : site ∈ markedSites name line) :
    site.marked = true ∧ site.Sound ('_' :: name) marked.closings line := by
  obtain ⟨⟨before, after⟩, found, rfl⟩ := List.mem_map.mp h
  obtain ⟨cut, free, opens⟩ := Shape.placesFrom_sound found
  exact ⟨rfl, cut.symm, rfl, free, opens⟩

/-- Before the name stands what opens its shape, and behind that a name may begin. -/
theorem Shape.sites_sound {shape : Shape} (known : shape ∈ shapes) {name line : List Char}
    {site : Site} (h : site ∈ shape.sites name line) :
    site.marked = false ∧ site.Sound name shape.closings line ∧ shape.opening <:+ site.before := by
  have opened : shape.opening = [] ∨ shape.opening = ['('] := by
    clear h
    revert shape
    decide
  obtain ⟨⟨before, after⟩, found, rfl⟩ := List.mem_map.mp h
  obtain ⟨cut, free, c, closing, rest, rfl⟩ := Shape.placesFrom_sound found
  refine ⟨rfl, ⟨?_, rfl, ?_, c, closing, rest, ?_⟩, List.suffix_append _ _⟩
  · simpa using cut.symm
  · rcases opened with opened | opened
    · simpa [opened] using free
    · rw [opened, free_concat]
      decide
  · simp

/-- A place where the name stands is a site, unless another such place ends right before it in the
same way. -/
theorem mem_sites {name before after : List Char} {c : Char} (joined : Joined name)
    (free : Free before) (apart : ∀ sooner, Free sooner → before ≠ sooner ++ name ++ [c]) :
    ⟨before, name ++ c :: after, byteLength before, false⟩ ∈
      Shape.sites ⟨[], [c]⟩ name (before ++ (name ++ c :: after)) := by
  have place : (before, name ++ c :: after) ∈
      Shape.places ⟨[], [c]⟩ name (before ++ (name ++ c :: after)) := by
    refine Shape.mem_places ?_ free ⟨c, List.mem_singleton_self c, after, rfl⟩ ?_
    · exact joined
    · intro sooner d same
      obtain rfl := List.mem_singleton.mp same
      exact apart sooner
  exact List.mem_map.mpr ⟨_, place, by simp⟩

/-! ## The closest site -/

/-- The shapes up to the one that ends in this character and has nothing else about it. -/
def shapesUpTo (c : Char) : List Shape := shapes.take (marked.closings.idxOf c + 2)

def shapesBeyond (c : Char) : List Shape := shapes.drop (marked.closings.idxOf c + 2)

theorem mem_shapesUpTo : ∀ c ∈ marked.closings, ⟨[], [c]⟩ ∈ shapesUpTo c := by
  simp [shapesUpTo, marked, shapes, List.idxOf_cons]

/-- Apart from a name in parentheses of its own, shapes come in the order of their ends. -/
theorem idxOf_le_of_shapesUpTo : ∀ c ∈ marked.closings, ∀ shape ∈ shapesUpTo c,
    ∀ d ∈ shape.closings, marked.closings.idxOf d ≤ marked.closings.idxOf c ∨
      d = ')' ∧ shape.opening = ['('] := by
  simp [marked, shapesUpTo, shapes, List.idxOf_cons]

theorem closing_of_shape : ∀ shape ∈ shapes, ∀ c ∈ shape.closings, c ∈ marked.closings := by
  simp [shapes, marked]

theorem sites_split (name line : List Char) (c : Char) :
    sites name line = (markedSites name line ++ (shapesUpTo c).flatMap (·.sites name line)) ++
      (shapesBeyond c).flatMap (·.sites name line) := by
  rw [List.append_assoc, ← List.flatMap_append, shapesUpTo, shapesBeyond, List.take_append_drop,
    sites_eq]

theorem mem_of_closest? {target : Nat} {all : List Site} {site : Site}
    (h : closest? target all = some site) : site ∈ all := by
  induction all with
  | nil => cases h
  | cons first rest ih =>
    rw [closest?] at h
    split at h
    · rename_i other found
      split at h
      · cases h
        exact List.mem_cons_of_mem first (ih found)
      · cases h
        exact List.mem_cons_self
    · cases h
      exact List.mem_cons_self

/-- A site is taken if it is closer than all others up to some point, and as close as those behind
that point. -/
theorem closest?_eq_some {target : Nat} {site : Site} {sooner later : List Site}
    (member : site ∈ sooner) (closer : ∀ other ∈ sooner, other = site ∨
      distance site.offset target < distance other.offset target)
    (asClose : ∀ other ∈ later, distance site.offset target ≤ distance other.offset target) :
    closest? target (sooner ++ later) = some site := by
  induction sooner with
  | nil => cases member
  | cons first rest ih =>
    rw [List.cons_append, closest?]
    by_cases again : site ∈ rest
    · rw [ih again fun other ho => closer other (List.mem_cons_of_mem first ho)]
      rcases closer first List.mem_cons_self with rfl | farther
      · simp
      · simp [farther]
    · obtain rfl := (List.mem_cons.mp member).resolve_right again
      split
      · rename_i other found
        have noCloser : ¬ distance other.offset target < distance site.offset target := by
          rcases List.mem_append.mp (mem_of_closest? found) with ho | ho
          · rcases closer other (List.mem_cons_of_mem site ho) with rfl | farther
            · exact Nat.lt_irrefl _
            · exact Nat.lt_asymm farther
          · exact Nat.not_lt.mpr (asClose other ho)
        rw [if_neg noCloser]
      · rfl

end LintRepair.Parameter
