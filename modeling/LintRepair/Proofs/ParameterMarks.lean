import Mathlib.Data.List.DropRight
import LintRepair.Proofs.ParameterSites

/-!
Marking several parameters of one line, one after the other. Each mark moves the
rest of the line by one character, while the columns of later findings are still
those of the line without marks.

* `cut_markedFrom` and `word_of_markedFrom`: the places and words of a marked
  line are those of the line without marks;
* `byteLength_rtake_markedAt`: how far a column can slip;
* `Clear`: when a column leads to its own place all the same;
* `Clear.mendLine_eq`: then that place is marked, and no other.
-/

namespace LintRepair.Parameter

/-! ## Lines with marks -/

/-- The text with an underscore before the characters at these positions. The first character is at
position `i`. -/
def markedFrom (positions : List Nat) : (i : Nat) → List Char → List Char
  | _, [] => []
  | i, c :: s =>
    (if i ∈ positions then ['_', c] else [c]) ++ markedFrom positions (i + 1) s

def markedAt (positions : List Nat) (line : List Char) : List Char := markedFrom positions 0 line

variable {positions : List Nat}

theorem markedFrom_nil (i : Nat) (s : List Char) : markedFrom [] i s = s := by
  induction s generalizing i with
  | nil => rfl
  | cons c s ih => simp [markedFrom, ih]

theorem markedFrom_append (i : Nat) (first second : List Char) :
    markedFrom positions i (first ++ second) =
      markedFrom positions i first ++ markedFrom positions (i + first.length) second := by
  induction first generalizing i with
  | nil => rfl
  | cons c first ih =>
    rw [List.cons_append, markedFrom, markedFrom, ih, List.append_assoc, List.length_cons]
    congr 3
    omega

theorem markedFrom_concat (i : Nat) (s : List Char) (c : Char) :
    markedFrom positions i (s ++ [c]) =
      markedFrom positions i s ++ if i + s.length ∈ positions then ['_', c] else [c] := by
  rw [markedFrom_append]
  simp [markedFrom]

theorem markedFrom_congr {others : List Nat} {i : Nat} {s : List Char}
    (h : ∀ j, i ≤ j → j < i + s.length → (j ∈ positions ↔ j ∈ others)) :
    markedFrom positions i s = markedFrom others i s := by
  induction s generalizing i with
  | nil => rfl
  | cons c s ih =>
    have here : i ∈ positions ↔ i ∈ others := h i (Nat.le_refl i) (by simp)
    rw [markedFrom, markedFrom, ih fun j above below => h j (by omega) (by simp; omega)]
    simp only [here]

/-- A mark stands before a character, so the text ends as it did without marks. -/
theorem getLast?_markedFrom (i : Nat) (s : List Char) :
    (markedFrom positions i s).getLast? = s.getLast? := by
  rcases List.eq_nil_or_concat' s with rfl | ⟨s, c, rfl⟩
  · rfl
  · rw [markedFrom_concat]
    split <;> simp

theorem free_markedFrom {i : Nat} {s : List Char} : Free (markedFrom positions i s) ↔ Free s := by
  rw [Free, getLast?_markedFrom, Free]

theorem markedFrom_eq_nil {i : Nat} {s : List Char} (h : markedFrom positions i s = []) :
    s = [] := by
  cases s with
  | nil => rfl
  | cons c s =>
    rw [markedFrom] at h
    split at h <;> simp at h

/-- Where a name may begin, the text is not cut between a mark and the character behind it. -/
theorem cut_markedFrom {i : Nat} {s before after : List Char}
    (h : markedFrom positions i s = before ++ after) (free : Free before) :
    ∃ first second, s = first ++ second ∧ before = markedFrom positions i first ∧
      after = markedFrom positions (i + first.length) second := by
  induction s generalizing i before with
  | nil =>
    obtain ⟨rfl, rfl⟩ := List.append_eq_nil_iff.mp h.symm
    exact ⟨[], [], rfl, rfl, rfl⟩
  | cons c s ih =>
    rw [markedFrom] at h
    cases before with
    | nil => exact ⟨[], c :: s, rfl, rfl, by rw [markedFrom]; exact h.symm⟩
    | cons d before =>
      split at h
      · rename_i here
        obtain ⟨rfl, behind⟩ := List.cons.inj h
        cases before with
        | nil => exact absurd (free '_' rfl) (by decide)
        | cons e before =>
          obtain ⟨rfl, rest⟩ := List.cons.inj behind
          obtain ⟨first, second, rfl, rfl, rfl⟩ := ih rest free.tail.tail
          refine ⟨c :: first, second, rfl, ?_, ?_⟩
          · simp [markedFrom, here]
          · simp [Nat.add_assoc, Nat.add_comm 1]
      · rename_i elsewhere
        obtain ⟨rfl, rest⟩ := List.cons.inj h
        obtain ⟨first, second, rfl, rfl, rfl⟩ := ih rest free.tail
        refine ⟨c :: first, second, rfl, ?_, ?_⟩
        · simp [markedFrom, elsewhere]
        · simp [Nat.add_assoc, Nat.add_comm 1]

/-- No position lies inside a name: what stands before it does not join. -/
def BetweenNames (positions : List Nat) (i : Nat) (s : List Char) : Prop :=
  ∀ j c, s[j]? = some c → joinsName c = true → i + j + 1 ∉ positions

theorem BetweenNames.drop {i : Nat} {first second : List Char}
    (h : BetweenNames positions i (first ++ second)) :
    BetweenNames positions (i + first.length) second := by
  intro j c there joins
  have later : (first ++ second)[first.length + j]? = some c := by
    rw [List.getElem?_append_right (by omega), Nat.add_sub_cancel_left, there]
  have outside := h _ c later joins
  rwa [← Nat.add_assoc] at outside

theorem BetweenNames.left {i : Nat} {first second : List Char}
    (h : BetweenNames positions i (first ++ second)) : BetweenNames positions i first := by
  intro j c there
  have bound := (List.getElem?_eq_some_iff.mp there).1
  exact h j c (by rw [List.getElem?_append_left bound, there])

theorem BetweenNames.mono {done : List Nat} {i : Nat} {s : List Char}
    (h : BetweenNames positions i s) (among : done ⊆ positions) : BetweenNames done i s :=
  fun j c there joins marked => h j c there joins (among marked)

theorem BetweenNames.tail {i : Nat} {c : Char} {s : List Char}
    (h : BetweenNames positions i (c :: s)) : BetweenNames positions (i + 1) s := by
  have whole : BetweenNames positions i ([c] ++ s) := h
  exact whole.drop

/-- There are no marks inside of names, so the words of the marked text are those of the text. -/
theorem word_of_markedFrom {i : Nat} {s word rest : List Char} {c : Char}
    (between : BetweenNames positions i s) (unmarked : i ∉ positions) (joined : Joined word)
    (h : markedFrom positions i s = word ++ c :: rest) :
    ∃ more, s = word ++ c :: more ∧ rest = markedFrom positions (i + word.length + 1) more := by
  induction word generalizing i s with
  | nil =>
    cases s with
    | nil => cases h
    | cons d s =>
      rw [markedFrom, if_neg unmarked] at h
      obtain ⟨rfl, rfl⟩ := List.cons.inj h
      exact ⟨s, rfl, rfl⟩
  | cons d word ih =>
    cases s with
    | nil => cases h
    | cons e s =>
      rw [markedFrom, if_neg unmarked] at h
      obtain ⟨rfl, behind⟩ := List.cons.inj h
      have outside : i + 1 ∉ positions := between 0 e rfl (joined e List.mem_cons_self)
      obtain ⟨more, rfl, rfl⟩ :=
        ih between.tail outside (fun x hx => joined x (List.mem_cons_of_mem e hx)) behind
      exact ⟨more, rfl, by simp [Nat.add_assoc, Nat.add_comm 1]⟩

/-! ## How far marks move a text -/

theorem byteLength_append (s t : List Char) :
    byteLength (s ++ t) = byteLength s + byteLength t := by
  induction s with
  | nil => simp [byteLength]
  | cons c s ih => simp [byteLength, ih, Nat.add_assoc]

theorem byteLength_pos {s : List Char} (h : s ≠ []) : 0 < byteLength s := by
  cases s with
  | nil => contradiction
  | cons c s => exact Nat.add_pos_left c.utf8Size_pos _

theorem byteLength_take_add_drop (n : Nat) (s : List Char) :
    byteLength (s.take n) + byteLength (s.drop n) = byteLength s := by
  rw [← byteLength_append, List.take_append_drop]

/-- How many of the positions lie before this one. -/
def marksBefore (positions : List Nat) (p : Nat) : Nat := (List.range p).countP (· ∈ positions)

theorem marksBefore_succ (p : Nat) :
    marksBefore positions (p + 1) = marksBefore positions p + if p ∈ positions then 1 else 0 := by
  simp [marksBefore, List.range_succ, List.countP_append, List.countP_singleton]

theorem marksBefore_le (p : Nat) : marksBefore positions p ≤ p := by
  have bound := List.countP_le_length (p := fun i => decide (i ∈ positions)) (l := List.range p)
  rwa [List.length_range] at bound

theorem marksBefore_mono {done : List Nat} (h : done ⊆ positions) (p : Nat) :
    marksBefore done p ≤ marksBefore positions p := by
  apply List.countP_mono_left
  intro i _ marked
  simpa using h (by simpa using marked)

theorem length_markedAt (s : List Char) :
    (markedAt positions s).length = s.length + marksBefore positions s.length := by
  induction s using List.reverseRecOn with
  | nil => rfl
  | append_singleton s c ih =>
    rw [markedAt] at ih ⊢
    rw [markedFrom_concat, List.length_append, ih, List.length_append, List.length_singleton,
      marksBefore_succ, Nat.zero_add]
    split <;> simp <;> omega

theorem byteLength_markedAt (s : List Char) :
    byteLength (markedAt positions s) = byteLength s + marksBefore positions s.length := by
  induction s using List.reverseRecOn with
  | nil => rfl
  | append_singleton s c ih =>
    have mark : '_'.utf8Size = 1 := by decide
    rw [markedAt] at ih ⊢
    rw [markedFrom_concat, byteLength_append, ih, byteLength_append, List.length_append,
      List.length_singleton, marksBefore_succ, Nat.zero_add]
    split <;> simp [byteLength, mark] <;> omega

variable (positions) in
/-- The last characters of a marked text weigh no more than as many characters of the text without
marks: a mark is a single byte. -/
theorem byteLength_rtake_markedAt {k most : Nat} {s : List Char} (few : k ≤ most)
    (bound : most ≤ s.length) :
    byteLength ((markedAt positions s).rtake k) + (most - k) ≤ byteLength (s.rtake most) := by
  induction s using List.reverseRecOn generalizing k most with
  | nil =>
    obtain rfl : most = 0 := by simpa using bound
    obtain rfl : k = 0 := by omega
    simp [byteLength]
  | append_singleton s c ih =>
    have weighs : 0 < c.utf8Size := c.utf8Size_pos
    have mark : '_'.utf8Size = 1 := by decide
    rw [List.length_append, List.length_singleton] at bound
    rw [markedAt, markedFrom_concat, ← markedAt]
    cases most with
    | zero =>
      obtain rfl : k = 0 := by omega
      simp
    | succ most =>
      rw [List.rtake_concat_succ, byteLength_append]
      cases k with
      | zero =>
        have rest := ih (Nat.zero_le most) (by omega)
        simp [byteLength] at rest ⊢
        omega
      | succ k =>
        split
        · rw [List.append_cons, List.rtake_concat_succ, byteLength_append]
          cases k with
          | zero =>
            have rest := ih (Nat.zero_le most) (by omega)
            simp [byteLength] at rest ⊢
            omega
          | succ k =>
            have rest := @ih k most (by omega) (by omega)
            rw [List.rtake_concat_succ, byteLength_append]
            simp [byteLength, mark] at rest ⊢
            omega
        · have rest := @ih k most (by omega) (by omega)
          rw [List.rtake_concat_succ, byteLength_append]
          simp at rest ⊢
          omega

/-! ## Where names stand -/

/-- The word stands at this position of the line. -/
def StandsAt (word line : List Char) (p : Nat) : Prop :=
  Free (line.take p) ∧ Opens word marked.closings (line.drop p)

instance (word line : List Char) (p : Nat) : Decidable (StandsAt word line p) :=
  inferInstanceAs (Decidable (_ ∧ _))

/-- A name, as it can be captured, that has no mark yet. -/
structure IsName (name : List Char) : Prop where
  joined : Joined name
  start : ∃ c ∈ name.head?, c ≠ '_'

theorem IsName.joined_marked {name : List Char} (h : IsName name) : Joined ('_' :: name) := by
  intro c hc
  rcases List.mem_cons.mp hc with rfl | hc
  · decide
  · exact h.joined c hc

theorem markedFrom_word {i : Nat} {word : List Char} {c : Char} {rest : List Char}
    (between : BetweenNames positions i (word ++ c :: rest)) (unmarked : i ∉ positions)
    (joined : Joined word) :
    markedFrom positions i (word ++ c :: rest) =
      word ++ c :: markedFrom positions (i + word.length + 1) rest := by
  induction word generalizing i with
  | nil => simp [markedFrom, unmarked]
  | cons d word ih =>
    have outside : i + 1 ∉ positions := between 0 d rfl (joined d List.mem_cons_self)
    rw [List.cons_append, markedFrom, if_neg unmarked,
      ih between.tail outside fun x hx => joined x (List.mem_cons_of_mem d hx)]
    simp [Nat.add_assoc, Nat.add_comm 1]

/-- Where a name without its mark stands in the marked text, it stands in the text, and not at one
of the positions. -/
theorem IsName.opens {name closings s : List Char} {i : Nat} (named : IsName name)
    (between : BetweenNames positions i s) (h : Opens name closings (markedFrom positions i s)) :
    i ∉ positions ∧ Opens name closings s := by
  obtain ⟨c, closing, rest, h⟩ := h
  have unmarked : i ∉ positions := by
    intro here
    obtain ⟨d, first, other⟩ := named.start
    obtain ⟨more, rfl⟩ := List.head?_eq_some_iff.mp first
    cases s with
    | nil => cases h
    | cons e s =>
      rw [markedFrom, if_pos here] at h
      exact other (List.cons.inj h).1.symm
  obtain ⟨more, rfl, _⟩ := word_of_markedFrom between unmarked named.joined h
  exact ⟨unmarked, c, closing, more, rfl⟩

/-- Where a name stands with a mark in the marked text, the mark was put there or is older. -/
theorem IsName.opens_marked {name closings s : List Char} {i : Nat} (named : IsName name)
    (between : BetweenNames positions i s)
    (h : Opens ('_' :: name) closings (markedFrom positions i s)) :
    i ∈ positions ∧ Opens name closings s ∨ i ∉ positions ∧ Opens ('_' :: name) closings s := by
  obtain ⟨c, closing, rest, h⟩ := h
  by_cases here : i ∈ positions
  · obtain ⟨d, first, _⟩ := named.start
    obtain ⟨word, rfl⟩ := List.head?_eq_some_iff.mp first
    cases s with
    | nil => cases h
    | cons e s =>
      rw [markedFrom, if_pos here] at h
      obtain ⟨rfl, behind⟩ := List.cons.inj (List.cons.inj h).2
      have outside : i + 1 ∉ positions := between 0 e rfl (named.joined e List.mem_cons_self)
      obtain ⟨more, rfl, _⟩ := word_of_markedFrom between.tail outside
        (fun x hx => named.joined x (List.mem_cons_of_mem e hx)) behind
      exact .inl ⟨here, c, closing, more, rfl⟩
  · obtain ⟨more, rfl, _⟩ := word_of_markedFrom between here named.joined_marked h
    exact .inr ⟨here, c, closing, more, rfl⟩

theorem IsName.not_marked {name line : List Char} {p : Nat} (named : IsName name)
    (stands : StandsAt name line p) : ¬ StandsAt ('_' :: name) line p := by
  rintro ⟨_, _, _, _, marked⟩
  obtain ⟨_, _, _, _, plain⟩ := stands
  obtain ⟨d, first, other⟩ := named.start
  obtain ⟨word, rfl⟩ := List.head?_eq_some_iff.mp first
  exact other (List.cons.inj (plain.symm.trans marked)).1

/-- A site of the marked line that lies at this position of the line without marks. -/
structure Site.LiesAt (positions : List Nat) (line : List Char) (site : Site) (q : Nat) : Prop where
  reach : q ≤ line.length
  before : site.before = markedAt positions (line.take q)
  after : site.after = markedFrom positions q (line.drop q)
  offset : site.offset = byteLength (markedAt positions (line.take q))

/-- The site at this position of a name that has no mark. -/
def siteAt (positions : List Nat) (line : List Char) (q : Nat) : Site :=
  ⟨markedAt positions (line.take q), markedFrom positions q (line.drop q),
    byteLength (markedAt positions (line.take q)), false⟩

theorem Site.LiesAt.eq_siteAt {line : List Char} {site : Site} {q : Nat}
    (h : site.LiesAt positions line q) (plain : site.marked = false) :
    site = siteAt positions line q := by
  obtain ⟨before, after, offset, mark⟩ := site
  obtain ⟨_, rfl, rfl, rfl⟩ := h
  obtain rfl : mark = false := plain
  rfl

/-- Every site of the marked line lies at such a position. -/
theorem Site.Sound.liesAt {word closings line : List Char} {site : Site}
    (h : site.Sound word closings (markedAt positions line))
    (between : BetweenNames positions 0 line) :
    ∃ q, site.LiesAt positions line q ∧ Free (line.take q) ∧
      BetweenNames positions q (line.drop q) := by
  obtain ⟨first, second, rfl, before, after⟩ := cut_markedFrom h.cut h.free
  have later := between.drop
  rw [Nat.zero_add] at after later
  refine ⟨first.length, ⟨by simp, ?_, ?_, ?_⟩, ?_, ?_⟩
  · rw [List.take_left]
    exact before
  · rw [List.drop_left]
    exact after
  · rw [h.offset, List.take_left, before]
    rfl
  · rw [List.take_left]
    exact free_markedFrom.mp (before ▸ h.free)
  · rwa [List.drop_left]

/-- The name stands at the position of a site with a mark, unless it stands there with an older
one. -/
theorem IsName.markedSites_liesAt {name line : List Char} (named : IsName name)
    (between : BetweenNames positions 0 line) {site : Site}
    (h : site ∈ markedSites name (markedAt positions line)) :
    ∃ q, site.LiesAt positions line q ∧
      (q ∈ positions ∧ StandsAt name line q ∨ q ∉ positions ∧ StandsAt ('_' :: name) line q) := by
  obtain ⟨_, sound⟩ := markedSites_sound h
  obtain ⟨q, lies, free, later⟩ := sound.liesAt between
  refine ⟨q, lies, ?_⟩
  rcases named.opens_marked later (lies.after ▸ sound.opens) with ⟨here, opens⟩ | ⟨elsewhere, opens⟩
  · exact .inl ⟨here, free, opens⟩
  · exact .inr ⟨elsewhere, free, opens⟩

/-- The name stands in the same shape at the position of any other site. -/
theorem IsName.sites_liesAt {name line : List Char} (named : IsName name)
    (between : BetweenNames positions 0 line) {shape : Shape} (known : shape ∈ shapes) {site : Site}
    (h : site ∈ shape.sites name (markedAt positions line)) :
    ∃ q, site.LiesAt positions line q ∧ site.marked = false ∧ StandsAt name line q ∧
      Opens name shape.closings (line.drop q) ∧
      (shape.opening = ['('] → (line.take q).getLast? = some '(') := by
  obtain ⟨plain, sound, opened⟩ := Shape.sites_sound known h
  obtain ⟨q, lies, free, later⟩ := sound.liesAt between
  obtain ⟨_, opens⟩ := named.opens later (lies.after ▸ sound.opens)
  refine ⟨q, lies, plain, ⟨free, opens.mono (closing_of_shape shape known)⟩, opens, ?_⟩
  intro opening
  obtain ⟨sooner, ends⟩ := opened
  rw [← getLast?_markedFrom 0, ← markedAt, ← lies.before, ← ends, opening]
  simp

/-! ## Marking one more position -/

theorem markedAt_split {line : List Char} (p : Nat) (h : p ≤ line.length) :
    markedAt positions line =
      markedAt positions (line.take p) ++ markedFrom positions p (line.drop p) := by
  have whole : line.take p ++ line.drop p = line := List.take_append_drop p line
  calc markedAt positions line
    _ = markedFrom positions 0 (line.take p ++ line.drop p) := by rw [whole, markedAt]
    _ = _ := by rw [markedFrom_append, List.length_take, Nat.min_eq_left h, Nat.zero_add, markedAt]

theorem markedAt_cons {line : List Char} {p : Nat} (h : p < line.length) (fresh : p ∉ positions) :
    markedAt (p :: positions) line =
      markedAt positions (line.take p) ++ '_' :: markedFrom positions p (line.drop p) := by
  rw [markedAt_split p (Nat.le_of_lt h), List.drop_eq_getElem_cons h, markedFrom, markedFrom,
    if_pos List.mem_cons_self, if_neg fresh]
  have sooner : markedAt (p :: positions) (line.take p) = markedAt positions (line.take p) := by
    apply markedFrom_congr
    intro j _ below
    rw [List.length_take] at below
    have apart : j ≠ p := by omega
    simp [apart]
  have later : markedFrom (p :: positions) (p + 1) (line.drop (p + 1)) =
      markedFrom positions (p + 1) (line.drop (p + 1)) := by
    apply markedFrom_congr
    intro j above _
    have apart : j ≠ p := by omega
    simp [apart]
  rw [sooner, later]
  rfl

/-- How many bytes before the name at position `p` its column points when all positions are marked.
It can be fewer if there are characters of several bytes. -/
def drift (positions : List Nat) (line : List Char) (p : Nat) : Nat :=
  byteLength ((line.take p).rtake (marksBefore positions p))

/-- How many bytes the place at position `q` then lies before the one at position `p`. -/
def room (positions : List Nat) (line : List Char) (q p : Nat) : Nat :=
  byteLength ((line.take p).drop q) + marksBefore positions p - marksBefore positions q

/-- The character that follows the name at a position. -/
def closingAt (name line : List Char) (p : Nat) : Option Char :=
  (line.drop (p + name.length)).head?

theorem closingAt_eq {name line rest : List Char} {p : Nat} {c : Char}
    (h : line.drop p = name ++ c :: rest) : closingAt name line p = some c := by
  rw [closingAt, ← List.drop_drop, h, List.drop_left]
  rfl

/-- Where that character stands among the closing ones. -/
def closingRank (name line : List Char) (p : Nat) : Nat :=
  (closingAt name line p).elim marked.closings.length marked.closings.idxOf

/-- If both places are equally close, the one at `p` is taken: that at `q` will not be marked, it
ends in a later closing character, and is not in parentheses of its own. -/
def Yields (positions : List Nat) (line name : List Char) (q p : Nat) : Prop :=
  q ∉ positions ∧ StandsAt name line q ∧ closingRank name line p < closingRank name line q ∧
    (closingAt name line q = some ')' → (line.take q).getLast? ≠ some '(')

instance (positions : List Nat) (line name : List Char) (q p : Nat) :
    Decidable (Yields positions line name q p) :=
  inferInstanceAs (Decidable (_ ∧ _ ∧ _ ∧ _))

/-- What a finding at position `p` needs so that no other place of its name is taken for it, however
many of the other positions were marked before. -/
structure Clear (positions : List Nat) (line name : List Char) (p : Nat) : Prop where
  stands : StandsAt name line p
  /-- Another place of the name that ends right before this one ends in another character. -/
  apart : ∀ q < p, StandsAt name line q → q + name.length + 1 = p →
    closingAt name line q ≠ closingAt name line p
  /-- To the left there is no other place as close to where the column points. -/
  nearest : ∀ q < p, StandsAt name line q ∨ StandsAt ('_' :: name) line q →
    2 * drift positions line p < room positions line q p ∨
      2 * drift positions line p = room positions line q p ∧ Yields positions line name q p

namespace Clear

variable {done : List Nat} {line name : List Char} {p : Nat}

theorem lt_length (h : Clear positions line name p) : p < line.length := by
  obtain ⟨_, c, _, rest, opens⟩ := h.stands
  have length := congrArg List.length opens
  simp at length
  omega

/-- In the marked line too, no other place of the name ends right before this one in the same
way. -/
theorem not_touching (h : Clear positions line name p) (named : IsName name)
    (between : BetweenNames done 0 line) {c : Char} {rest : List Char}
    (there : line.drop p = name ++ c :: rest) (closing : c ∈ marked.closings)
    {sooner : List Char} (free : Free sooner) :
    markedAt done (line.take p) ≠ sooner ++ name ++ [c] := by
  intro touches
  rw [List.append_assoc] at touches
  obtain ⟨first, second, cut, before, after⟩ := cut_markedFrom touches free
  have whole : line = first ++ (second ++ (name ++ c :: rest)) := by
    rw [← List.append_assoc, ← cut, ← there, List.take_append_drop]
  have later : BetweenNames done (0 + first.length) second := by
    rw [whole] at between
    exact between.drop.left
  have unmarked := (named.opens later ⟨c, List.mem_singleton_self c, [], after.symm⟩).1
  obtain ⟨more, rfl, ended⟩ := word_of_markedFrom later unmarked named.joined after.symm
  obtain rfl := markedFrom_eq_nil ended.symm
  have position : first.length + name.length + 1 = p := by
    have length := congrArg List.length cut
    have bound := h.lt_length
    simp at length
    omega
  have below : line.drop first.length = name ++ c :: (name ++ c :: rest) := by
    rw [whole, List.drop_left]
    simp
  have stands : StandsAt name line first.length := by
    refine ⟨?_, c, closing, _, below⟩
    rw [whole, List.take_left]
    exact free_markedFrom.mp (before ▸ free)
  apply h.apart first.length (by omega) stands position
  rw [closingAt_eq below, closingAt_eq there]

end Clear

/-! ## Which place the column points to -/

section
variable {done : List Nat} {line : List Char} {p q : Nat}

/-- How far the column for position `p` lies from the place at position `q`, in bytes. -/
def gapTo (done : List Nat) (line : List Char) (p q : Nat) : Nat :=
  distance (byteLength (markedAt done (line.take q))) (columnOffset (markedAt done line) (p + 1))

theorem columnOffset_markedAt (bound : p ≤ line.length) :
    columnOffset (markedAt done line) (p + 1) =
      byteLength ((markedAt done (line.take p)).take p) := by
  have reaches : p ≤ (markedAt done (line.take p)).length := by
    rw [length_markedAt, List.length_take_of_le bound]
    omega
  rw [columnOffset, markedAt_split p bound, Nat.add_sub_cancel,
    List.take_append_of_le_length reaches]

/-- With fewer marks than in the end the column points closer to the name, and places to the left
are as far from the name as in the end but for those marks. -/
theorem gapTo_left (among : done ⊆ positions) (bound : p ≤ line.length) (left : q < p) :
    (2 * drift positions line p ≤ room positions line q p →
      gapTo done line p p ≤ gapTo done line p q) ∧
    (2 * drift positions line p < room positions line q p →
      gapTo done line p p < gapTo done line p q) := by
  have length : (line.take p).length = p := List.length_take_of_le bound
  have lengthLeft : (line.take q).length = q := List.length_take_of_le (by omega)
  have weight : byteLength (markedAt done (line.take p)) =
      byteLength (line.take p) + marksBefore done p := by
    rw [byteLength_markedAt, length]
  have weightLeft : byteLength (markedAt done (line.take q)) =
      byteLength (line.take q) + marksBefore done q := by
    rw [byteLength_markedAt, lengthLeft]
  have gap : byteLength (line.take q) + byteLength ((line.take p).drop q) =
      byteLength (line.take p) := by
    have cut := byteLength_take_add_drop q (line.take p)
    rwa [List.take_take, Nat.min_eq_left (Nat.le_of_lt left)] at cut
  have fewer := marksBefore_mono among p
  have fewerLeft := marksBefore_mono among q
  have slip := byteLength_take_add_drop p (markedAt done (line.take p))
  have slipped : byteLength ((markedAt done (line.take p)).drop p) +
      (marksBefore positions p - marksBefore done p) ≤ drift positions line p := by
    have bounded : marksBefore positions p ≤ (line.take p).length := by
      rw [length]
      exact marksBefore_le p
    have light := byteLength_rtake_markedAt done fewer bounded
    rwa [List.rtake, length_markedAt, length, Nat.add_sub_cancel] at light
  simp only [gapTo, columnOffset_markedAt bound, distance, room]
  omega

/-- The column never points behind the name, so places to the right are farther from it. -/
theorem gapTo_right (right : p < q) (reach : q ≤ line.length) :
    gapTo done line p p < gapTo done line p q := by
  have split : markedAt done (line.take q) =
      markedAt done (line.take p) ++ markedFrom done p ((line.take q).drop p) := by
    rw [markedAt_split p (by simp; omega), List.take_take, Nat.min_eq_left (Nat.le_of_lt right)]
  have apart : 0 < byteLength (markedFrom done p ((line.take q).drop p)) := by
    apply byteLength_pos
    intro none
    have empty := congrArg List.length (markedFrom_eq_nil none)
    simp at empty
    omega
  have slip := byteLength_take_add_drop p (markedAt done (line.take p))
  rw [gapTo, gapTo, columnOffset_markedAt (by omega), split, byteLength_append]
  simp only [distance]
  omega

end

namespace Clear

variable {done : List Nat} {line name : List Char} {p q : Nat}

theorem gapTo_le (h : Clear positions line name p) (among : done ⊆ positions)
    (reach : q ≤ line.length)
    (other : StandsAt name line q ∨ StandsAt ('_' :: name) line q) :
    gapTo done line p p ≤ gapTo done line p q := by
  rcases Nat.lt_trichotomy q p with left | rfl | right
  · have compare := gapTo_left among (Nat.le_of_lt h.lt_length) left
    rcases h.nearest q left other with closer | ⟨tie, _⟩
    · exact Nat.le_of_lt (compare.2 closer)
    · exact compare.1 (Nat.le_of_eq tie)
  · exact Nat.le_refl _
  · exact Nat.le_of_lt (gapTo_right right reach)

theorem gapTo_lt (h : Clear positions line name p) (among : done ⊆ positions)
    (reach : q ≤ line.length) (apart : q ≠ p)
    (other : StandsAt name line q ∨ StandsAt ('_' :: name) line q)
    (firm : ¬ Yields positions line name q p) : gapTo done line p p < gapTo done line p q := by
  rcases Nat.lt_or_gt_of_ne apart with left | right
  · rcases h.nearest q left other with closer | ⟨_, yields⟩
    · exact (gapTo_left among (Nat.le_of_lt h.lt_length) left).2 closer
    · exact absurd yields firm
  · exact gapTo_right right reach

/-- Sites with a mark are farther. -/
theorem markedSites_farther (h : Clear positions line name p) (named : IsName name)
    (among : done ⊆ positions) (between : BetweenNames done 0 line) (fresh : p ∉ done) {site : Site}
    (found : site ∈ markedSites name (markedAt done line)) :
    gapTo done line p p <
      distance site.offset (columnOffset (markedAt done line) (p + 1)) := by
  obtain ⟨q, lies, stands⟩ := named.markedSites_liesAt between found
  rw [lies.offset]
  rcases stands with ⟨here, stands⟩ | ⟨_, stands⟩
  · refine h.gapTo_lt among lies.reach ?_ (.inl stands) fun yields => yields.1 (among here)
    rintro rfl
    exact fresh here
  · refine h.gapTo_lt among lies.reach ?_ (.inr stands) fun yields =>
      named.not_marked yields.2.1 stands
    rintro rfl
    exact named.not_marked h.stands stands

/-- A place does not yield if its shape comes no later. -/
theorem not_yields {c : Char} {rest : List Char} (there : line.drop p = name ++ c :: rest)
    (closing : c ∈ marked.closings) {shape : Shape} (sooner : shape ∈ shapesUpTo c)
    (opens : Opens name shape.closings (line.drop q))
    (opened : shape.opening = ['('] → (line.take q).getLast? = some '(') :
    ¬ Yields positions line name q p := by
  obtain ⟨d, inShape, more, below⟩ := opens
  rintro ⟨_, _, later, bare⟩
  rw [closingRank, closingRank, closingAt_eq there, closingAt_eq below] at later
  rcases idxOf_le_of_shapesUpTo c closing shape sooner d inShape with noLater | ⟨rfl, opening⟩
  · exact absurd later (Nat.not_lt.mpr noLater)
  · exact bare (closingAt_eq below) (opened opening)

theorem siteAt_mem (h : Clear positions line name p) (named : IsName name)
    (between : BetweenNames done 0 line) (fresh : p ∉ done) {c : Char} {rest : List Char}
    (there : line.drop p = name ++ c :: rest) (closing : c ∈ marked.closings) :
    siteAt done line p ∈ Shape.sites ⟨[], [c]⟩ name (markedAt done line) := by
  have bound := Nat.le_of_lt h.lt_length
  have later : BetweenNames done p (line.drop p) := by
    rw [← List.take_append_drop p line] at between
    simpa [Nat.min_eq_left bound] using between.drop
  have word : markedFrom done p (line.drop p) =
      name ++ c :: markedFrom done (p + name.length + 1) rest := by
    rw [there] at later ⊢
    exact markedFrom_word later fresh named.joined
  rw [markedAt_split p bound, siteAt, word]
  exact mem_sites named.joined (free_markedFrom.mpr h.stands.1) fun _ start =>
    h.not_touching named between there closing start

/-- However many of the other positions are marked, the column leads to its own place. -/
theorem closest?_eq (h : Clear positions line name p) (named : IsName name)
    (among : done ⊆ positions) (between : BetweenNames done 0 line) (fresh : p ∉ done) :
    closest? (columnOffset (markedAt done line) (p + 1)) (sites name (markedAt done line)) =
      some (siteAt done line p) := by
  obtain ⟨_, c, closing, rest, there⟩ := h.stands
  rw [sites_split name _ c]
  apply closest?_eq_some
  · apply List.mem_append_right
    exact List.mem_flatMap.mpr
      ⟨_, mem_shapesUpTo c closing, h.siteAt_mem named between fresh there closing⟩
  · intro other found
    rcases List.mem_append.mp found with found | found
    · exact .inr (h.markedSites_farther named among between fresh found)
    · obtain ⟨shape, sooner, found⟩ := List.mem_flatMap.mp found
      have known : shape ∈ shapes := List.mem_of_mem_take sooner
      obtain ⟨q, lies, plain, stands, opens, opened⟩ := named.sites_liesAt between known found
      by_cases here : q = p
      · subst here
        exact .inl (lies.eq_siteAt plain)
      · right
        rw [lies.offset]
        exact h.gapTo_lt among lies.reach here (.inl stands)
          (not_yields there closing sooner opens opened)
  · intro other found
    obtain ⟨shape, later, found⟩ := List.mem_flatMap.mp found
    have known : shape ∈ shapes := List.mem_of_mem_drop later
    obtain ⟨q, lies, _, stands, _, _⟩ := named.sites_liesAt between known found
    rw [lies.offset]
    exact h.gapTo_le among lies.reach (.inl stands)

/-- Mending the line for the finding at `p` marks that position, and no other. -/
theorem mendLine_eq (h : Clear positions line name p) (named : IsName name)
    (among : done ⊆ positions) (between : BetweenNames done 0 line) (fresh : p ∉ done) :
    mendLine (markedAt done line) name (p + 1) = some (markedAt (p :: done) line) := by
  have unmarked : name.head? ≠ some '_' := by
    obtain ⟨d, first, other⟩ := named.start
    rw [first]
    simpa using other
  rw [mendLine, if_neg unmarked, h.closest?_eq named among between fresh,
    markedAt_cons h.lt_length fresh]
  rfl

end Clear

end LintRepair.Parameter
