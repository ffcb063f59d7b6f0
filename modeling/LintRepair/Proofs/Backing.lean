import Mathlib.Data.List.Forall2
import Mathlib.Data.Option.Basic
import LintRepair.Diagnostic.Reading

/-!
What backs a finding: the message on one line and the marker on a line behind it.

* `findingAt?_eq_some_iff`: a finding starts at a line just if it is backed from
  there;
* `locations_never_guessed`: the findings of a text are those that are backed, each
  by a pair of lines of its own, and these pairs do not cross.
-/

namespace LintRepair

/-- From line `start` on, line `j` is the first marker, it gives this location, and no diagnostic
opens up to there. -/
structure Confirms (lines : List (List Char)) (location : Location) (start j : Nat) : Prop where
  reached : start ≤ j
  marker : ∃ line, lines[j]? = some line ∧ Location.hasMarker line = true ∧
    Location.ofLine? line = some location
  first : ∀ k line, start ≤ k → k < j → lines[k]? = some line → Location.hasMarker line = false
  quiet : ∀ k line, start ≤ k → k ≤ j → lines[k]? = some line → opensDiagnostic line = false

/-- A finding is backed by the message on line `i`, which has its kind and name, and by the marker
on line `j`, a few lines behind, which gives its place. -/
structure Backed (lines : List (List Char)) (f : Finding) (i j : Nat) : Prop where
  message : ∃ line name, lines[i]? = some line ∧ message? line = some ⟨f.kind, name⟩ ∧
    f.captured = some (.ofList name)
  confirms : Confirms lines ⟨f.file, f.line, f.column⟩ (i + 1) j
  near : j ≤ i + lookahead
  line_pos : 1 ≤ f.line

variable {lines : List (List Char)} {line : List Char} {location : Location} {f : Finding}
  {start i j : Nat}

/-! ## The marker behind a message -/

namespace Confirms

theorem here_iff : Confirms (line :: lines) location 0 0 ↔
    opensDiagnostic line = false ∧ Location.hasMarker line = true ∧
      Location.ofLine? line = some location := by
  constructor
  · rintro ⟨_, ⟨_, ⟨⟩, marked, located⟩, _, quiet⟩
    exact ⟨quiet 0 line (Nat.le_refl 0) (Nat.le_refl 0) rfl, marked, located⟩
  · rintro ⟨silent, marked, located⟩
    refine ⟨Nat.le_refl 0, ⟨line, rfl, marked, located⟩, ?_, ?_⟩
    · intro k _ _ before
      exact absurd before (Nat.not_lt_zero k)
    · intro k other _ upTo there
      obtain rfl := Nat.le_zero.mp upTo
      cases there
      exact silent

theorem shift_iff : Confirms (line :: lines) location (start + 1) (j + 1) ↔
    Confirms lines location start j := by
  constructor
  · rintro ⟨reached, marker, first, quiet⟩
    refine ⟨Nat.le_of_succ_le_succ reached, marker, ?_, ?_⟩
    · intro k other from_ before
      exact first (k + 1) other (Nat.succ_le_succ from_) (Nat.succ_lt_succ before)
    · intro k other from_ upTo
      exact quiet (k + 1) other (Nat.succ_le_succ from_) (Nat.succ_le_succ upTo)
  · rintro ⟨reached, marker, first, quiet⟩
    refine ⟨Nat.succ_le_succ reached, marker, ?_, ?_⟩
    · rintro (_ | k) other from_ before there
      · exact absurd from_ (Nat.not_succ_le_zero start)
      · exact first k other (Nat.le_of_succ_le_succ from_) (Nat.lt_of_succ_lt_succ before) there
    · rintro (_ | k) other from_ upTo there
      · exact absurd from_ (Nat.not_succ_le_zero start)
      · exact quiet k other (Nat.le_of_succ_le_succ from_) (Nat.le_of_succ_le_succ upTo) there

theorem later_iff : Confirms (line :: lines) location 0 (j + 1) ↔
    opensDiagnostic line = false ∧ Location.hasMarker line = false ∧
      Confirms (line :: lines) location 1 (j + 1) := by
  constructor
  · rintro ⟨_, marker, first, quiet⟩
    refine ⟨quiet 0 line (Nat.le_refl 0) (Nat.zero_le _) rfl,
      first 0 line (Nat.le_refl 0) (Nat.succ_pos j) rfl, Nat.le_add_left 1 j, marker, ?_, ?_⟩
    · exact fun k other _ => first k other (Nat.zero_le k)
    · exact fun k other _ => quiet k other (Nat.zero_le k)
  · rintro ⟨silent, unmarked, _, marker, first, quiet⟩
    refine ⟨Nat.zero_le _, marker, ?_, ?_⟩
    · rintro (_ | k) other _ before there
      · cases there
        exact unmarked
      · exact first (k + 1) other (Nat.le_add_left 1 k) before there
    · rintro (_ | k) other _ upTo there
      · cases there
        exact silent
      · exact quiet (k + 1) other (Nat.le_add_left 1 k) upTo there

theorem take_iff {n : Nat} :
    Confirms (lines.take n) location start j ↔ Confirms lines location start j ∧ j < n := by
  have inside {k : Nat} (h : k < n) : (lines.take n)[k]? = lines[k]? := List.getElem?_take_of_lt h
  constructor
  · rintro ⟨reached, ⟨line, there, marked⟩, first, quiet⟩
    have short : j < n := by
      by_contra far
      rw [List.getElem?_take_eq_none (Nat.not_lt.mp far)] at there
      cases there
    refine ⟨⟨reached, ⟨line, inside short ▸ there, marked⟩, ?_, ?_⟩, short⟩
    · intro k other from_ before there
      exact first k other from_ before ((inside (Nat.lt_trans before short)).trans there)
    · intro k other from_ upTo there
      exact quiet k other from_ upTo ((inside (Nat.lt_of_le_of_lt upTo short)).trans there)
  · rintro ⟨⟨reached, ⟨line, there, marked⟩, first, quiet⟩, short⟩
    refine ⟨reached, ⟨line, (inside short).trans there, marked⟩, ?_, ?_⟩
    · intro k other from_ before there
      exact first k other from_ before ((inside (Nat.lt_trans before short)).symm.trans there)
    · intro k other from_ upTo there
      exact quiet k other from_ upTo ((inside (Nat.lt_of_le_of_lt upTo short)).symm.trans there)

/-- There is one first marker at most. -/
theorem unique {other : Location} {j' : Nat} (h : Confirms lines location start j)
    (h' : Confirms lines other start j') : j = j' := by
  obtain ⟨line, there, marked, _⟩ := h.marker
  obtain ⟨line', there', marked', _⟩ := h'.marker
  rcases Nat.lt_trichotomy j j' with before | same | behind
  · exact absurd marked (by simp [h'.first j line h.reached before there])
  · exact same
  · exact absurd marked' (by simp [h.first j' line' h'.reached behind there'])

end Confirms

theorem confirmedLocation?_eq_some_iff :
    confirmedLocation? lines = some location ↔ ∃ j, Confirms lines location 0 j := by
  induction lines with
  | nil =>
    constructor
    · intro h
      cases h
    · rintro ⟨j, _, ⟨_, there, _⟩, _⟩
      cases there
  | cons line lines ih =>
    rw [confirmedLocation?]
    split
    · rename_i opens
      constructor
      · intro h
        cases h
      · rintro ⟨j, confirms⟩
        have silent := confirms.quiet 0 line (Nat.le_refl 0) (Nat.zero_le j) rfl
        exact absurd opens (by simp [silent])
    · rename_i silent
      rw [Bool.not_eq_true] at silent
      split
      · rename_i marked
        constructor
        · exact fun located => ⟨0, Confirms.here_iff.mpr ⟨silent, marked, located⟩⟩
        · rintro ⟨_ | j, confirms⟩
          · exact (Confirms.here_iff.mp confirms).2.2
          · exact absurd marked (by simp [(Confirms.later_iff.mp confirms).2.1])
      · rename_i unmarked
        rw [Bool.not_eq_true] at unmarked
        rw [ih]
        constructor
        · rintro ⟨j, confirms⟩
          exact ⟨j + 1, Confirms.later_iff.mpr ⟨silent, unmarked, Confirms.shift_iff.mpr confirms⟩⟩
        · rintro ⟨_ | j, confirms⟩
          · exact absurd (Confirms.here_iff.mp confirms).2.1 (by simp [unmarked])
          · exact ⟨j, Confirms.shift_iff.mp (Confirms.later_iff.mp confirms).2.2⟩

/-! ## Findings and what backs them -/

theorem Location.line_pos (h : ofLine? line = some location) : 1 ≤ location.line := by
  simp only [ofLine?, Option.bind_eq_bind, Option.bind_eq_some_iff, Option.guard_eq_some',
    exists_const] at h
  obtain ⟨_, _, number, _, _, _, valid, same⟩ := h
  cases same
  have nonzero : number ≠ 0 := by simpa using (Bool.and_eq_true_iff.mp valid).2
  exact Nat.one_le_iff_ne_zero.mpr nonzero

theorem findingAt?_eq_some_iff :
    findingAt? line lines = some f ↔ ∃ j, Backed (line :: lines) f 0 j := by
  simp only [findingAt?, Option.bind_eq_bind, Option.bind_eq_some_iff,
    confirmedLocation?_eq_some_iff, Confirms.take_iff]
  constructor
  · rintro ⟨message, said, location, ⟨j, confirms, near⟩, same⟩
    cases same
    obtain ⟨_, _, _, located⟩ := confirms.marker
    refine ⟨j + 1, ⟨line, message.captured, rfl, said, rfl⟩, Confirms.shift_iff.mpr confirms, ?_,
      Location.line_pos located⟩
    rw [Nat.zero_add]
    exact near
  · rintro ⟨_ | j, backed⟩
    · exact absurd backed.confirms.reached (Nat.not_succ_le_zero 0)
    · obtain ⟨_, name, ⟨⟩, said, captured⟩ := backed.message
      refine ⟨_, said, _, ⟨j, Confirms.shift_iff.mp backed.confirms, ?_⟩, ?_⟩
      · have near := backed.near
        rwa [Nat.zero_add] at near
      · exact congrArg some (by cases f; cases captured; rfl)

namespace Backed

theorem shift_iff : Backed (line :: lines) f (i + 1) (j + 1) ↔ Backed lines f i j := by
  constructor
  · rintro ⟨message, confirms, near, line_pos⟩
    exact ⟨message, Confirms.shift_iff.mp confirms, by omega, line_pos⟩
  · rintro ⟨message, confirms, near, line_pos⟩
    exact ⟨message, Confirms.shift_iff.mpr confirms, by omega, line_pos⟩

theorem opens (h : Backed lines f i j) :
    ∃ line, lines[i]? = some line ∧ opensDiagnostic line = true := by
  obtain ⟨line, _, there, said, _⟩ := h.message
  exact ⟨line, there, by simp [opensDiagnostic, said]⟩

/-- The message is that of the nearest diagnostic before the marker. -/
theorem nearest (h : Backed lines f i j) {k : Nat} (before : k < j) (there : lines[k]? = some line)
    (opens : opensDiagnostic line = true) : k ≤ i := by
  by_contra behind
  rw [h.confirms.quiet k line (by omega) (Nat.le_of_lt before) there] at opens
  cases opens

/-- A message behind another one comes behind its marker too. -/
theorem apart {g : Finding} {i' j' : Nat} (h : Backed lines f i j) (h' : Backed lines g i' j')
    (later : i < i') : j < i' := by
  obtain ⟨line, there, opens⟩ := h'.opens
  by_contra within
  rw [h.confirms.quiet i' line later (Nat.not_lt.mp within) there] at opens
  cases opens

end Backed

/-- Pairs of lines, one for each of the findings: they back these findings, each comes behind the
one before, and there are no others. -/
structure Backing (lines : List (List Char)) (findings : List Finding)
    (places : List (Nat × Nat)) : Prop where
  backed : List.Forall₂ (fun f p => Backed lines f p.1 p.2) findings places
  ordered : places.Pairwise fun p q => p.2 < q.1
  all : ∀ f i j, Backed lines f i j → (i, j) ∈ places

namespace Backing

variable {findings : List Finding} {places : List (Nat × Nat)}

theorem exists_backed (h : Backing lines findings places) {p : Nat × Nat} (member : p ∈ places) :
    ∃ f, Backed lines f p.1 p.2 := by
  have backed := h.backed
  clear h
  induction backed with
  | nil => cases member
  | cons here _ ih =>
    rcases List.mem_cons.mp member with rfl | later
    · exact ⟨_, here⟩
    · exact ih later

/-- The same pairs behind one more line, which may begin another one. -/
theorem shift (h : Backing lines findings places) (line : List Char) :
    let shifted := places.map fun p => (p.1 + 1, p.2 + 1)
    List.Forall₂ (fun f p => Backed (line :: lines) f p.1 p.2) findings shifted ∧
      shifted.Pairwise (fun p q => p.2 < q.1) ∧
      ∀ f i j, Backed (line :: lines) f (i + 1) j → (i + 1, j) ∈ shifted := by
  refine ⟨?_, ?_, ?_⟩
  · rw [List.forall₂_map_right_iff]
    exact h.backed.imp fun f p backed => Backed.shift_iff.mpr backed
  · rw [List.pairwise_map]
    exact h.ordered.imp Nat.succ_lt_succ
  · rintro f i (_ | j) backed
    · exact absurd backed.confirms.reached (Nat.not_succ_le_zero _)
    · exact List.mem_map.mpr ⟨(i, j), h.all f i j (Backed.shift_iff.mp backed), rfl⟩

end Backing

theorem exists_backing (lines : List (List Char)) :
    ∃ places, Backing lines (findingsIn lines) places := by
  induction lines with
  | nil =>
    refine ⟨[], .nil, .nil, ?_⟩
    rintro f i j ⟨⟨_, _, there, _⟩, _⟩
    cases there
  | cons line lines ih =>
    obtain ⟨places, backing⟩ := ih
    obtain ⟨backed, ordered, all⟩ := backing.shift line
    rw [findingsIn]
    cases found : findingAt? line lines with
    | none =>
      refine ⟨_, backed, ordered, ?_⟩
      rintro f (_ | i) j there
      · rw [findingAt?_eq_some_iff.mpr ⟨j, there⟩] at found
        cases found
      · exact all f i j there
    | some g =>
      obtain ⟨j, here⟩ := findingAt?_eq_some_iff.mp found
      refine ⟨(0, j) :: _, .cons here backed, List.pairwise_cons.mpr ⟨?_, ordered⟩, ?_⟩
      · -- The other pairs begin with messages, and there is none up to this marker.
        intro _ later
        obtain ⟨q, member, rfl⟩ := List.mem_map.mp later
        obtain ⟨f, there⟩ := backing.exists_backed member
        exact here.apart (Backed.shift_iff.mpr there) (Nat.succ_pos q.1)
      · rintro f (_ | i) j' there
        · rw [here.confirms.unique there.confirms]
          exact List.mem_cons_self
        · exact List.mem_cons_of_mem _ (all f i j' there)

/-- The findings of a text are those that are backed, in the order of their lines: the message of
each comes behind the marker of the one before. So a marker backs one finding at most, which is that
of the nearest diagnostic before it. -/
theorem locations_never_guessed (text : String) :
    ∃ places : List (Nat × Nat), Backing (lineBodies text.toList) (readFindings text) places ∧
      (places.map Prod.snd).Nodup ∧
      ∀ p ∈ places, ∀ k line, k < p.2 → (lineBodies text.toList)[k]? = some line →
        opensDiagnostic line = true → k ≤ p.1 := by
  obtain ⟨places, backing⟩ := exists_backing (lineBodies text.toList)
  refine ⟨places, backing, ?_, ?_⟩
  · rw [List.Nodup, List.pairwise_map]
    refine backing.ordered.imp_of_mem fun {p q} _ member apart => ?_
    obtain ⟨f, backed⟩ := backing.exists_backed member
    have reached := backed.confirms.reached
    omega
  · intro p member k line before there opens
    obtain ⟨f, backed⟩ := backing.exists_backed member
    exact backed.nearest before there opens

end LintRepair
