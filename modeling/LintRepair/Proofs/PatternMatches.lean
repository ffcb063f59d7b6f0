import LintRepair.Pattern.Basic
import LintRepair.Proofs.Scanning

/-!
Which texts a pattern matches, said without the order in which matches are tried.
This is for patterns that repeat nothing but single characters.

* `mem_ends_iff`: the search ends just behind the matches;
* `matchLength?_eq_some_iff`: where there is one match at most, it is found.
-/

namespace LintRepair.Pattern

/-- A pattern matches a text, behind some character and before the rest. -/
inductive Matches : Pattern → Option Char → List Char → List Char → Prop
  | empty {previous : Option Char} {rest : List Char} : Matches .empty previous [] rest
  | set {s : CharSet} {previous : Option Char} {c : Char} {rest : List Char}
      (member : s.mem c = true) : Matches (.set s) previous [c] rest
  | look {l : Look} {previous : Option Char} {rest : List Char}
      (holds : l.holds previous rest.head? = true) : Matches (.look l) previous [] rest
  | seq {a b : Pattern} {previous : Option Char} {w v rest : List Char}
      (first : Matches a previous w (v ++ rest)) (second : Matches b (lastOf previous w) v rest) :
      Matches (.seq a b) previous (w ++ v) rest
  | left {a b : Pattern} {previous : Option Char} {w rest : List Char}
      (first : Matches a previous w rest) : Matches (.alt a b) previous w rest
  | right {a b : Pattern} {previous : Option Char} {w rest : List Char}
      (second : Matches b previous w rest) : Matches (.alt a b) previous w rest
  | run {s : CharSet} {most : Option Nat} {greedy : Bool} {previous : Option Char}
      {w rest : List Char} (members : ∀ c ∈ w, s.mem c = true) (few : ∀ n ∈ most, w.length ≤ n) :
      Matches (.times (.set s) 0 most greedy) previous w rest

/-- Nothing is repeated but single characters, and these as rarely as one likes. -/
def isSimple : Pattern → Bool
  | empty | set _ | look _ => true
  | seq a b | alt a b => a.isSimple && b.isSimple
  | times (set _) 0 _ _ => true
  | times _ _ _ _ => false

variable {p a b : Pattern} {place q : Place} {ends : Ends} {previous : Option Char}
  {s w v rest text : List Char}

theorem matches_set_iff {set : CharSet} : Matches (.set set) previous w rest ↔
    ∃ c, w = [c] ∧ set.mem c = true := by
  constructor
  · intro h
    cases h with
    | @set _ _ c _ member => exact ⟨c, rfl, member⟩
  · rintro ⟨c, rfl, member⟩
    exact .set member

theorem matches_look_iff {l : Look} : Matches (.look l) previous w rest ↔
    w = [] ∧ l.holds previous rest.head? = true := by
  constructor
  · intro h
    cases h with
    | look holds => exact ⟨rfl, holds⟩
  · rintro ⟨rfl, holds⟩
    exact .look holds

theorem matches_seq_iff : Matches (.seq a b) previous w rest ↔
    ∃ u v, w = u ++ v ∧ Matches a previous u (v ++ rest) ∧
      Matches b (lastOf previous u) v rest := by
  constructor
  · intro h
    cases h with
    | @seq _ _ _ u v _ first second => exact ⟨u, v, rfl, first, second⟩
  · rintro ⟨u, v, rfl, first, second⟩
    exact .seq first second

theorem matches_alt_iff : Matches (.alt a b) previous w rest ↔
    Matches a previous w rest ∨ Matches b previous w rest := by
  constructor
  · intro h
    cases h with
    | left first => exact .inl first
    | right second => exact .inr second
  · rintro (first | second)
    · exact .left first
    · exact .right second

theorem matches_run_iff {set : CharSet} {most : Option Nat} {greedy : Bool} :
    Matches (.times (.set set) 0 most greedy) previous w rest ↔
      (∀ c ∈ w, set.mem c = true) ∧ ∀ n ∈ most, w.length ≤ n := by
  constructor
  · intro h
    cases h with
    | run members few => exact ⟨members, few⟩
  · rintro ⟨members, few⟩
    exact .run members few

/-! ## Places -/

/-- The place behind a part of the text ahead. -/
def behind (place : Place) (w rest : List Char) : Place :=
  ⟨place.index + w.length, lastOf place.previous w, rest⟩

theorem behind_behind : behind (behind place w s) v rest = behind place (w ++ v) rest := by
  simp [behind, lastOf_append, Nat.add_assoc]

/-- Every end lies in the text ahead. -/
def Ahead (place : Place) (ends : Ends) : Prop :=
  ∀ q ∈ ends, ∃ w rest, place.rest = w ++ rest ∧ q = behind place w rest

theorem Ahead.eq_of_index {q' : Place} (h : Ahead place ends) (member : q ∈ ends)
    (member' : q' ∈ ends) (same : q.index = q'.index) : q = q' := by
  obtain ⟨w, rest, cut, rfl⟩ := h q member
  obtain ⟨w', rest', cut', rfl⟩ := h q' member'
  have lengths : w.length = w'.length := by
    simpa [behind] using same
  obtain ⟨rfl, rfl⟩ := List.append_inj (cut.symm.trans cut') lengths
  rfl

theorem mem_dedupeFrom (h : Ahead place ends) (seen : Std.HashSet Nat) :
    q ∈ dedupeFrom seen ends ↔ q ∈ ends ∧ q.index ∉ seen := by
  induction ends generalizing seen with
  | nil => simp [dedupeFrom]
  | cons first ends ih =>
    have later : Ahead place ends := fun q member => h q (List.mem_cons_of_mem _ member)
    rw [dedupeFrom]
    split
    · rename_i known
      rw [ih later, List.mem_cons]
      constructor
      · rintro ⟨member, fresh⟩
        exact ⟨.inr member, fresh⟩
      · rintro ⟨rfl | member, fresh⟩
        · exact absurd (Std.HashSet.mem_iff_contains.mpr known) fresh
        · exact ⟨member, fresh⟩
    · rename_i unknown
      rw [List.mem_cons, ih later, List.mem_cons, Std.HashSet.mem_insert, not_or]
      constructor
      · rintro (rfl | ⟨member, _, fresh⟩)
        · exact ⟨.inl rfl, fun known => unknown (Std.HashSet.mem_iff_contains.mp known)⟩
        · exact ⟨.inr member, fresh⟩
      · rintro ⟨rfl | member, fresh⟩
        · exact .inl rfl
        · by_cases same : first.index = q.index
          · exact .inl (h.eq_of_index (List.mem_cons_of_mem _ member) List.mem_cons_self same.symm)
          · exact .inr ⟨member, by simpa using same, fresh⟩

theorem mem_dedupe (h : Ahead place ends) : q ∈ dedupe ends ↔ q ∈ ends := by
  rw [dedupe.eq_def]
  split
  · exact Iff.rfl
  · exact Iff.rfl
  · rw [mem_dedupeFrom h]
    simp

/-! ## Matches and where the search ends -/

theorem mem_runFrom {set : CharSet} {most : Option Nat} {reached : Ends} {index : Nat} :
    q ∈ runFrom set most reached index previous text ↔ q ∈ reached ∨
      ∃ w rest, text = w ++ rest ∧ (∀ c ∈ w, set.mem c = true) ∧ (∀ n ∈ most, w.length ≤ n) ∧
        q = ⟨index + w.length, lastOf previous w, rest⟩ := by
  induction text generalizing most reached index previous with
  | nil =>
    rw [runFrom, List.mem_cons, or_comm]
    refine or_congr_right ⟨?_, ?_⟩
    · rintro rfl
      exact ⟨[], [], rfl, by simp, by simp, rfl⟩
    · rintro ⟨w, rest, cut, _, _, rfl⟩
      obtain ⟨rfl, rfl⟩ := List.append_eq_nil_iff.mp cut.symm
      rfl
  | cons c text ih =>
    have here : q = ⟨index, previous, c :: text⟩ → ∃ w rest, c :: text = w ++ rest ∧
        (∀ c ∈ w, set.mem c = true) ∧ (∀ n ∈ most, w.length ≤ n) ∧
          q = ⟨index + w.length, lastOf previous w, rest⟩ := by
      rintro rfl
      exact ⟨[], c :: text, rfl, by simp, by simp, rfl⟩
    rw [runFrom]
    split
    · rename_i goes
      obtain ⟨room, member⟩ := Bool.and_eq_true_iff.mp goes
      rw [ih, List.mem_cons, or_assoc, or_left_comm]
      refine or_congr_right ⟨?_, ?_⟩
      · rintro (this | ⟨w, rest, rfl, members, few, rfl⟩)
        · exact here this
        · refine ⟨c :: w, rest, rfl, List.forall_mem_cons.mpr ⟨member, members⟩, ?_, ?_⟩
          · rintro n rfl
            have bound := few (n - 1) rfl
            have positive : n ≠ 0 := by simpa using room
            simp only [List.length_cons]
            omega
          · rw [lastOf_cons, List.length_cons, Nat.add_right_comm, Nat.add_assoc]
      · rintro ⟨w, rest, cut, members, few, rfl⟩
        cases w with
        | nil =>
          obtain rfl : c :: text = rest := cut
          exact .inl rfl
        | cons d w =>
          obtain ⟨rfl, rfl⟩ := List.cons.inj cut
          refine .inr ⟨w, rest, rfl, (List.forall_mem_cons.mp members).2, ?_, ?_⟩
          · rintro n bound
            obtain ⟨m, rfl, rfl⟩ := Option.map_eq_some_iff.mp bound
            have longer := few m rfl
            simp only [List.length_cons] at longer
            omega
          · rw [lastOf_cons, List.length_cons, Nat.add_right_comm, Nat.add_assoc]
    · rename_i stops
      rw [List.mem_cons, or_comm]
      refine or_congr_right ⟨here, ?_⟩
      rintro ⟨w, rest, cut, members, few, rfl⟩
      cases w with
      | nil =>
        obtain rfl : c :: text = rest := cut
        rfl
      | cons d w =>
        obtain ⟨rfl, rfl⟩ := List.cons.inj cut
        have member := members c List.mem_cons_self
        have none : most = some 0 := by simpa [member] using stops
        exact absurd (few 0 none) (by simp)

/-- A match of the pattern leads from one place to another. -/
def Leads (p : Pattern) (place q : Place) : Prop :=
  ∃ w rest, place.rest = w ++ rest ∧ q = behind place w rest ∧ Matches p place.previous w rest

theorem leads_seq_iff : Leads (.seq a b) place q ↔ ∃ r, Leads a place r ∧ Leads b r q := by
  simp only [Leads, matches_seq_iff]
  constructor
  · rintro ⟨_, rest, cut, rfl, w, v, rfl, first, second⟩
    rw [List.append_assoc] at cut
    exact ⟨_, ⟨w, v ++ rest, cut, rfl, first⟩, v, rest, rfl, behind_behind.symm, second⟩
  · rintro ⟨_, ⟨w, _, cut, rfl, first⟩, v, rest, rfl, rfl, second⟩
    refine ⟨w ++ v, rest, ?_, behind_behind, w, v, rfl, first, second⟩
    rw [cut, List.append_assoc]

theorem leads_alt_iff : Leads (.alt a b) place q ↔ Leads a place q ∨ Leads b place q := by
  simp only [Leads, matches_alt_iff]
  constructor
  · rintro ⟨w, rest, cut, there, first | second⟩
    · exact .inl ⟨w, rest, cut, there, first⟩
    · exact .inr ⟨w, rest, cut, there, second⟩
  · rintro (⟨w, rest, cut, there, first⟩ | ⟨w, rest, cut, there, second⟩)
    · exact ⟨w, rest, cut, there, .inl first⟩
    · exact ⟨w, rest, cut, there, .inr second⟩

theorem mem_ends_run {set : CharSet} {most : Option Nat} {greedy : Bool} :
    q ∈ (times (.set set) 0 most greedy).ends place ↔
      Leads (times (.set set) 0 most greedy) place q := by
  have all : q ∈ (times (.set set) 0 most greedy).ends place ↔
      q ∈ runFrom set most [] place.index place.previous place.rest := by
    rw [Pattern.ends, run]
    cases greedy <;> simp
  rw [all, mem_runFrom]
  simp only [Leads, matches_run_iff]
  constructor
  · rintro (⟨⟨⟩⟩ | ⟨w, rest, cut, members, few, there⟩)
    exact ⟨w, rest, cut, there, members, few⟩
  · rintro ⟨w, rest, cut, there, members, few⟩
    exact .inr ⟨w, rest, cut, members, few, there⟩

theorem mem_dedupe_iff (h : ∀ q, q ∈ ends ↔ Leads p place q) :
    q ∈ dedupe ends ↔ Leads p place q := by
  have ahead : Ahead place ends := by
    intro q member
    obtain ⟨w, rest, cut, there, _⟩ := (h q).mp member
    exact ⟨w, rest, cut, there⟩
  rw [mem_dedupe ahead, h]

/-- The search ends where matches lead to, and nowhere else. -/
theorem mem_ends_iff (simple : p.isSimple = true) : q ∈ p.ends place ↔ Leads p place q := by
  induction p generalizing place q with
  | empty =>
    rw [Pattern.ends, List.mem_singleton]
    constructor
    · rintro rfl
      exact ⟨[], q.rest, rfl, rfl, .empty⟩
    · obtain ⟨index, previous, text⟩ := place
      rintro ⟨_, _, rfl, rfl, ⟨⟩⟩
      rfl
  | set set =>
    obtain ⟨index, previous, text⟩ := place
    simp only [Leads, matches_set_iff]
    constructor
    · intro member
      cases text with
      | nil => cases member
      | cons c rest =>
        have member : q ∈ if set.mem c then [⟨index + 1, some c, rest⟩] else [] := member
        split at member
        · rename_i inside
          rw [List.mem_singleton] at member
          exact ⟨[c], rest, rfl, member, c, rfl, inside⟩
        · cases member
    · rintro ⟨_, rest, rfl, rfl, c, rfl, inside⟩
      simp [Pattern.ends, inside, behind, lastOf]
  | look l =>
    simp only [Leads, matches_look_iff, Pattern.ends]
    constructor
    · intro member
      split at member
      · rename_i holds
        rw [List.mem_singleton] at member
        exact ⟨[], place.rest, rfl, member, rfl, holds⟩
      · cases member
    · obtain ⟨index, previous, text⟩ := place
      rintro ⟨_, _, rfl, rfl, rfl, holds⟩
      rw [List.nil_append, if_pos holds, List.mem_singleton]
      rfl
  | seq a b iha ihb =>
    obtain ⟨simple, simple'⟩ := Bool.and_eq_true_iff.mp simple
    rw [Pattern.ends]
    refine mem_dedupe_iff fun q => ?_
    simp only [List.mem_flatMap, leads_seq_iff, iha simple, ihb simple']
  | alt a b iha ihb =>
    obtain ⟨simple, simple'⟩ := Bool.and_eq_true_iff.mp simple
    rw [Pattern.ends]
    refine mem_dedupe_iff fun q => ?_
    rw [List.mem_append, leads_alt_iff, iha simple, ihb simple']
  | times p least most greedy =>
    cases p with
    | set set =>
      cases least with
      | zero => exact mem_ends_run
      | succ => cases simple
    | _ => cases simple

/-- Where the matches of a pattern have one length at most, the search finds it. -/
theorem matchLength?_eq_some_iff (simple : p.isSimple = true)
    (unique : ∀ {w rest v more}, w ++ rest = v ++ more → Matches p previous w rest →
      Matches p previous v more → w = v) {n : Nat} :
    p.matchLength? previous s = some n ↔
      ∃ w rest, s = w ++ rest ∧ Matches p previous w rest ∧ n = w.length := by
  rw [matchLength?, Option.map_eq_some_iff]
  constructor
  · rintro ⟨q, found, rfl⟩
    obtain ⟨w, rest, cut, rfl, taken⟩ := (mem_ends_iff simple).mp (List.mem_of_head? found)
    exact ⟨w, rest, cut, taken, Nat.zero_add _⟩
  · rintro ⟨w, rest, rfl, taken, rfl⟩
    have member : _ ∈ p.ends ⟨0, previous, w ++ rest⟩ :=
      (mem_ends_iff simple).mpr ⟨w, rest, rfl, rfl, taken⟩
    obtain ⟨q, found⟩ := Option.ne_none_iff_exists'.mp
      (mt List.head?_eq_none_iff.mp (List.ne_nil_of_mem member))
    obtain ⟨v, more, cut, rfl, taken'⟩ := (mem_ends_iff simple).mp (List.mem_of_head? found)
    refine ⟨_, found, ?_⟩
    rw [unique cut taken taken']
    exact Nat.zero_add _

end LintRepair.Pattern
