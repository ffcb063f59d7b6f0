import Mathlib.Data.Option.Basic
import LintRepair.Text.Scan

/-!
Scanning from left to right: what a scan finds has been recognised at some
place, and where there is something to recognise a scan finds something.
-/

namespace LintRepair

theorem after?_eq_some_iff {start s rest : List Char} :
    after? start s = some rest ↔ s = start ++ rest := by
  fun_induction after? start s with
  | case1 s => simp [eq_comm]
  | case2 => simp
  | case3 a start s ih => simp [ih]
  | case4 a start b s differ => simp [Ne.symm differ]

/-- The character before a place: the last one that was passed, or else the one before the text. -/
def lastOf (previous : Option Char) (passed : List Char) : Option Char :=
  passed.getLast?.or previous

theorem lastOf_cons (previous : Option Char) (c : Char) (passed : List Char) :
    lastOf previous (c :: passed) = lastOf (some c) passed := by
  cases passed with
  | nil => rfl
  | cons d passed => simp [lastOf, List.getLast?_cons]

theorem lastOf_append (previous : Option Char) (passed more : List Char) :
    lastOf previous (passed ++ more) = lastOf (lastOf previous passed) more := by
  rw [lastOf, lastOf, lastOf, List.getLast?_append, Option.or_assoc]

section
variable {α : Type} {recognise : Option Char → List Char → Option α} {previous : Option Char}

/-- What a scan finds is the first answer there is. -/
theorem firstMatch_eq_some_iff {s : List Char} {answer : α} : firstMatch recognise previous s = some answer ↔
      ∃ passed rest, s = passed ++ rest ∧ recognise (lastOf previous passed) rest = some answer ∧
        ∀ passed' rest', s = passed' ++ rest' → passed'.length < passed.length →
          recognise (lastOf previous passed') rest' = none := by
  induction s generalizing previous with
  | nil =>
    constructor
    · intro h
      exact ⟨[], [], rfl, h, by simp⟩
    · rintro ⟨passed, rest, cut, here, _⟩
      obtain ⟨rfl, rfl⟩ := List.append_eq_nil_iff.mp cut.symm
      exact here
  | cons c s ih =>
    rw [firstMatch]
    cases found : recognise previous (c :: s) with
    | some first =>
      rw [Option.some_or]
      constructor
      · intro h
        exact ⟨[], c :: s, rfl, found.trans h, by simp⟩
      · rintro ⟨passed, rest, cut, here, sooner⟩
        cases passed with
        | nil =>
          obtain rfl : c :: s = rest := cut
          exact found.symm.trans here
        | cons d passed =>
          have missing := sooner [] (c :: s) rfl (by simp)
          exact absurd (found.symm.trans missing) (by simp)
    | none =>
      rw [Option.none_or, ih]
      constructor
      · rintro ⟨passed, rest, rfl, here, sooner⟩
        refine ⟨c :: passed, rest, rfl, by rwa [lastOf_cons], ?_⟩
        intro passed' rest' cut shorter
        cases passed' with
        | nil =>
          obtain rfl : c :: (passed ++ rest) = rest' := cut
          exact found
        | cons d passed' =>
          obtain ⟨rfl, behind⟩ := List.cons.inj cut
          rw [lastOf_cons]
          exact sooner passed' rest' behind (Nat.lt_of_succ_lt_succ shorter)
      · rintro ⟨passed, rest, cut, here, sooner⟩
        cases passed with
        | nil =>
          obtain rfl : c :: s = rest := cut
          exact absurd (found.symm.trans here) (by simp)
        | cons d passed =>
          obtain ⟨rfl, rfl⟩ := List.cons.inj cut
          rw [lastOf_cons] at here
          refine ⟨passed, rest, rfl, here, fun passed' rest' cut shorter => ?_⟩
          have none := sooner (c :: passed') rest' (by rw [cut]; rfl) (Nat.succ_lt_succ shorter)
          rwa [lastOf_cons] at none

theorem firstMatch_eq_some {s : List Char} {answer : α}
    (h : firstMatch recognise previous s = some answer) :
    ∃ passed rest, s = passed ++ rest ∧ recognise (lastOf previous passed) rest = some answer := by
  obtain ⟨passed, rest, cut, here, _⟩ := firstMatch_eq_some_iff.mp h
  exact ⟨passed, rest, cut, here⟩

theorem isSome_firstMatch {passed rest : List Char}
    (h : (recognise (lastOf previous passed) rest).isSome) :
    (firstMatch recognise previous (passed ++ rest)).isSome := by
  induction passed generalizing previous with
  | nil =>
    cases rest with
    | nil => exact h
    | cons c rest => simp [firstMatch, show (recognise previous (c :: rest)).isSome from h]
  | cons c passed ih =>
    rw [lastOf_cons] at h
    simp [firstMatch, ih h]

/-- If more text behind what it knows does not put off the recogniser, it does not put off the
scan either. -/
theorem isSome_firstMatch_append {s more : List Char}
    (mono : ∀ previous s, (recognise previous s).isSome → (recognise previous (s ++ more)).isSome)
    (h : (firstMatch recognise previous s).isSome) :
    (firstMatch recognise previous (s ++ more)).isSome := by
  obtain ⟨answer, found⟩ := Option.isSome_iff_exists.mp h
  obtain ⟨passed, rest, rfl, recognised⟩ := firstMatch_eq_some found
  rw [List.append_assoc]
  exact isSome_firstMatch (mono _ _ (by simp [recognised]))

theorem firstMatch_here {s : List Char} {answer : α} (h : recognise previous s = some answer) :
    firstMatch recognise previous s = some answer := by
  cases s with
  | nil => exact h
  | cons c s => rw [firstMatch, h, Option.some_or]

end

end LintRepair
