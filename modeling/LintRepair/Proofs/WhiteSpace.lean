import Mathlib.Data.List.DropRight
import LintRepair.Proofs.Scanning
import LintRepair.Text.CharClass

/-!
White space before, between and behind words.

* `isWord_of_isSpace`: white space is no part of a word;
* `after?_dropSpaces_eq_some_iff`: what it means to find a word behind white space.
-/

namespace LintRepair

/-! ## Where a character cannot be -/

/-- A character that is not in the first part of a text stands behind it. -/
theorem length_le_of_not_mem {c : Char} {w u before rest : List Char} (absent : c ∉ w)
    (cut : w ++ u = before ++ c :: rest) : w.length ≤ before.length := by
  rcases List.append_eq_append_iff.mp cut with ⟨more, rfl, _⟩ | ⟨more, rfl, there⟩
  · simp
  · cases more with
    | nil => simp
    | cons d more =>
      obtain ⟨rfl, _⟩ := List.cons.inj there
      simp at absent

/-- A character that is not in the first part of a text is in the second. -/
theorem exists_cut_of_not_mem {c : Char} {w s before rest : List Char} (absent : c ∉ w)
    (cut : w ++ s = before ++ c :: rest) : ∃ more, before = w ++ more ∧ s = more ++ c :: rest := by
  obtain ⟨more, rfl⟩ := List.prefix_of_prefix_length_le ⟨s, cut⟩ (List.prefix_append _ _)
    (length_le_of_not_mem absent cut)
  rw [List.append_assoc] at cut
  exact ⟨more, rfl, List.append_cancel_left cut⟩

/-- A character that is not in the last part of a text stands before it. -/
theorem prefix_of_not_mem {c : Char} {word stem gap : List Char} (absent : c ∉ gap)
    (within : word ++ [c] <+: stem ++ gap) : word ++ [c] <+: stem := by
  obtain ⟨rest, cut⟩ := within
  rcases List.append_eq_append_iff.mp cut with ⟨more, rfl, _⟩ | ⟨more, word', rfl⟩
  · exact List.prefix_append _ _
  · cases last : more.getLast? with
    | none =>
      obtain rfl := List.getLast?_eq_none_iff.mp last
      exact ⟨[], by simpa using word'⟩
    | some d =>
      have ends := congrArg List.getLast? word'
      rw [List.getLast?_concat, List.getLast?_append, last, Option.some_or] at ends
      obtain rfl := Option.some.inj ends
      exact absurd (List.mem_append_left _ (List.mem_of_getLast? last)) absent

/-! ## White space -/

/-- White space and nothing else. -/
def Blank (s : List Char) : Prop := ∀ c ∈ s, isSpace c = true

instance (s : List Char) : Decidable (Blank s) :=
  decidable_of_iff (s.all isSpace) List.all_eq_true

theorem isWord_of_isSpace {c : Char} (h : isSpace c = true) : isWord c = false := by
  unfold isWord
  split
  · rename_i ascii
    have code : 9 ≤ c.toNat ∧ c.toNat ≤ 13 ∨ c.toNat = 32 := by
      simp [isSpace] at h
      omega
    have value : c.val.toNat = c.toNat := rfl
    have underscore : c ≠ '_' := by
      rintro rfl
      revert code
      decide
    have letters : c.isAlphanum = ((decide (c.val ≥ 65 ∧ c.val ≤ 90) ||
        decide (c.val ≥ 97) && decide (c.val ≤ 122)) ||
          decide (c.val ≥ 48) && decide (c.val ≤ 57)) := rfl
    simp [letters, underscore, UInt32.le_iff_toNat_le]
    omega
  · rfl

theorem blank_nil : Blank [] := by simp [Blank]

theorem blank_takeWhile (s : List Char) : Blank (s.takeWhile isSpace) :=
  List.all_eq_true.mp List.all_takeWhile

namespace Blank

variable {gap s : List Char} {c : Char}

theorem not_mem (h : Blank gap) (ink : isSpace c = false) : c ∉ gap := by
  intro member
  rw [h c member] at ink
  cases ink

theorem dropSpaces_append (h : Blank gap) (s : List Char) : dropSpaces (gap ++ s) = dropSpaces s :=
  List.dropWhile_append_of_pos h

theorem dropSpaces_ink (h : Blank gap) (ink : isSpace c = false) :
    dropSpaces (gap ++ c :: s) = c :: s := by
  rw [h.dropSpaces_append, dropSpaces, List.dropWhile_cons_of_neg (by simp [ink])]

theorem takeWhile_ink (h : Blank gap) (ink : isSpace c = false) :
    (gap ++ c :: s).takeWhile isSpace = gap := by
  rw [List.takeWhile_append_of_pos h, List.takeWhile_cons_of_neg (by simp [ink]), List.append_nil]

theorem takeWhile_word (h : Blank gap) {word : List Char} (first : word.head? = some c)
    (ink : isSpace c = false) : (gap ++ (word ++ s)).takeWhile isSpace = gap := by
  obtain ⟨more, rfl⟩ := List.head?_eq_some_iff.mp first
  exact h.takeWhile_ink ink

theorem rdropWhile_ink (h : Blank gap) (ink : isSpace c = false) :
    (s ++ c :: gap).rdropWhile isSpace = s ++ [c] := by
  have spaces : Blank gap.reverse := fun d hd => h d (List.mem_reverse.mp hd)
  have ends : (gap.reverse ++ c :: s.reverse).dropWhile isSpace = c :: s.reverse :=
    spaces.dropSpaces_ink ink
  rw [List.rdropWhile, List.reverse_append, List.reverse_cons, List.append_assoc,
    List.singleton_append, ends, List.reverse_cons, List.reverse_reverse]

/-- A word may start behind white space, as it may behind what comes before that. -/
theorem atWordStart (h : Blank gap) {before : List Char}
    (start : LintRepair.atWordStart before.getLast? = true) :
    LintRepair.atWordStart (before ++ gap).getLast? = true := by
  cases last : gap.getLast? with
  | none => rwa [List.getLast?_eq_none_iff.mp last, List.append_nil]
  | some c =>
    rw [List.getLast?_append, last, Option.some_or]
    simp [LintRepair.atWordStart, isWord_of_isSpace (h c (List.mem_of_getLast? last))]

end Blank

/-! ## Words behind white space -/

theorem after?_dropSpaces_eq_some_iff {c : Char} {word s rest : List Char}
    (ink : isSpace c = false) :
    after? (c :: word) (dropSpaces s) = some rest ↔
      ∃ gap, Blank gap ∧ s = gap ++ (c :: word ++ rest) := by
  rw [after?_eq_some_iff]
  constructor
  · intro h
    refine ⟨s.takeWhile isSpace, blank_takeWhile s, ?_⟩
    rw [← h, dropSpaces, List.takeWhile_append_dropWhile]
  · rintro ⟨gap, blank, rfl⟩
    exact blank.dropSpaces_ink ink

theorem after?_dropSpaces_word {c : Char} {word s rest : List Char} (first : word.head? = some c)
    (ink : isSpace c = false) :
    after? word (dropSpaces s) = some rest ↔ ∃ gap, Blank gap ∧ s = gap ++ (word ++ rest) := by
  obtain ⟨more, rfl⟩ := List.head?_eq_some_iff.mp first
  exact after?_dropSpaces_eq_some_iff ink

end LintRepair
