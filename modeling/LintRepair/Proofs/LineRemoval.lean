import LintRepair.Proofs.Lines
import LintRepair.Proofs.Substituting
import LintRepair.Remedy.Declaration

/-!
Removing lines by patterns.

* `remove_sublist`: whatever the patterns are, characters are only taken out;
* `cleared_deleteAll`: a pattern that matches blocks of whole lines takes these blocks
  out of the lines of a text, from the first line on.
-/

namespace LintRepair

theorem rawLines_line {line : List Char} (h : Terminated line) (rest : List Char) :
    rawLines (line ++ rest) = line :: rawLines rest := by
  obtain ⟨body, clean, rfl⟩ := h
  rw [List.append_assoc]
  exact rawLines_terminated clean rest

theorem rawLines_append_lines {run : List (List Char)} (h : ∀ line ∈ run, Terminated line)
    (rest : List Char) : rawLines (run.flatten ++ rest) = run ++ rawLines rest := by
  induction run with
  | nil => rfl
  | cons line run ih =>
    obtain ⟨first, later⟩ := List.forall_mem_cons.mp h
    rw [List.flatten_cons, List.append_assoc, rawLines_line first, ih later]
    rfl

namespace Declaration

open Pattern (matchLength?)

/-! ## Any pattern -/

theorem substitute_sublist {offer : Option Char → List Char → Option Substitution}
    (deletes : ∀ previous s edit, offer previous s = some edit → edit.text = []) (skip : Nat)
    (previous : Option Char) (s : List Char) : (substitute offer skip previous s).Sublist s := by
  induction s generalizing skip previous with
  | nil => simp [substitute]
  | cons c s ih =>
    cases skip with
    | succ skip =>
      rw [substitute]
      exact (ih skip (some c)).cons c
    | zero =>
      rw [substitute]
      split
      · rename_i edit taken
        rw [deletes _ _ _ taken, List.nil_append]
        exact (ih edit.further (some c)).cons c
      · exact (ih 0 (some c)).cons_cons c

theorem text_of_deletion? {p : Pattern} {previous : Option Char} {s : List Char}
    {edit : Substitution} (h : deletion? p previous s = some edit) : edit.text = [] := by
  unfold deletion? at h
  split at h
  · cases h
    rfl
  · cases h

theorem remove_sublist (patterns : List Pattern) (content : List Char) :
    (remove patterns content).Sublist content := by
  induction patterns generalizing content with
  | nil => exact List.Sublist.refl content
  | cons p patterns ih =>
    have first : (deleteAll p content).Sublist content :=
      substitute_sublist (fun _ _ _ => text_of_deletion?) 0 none content
    exact (ih (deleteAll p content)).trans first

/-! ## Blocks of lines -/

/-- What is left of some lines when blocks are taken out, from the first line on. -/
inductive Cleared (block : List (List Char) → Prop) :
    List (List Char) → List (List Char) → Prop
  | nil : Cleared block [] []
  | keep {line : List Char} {lines kept : List (List Char)}
      (none : ∀ run rest, line :: lines = run ++ rest → ¬ block run)
      (later : Cleared block lines kept) : Cleared block (line :: lines) (line :: kept)
  | drop {run lines kept : List (List Char)} (here : block run)
      (later : Cleared block lines kept) : Cleared block (run ++ lines) kept

/-- The place behind this character is the start of a line. -/
def AtLineStart (previous : Option Char) : Prop := ∀ c ∈ previous, c = '\n'

/-- Blocks of whole lines, of which no two begin at one line. -/
structure LineBlocks (block : List (List Char) → Prop) : Prop where
  ne_nil : ∀ {run}, block run → run ≠ []
  terminated : ∀ {run}, block run → ∀ line ∈ run, Terminated line
  unique : ∀ {run run' rest rest'}, block run → block run' → run ++ rest = run' ++ rest' →
    run = run'

/-- A pattern matches blocks of lines, and nothing else. -/
structure MatchesBlocks (p : Pattern) (block : List (List Char) → Prop) : Prop
    extends LineBlocks block where
  found_iff : ∀ previous s n, matchLength? p previous s = some n ↔ AtLineStart previous ∧
    ∃ run rest, block run ∧ s = run.flatten ++ rest ∧ n = run.flatten.length

variable {block : List (List Char) → Prop} {lines kept run : List (List Char)} {p : Pattern}
  {previous : Option Char} {s line : List Char}

theorem Cleared.sublist (h : Cleared block lines kept) : kept.Sublist lines := by
  induction h with
  | nil => exact List.Sublist.refl []
  | keep _ _ ih => exact ih.cons_cons _
  | drop _ _ ih => exact ih.trans (List.sublist_append_right _ _)

theorem lastOf_terminated (h : Terminated line) : lastOf previous line = some '\n' := by
  obtain ⟨body, _, rfl⟩ := h
  simp [lastOf]

theorem atLineStart_flatten (start : AtLineStart previous) (whole : ∀ line ∈ run, Terminated line) :
    AtLineStart (lastOf previous run.flatten) := by
  induction run generalizing previous with
  | nil => exact start
  | cons line run ih =>
    obtain ⟨first, later⟩ := List.forall_mem_cons.mp whole
    rw [List.flatten_cons, lastOf_append, lastOf_terminated first]
    exact ih (by simp [AtLineStart]) later

theorem not_atLineStart {w : List Char} (ne : w ≠ []) (clean : '\n' ∉ w) :
    ¬ AtLineStart (lastOf previous w) := by
  intro start
  rw [lastOf, List.getLast?_eq_some_getLast ne, Option.some_or] at start
  exact clean (start _ rfl ▸ List.getLast_mem ne)

namespace MatchesBlocks

variable (h : MatchesBlocks p block)
include h

theorem refuses (none : AtLineStart previous → ∀ run rest, block run → s ≠ run.flatten ++ rest) :
    deletion? p previous s = Option.none := by
  have unfound : matchLength? p previous s = Option.none := by
    refine Option.eq_none_iff_forall_not_mem.mpr fun n found => ?_
    obtain ⟨start, run, rest, here, cut, _⟩ := (h.found_iff _ _ _).mp found
    exact none start run rest here cut
  rw [deletion?, unfound]

theorem flatten_ne_nil (here : block run) : run.flatten ≠ [] := by
  obtain ⟨line, others, rfl⟩ := List.exists_cons_of_ne_nil (h.ne_nil here)
  obtain ⟨body, _, rfl⟩ := h.terminated here line List.mem_cons_self
  simp

theorem takes (start : AtLineStart previous) (here : block run) (rest : List Char) :
    ∃ further, deletion? p previous (run.flatten ++ rest) = some ⟨[], further⟩ ∧
      further + 1 = run.flatten.length := by
  have found := (h.found_iff previous _ _).mpr ⟨start, run, rest, here, rfl, rfl⟩
  obtain ⟨further, size⟩ := Nat.exists_eq_succ_of_ne_zero
    (mt List.length_eq_zero_iff.mp (h.flatten_ne_nil here))
  rw [size] at found
  exact ⟨further, by rw [deletion?, found], size.symm⟩

/-- Inside of a line all is copied. -/
theorem substitute_within {w : List Char} (within : ¬ AtLineStart previous) (clean : '\n' ∉ w) :
    substitute (deletion? p) 0 previous (w ++ s) =
      w ++ substitute (deletion? p) 0 (lastOf previous w) s := by
  induction w generalizing previous with
  | nil => rfl
  | cons c w ih =>
    simp only [List.mem_cons, not_or] at clean
    have inside : ¬ AtLineStart (some c) := fun start => clean.1 (start c rfl).symm
    rw [List.cons_append, substitute_copy (h.refuses fun start => absurd start within),
      ih inside clean.2, lastOf_cons]
    rfl

/-- If no block starts with a line, it is copied. -/
theorem substitute_body {body : List Char}
    (refused : deletion? p previous (body ++ s) = Option.none) (ne : body ≠ [])
    (clean : '\n' ∉ body) :
    substitute (deletion? p) 0 previous (body ++ s) =
      body ++ substitute (deletion? p) 0 (lastOf previous body) s := by
  obtain ⟨c, body, rfl⟩ := List.exists_cons_of_ne_nil ne
  simp only [List.mem_cons, not_or] at clean
  have inside : ¬ AtLineStart (some c) := fun start => clean.1 (start c rfl).symm
  rw [List.cons_append] at refused ⊢
  rw [substitute_copy refused, h.substitute_within inside clean.2, lastOf_cons]
  rfl

theorem substitute_line (refused : deletion? p previous (line ++ s) = Option.none)
    (whole : Terminated line) : substitute (deletion? p) 0 previous (line ++ s) =
      line ++ substitute (deletion? p) 0 (some '\n') s := by
  obtain ⟨body, clean, rfl⟩ := whole
  by_cases ne : body = []
  · subst ne
    exact substitute_copy refused
  · have within : ¬ AtLineStart (lastOf previous body) := not_atLineStart ne clean
    rw [List.append_assoc] at refused ⊢
    rw [h.substitute_body refused ne clean, List.singleton_append,
      substitute_copy (h.refuses fun start => absurd start within), List.append_assoc]
    rfl

theorem rawLines_substitute {lines : List (List Char)} (cut : IsCut (line :: lines))
    (refused : deletion? p previous (line ++ lines.flatten) = Option.none) :
    rawLines (substitute (deletion? p) 0 previous (line ++ lines.flatten)) =
      line :: rawLines (substitute (deletion? p) 0 (some '\n') lines.flatten) := by
  rcases cut with ⟨whole | ⟨rfl, ne, clean⟩, _⟩
  · rw [h.substitute_line refused whole, rawLines_line whole]
  · rw [h.substitute_body refused ne clean, List.flatten_nil, substitute, substitute,
      List.append_nil, rawLines_open clean ne]
    rfl

end MatchesBlocks

theorem cleared_substitute (h : MatchesBlocks p block) (start : AtLineStart previous)
    (s : List Char) :
    Cleared block (rawLines s) (rawLines (substitute (deletion? p) 0 previous s)) := by
  -- On the length of the text, since a block may have any number of lines.
  induction size : s.length using Nat.strongRecOn generalizing previous s with
  | ind n ih =>
    subst size
    by_cases blocks : ∃ run rest, block run ∧ s = run.flatten ++ rest
    · obtain ⟨run, rest, here, rfl⟩ := blocks
      obtain ⟨further, taken, width⟩ := h.takes start here rest
      have start' := atLineStart_flatten start (h.terminated here)
      rw [substitute_edit taken width, rawLines_append_lines (h.terminated here)]
      refine .drop here (ih rest.length ?_ start' rest rfl)
      rw [List.length_append]
      omega
    · have refused : deletion? p previous s = none :=
        h.refuses fun _ run rest here cut => blocks ⟨run, rest, here, cut⟩
      have joined := rawLines_flatten s
      have cut := rawLines_isCut s
      generalize rawLines s = lines at joined cut ⊢
      subst joined
      cases lines with
      | nil =>
        rw [List.flatten_nil, substitute]
        exact .nil
      | cons line lines =>
        have unblocked : ∀ run rest, line :: lines = run ++ rest → ¬ block run := by
          intro run rest split here
          exact blocks ⟨run, rest.flatten, here, by rw [split, List.flatten_append]⟩
        have ne : line ≠ [] := fun empty => cut.ne_nil (empty ▸ List.mem_cons_self)
        have shorter : lines.flatten.length < (line :: lines).flatten.length := by
          have := List.length_pos_iff.mpr ne
          rw [List.flatten_cons, List.length_append]
          omega
        have start' : AtLineStart (some '\n') := by simp [AtLineStart]
        have later := ih _ shorter start' lines.flatten rfl
        rw [rawLines_of_isCut cut.2] at later
        rw [List.flatten_cons] at refused ⊢
        rw [h.rawLines_substitute cut refused]
        exact .keep unblocked later

/-- A pattern that matches blocks of whole lines takes these out of the lines of a text. -/
theorem cleared_deleteAll (h : MatchesBlocks p block) (s : List Char) :
    Cleared block (rawLines s) (rawLines (deleteAll p s)) :=
  cleared_substitute h (by simp [AtLineStart]) s

end Declaration

end LintRepair
