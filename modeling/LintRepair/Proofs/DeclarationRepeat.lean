import LintRepair.Proofs.DeclarationEffect

/-!
Removing declarations a second time.

* `Cleared.unique` and `exists_cleared`: there is just one way to take out blocks;
* `cleared_self_iff`: nothing is taken out where there is no block;
* `infix_cleared_iff`: taking out blocks leaves a block only where blocks were nested;
* `second_removal_keeps_iff`: so a second run changes nothing just if no blocks were nested.
-/

namespace LintRepair.Declaration

/-! ## Taking out blocks -/

section
variable {block : List (List Char) → Prop} {lines kept kept' run : List (List Char)}

theorem exists_cleared (h : LineBlocks block) (lines : List (List Char)) :
    ∃ kept, Cleared block lines kept := by
  induction size : lines.length using Nat.strongRecOn generalizing lines with
  | ind n ih =>
    subst size
    by_cases blocks : ∃ run rest, lines = run ++ rest ∧ block run
    · obtain ⟨run, rest, rfl, here⟩ := blocks
      have shorter : rest.length < (run ++ rest).length := by
        simpa using List.length_pos_iff.mpr (h.ne_nil here)
      obtain ⟨kept, later⟩ := ih _ shorter rest rfl
      exact ⟨kept, .drop here later⟩
    · cases lines with
      | nil => exact ⟨[], .nil⟩
      | cons line lines =>
        obtain ⟨kept, later⟩ := ih _ (by simp) lines rfl
        exact ⟨line :: kept, .keep (fun run rest cut here => blocks ⟨run, rest, cut, here⟩) later⟩

theorem Cleared.unique (h : LineBlocks block) (first : Cleared block lines kept)
    (second : Cleared block lines kept') : kept = kept' := by
  induction first generalizing kept' with
  | nil =>
    generalize empty : ([] : List (List Char)) = lines at second
    cases second with
    | nil => rfl
    | keep => cases empty
    | drop here =>
      exact absurd (List.append_eq_nil_iff.mp empty.symm).1 (h.ne_nil here)
  | @keep line lines kept none _ ih =>
    generalize same : line :: lines = all at second
    cases second with
    | nil => cases same
    | keep _ later =>
      obtain ⟨rfl, rfl⟩ := List.cons.inj same
      rw [ih later]
    | drop here => exact absurd here (none _ _ same)
  | @drop run lines kept here _ ih =>
    generalize same : run ++ lines = all at second
    cases second with
    | nil => exact absurd (List.append_eq_nil_iff.mp same).1 (h.ne_nil here)
    | keep none => exact absurd here (none _ _ same.symm)
    | drop here' later =>
      obtain rfl := h.unique here here' same
      obtain rfl := List.append_cancel_left same
      exact ih later

theorem not_infix_of_length_eq (h : LineBlocks block) (cleared : Cleared block lines kept)
    (same : kept.length = lines.length) : ∀ run, block run → ¬ run <:+: lines := by
  induction cleared with
  | nil =>
    intro run here inside
    exact h.ne_nil here (List.infix_nil.mp inside)
  | keep none _ ih =>
    intro run here inside
    rcases List.infix_cons_iff.mp inside with ⟨rest, start⟩ | later
    · exact none run rest start.symm here
    · exact ih (Nat.succ.inj same) run here later
  | drop here later =>
    have shorter := later.sublist.length_le
    have some := List.length_pos_iff.mpr (h.ne_nil here)
    rw [List.length_append] at same
    omega

/-- Nothing is taken out just where there is no block. -/
theorem cleared_self_iff (h : LineBlocks block) :
    Cleared block lines lines ↔ ∀ run, block run → ¬ run <:+: lines := by
  refine ⟨fun cleared => not_infix_of_length_eq h cleared rfl, ?_⟩
  intro free
  induction lines with
  | nil => exact .nil
  | cons line lines ih =>
    refine .keep (fun run rest cut here => free run here ?_)
      (ih fun run here inside => free run here (List.infix_cons inside))
    rw [cut]
    exact (List.prefix_append run rest).isInfix

/-- What is left before and behind a line that is kept comes from what stood there. -/
theorem Cleared.split {left right : List (List Char)} {line : List Char}
    (h : Cleared block lines (left ++ line :: right)) :
    ∃ before behind, lines = before ++ line :: behind ∧ Cleared block before left ∧
      Cleared block behind right ∧ ∀ run rest, line :: behind = run ++ rest → ¬ block run := by
  generalize whole : left ++ line :: right = kept at h
  induction h generalizing left with
  | nil => simp at whole
  | @keep first lines kept none later ih =>
    cases left with
    | nil =>
      obtain ⟨rfl, rfl⟩ := List.cons.inj whole
      exact ⟨[], lines, rfl, .nil, later, none⟩
    | cons start left =>
      obtain ⟨rfl, rfl⟩ := List.cons.inj whole
      obtain ⟨before, behind, rfl, first, second, unblocked⟩ := ih rfl
      have unblocked' : ∀ run rest, start :: before = run ++ rest → ¬ block run := by
        intro run rest cut
        refine none run (rest ++ line :: behind) ?_
        rw [← List.append_assoc, ← cut, List.cons_append]
      exact ⟨start :: before, behind, rfl, .keep unblocked' first, second, unblocked⟩
  | @drop run lines kept here later ih =>
    obtain ⟨before, behind, rfl, first, second, unblocked⟩ := ih whole
    exact ⟨run ++ before, behind, (List.append_assoc _ _ _).symm, .drop here first, second,
      unblocked⟩

end

/-! ## Nested blocks -/

/-- A block of the state but for other blocks inside of it. -/
def Nested (lines : List (List Char)) : Prop :=
  ∃ left first inner gaps last right, lines = left ++ first :: (inner ++ last :: right) ∧
    OpensState first ∧ LoadsState last ∧ Cleared StateBlock inner gaps ∧
      (∀ line ∈ gaps, Terminated line ∧ Blank line) ∧ inner ≠ gaps

section
variable {lines kept inner gaps : List (List Char)} {line first : List Char}

theorem not_stateBlock (h : ¬ OpensState line) :
    ∀ run rest, line :: lines = run ++ rest → ¬ StateBlock run := by
  rintro _ rest cut ⟨opens, _, _⟩
  exact h ((List.cons.inj cut).1 ▸ opens)

theorem StateBlock.opens_once (h : StateBlock (first :: lines)) :
    ∀ line ∈ lines, ¬ OpensState line := by
  obtain ⟨_, blank, loads⟩ := h
  intro line member opens
  rcases List.mem_append.mp member with between | last
  · exact opens.not_blank (blank line between).2
  · exact opens.not_loads (List.mem_singleton.mp last ▸ loads)

/-- No block reaches over the beginning of another one. -/
theorem not_stateBlock_over {blanks : List (List Char)} (blank : ∀ line ∈ blanks, Blank line)
    (opens : OpensState line) :
    ∀ run rest, first :: (blanks ++ line :: lines) = run ++ rest → ¬ StateBlock run := by
  rintro _ rest cut ⟨_, blank', loads⟩
  simp only [List.cons_append, List.append_assoc, List.nil_append] at cut
  obtain ⟨_, rfl⟩ := eq_of_blank blank (fun line h => (blank' line h).2) opens.not_blank
    loads.not_blank (List.cons.inj cut).2
  exact opens.not_loads loads

/-- Lines of which only blank ones are left are blank, or have a block behind blank ones. -/
theorem Cleared.eq_or_opens (h : Cleared StateBlock inner gaps)
    (blank : ∀ line ∈ gaps, Blank line) : inner = gaps ∨
      ∃ blanks line more, inner = blanks ++ line :: more ∧ (∀ line ∈ blanks, Blank line) ∧
        OpensState line := by
  induction h with
  | nil => exact .inl rfl
  | @keep line _ _ _ _ ih =>
    obtain ⟨here, later⟩ := List.forall_mem_cons.mp blank
    rcases ih later with rfl | ⟨blanks, opening, more, rfl, before, opens⟩
    · exact .inl rfl
    · have before' := List.forall_mem_cons.mpr ⟨here, before⟩
      exact .inr ⟨line :: blanks, opening, more, rfl, before', opens⟩
  | drop here _ _ =>
    obtain ⟨opens, _, _⟩ := here
    exact .inr ⟨[], _, _, rfl, by simp, opens⟩

theorem Cleared.blank_append (h : Cleared StateBlock inner gaps)
    (blank : ∀ line ∈ gaps, Blank line) (later : Cleared StateBlock lines kept) :
    Cleared StateBlock (inner ++ lines) (gaps ++ kept) := by
  induction h with
  | nil => exact later
  | keep _ _ ih =>
    obtain ⟨here, others⟩ := List.forall_mem_cons.mp blank
    exact .keep (not_stateBlock fun opens => opens.not_blank here) (ih others)
  | drop here _ ih =>
    rw [List.append_assoc]
    exact .drop here (ih blank)

theorem Cleared.append_opening {left kept' : List (List Char)} (h : Cleared StateBlock left kept)
    (opens : OpensState first) (later : Cleared StateBlock (first :: lines) kept') :
    Cleared StateBlock (left ++ first :: lines) (kept ++ kept') := by
  induction h with
  | nil => exact later
  | @keep line left kept none _ ih =>
    refine .keep (fun run rest cut here => ?_) ih
    have cut : (line :: left) ++ first :: lines = run ++ rest := cut
    rcases List.append_eq_append_iff.mp cut with ⟨more, rfl, behind⟩ | ⟨more, before, _⟩
    · cases more with
      | nil => exact none _ [] (List.append_nil _).symm (by simpa using here)
      | cons _ more =>
        obtain ⟨rfl, _⟩ := List.cons.inj behind
        exact here.opens_once first (by simp) opens
    · exact none run more before here
  | drop here _ ih =>
    rw [List.append_assoc]
    exact .drop here ih

/-- Taking out blocks leaves a block just where blocks are nested. -/
theorem infix_cleared_iff (h : Cleared StateBlock lines kept) :
    (∃ run, StateBlock run ∧ run <:+: kept) ↔ Nested lines := by
  constructor
  · rintro ⟨_, ⟨opens, blank, loads⟩, left, right, rfl⟩
    simp only [List.append_assoc, List.cons_append, List.nil_append] at h
    obtain ⟨before, _, rfl, _, behind, unblocked⟩ := h.split
    obtain ⟨inner, right', rfl, within, _, _⟩ := behind.split
    refine ⟨before, _, inner, _, _, right', rfl, opens, loads, within, blank, ?_⟩
    rintro rfl
    exact unblocked _ right' (by simp) (.mk opens blank loads)
  · rintro ⟨left, first, inner, gaps, last, right, rfl, opens, loads, within, blank, differ⟩
    have blank' : ∀ line ∈ gaps, Blank line := fun line h => (blank line h).2
    obtain ⟨keptLeft, before⟩ := exists_cleared lineBlocks_stateBlock left
    obtain ⟨keptRight, behind⟩ := exists_cleared lineBlocks_stateBlock right
    have fromLast := Cleared.keep (not_stateBlock fun opens => opens.not_loads loads) behind
    have fromInner := within.blank_append blank' fromLast
    have unblocked : ∀ run rest, first :: (inner ++ last :: right) = run ++ rest →
        ¬ StateBlock run := by
      obtain ⟨blanks, line, more, rfl, before, opens'⟩ :=
        (within.eq_or_opens blank').resolve_left differ
      rw [List.append_assoc]
      exact not_stateBlock_over before opens'
    have all := before.append_opening opens (.keep unblocked fromInner)
    obtain rfl := h.unique lineBlocks_stateBlock all
    exact ⟨_, .mk opens blank loads, keptLeft, keptRight, by simp⟩

end

/-! ## A second run -/

variable {lines kept : List (List Char)}

theorem withoutCalls_eq_self (h : kept.Sublist (withoutCalls lines)) :
    withoutCalls kept = kept := by
  refine List.filter_eq_self.mpr fun line member => ?_
  exact (List.mem_filter.mp (h.subset member)).2

/-- The mended text is the one whose lines are left when the blocks are taken out. -/
theorem mend_eq_iff {content mended : String} :
    (remedy defaultPatterns).mend content = mended ↔
      Cleared StateBlock (withoutCalls (rawLines content.toList)) (rawLines mended.toList) := by
  have cleared := cleared_remove content.toList
  rw [← mend_remedy] at cleared
  constructor
  · rintro rfl
    exact cleared
  · intro cleared'
    have lines := congrArg List.flatten (cleared.unique lineBlocks_stateBlock cleared')
    rw [rawLines_flatten, rawLines_flatten] at lines
    exact String.toList_inj.mp lines

/-- A second run changes nothing just if no blocks of the state were nested, the lines that call a
tool left aside. -/
theorem second_removal_keeps_iff (content : String) :
    (remedy defaultPatterns).mend ((remedy defaultPatterns).mend content) =
        (remedy defaultPatterns).mend content ↔
      ¬ Nested (withoutCalls (rawLines content.toList)) := by
  generalize first : (remedy defaultPatterns).mend content = mended
  have cleared := mend_eq_iff.mp first
  rw [mend_eq_iff, withoutCalls_eq_self cleared.sublist, cleared_self_iff lineBlocks_stateBlock,
    ← infix_cleared_iff cleared]
  simp only [not_exists, not_and]

/-- A block in another one is removed first, and the other one only then. -/
theorem nested_blocks_removed_in_turn :
    let opening := "const conversationState =\n"
    let loading := "await this.conversationManager\n"
    (remedy defaultPatterns).mend (opening ++ (opening ++ (loading ++ loading))) =
        opening ++ loading ∧
      (remedy defaultPatterns).mend (opening ++ loading) = "" := by
  intro opening loading
  have opens : OpensState opening.toList :=
    ⟨[], [], .lineFeed, by simp [IsIndent], by simp [IsIndent], by decide, by decide⟩
  have loads : LoadsState loading.toList :=
    ⟨by decide, [], ['\n'], blank_nil, by decide⟩
  have block : StateBlock [opening.toList, loading.toList] :=
    .mk opens (List.forall_mem_nil _) loads
  have last : Cleared StateBlock [loading.toList] [loading.toList] :=
    .keep (not_stateBlock fun opens => opens.not_loads loads) .nil
  have first : ∀ run rest, [opening.toList, opening.toList, loading.toList, loading.toList] =
      run ++ rest → ¬ StateBlock run :=
    not_stateBlock_over (List.forall_mem_nil Blank) opens
  have nested : withoutCalls (rawLines (opening ++ (opening ++ (loading ++ loading))).toList) =
      [opening.toList, opening.toList, loading.toList, loading.toList] := by decide
  have single : rawLines (opening ++ loading).toList = [opening.toList, loading.toList] := by decide
  have uncalled : withoutCalls [opening.toList, loading.toList] =
      [opening.toList, loading.toList] := by decide
  constructor
  · rw [mend_eq_iff, nested, single]
    exact .keep first (.drop block last)
  · rw [mend_eq_iff, single, uncalled]
    exact .drop block .nil

end LintRepair.Declaration
