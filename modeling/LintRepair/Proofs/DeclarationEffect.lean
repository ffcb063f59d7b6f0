import LintRepair.Proofs.DeclarationBlocks

/-!
What removing declarations does to a text.

* `cleared_remove`: the default patterns take out the lines that call a tool, and then, from the
  first line on, the blocks of the state;
* `declarations_only_deleted`: so no line is changed, and no pattern adds a character.
-/

namespace LintRepair

theorem terminated_iff {line : List Char} :
    Terminated line ↔ line.getLast? = some '\n' ∧ '\n' ∉ line.dropLast := by
  constructor
  · rintro ⟨body, clean, rfl⟩
    simpa using clean
  · rintro ⟨last, clean⟩
    exact ⟨line.dropLast, clean, (List.dropLast_append_getLast? _ last).symm⟩

instance (line : List Char) : Decidable (Terminated line) := decidable_of_iff' _ terminated_iff

namespace Declaration

theorem indented_iff {word line : List Char} {c : Char} (first : word.head? = some c)
    (ink : c ≠ ' ' ∧ c ≠ '\t') :
    (∃ indent more, IsIndent indent ∧ line = indent ++ (word ++ more)) ↔
      word <+: line.dropWhile fun c => c = ' ' ∨ c = '\t' := by
  obtain ⟨word, rfl⟩ := List.head?_eq_some_iff.mp first
  constructor
  · rintro ⟨indent, more, blank, rfl⟩
    rw [List.dropWhile_append_of_pos (by simpa [IsIndent] using blank), List.cons_append,
      List.dropWhile_cons_of_neg (by simpa using ink)]
    exact ⟨more, rfl⟩
  · rintro ⟨more, cut⟩
    refine ⟨line.takeWhile fun c => c = ' ' ∨ c = '\t', more, ?_, ?_⟩
    · intro c hc
      simpa using List.all_eq_true.mp List.all_takeWhile c hc
    · rw [cut, List.takeWhile_append_dropWhile]

instance (line : List Char) : Decidable (CallsTool line) :=
  decidable_of_iff' (Terminated line ∧ toolCall <+: line.dropWhile fun c => c = ' ' ∨ c = '\t')
    (and_congr_right fun _ => indented_iff (c := 'c') rfl (by decide))

variable {lines kept : List (List Char)}

/-- Taking out lines one by one is to filter them. -/
theorem cleared_single {P : List Char → Prop} [DecidablePred P]
    (h : Cleared (fun run => ∃ line, run = [line] ∧ P line) lines kept) :
    kept = lines.filter fun line => ¬ P line := by
  induction h with
  | nil => rfl
  | @keep line lines kept none _ ih =>
    have stays : ¬ P line := fun here => none [line] lines rfl ⟨line, rfl, here⟩
    rw [List.filter_cons_of_pos (by simpa using stays), ih]
  | drop here _ ih =>
    obtain ⟨line, rfl, goes⟩ := here
    rw [List.singleton_append, List.filter_cons_of_neg (by simpa using goes), ih]

/-- The lines but those that call a tool. -/
def withoutCalls (lines : List (List Char)) : List (List Char) :=
  lines.filter fun line => ¬ CallsTool line

theorem cleared_remove (content : List Char) :
    Cleared StateBlock (withoutCalls (rawLines content))
      (rawLines (remove (readPatterns defaultPatterns) content)) := by
  rw [readPatterns_default]
  have calls := cleared_single (cleared_deleteAll matchesBlocks_toolCall content)
  have blocks := cleared_deleteAll matchesBlocks_stateBlock (deleteAll toolCallPattern content)
  rwa [calls] at blocks

theorem mend_remedy (patterns : List String) (content : String) :
    ((remedy patterns).mend content).toList = remove (readPatterns patterns) content.toList :=
  String.toList_ofList

/-- Whatever the patterns are, characters are only taken out, and patterns that cannot be read take
out none. By default what is taken out are whole lines: all that call a tool, and of what is then
left each block of the state that begins where no other block has been taken out yet. -/
theorem declarations_only_deleted (patterns : List String) (content : String) :
    ((remedy patterns).mend content).toList.Sublist content.toList ∧
      (remedy patterns).mend content =
        (remedy (patterns.filter fun text => (Pattern.ofText? text).isSome)).mend content ∧
      let lines := rawLines content.toList
      let left := rawLines ((remedy defaultPatterns).mend content).toList
      left.Sublist lines ∧ Cleared StateBlock (withoutCalls lines) left := by
  refine ⟨?_, ?_, ?_⟩
  · rw [mend_remedy]
    exact remove_sublist _ _
  · have read : readPatterns (patterns.filter fun text => (Pattern.ofText? text).isSome) =
        readPatterns patterns := by
      rw [readPatterns, readPatterns, List.filterMap_filter]
      refine List.filterMap_congr fun text _ => ?_
      cases Pattern.ofText? text <;> rfl
    rw [remedy, remedy, read]
  · intro lines left
    have cleared : Cleared StateBlock (withoutCalls lines) left := by
      simp only [left, mend_remedy]
      exact cleared_remove content.toList
    exact ⟨cleared.sublist.trans List.filter_sublist, cleared⟩

end Declaration

end LintRepair
