import LintRepair.Diagnostic.Reading
import LintRepair.Proofs.Lines

/-!
Output that is cut short. A cut between two lines tears one diagnostic at most: the
last before the cut, if its location is behind it. All others are read as before, so
findings are lost at the end and nowhere else.
-/

namespace LintRepair

/-! ## Lines -/

/-- More lines change what the search for a location gives only if it went through all the lines
there were: none of them opens a diagnostic, and nothing was found. -/
theorem confirmedLocation?_extended {lines rest : List (List Char)}
    (differs : confirmedLocation? (lines ++ rest) ≠ confirmedLocation? lines) :
    confirmedLocation? lines = none ∧ ∀ line ∈ lines, opensDiagnostic line = false := by
  induction lines with
  | nil => exact ⟨rfl, by simp⟩
  | cons line lines ih =>
    simp only [List.cons_append, confirmedLocation?] at differs ⊢
    split at differs
    · exact absurd rfl differs
    · rename_i closed
      split at differs
      · exact absurd rfl differs
      · rename_i unmarked
        obtain ⟨nothing, quiet⟩ := ih differs
        rw [if_neg closed, if_neg unmarked]
        refine ⟨nothing, fun other member => ?_⟩
        rcases List.mem_cons.mp member with rfl | member
        · simpa using closed
        · exact quiet other member

/-- The same of the few lines that are looked at behind a message: they are then all the lines. -/
theorem findingAt?_extended {line : List Char} {lines rest : List (List Char)}
    (differs : findingAt? line (lines ++ rest) ≠ findingAt? line lines) :
    findingAt? line lines = none ∧ ∀ other ∈ lines, opensDiagnostic other = false := by
  have searched : confirmedLocation? ((lines ++ rest).take lookahead) ≠
      confirmedLocation? (lines.take lookahead) := fun same =>
    differs (by simp only [findingAt?, same])
  rw [List.take_append] at searched
  obtain ⟨nothing, quiet⟩ := confirmedLocation?_extended searched
  have few : lines.length ≤ lookahead := by
    refine Nat.le_of_not_lt fun many => searched ?_
    rw [Nat.sub_eq_zero_of_le (Nat.le_of_lt many), List.take_zero, List.append_nil]
  rw [List.take_of_length_le few] at quiet
  refine ⟨?_, quiet⟩
  simp only [findingAt?, nothing]
  cases message? line <;> rfl

theorem findingsIn_quiet {lines : List (List Char)}
    (quiet : ∀ line ∈ lines, opensDiagnostic line = false) (rest : List (List Char)) :
    findingsIn (lines ++ rest) = findingsIn rest := by
  induction lines with
  | nil => rfl
  | cons line lines ih =>
    have closed := quiet line List.mem_cons_self
    have noMessage : message? line = none := by
      rw [opensDiagnostic, Bool.or_eq_false_iff] at closed
      simpa using closed.2
    have nothing : findingAt? line (lines ++ rest) = none := by
      rw [findingAt?, noMessage]
      rfl
    rw [List.cons_append, findingsIn, nothing]
    exact ih fun other member => quiet other (List.mem_cons_of_mem line member)

/-- Of two runs of lines each gives its own findings, and one more may come from a message in the
first with its location in the second. -/
theorem exists_torn (lines rest : List (List Char)) :
    ∃ torn : Option Finding,
      findingsIn (lines ++ rest) = findingsIn lines ++ (torn.toList ++ findingsIn rest) := by
  induction lines with
  | nil => exact ⟨none, rfl⟩
  | cons line lines ih =>
    by_cases same : findingAt? line (lines ++ rest) = findingAt? line lines
    · obtain ⟨torn, later⟩ := ih
      refine ⟨torn, ?_⟩
      rw [List.cons_append, findingsIn, findingsIn, same, later, List.append_assoc]
    · -- The message is the last one before the cut, since no line behind it opens a diagnostic.
      obtain ⟨nothing, quiet⟩ := findingAt?_extended same
      have alone := findingsIn_quiet quiet []
      rw [List.append_nil] at alone
      refine ⟨findingAt? line (lines ++ rest), ?_⟩
      rw [List.cons_append, findingsIn, findingsIn, nothing, alone, findingsIn_quiet quiet]
      rfl

/-! ## Texts -/

/-- The first `k` lines of a text, with what ends them. -/
def firstLines (k : Nat) (text : String) : String :=
  .ofList ((rawLines text.toList).take k).flatten

/-- What is left of a text behind its first `k` lines. -/
def linesBehind (k : Nat) (text : String) : String :=
  .ofList ((rawLines text.toList).drop k).flatten

theorem IsCut.take {lines : List (List Char)} (h : IsCut lines) (k : Nat) :
    IsCut (lines.take k) := by
  induction lines generalizing k with
  | nil => simp [IsCut]
  | cons raw lines ih =>
    cases k with
    | zero => trivial
    | succ k =>
      obtain ⟨first, others⟩ := h
      refine ⟨first.imp_right ?_, ih others k⟩
      rintro ⟨rfl, unended⟩
      exact ⟨List.take_nil, unended⟩

theorem IsCut.drop {lines : List (List Char)} (h : IsCut lines) (k : Nat) :
    IsCut (lines.drop k) := by
  induction lines generalizing k with
  | nil => simp [IsCut]
  | cons raw lines ih =>
    cases k with
    | zero => exact h
    | succ k => exact ih h.2 k

theorem lineBodies_firstLines (k : Nat) (text : String) :
    lineBodies (firstLines k text).toList = (lineBodies text.toList).take k := by
  rw [lineBodies, firstLines, String.toList_ofList,
    rawLines_of_isCut ((rawLines_isCut text.toList).take k), lineBodies, List.map_take]

theorem lineBodies_linesBehind (k : Nat) (text : String) :
    lineBodies (linesBehind k text).toList = (lineBodies text.toList).drop k := by
  rw [lineBodies, linesBehind, String.toList_ofList,
    rawLines_of_isCut ((rawLines_isCut text.toList).drop k), lineBodies, List.map_drop]

/-- The findings of a text that is cut short are the first of those of the whole text. Of the others
one at most is torn by the cut, and the rest are those of what was cut off. -/
theorem cut_loses_last_findings (text : String) (k : Nat) :
    readFindings (firstLines k text) <+: readFindings text ∧
      ∃ torn : Option Finding, readFindings text =
        readFindings (firstLines k text) ++ (torn.toList ++ readFindings (linesBehind k text)) := by
  obtain ⟨torn, all⟩ := exists_torn ((lineBodies text.toList).take k)
    ((lineBodies text.toList).drop k)
  rw [List.take_append_drop, ← lineBodies_firstLines, ← lineBodies_linesBehind] at all
  exact ⟨⟨_, all.symm⟩, torn, all⟩

end LintRepair
