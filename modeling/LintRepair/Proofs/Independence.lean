import LintRepair.Diagnostic.Reading
import LintRepair.Proofs.Lines

/-!
Diagnostics are read one by one. Whatever a message is followed by, the search
for its location ends where the next diagnostic opens, so what a diagnostic
gives does not depend on those around it.

* `findingsIn_append`: lines that open a diagnostic are read apart from those
  before them;
* `readFindings_join`: so is each of any number of diagnostics in a text.
-/

namespace LintRepair

/-- Lines of which the first, if there is one, opens a diagnostic. -/
def Opened (lines : List (List Char)) : Prop := ∀ line ∈ lines.head?, opensDiagnostic line = true

instance (lines : List (List Char)) : Decidable (Opened lines) :=
  Option.decidableForallMem lines.head?

theorem Opened.append {lines rest : List (List Char)} (first : Opened lines)
    (second : Opened rest) :
    Opened (lines ++ rest) := by
  cases lines with
  | nil => exact second
  | cons line lines => exact first

theorem Opened.take {lines : List (List Char)} (h : Opened lines) (n : Nat) :
    Opened (lines.take n) := by
  intro first there
  rw [List.head?_take] at there
  split at there
  · cases there
  · exact h first there

theorem confirmedLocation?_append {rest : List (List Char)} (opened : Opened rest)
    (lines : List (List Char)) :
    confirmedLocation? (lines ++ rest) = confirmedLocation? lines := by
  induction lines with
  | nil =>
    cases rest with
    | nil => rfl
    | cons line rest => simp [confirmedLocation?, opened line rfl]
  | cons line lines ih => simp only [List.cons_append, confirmedLocation?, ih]

/-- The few lines behind a message may reach into the next diagnostic, but give nothing there. -/
theorem findingAt?_append {rest : List (List Char)} (opened : Opened rest) (line : List Char)
    (lines : List (List Char)) : findingAt? line (lines ++ rest) = findingAt? line lines := by
  have window := opened.take (lookahead - lines.length)
  simp only [findingAt?, List.take_append, confirmedLocation?_append window]

theorem findingsIn_append {rest : List (List Char)} (opened : Opened rest)
    (lines : List (List Char)) :
    findingsIn (lines ++ rest) = findingsIn lines ++ findingsIn rest := by
  induction lines with
  | nil => rfl
  | cons line lines ih =>
    simp only [List.cons_append, findingsIn, findingAt?_append opened, ih, List.append_assoc]

/-- The text of a diagnostic, from the line that opens it up to where the next one may open. -/
structure IsDiagnostic (text : String) : Prop where
  whole : WholeLines text.toList
  opened : Opened (lineBodies text.toList)

theorem readFindings_append {a b : String} (whole : WholeLines a.toList)
    (opened : Opened (lineBodies b.toList)) :
    readFindings (a ++ b) = readFindings a ++ readFindings b := by
  simp only [readFindings, String.toList_append, lineBodies_append whole, findingsIn_append opened]

theorem opened_join {diagnostics : List String} (each : ∀ d ∈ diagnostics, IsDiagnostic d)
    {rest : String} (opened : Opened (lineBodies rest.toList)) :
    Opened (lineBodies (String.join diagnostics ++ rest).toList) := by
  induction diagnostics with
  | nil => simpa using opened
  | cons d diagnostics ih =>
    have here := each d List.mem_cons_self
    have later := ih fun x hx => each x (List.mem_cons_of_mem d hx)
    rw [String.join_cons, String.append_assoc, String.toList_append, lineBodies_append here.whole]
    exact here.opened.append later

theorem readFindings_join {diagnostics : List String} (each : ∀ d ∈ diagnostics, IsDiagnostic d)
    {rest : String} (opened : Opened (lineBodies rest.toList)) :
    readFindings (String.join diagnostics ++ rest) =
      diagnostics.flatMap readFindings ++ readFindings rest := by
  induction diagnostics with
  | nil => simp
  | cons d diagnostics ih =>
    have here := each d List.mem_cons_self
    have others : ∀ x ∈ diagnostics, IsDiagnostic x :=
      fun x hx => each x (List.mem_cons_of_mem d hx)
    rw [String.join_cons, String.append_assoc,
      readFindings_append here.whole (opened_join others opened), ih others]
    simp

/-- Texts are read apart wherever a diagnostic opens. So in a text of diagnostics, with anything
before them and one behind them that may be cut short, each gives what it gives alone. -/
theorem diagnostics_read_apart {a b : String} (whole : WholeLines a.toList)
    (opened : Opened (lineBodies b.toList)) :
    readFindings (a ++ b) = readFindings a ++ readFindings b ∧
      ∀ diagnostics : List String, (∀ d ∈ diagnostics, IsDiagnostic d) →
        readFindings (a ++ (String.join diagnostics ++ b)) =
          readFindings a ++ (diagnostics.flatMap readFindings ++ readFindings b) := by
  refine ⟨readFindings_append whole opened, ?_⟩
  intro diagnostics each
  rw [readFindings_append whole (opened_join each opened), readFindings_join each opened]

/-- A finding on each side of a message without a location and of a diagnostic of another rule,
which has one. The text behind them is cut short. -/
theorem diagnostics_read_apart_unrelated :
    let before := "  ! Parameter 'a' is declared but never used.\n   ,-[a.ts:1:3]\n"
    let stray := "  ! Parameter 'x' is declared but never used.\n"
    let other := "  ! Unexpected console statement.\n   ,-[other.ts:9:3]\n"
    let behind := "  x Parameter 'b' is declared but never used.\n   ,-[b.ts:2:5]\n 2 |"
    let a : Finding := ⟨.unusedParameter, ⟨"a.ts"⟩, 1, 3, some "a"⟩
    let b : Finding := ⟨.unusedParameter, ⟨"b.ts"⟩, 2, 5, some "b"⟩
    WholeLines before.toList ∧ Opened (lineBodies behind.toList) ∧
      (∀ d ∈ [stray, other], IsDiagnostic d) ∧
      readFindings before = [a] ∧ readFindings behind = [b] ∧
      readFindings (before ++ behind) = [a, b] ∧
      readFindings (before ++ (String.join [stray, other] ++ behind)) = [a, b] := by
  intro before stray other behind a b
  have whole : WholeLines before.toList := by decide
  have opened : Opened (lineBodies behind.toList) := by decide
  have between : ∀ d ∈ [stray, other], IsDiagnostic d := by
    simp only [List.forall_mem_cons]
    exact ⟨⟨by decide, by decide⟩, ⟨by decide, by decide⟩, by simp⟩
  have first : readFindings before = [a] := by decide +kernel
  have second : readFindings behind = [b] := by decide +kernel
  have nothing : [stray, other].flatMap readFindings = [] := by decide +kernel
  obtain ⟨two, many⟩ := diagnostics_read_apart whole opened
  have all := many [stray, other] between
  rw [first, second] at two
  rw [first, second, nothing] at all
  exact ⟨whole, opened, between, first, second, two, all⟩

end LintRepair
