import LintRepair.Diagnostic.Message
import LintRepair.Proofs.Scanning

/-!
The lines that open a diagnostic.

* `quotedAt?_eq_some_iff`: what a message of a kind looks like;
* `opensDiagnostic_append`: a line that opens a diagnostic still does so with
  more text behind it;
* `message?_headerLine`: a header line with the sentence of a kind is a message of
  this kind, and the name in it is the one that it quotes.
-/

namespace LintRepair

theorem takeWhile_unquoted {name rest : List Char} (h : '\'' ∉ name) :
    (name ++ '\'' :: rest).takeWhile (· ≠ '\'') = name := by
  rw [List.takeWhile_append_of_pos]
  · simp
  · intro c hc
    simpa using ne_of_mem_of_not_mem hc h

theorem dropWhile_unquoted {name rest : List Char} (h : '\'' ∉ name) :
    (name ++ '\'' :: rest).dropWhile (· ≠ '\'') = '\'' :: rest := by
  rw [List.dropWhile_append_of_pos]
  · simp
  · intro c hc
    simpa using ne_of_mem_of_not_mem hc h

namespace Kind

theorem lead_eq (k : Kind) : ∃ opening, k.lead = opening ++ ['\''] ∧ '\'' ∉ opening := by
  cases k
  · exact ⟨"Parameter ".toList, rfl, by decide⟩
  · exact ⟨"Variable ".toList, rfl, by decide⟩
  · exact ⟨"Catch parameter ".toList, rfl, by decide⟩

theorem tail_eq (k : Kind) : ∃ closing, k.tail = '\'' :: closing ∧ '\'' ∉ closing := by
  cases k
  · exact ⟨" is declared but never used".toList, rfl, by decide⟩
  · exact ⟨" is declared but never used".toList, rfl, by decide⟩
  · exact ⟨" is caught but never used".toList, rfl, by decide⟩

theorem quotedAt?_eq_some_iff {k : Kind} {previous : Option Char} {s name : List Char} :
    k.quotedAt? previous s = some name ↔
      (k.startsWord = true → atWordStart previous = true) ∧ name ≠ [] ∧ '\'' ∉ name ∧
        ∃ rest, s = k.lead ++ (name ++ (k.tail ++ rest)) := by
  obtain ⟨closing, tail, _⟩ := k.tail_eq
  simp only [quotedAt?, Option.bind_eq_bind, Option.bind_eq_some_iff, Option.guard_eq_some',
    after?_eq_some_iff, List.isPrefixOf_iff_prefix, exists_const]
  constructor
  · rintro ⟨start, after, rfl, named, ⟨rest, closed⟩, ⟨⟩⟩
    refine ⟨by grind, by simpa using named, ?_, rest, ?_⟩
    · intro quote
      simpa using List.all_eq_true.mp List.all_takeWhile _ quote
    · rw [closed, List.takeWhile_append_dropWhile]
  · rintro ⟨start, named, unquoted, rest, rfl⟩
    refine ⟨by grind, _, rfl, ?_⟩
    rw [tail, List.cons_append, takeWhile_unquoted unquoted, dropWhile_unquoted unquoted]
    exact ⟨by simpa using named, ⟨rest, rfl⟩, rfl⟩

theorem quoted?_eq_some {k : Kind} {line name : List Char} (h : k.quoted? line = some name) :
    '\'' ∉ name ∧ ∃ passed rest, line = passed ++ (k.lead ++ (name ++ (k.tail ++ rest))) := by
  obtain ⟨passed, _, rfl, here⟩ := firstMatch_eq_some h
  obtain ⟨_, _, unquoted, rest, rfl⟩ := quotedAt?_eq_some_iff.mp here
  exact ⟨unquoted, passed, rest, rfl⟩

theorem isSome_quoted?_append {k : Kind} {line : List Char} (more : List Char)
    (h : (k.quoted? line).isSome) : (k.quoted? (line ++ more)).isSome := by
  apply isSome_firstMatch_append _ h
  intro previous s here
  obtain ⟨name, here⟩ := Option.isSome_iff_exists.mp here
  obtain ⟨start, named, unquoted, rest, rfl⟩ := quotedAt?_eq_some_iff.mp here
  refine Option.isSome_iff_exists.mpr ⟨name, quotedAt?_eq_some_iff.mpr ?_⟩
  exact ⟨start, named, unquoted, rest ++ more, by simp⟩

end Kind

/-! ## Text behind a line that opens a diagnostic -/

theorem isSome_message?_iff {line : List Char} :
    (message? line).isSome ↔ ∃ k : Kind, (k.quoted? line).isSome := by
  simp only [message?, List.isSome_findSome?, List.any_eq_true, Option.isSome_map]
  constructor
  · rintro ⟨k, _, h⟩
    exact ⟨k, h⟩
  · rintro ⟨k, h⟩
    exact ⟨k, by cases k <;> decide, h⟩

/-- A line without quotation marks is no message. -/
theorem message?_of_unquoted {line : List Char} (h : '\'' ∉ line) : message? line = none := by
  rw [← Option.not_isSome_iff_eq_none, isSome_message?_iff]
  rintro ⟨k, quoted⟩
  obtain ⟨name, quoted⟩ := Option.isSome_iff_exists.mp quoted
  obtain ⟨_, passed, rest, rfl⟩ := Kind.quoted?_eq_some quoted
  obtain ⟨opening, lead, _⟩ := k.lead_eq
  simp [lead] at h

theorem isSome_message?_append {line : List Char} (more : List Char) (h : (message? line).isSome) :
    (message? (line ++ more)).isSome := by
  obtain ⟨k, quoted⟩ := isSome_message?_iff.mp h
  exact isSome_message?_iff.mpr ⟨k, Kind.isSome_quoted?_append more quoted⟩

theorem isSome_header?_append {line : List Char} (more : List Char) (h : (header? line).isSome) :
    (header? (line ++ more)).isSome := by
  have opens : dropSpaces line ≠ [] := by
    intro blank
    simp [header?, blank] at h
  have same : dropSpaces (line ++ more) = dropSpaces line ++ more := by
    unfold dropSpaces at opens ⊢
    rw [List.dropWhile_append, if_neg (by simpa using opens)]
  rw [header?, same]
  rw [header?] at h
  split at h <;> simp_all

theorem opensDiagnostic_append {line : List Char} (more : List Char)
    (h : opensDiagnostic line = true) : opensDiagnostic (line ++ more) = true := by
  simp only [opensDiagnostic, Bool.or_eq_true] at h ⊢
  rcases h with header | message
  · exact .inl (isSome_header?_append more header)
  · exact .inr (isSome_message?_append more message)

/-! ## The sentences of the kinds -/

namespace Kind

/-- The sentence in which the analyzer reports a finding of a kind. -/
def sentence : Kind → String → String
  | unusedParameter, name => "Parameter '" ++ name ++ "' is declared but never used"
  | unusedVariable, name => "Variable '" ++ name ++ "' is declared but never used"
  | unusedCatchBinding, name => "Catch parameter '" ++ name ++ "' is caught but never used"

theorem toList_sentence (k : Kind) (name : String) :
    (k.sentence name).toList = k.lead ++ (name.toList ++ k.tail) := by
  have pieces (a b : String) : (a ++ name ++ b).toList = a.toList ++ (name.toList ++ b.toList) := by
    rw [String.toList_append, String.toList_append, List.append_assoc]
  cases k
  · exact pieces "Parameter '" "' is declared but never used"
  · exact pieces "Variable '" "' is declared but never used"
  · exact pieces "Catch parameter '" "' is caught but never used"

theorem count_lead (k : Kind) : k.lead.count '\'' = 1 := by
  cases k <;> decide

theorem count_tail (k : Kind) : k.tail.count '\'' = 1 := by
  cases k <;> decide

/-- No beginning of a message is the end of another one's. -/
theorem eq_of_lead_suffix {k kind : Kind} (h : k.lead <:+ "  ! ".toList ++ kind.lead) :
    k = kind := by
  rw [← List.isSuffixOf_iff_suffix] at h
  revert h
  cases k <;> cases kind <;> decide

/-- A header with the sentence of a kind. -/
def headerLine (kind : Kind) (name : List Char) : List Char :=
  "  ! ".toList ++ (kind.lead ++ (name ++ (kind.tail ++ ['.'])))

/-- There are two quotation marks on a header, so any message on it is the one that was written. -/
theorem eq_of_quoted?_headerLine {k kind : Kind} {name other : List Char} (unquoted : '\'' ∉ name)
    (h : k.quoted? (kind.headerLine name) = some other) : k = kind ∧ other = name := by
  obtain ⟨plain, passed, rest, same⟩ := quoted?_eq_some h
  have clean : '\'' ∉ passed := by
    have quotes := congrArg (List.count '\'') same
    have before : List.count '\'' "  ! ".toList = 0 := by decide
    have behind : List.count '\'' ['.'] = 0 := by decide
    simp only [headerLine, List.count_append, count_lead, count_tail, before, behind,
      List.count_eq_zero_of_not_mem unquoted, List.count_eq_zero_of_not_mem plain] at quotes
    rw [← List.count_eq_zero]
    omega
  obtain ⟨opening, lead, hOpening⟩ := kind.lead_eq
  obtain ⟨opening', lead', hOpening'⟩ := k.lead_eq
  obtain ⟨closing, tail, _⟩ := kind.tail_eq
  obtain ⟨closing', tail', _⟩ := k.tail_eq
  have cut : ("  ! ".toList ++ opening) ++ '\'' :: (name ++ '\'' :: (closing ++ ['.'])) =
      (passed ++ opening') ++ '\'' :: (other ++ '\'' :: (closing' ++ rest)) := by
    simpa [headerLine, lead, lead', tail, tail'] using same
  have start : '\'' ∉ "  ! ".toList ++ opening := by simp [hOpening]
  have start' : '\'' ∉ passed ++ opening' := by simp [hOpening', clean]
  have first := congrArg (List.takeWhile (· ≠ '\'')) cut
  have second := congrArg (List.dropWhile (· ≠ '\'')) cut
  rw [takeWhile_unquoted start, takeWhile_unquoted start'] at first
  rw [dropWhile_unquoted start, dropWhile_unquoted start'] at second
  constructor
  · apply eq_of_lead_suffix
    rw [lead, lead', ← List.append_assoc, first]
    exact ⟨passed, by simp⟩
  · have names := congrArg (List.takeWhile (· ≠ '\'')) (List.cons.inj second).2
    rw [takeWhile_unquoted unquoted, takeWhile_unquoted plain] at names
    exact names.symm

theorem quoted?_headerLine {kind : Kind} {name : List Char} (named : name ≠ [])
    (unquoted : '\'' ∉ name) (k : Kind) :
    k.quoted? (kind.headerLine name) = if k = kind then some name else none := by
  split
  · rename_i here
    subst here
    have found : (k.quoted? (k.headerLine name)).isSome := by
      apply isSome_firstMatch
      rw [quotedAt?_eq_some_iff.mpr ⟨fun _ => by decide, named, unquoted, ['.'], rfl⟩]
      rfl
    obtain ⟨other, there⟩ := Option.isSome_iff_exists.mp found
    rw [there, (eq_of_quoted?_headerLine unquoted there).2]
  · rename_i differ
    cases there : k.quoted? (kind.headerLine name) with
    | none => rfl
    | some other => exact absurd (eq_of_quoted?_headerLine unquoted there).1 differ

end Kind

theorem message?_headerLine {kind : Kind} {name : List Char} (named : name ≠ [])
    (unquoted : '\'' ∉ name) : message? (kind.headerLine name) = some ⟨kind, name⟩ := by
  simp only [message?, Kind.quoted?_headerLine named unquoted]
  cases kind <;> rfl

theorem opensDiagnostic_headerLine (kind : Kind) (name : List Char) :
    opensDiagnostic (kind.headerLine name) = true := rfl

end LintRepair
