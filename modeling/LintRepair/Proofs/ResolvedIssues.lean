import LintRepair.Print.Campaign
import LintRepair.Proofs.IssueCounts

/-!
What a summary says about issues that are gone. It is printed just if the totals fit into a word.
A footer can give two numbers that fit while their sum does not.

* `announcements_between`: which lines of a text announce something;
* `summaryText?_eq`: the lines of a summary;
* `wordMax_lt_sum_iff`: which texts have a total that does not fit;
* `summary_printed_iff`: when there is a summary, and what it announces.
-/

namespace LintRepair

/-! ## Text in a style -/

theorem mem_substitute {offer : Option Char → List Char → Option Substitution} {skip : Nat}
    {previous : Option Char} {s : List Char} {c : Char} (h : c ∈ substitute offer skip previous s) :
    c ∈ s ∨ ∃ previous rest edit, offer previous rest = some edit ∧ c ∈ edit.text := by
  fun_induction substitute offer skip previous s with
  | case1 => cases h
  | case2 skip previous d s ih => exact (ih h).imp_left (List.mem_cons_of_mem d)
  | case3 previous d s edit offered ih =>
    rcases List.mem_append.mp h with here | later
    · exact .inr ⟨_, _, edit, offered, here⟩
    · exact (ih later).imp_left (List.mem_cons_of_mem d)
  | case4 previous d s refused ih =>
    rcases List.mem_cons.mp h with rfl | later
    · exact .inl List.mem_cons_self
    · exact (ih later).imp_left (List.mem_cons_of_mem d)

namespace Style

theorem unbroken_opening (style : Style) : '\n' ∉ style.opening.toList := by
  obtain ⟨color, bold, dimmed⟩ := style
  cases bold <;> cases dimmed <;> rcases color with _ | (_ | _ | _ | _) <;> decide

/-- A style breaks no line. -/
theorem unbroken_paint (style : Style) (on : Bool) {text : String} (h : '\n' ∉ text.toList) :
    '\n' ∉ (style.paint on text).toList := by
  cases on with
  | false => exact h
  | true =>
    have resumed : '\n' ∉ style.resumed text.toList := by
      intro member
      rcases mem_substitute member with inText | ⟨_, _, edit, offered, written⟩
      · exact h inText
      · obtain ⟨_, _, rfl⟩ := Option.map_eq_some_iff.mp offered
        rw [String.toList_append, List.mem_append] at written
        rcases written with inReset | inOpening
        · exact absurd inReset (by decide)
        · exact style.unbroken_opening inOpening
    have painted : (style.paint true text).toList =
        style.opening.toList ++ style.resumed text.toList ++ reset.toList := by simp [paint]
    rw [painted]
    simp only [List.mem_append, not_or]
    exact ⟨⟨style.unbroken_opening, resumed⟩, by decide⟩

theorem getLast?_paint (style : Style) (on : Bool) (text : String) :
    (style.paint on text).toList.getLast? = if on then some 'm' else text.toList.getLast? := by
  cases on with
  | false => rfl
  | true =>
    have ends : reset.toList.getLast? = some 'm' := by decide
    simp [paint, List.getLast?_append, ends]

end Style

/-- All issues, however many they are. -/
def IssueCount.sum (c : IssueCount) : Nat := c.warnings + c.errors

/-! ## Announcements -/

namespace Print

/-- What a line ends with that announces issues as resolved. -/
def announcing : List Char := " issue(s) resolved".toList

/-- The lines of a text that announce issues as resolved. -/
def announcements (text : String) : List (List Char) :=
  (lineBodies text.toList).filter announcing.isSuffixOf

/-- The announcement of so many issues. -/
def announcement (color : Bool) (n : Nat) : String :=
  "  " ++ (Style.colored .green).paint color "✓" ++ s!" {n} issue(s) resolved"

/-- A text that is read as one line if it is printed as one. -/
structure IsLine (line : String) : Prop where
  unbroken : '\n' ∉ line.toList
  ends : line.toList.getLast? ≠ some '\r'

theorem announcements_lines {texts : List String} (each : ∀ line ∈ texts, IsLine line) :
    announcements (lines texts) = (texts.map String.toList).filter announcing.isSuffixOf := by
  have read : lineBodies (lines texts).toList = texts.map String.toList := by
    have written := lineBodies_textOfLines fun line member => (each line member).unbroken
    refine written.trans (List.map_congr_left fun line member => ?_)
    exact shown_eq_self (each line member).ends
  rw [announcements, read]

theorem toList_announcement (color : Bool) (n : Nat) : (announcement color n).toList =
    "  ".toList ++ ((Style.colored .green).paint color "✓").toList ++
      (" ".toList ++ Nat.toDigits 10 n ++ announcing) := by
  have opened : announcement color n =
      "  " ++ (Style.colored .green).paint color "✓" ++ (" " ++ toString n ++ " issue(s) resolved") := rfl
  have digits : (toString n).toList = Nat.toDigits 10 n := by simp
  rw [opened, String.toList_append, String.toList_append, String.toList_append,
    String.toList_append, digits]
  rfl

theorem announcing_announcement (color : Bool) (n : Nat) :
    announcing.isSuffixOf (announcement color n).toList = true := by
  rw [List.isSuffixOf_iff_suffix, toList_announcement, ← List.append_assoc]
  exact List.suffix_append _ _

/-- A printed line that does not end as announcements do. -/
structure Quiet (line : String) : Prop extends IsLine line where
  silent : line.toList.getLast? ≠ some 'd'

namespace Quiet

variable {a b line : String}

instance : Decidable (Quiet line) :=
  decidable_of_iff (('\n' ∉ line.toList ∧ line.toList.getLast? ≠ some '\r') ∧
      line.toList.getLast? ≠ some 'd')
    ⟨fun h => ⟨⟨h.1.1, h.1.2⟩, h.2⟩, fun h => ⟨⟨h.unbroken, h.ends⟩, h.silent⟩⟩

theorem not_announcing (h : Quiet line) : announcing.isSuffixOf line.toList = false := by
  rw [Bool.eq_false_iff, ne_eq, List.isSuffixOf_iff_suffix]
  rintro ⟨start, cut⟩
  have ends : announcing.getLast? = some 'd' := by decide
  refine h.silent ?_
  rw [← cut, List.getLast?_append, ends, Option.some_or]

theorem append (ha : Quiet a) (hb : Quiet b) : Quiet (a ++ b) := by
  have last {c : Char} (first : a.toList.getLast? ≠ some c) (second : b.toList.getLast? ≠ some c) :
      (a ++ b).toList.getLast? ≠ some c := by
    rw [String.toList_append, List.getLast?_append, ne_eq, Option.or_eq_some_iff]
    rintro (here | ⟨_, here⟩)
    · exact second here
    · exact first here
  refine ⟨⟨?_, last ha.ends hb.ends⟩, last ha.silent hb.silent⟩
  rw [String.toList_append, List.mem_append, not_or]
  exact ⟨ha.unbroken, hb.unbroken⟩

theorem toString (n : Nat) : Quiet (toString n) := by
  have digits : (ToString.toString n).toList = Nat.toDigits 10 n := by simp
  have absent {c : Char} (other : c.isDigit = false) : c ∉ (ToString.toString n).toList := by
    intro member
    rw [digits] at member
    rw [Nat.isDigit_of_mem_toDigits (by decide) (by decide) member] at other
    cases other
  exact ⟨⟨absent (by decide), fun last => absent (by decide) (List.mem_of_getLast? last)⟩,
    fun last => absent (by decide) (List.mem_of_getLast? last)⟩

theorem paint (style : Style) (color : Bool) (h : Quiet line) : Quiet (style.paint color line) := by
  have last {c : Char} (other : c ≠ 'm') (ends : line.toList.getLast? ≠ some c) :
      (style.paint color line).toList.getLast? ≠ some c := by
    rw [Style.getLast?_paint]
    cases color with
    | false => exact ends
    | true => simpa using other.symm
  exact ⟨⟨style.unbroken_paint color h.unbroken, last (by decide) h.ends⟩,
    last (by decide) h.silent⟩

theorem count (c : IssueCount) : Quiet c.text := by
  have warnings : Quiet " warnings, " := by decide
  have errors : Quiet " errors" := by decide
  exact (((toString c.warnings).append warnings).append (toString c.errors)).append errors

theorem seconds (ms : Nat) : Quiet (Seconds.text ms) := by
  have point : Quiet "." := by decide
  exact ((toString _).append point).append (toString _)

theorem ruler (width : Nat) : Quiet (ruler width) := by
  have absent {c : Char} (other : c ≠ '─') : c ∉ (LintRepair.ruler width).toList := by
    simp [LintRepair.ruler, List.mem_replicate, other]
  exact ⟨⟨absent (by decide), fun last => absent (by decide) (List.mem_of_getLast? last)⟩,
    fun last => absent (by decide) (List.mem_of_getLast? last)⟩

theorem filter_announcing {texts : List String} (each : ∀ line ∈ texts, Quiet line) :
    (texts.map String.toList).filter announcing.isSuffixOf = [] := by
  simp only [List.filter_eq_nil_iff, List.forall_mem_map, Bool.not_eq_true]
  exact fun line member => (each line member).not_announcing

end Quiet

theorem isLine_announcement (color : Bool) (n : Nat) : IsLine (announcement color n) := by
  have sign : '\n' ∉ ((Style.colored .green).paint color "✓").toList :=
    Style.unbroken_paint _ color (by decide)
  have digits : '\n' ∉ Nat.toDigits 10 n := fun feed =>
    absurd (Nat.isDigit_of_mem_toDigits (by decide) (by decide) feed) (by decide)
  have ends : announcing.getLast? = some 'd' := by decide
  constructor
  · rw [toList_announcement]
    simp only [List.mem_append, not_or]
    exact ⟨⟨by decide, sign⟩, ⟨by decide, digits⟩, by decide⟩
  · rw [toList_announcement, List.getLast?_append, List.getLast?_append, ends, Option.some_or,
      Option.some_or]
    decide

/-- Among quiet lines only the announcement is one. -/
theorem announcements_between {head tail : List String} (quiet : ∀ line ∈ head ++ tail, Quiet line)
    (color : Bool) (n : Nat) :
    announcements (lines (head ++ ((if n > 0 then [announcement color n] else []) ++ tail))) =
      if n > 0 then [(announcement color n).toList] else [] := by
  rw [List.forall_mem_append] at quiet
  have each : ∀ line ∈ head ++ ((if n > 0 then [announcement color n] else []) ++ tail),
      IsLine line := by
    intro line member
    rcases List.mem_append.mp member with inHead | member
    · exact (quiet.1 line inHead).toIsLine
    rcases List.mem_append.mp member with gained | inTail
    · split at gained
      · rw [List.mem_singleton.mp gained]
        exact isLine_announcement color n
      · cases gained
    · exact (quiet.2 line inTail).toIsLine
  rw [announcements_lines each, List.map_append, List.map_append, List.filter_append,
    List.filter_append, Quiet.filter_announcing quiet.1, Quiet.filter_announcing quiet.2,
    List.nil_append, List.append_nil]
  split
  · simp [announcing_announcement]
  · rfl

/-! ## Summaries -/

theorem resolved?_eq (before after : IssueCount) : resolved? before after =
    if before.sum ≤ wordMax ∧ after.sum ≤ wordMax then some (before.sum - after.sum) else none := by
  have total (c : IssueCount) : c.total? = if c.sum ≤ wordMax then some c.sum else none := rfl
  rw [resolved?, total, total]
  by_cases first : before.sum ≤ wordMax
  · by_cases last : after.sum ≤ wordMax
    · simp [first, last]
    · simp [first, last]
  · simp [first]

theorem quiet_ending (color : Bool) : Quiet (endingLine color .completed) := by
  have indent : Quiet "  " := by decide
  exact indent.append (.paint _ color (by decide))

theorem quiet_applied (remedies files ms : Nat) : Quiet
    s!"  Applied {remedies} rule(s), {files} file(s) changed in {Seconds.text ms}s" := by
  have start : Quiet "  Applied " := by decide
  have rules : Quiet " rule(s), " := by decide
  have changed : Quiet " file(s) changed in " := by decide
  have unit : Quiet "s" := by decide
  exact (((((start.append (.toString _)).append rules).append (.toString _)).append
    changed).append (.seconds _)).append unit

/-- The line that asks for another run. -/
def adviceLine (color : Bool) : String :=
  "  " ++ Style.faint.paint color "Commit these changes and run again for more fixes."

theorem quiet_advice (color : Bool) : Quiet (adviceLine color) := by
  have indent : Quiet "  " := by decide
  exact indent.append (.paint _ color (by decide))

variable {s : Summary} {files : Nat} {before after : IssueCount}

/-- The lines of a summary with counts before and after. -/
theorem summaryText?_eq (color : Bool) (completed : s.ending = .completed)
    (changed : s.filesChanged? = some files) (first : s.issuesBefore = some before)
    (last : s.issuesAfter = some after) : ∃ head tail, (∀ line ∈ head ++ tail, Quiet line) ∧
      summaryText? color s = (resolved? before after).map fun n =>
        lines (head ++ ((if n > 0 then [announcement color n] else []) ++ tail)) := by
  refine ⟨["", ruler 64, endingLine color .completed,
    s!"  Applied {s.remediesApplied} rule(s), {files} file(s) changed in {Seconds.text s.elapsed}s",
    "  Before:    " ++ before.text, "  Remaining: " ++ after.text],
    (if s.succeeded && s.remediesApplied > 0 then ["", adviceLine color] else []) ++ [""], ?_, ?_⟩
  · have empty : Quiet "" := by decide
    have sooner : Quiet ("  Before:    " ++ before.text) := .append (by decide) (.count before)
    have later : Quiet ("  Remaining: " ++ after.text) := .append (by decide) (.count after)
    have tail : ∀ line ∈ (if s.succeeded && s.remediesApplied > 0 then ["", adviceLine color]
        else []) ++ [""], Quiet line := by
      split
      · simp [empty, quiet_advice]
      · simp [empty]
    rw [List.forall_mem_append]
    refine ⟨?_, tail⟩
    simp only [List.forall_mem_cons, List.not_mem_nil, false_imp_iff, implies_true, and_true]
    exact ⟨empty, .ruler 64, quiet_ending color, quiet_applied _ _ _, sooner, later⟩
  · rw [summaryText?, changed, first, last, completed]
    cases resolved : resolved? before after with
    | none => simp [issueLines?, resolved]
    | some n => simp [issueLines?, resolved, announcement, adviceLine]

end Print

/-! ## Totals -/

namespace IssueCount

variable {lines : List (List Char)}

theorem footerNumber_le (digits : List Char) : footerNumber digits ≤ wordMax := by
  rw [footerNumber]
  cases read : wordOfDigits? digits with
  | none => exact Nat.zero_le _
  | some n => simpa using (Option.filter_eq_some_iff.mp read).2

/-- Each number of a footer fits into a word. -/
theorem Shows.le {line : List Char} {c : IssueCount} (h : Shows line c) :
    c.warnings ≤ wordMax ∧ c.errors ≤ wordMax := by
  obtain ⟨_, _, _, ⟨_, _, _, _, _, _, _, rfl⟩, _⟩ := h
  exact ⟨footerNumber_le _, footerNumber_le _⟩

/-- There are more issues than a word holds: in a last footer whose numbers fit one by one, or in
headers. -/
def Overclaims (lines : List (List Char)) : Prop :=
  (∃ c, LastShown lines c ∧ c.warnings ≤ wordMax ∧ c.errors ≤ wordMax ∧ wordMax < c.sum) ∨
    Footerless lines ∧ wordMax < headersIn .warning lines + headersIn .error lines

theorem wordMax_lt_sum_iff : wordMax < (ofLines lines).sum ↔ Overclaims lines := by
  rw [ofLines_eq, Overclaims]
  simp only [← getLast?_footers_eq_some_iff, ← footers_eq_nil_iff, ← List.getLast?_eq_none_iff]
  cases last : (lines.filterMap footer?).getLast? with
  | none => simp [sum]
  | some c =>
    -- A number that does not fit is read as zero, so each number of a footer fits.
    obtain ⟨_, _, _, _, footer, _⟩ := getLast?_footers_eq_some_iff.mp last
    simp [footer.le]

end IssueCount

namespace Print

variable {s : Summary}

/-- The summary of a campaign is printed just if the number of changed files and both totals fit into
a word. It announces by how much the second total is smaller, and nothing if it is not. -/
theorem summary_printed_iff (color : Bool) (t₁ t₂ : String) (completed : s.ending = .completed)
    (first : s.issuesBefore = some (.ofText t₁)) (last : s.issuesAfter = some (.ofText t₂)) :
    (summaryText? color s = none ↔ s.filesChanged? = none ∨
        IssueCount.Overclaims (lineBodies t₁.toList) ∨
        IssueCount.Overclaims (lineBodies t₂.toList)) ∧
      ∀ text, summaryText? color s = some text → announcements text =
        if (IssueCount.ofText t₂).sum < (IssueCount.ofText t₁).sum then
          [(announcement color ((IssueCount.ofText t₁).sum - (IssueCount.ofText t₂).sum)).toList]
        else [] := by
  cases changed : s.filesChanged? with
  | none => simp [summaryText?, changed]
  | some files =>
    obtain ⟨head, tail, quiet, printed⟩ := summaryText?_eq color completed changed first last
    rw [printed, resolved?_eq]
    refine ⟨?_, fun text found => ?_⟩
    · rw [← IssueCount.wordMax_lt_sum_iff, ← IssueCount.wordMax_lt_sum_iff,
        Option.map_eq_none_iff, ite_eq_right_iff]
      simp only [reduceCtorEq, imp_false, not_and_or, Nat.not_le, false_or]
      rfl
    · obtain ⟨n, fits, rfl⟩ := Option.map_eq_some_iff.mp found
      obtain ⟨_, same⟩ := Option.ite_none_right_eq_some.mp fits
      rw [announcements_between quiet, ← Option.some.inj same]
      simp only [gt_iff_lt, Nat.sub_pos_iff_lt]

/-- A first total at the limit, and a second one from two headers. -/
theorem summary_printed_iff_at_limit : ∃ text,
    summaryText? true ⟨.completed, [],
      some (.ofText "Found 18446744073709551614 warnings and 1 error\r\n"),
      some (.ofText "  ! eslint(a): b\n  × eslint(c): d\nFound 1 warning"), 0⟩ = some text ∧
      announcements text = ["  \x1b[32m✓\x1b[0m 18446744073709551613 issue(s) resolved".toList] := by
  obtain ⟨printed, announced⟩ := summary_printed_iff true
    (s := ⟨.completed, [], some (.ofText "Found 18446744073709551614 warnings and 1 error\r\n"),
      some (.ofText "  ! eslint(a): b\n  × eslint(c): d\nFound 1 warning"), 0⟩) _ _ rfl rfl rfl
  simp only [← IssueCount.wordMax_lt_sum_iff] at printed
  obtain ⟨text, shown⟩ := Option.ne_none_iff_exists'.mp fun missing => absurd (printed.mp missing) (by decide)
  exact ⟨text, shown, (announced text shown).trans (by decide)⟩

/-- Both numbers of the first footer fit into a word and so does the difference of the totals, but
the first total does not, and there is no summary. -/
theorem footer_beyond_limit :
    IssueCount.ofText "Found 18446744073709551615 warnings and 1 error\n" = ⟨wordMax, 1⟩ ∧
      IssueCount.ofText "Found 1 warning and 1 error\n" = ⟨1, 1⟩ ∧
      summaryText? false ⟨.completed, [],
        some (.ofText "Found 18446744073709551615 warnings and 1 error\n"),
        some (.ofText "Found 1 warning and 1 error\n"), 0⟩ = none := by
  decide

end Print

end LintRepair
