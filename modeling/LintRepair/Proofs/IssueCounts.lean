import LintRepair.Gate
import LintRepair.Proofs.Lines
import LintRepair.Proofs.Locations
import LintRepair.Proofs.TreeAccess
import LintRepair.Proofs.WhiteSpace

/-!
Counting the issues in what an analyzer prints on two streams.

* `header?_eq_some_iff` and `footer?_eq_some_iff`: what headers and footers look like;
* `filterMap_joinStreams`: what can be read from a line without its carriage return is
  read from the joined streams as it is from each of them;
* `ofLines_eq`: the count of lines, from their last footer or else from their headers;
* `streams_counted_apart`: the count of two streams, from what each of them shows.
-/

namespace LintRepair

variable {line s : List Char}

/-- What ends in another character stands before the carriage return of a line. -/
theorem before_return {w rest body : List Char} {c : Char} (last : w.getLast? = some c)
    (other : c ≠ '\r') (cut : body ++ ['\r'] = w ++ rest) : ∃ rest', body = w ++ rest' := by
  rcases List.eq_nil_or_concat rest with rfl | ⟨rest', d, rfl⟩
  · rw [List.append_nil] at cut
    rw [← cut, List.getLast?_concat] at last
    exact absurd (Option.some.inj last).symm other
  · rw [List.concat_eq_append, ← List.append_assoc] at cut
    exact ⟨rest', (List.append_inj' cut rfl).1⟩

theorem firstMatch_return {α : Type} {recognise : Option Char → List Char → Option α}
    (blind : ∀ previous s, recognise previous (s ++ ['\r']) = recognise previous s)
    (silent : ∀ previous, recognise previous [] = none) (previous : Option Char) (s : List Char) :
    firstMatch recognise previous (s ++ ['\r']) = firstMatch recognise previous s := by
  induction s generalizing previous with
  | nil =>
    have here : recognise previous ['\r'] = none := (blind previous []).trans (silent previous)
    rw [List.nil_append, firstMatch, firstMatch, firstMatch, here, silent, silent, Option.none_or]
  | cons c s ih => rw [List.cons_append, firstMatch, firstMatch, ih, ← List.cons_append, blind]

/-! ## Headers -/

/-- What a line begins with that opens a diagnostic of this severity. -/
def Severity.signs : Severity → List (List Char)
  | warning => ["! ".toList, "⚠".toList]
  | error => ["x ".toList, "×".toList]

/-- A line that has such a sign as the first thing on it. -/
def Opens (severity : Severity) (line : List Char) : Prop :=
  ∃ gap, Blank gap ∧ ∃ sign ∈ severity.signs, ∃ rest, line = gap ++ (sign ++ rest)

/-- A sign neither begins with white space nor ends in a carriage return. -/
theorem Severity.sign_edges {severity : Severity} {sign : List Char}
    (known : sign ∈ severity.signs) :
    (∃ c more, sign = c :: more ∧ isSpace c = false) ∧ ∃ c, sign.getLast? = some c ∧ c ≠ '\r' := by
  cases severity with
  | warning =>
    rcases List.mem_pair.mp known with rfl | rfl
    · exact ⟨⟨'!', [' '], rfl, by decide⟩, ' ', by decide, by decide⟩
    · exact ⟨⟨'⚠', [], rfl, by decide⟩, '⚠', by decide, by decide⟩
  | error =>
    rcases List.mem_pair.mp known with rfl | rfl
    · exact ⟨⟨'x', [' '], rfl, by decide⟩, ' ', by decide, by decide⟩
    · exact ⟨⟨'×', [], rfl, by decide⟩, '×', by decide, by decide⟩

theorem opens_iff {severity : Severity} : Opens severity line ↔
    ∃ sign ∈ severity.signs, ∃ rest, dropSpaces line = sign ++ rest := by
  constructor
  · rintro ⟨gap, blank, sign, known, rest, rfl⟩
    obtain ⟨⟨c, more, rfl, ink⟩, _⟩ := Severity.sign_edges known
    exact ⟨_, known, rest, blank.dropSpaces_ink ink⟩
  · rintro ⟨sign, known, rest, there⟩
    refine ⟨line.takeWhile isSpace, blank_takeWhile line, sign, known, rest, ?_⟩
    rw [← there, dropSpaces, List.takeWhile_append_dropWhile]

theorem header?_eq_some_iff {severity : Severity} :
    header? line = some severity ↔ Opens severity line := by
  rw [opens_iff, header?]
  generalize dropSpaces line = s
  constructor
  · intro h
    split at h <;> cases h
    · exact ⟨"! ".toList, by decide, _, rfl⟩
    · exact ⟨"⚠".toList, by decide, _, rfl⟩
    · exact ⟨"x ".toList, by decide, _, rfl⟩
    · exact ⟨"×".toList, by decide, _, rfl⟩
  · rintro ⟨sign, known, rest, rfl⟩
    cases severity <;> rcases List.mem_pair.mp known with rfl | rfl <;> rfl

/-- A carriage return at its end does not make a header of a line or keep it from being one. -/
theorem header?_return (body : List Char) : header? (body ++ ['\r']) = header? body := by
  apply Option.ext
  intro severity
  rw [header?_eq_some_iff, header?_eq_some_iff]
  constructor
  · rintro ⟨gap, blank, sign, known, rest, cut⟩
    obtain ⟨_, c, ends, other⟩ := Severity.sign_edges known
    have last : (gap ++ sign).getLast? = some c := by rw [List.getLast?_append, ends, Option.some_or]
    rw [← List.append_assoc] at cut
    obtain ⟨rest', rfl⟩ := before_return last other cut
    exact ⟨gap, blank, sign, known, rest', List.append_assoc _ _ _⟩
  · rintro ⟨gap, blank, sign, known, rest, rfl⟩
    exact ⟨gap, blank, sign, known, rest ++ ['\r'], by simp⟩

/-! ## Footers -/

namespace IssueCount

/-- The sentence in which an analyzer says how much it has found. -/
def sentence (warnings : List Char) (many : Bool) (errors : List Char) : List Char :=
  "Found ".toList ++ (warnings ++ (" warning".toList ++ ((if many then ['s'] else []) ++
    (" and ".toList ++ (errors ++ " error".toList)))))

theorem sentence_append (warnings : List Char) (many : Bool) (errors rest : List Char) :
    sentence warnings many errors ++ rest = "Found ".toList ++ (warnings ++ (" warning".toList ++
      ((if many then ['s'] else []) ++ (" and ".toList ++ (errors ++ (" error".toList ++ rest)))))) := by
  have opened : sentence warnings many errors = "Found ".toList ++ (warnings ++ (" warning".toList ++
      ((if many then ['s'] else []) ++ (" and ".toList ++ (errors ++ " error".toList))))) := rfl
  rw [opened]
  simp only [List.append_assoc]

/-- A text that starts with such a sentence about this count. -/
def FooterAt (c : IssueCount) (s : List Char) : Prop :=
  ∃ warnings many errors rest, IsNumber warnings ∧ IsNumber errors ∧
    s = sentence warnings many errors ++ rest ∧ c = ⟨footerNumber warnings, footerNumber errors⟩

theorem footerAt?_eq_some_iff {previous : Option Char} {c : IssueCount} :
    footerAt? previous s = some c ↔ FooterAt c s := by
  simp only [footerAt?, Option.bind_eq_bind, Option.bind_eq_some_iff, Option.guard_eq_some',
    after?_eq_some_iff, exists_const]
  constructor
  · rintro ⟨s, rfl, digits, t, there, u, further, digits', v, rest, same⟩
    have number {s : List Char} (some : (!(s.takeWhile isDecimal).isEmpty) = true) :
        IsNumber (s.takeWhile isDecimal) :=
      ⟨by simpa using some, List.all_eq_true.mp List.all_takeWhile⟩
    have cut : s = s.takeWhile isDecimal ++ (" warning".toList ++ t) := by
      rw [← there, List.takeWhile_append_dropWhile]
    have cut' : u = u.takeWhile isDecimal ++ (" error".toList ++ v) := by
      rw [← rest, List.takeWhile_append_dropWhile]
    obtain ⟨many, plural⟩ : ∃ many : Bool, t = (if many then ['s'] else []) ++ (" and ".toList ++ u) := by
      cases behind : after? ['s'] t with
      | none =>
        rw [behind] at further
        exact ⟨false, further⟩
      | some t' =>
        rw [behind] at further
        rw [after?_eq_some_iff] at behind
        exact ⟨true, by rw [behind, show t' = _ from further]; rfl⟩
    refine ⟨_, many, _, v, number digits, number digits', ?_, (Option.some.inj same).symm⟩
    rw [sentence_append, ← cut', ← plural, ← cut]
  · rintro ⟨warnings, many, errors, rest, hw, he, rfl, rfl⟩
    have space : isDecimal ' ' = false := by decide
    have digits {number : List Char} (h : IsNumber number) : (!number.isEmpty) = true := by
      simpa using h.1
    have taken (t : List Char) : (warnings ++ (" warning".toList ++ t)).takeWhile isDecimal =
        warnings := hw.takeWhile space _
    have left (t : List Char) : (warnings ++ (" warning".toList ++ t)).dropWhile isDecimal =
        " warning".toList ++ t := hw.dropWhile space _
    have taken' : (errors ++ (" error".toList ++ rest)).takeWhile isDecimal = errors :=
      he.takeWhile space _
    have left' : (errors ++ (" error".toList ++ rest)).dropWhile isDecimal =
        " error".toList ++ rest := he.dropWhile space _
    have plural (t : List Char) : (after? ['s'] ((if many then ['s'] else []) ++
        (" and ".toList ++ t))).getD ((if many then ['s'] else []) ++ (" and ".toList ++ t)) =
          " and ".toList ++ t := by
      cases many <;> rfl
    refine ⟨_, sentence_append warnings many errors rest, ?_⟩
    rw [taken, left]
    refine ⟨digits hw, _, rfl, _, plural _, ?_⟩
    rw [taken', left']
    exact ⟨digits he, rest, rfl, rfl⟩

/-- The first such sentence on a line is about this count. -/
def Shows (line : List Char) (c : IssueCount) : Prop :=
  ∃ before rest, line = before ++ rest ∧ FooterAt c rest ∧
    ∀ before' rest', line = before' ++ rest' → before'.length < before.length →
      ∀ c', ¬ FooterAt c' rest'

theorem footer?_eq_some_iff {c : IssueCount} : footer? line = some c ↔ Shows line c := by
  simp only [footer?, firstMatch_eq_some_iff, footerAt?_eq_some_iff, Shows,
    Option.eq_none_iff_forall_ne_some, ne_eq]

/-- A carriage return at its end is no part of the footer of a line. -/
theorem footer?_return (body : List Char) : footer? (body ++ ['\r']) = footer? body := by
  refine firstMatch_return (fun previous s => Option.ext fun c => ?_) (fun _ => rfl) none body
  rw [footerAt?_eq_some_iff, footerAt?_eq_some_iff]
  constructor
  · rintro ⟨warnings, many, errors, rest, hw, he, cut, rfl⟩
    have last : (sentence warnings many errors).getLast? = some 'r' := by
      have ends : " error".toList.getLast? = some 'r' := by decide
      rw [← List.append_nil (sentence warnings many errors), sentence_append]
      simp only [List.append_nil, List.getLast?_append, ends, Option.some_or]
    obtain ⟨rest', rfl⟩ := before_return last (by decide) cut
    exact ⟨warnings, many, errors, rest', hw, he, rfl, rfl⟩
  · rintro ⟨warnings, many, errors, rest, hw, he, rfl, rfl⟩
    exact ⟨warnings, many, errors, rest ++ ['\r'], hw, he, List.append_assoc _ _ _, rfl⟩

end IssueCount

/-! ## Two streams -/

/-- A text is made of whole lines and of what stands behind the last line feed. -/
theorem exists_whole_append (s : List Char) :
    ∃ whole last, s = whole ++ last ∧ WholeLines whole ∧ '\n' ∉ last := by
  induction s with
  | nil => exact ⟨[], [], rfl, by decide, by simp⟩
  | cons c s ih =>
    obtain ⟨whole, last, rfl, ended, unbroken⟩ := ih
    cases whole with
    | cons d whole => exact ⟨c :: d :: whole, last, rfl, by simpa [WholeLines] using ended, unbroken⟩
    | nil =>
      by_cases feed : c = '\n'
      · exact ⟨[c], last, rfl, by simpa [WholeLines] using feed, unbroken⟩
      · exact ⟨[], c :: last, rfl, by decide, by simp [Ne.symm feed, unbroken]⟩

section
variable {α : Type} {read : List Char → Option α}

theorem filterMap_lineFeed (blind : ∀ body, read (body ++ ['\r']) = read body) (s : List Char)
    (unended : ¬ WholeLines s) :
    (lineBodies (s ++ ['\n'])).filterMap read = (lineBodies s).filterMap read := by
  obtain ⟨whole, last, rfl, ended, unbroken⟩ := exists_whole_append s
  have ne : last ≠ [] := by
    rintro rfl
    exact unended (by simpa using ended)
  have plain : lineBodies last = [last] := by
    have body : (Line.ofRaw last).body = last := by
      have text := Line.ofRaw_text last
      rwa [Line.text, Line.ending_of_no_feed unbroken, LineEnding.text, List.append_nil] at text
    rw [lineBodies, rawLines_open unbroken ne, List.map_singleton, body]
  have fed : lineBodies (last ++ ['\n']) = [shown last] := by
    rw [lineBodies, rawLines_terminated unbroken]
    rfl
  have same : read (shown last) = read last := by
    by_cases ret : last.getLast? = some '\r'
    · obtain ⟨body, rfl⟩ := List.getLast?_eq_some_iff.mp ret
      rw [blind, shown, List.append_assoc, List.singleton_append, Line.ofRaw_returnFeed]
    · rw [shown_eq_self ret]
  rw [List.append_assoc, lineBodies_append ended, lineBodies_append ended, plain, fed,
    List.filterMap_append, List.filterMap_append, List.filterMap_cons, List.filterMap_cons, same]

/-- What is read from lines whatever carriage return is at their ends is read from two streams as
from each of them. -/
theorem filterMap_joinStreams (blind : ∀ body, read (body ++ ['\r']) = read body)
    (stderr stdout : String) :
    (lineBodies (joinStreams stderr stdout).toList).filterMap read =
      (lineBodies stderr.toList).filterMap read ++ (lineBodies stdout.toList).filterMap read := by
  have test : (stderr.isEmpty || stderr.toList.getLast? == some '\n') = true ↔
      WholeLines stderr.toList := by
    rw [Bool.or_eq_true, String.isEmpty_iff, ← String.toList_eq_nil_iff, beq_iff_eq, WholeLines]
    cases last : stderr.toList.getLast? with
    | none => simp [List.getLast?_eq_none_iff.mp last]
    | some c =>
      have ne : stderr.toList ≠ [] := by
        intro empty
        simp [empty] at last
      simp [ne]
  rw [joinStreams]
  split
  · rename_i empty
    obtain rfl : stdout = "" := by simpa using empty
    simp [lineBodies, rawLines]
  · rw [ite_congr (propext test) (fun _ => rfl) (fun _ => rfl)]
    split
    · rename_i whole
      rw [String.toList_append, lineBodies_append whole, List.filterMap_append]
    · rename_i unended
      have whole : WholeLines (stderr ++ "\n").toList := by simp [WholeLines]
      rw [String.toList_append, lineBodies_append whole, List.filterMap_append,
        String.toList_append]
      exact congrArg (· ++ _) (filterMap_lineFeed blind _ unended)

end

/-! ## Counts -/

namespace IssueCount

instance (severity : Severity) (line : List Char) : Decidable (Opens severity line) :=
  decidable_of_iff (header? line = some severity) header?_eq_some_iff

/-- How many of the lines open a diagnostic of this severity. -/
def headersIn (severity : Severity) (lines : List (List Char)) : Nat :=
  lines.countP fun line => Opens severity line

/-- No line has a footer. -/
def Footerless (lines : List (List Char)) : Prop := ∀ line ∈ lines, ∀ c, ¬ Shows line c

/-- The last line with a footer shows this count. -/
def LastShown (lines : List (List Char)) (c : IssueCount) : Prop :=
  ∃ before line behind, lines = before ++ line :: behind ∧ Shows line c ∧ Footerless behind

/-- What the lines of an error stream and of an output say together: the last footer of the output
counts, or else the last one of the error stream, or else all headers. -/
inductive Counted (stderr stdout : List (List Char)) : IssueCount → Prop
  | output {c : IssueCount} (last : LastShown stdout c) : Counted stderr stdout c
  | errors {c : IssueCount} (silent : Footerless stdout) (last : LastShown stderr c) :
      Counted stderr stdout c
  | headers (silent : Footerless stdout) (silent' : Footerless stderr) :
      Counted stderr stdout ⟨headersIn .warning stderr + headersIn .warning stdout,
        headersIn .error stderr + headersIn .error stdout⟩

theorem footers_eq_nil_iff {lines : List (List Char)} :
    lines.filterMap footer? = [] ↔ Footerless lines := by
  simp only [List.filterMap_eq_nil_iff, Footerless, Option.eq_none_iff_forall_ne_some, ne_eq,
    footer?_eq_some_iff]

theorem getLast?_footers_eq_some_iff {lines : List (List Char)} {c : IssueCount} :
    (lines.filterMap footer?).getLast? = some c ↔ LastShown lines c := by
  rw [List.getLast?_eq_some_iff]
  constructor
  · rintro ⟨sooner, cut⟩
    obtain ⟨before, rest, rfl, rfl, later⟩ := List.filterMap_eq_append_iff.mp cut
    obtain ⟨plain, line, behind, rfl, _, shown, silent⟩ := List.filterMap_eq_cons_iff.mp later
    exact ⟨before ++ plain, line, behind, by simp, footer?_eq_some_iff.mp shown,
      footers_eq_nil_iff.mp silent⟩
  · rintro ⟨before, line, behind, rfl, shown, silent⟩
    refine ⟨before.filterMap footer?, ?_⟩
    rw [List.filterMap_append, List.filterMap_cons_some (footer?_eq_some_iff.mpr shown),
      footers_eq_nil_iff.mpr silent]

theorem countP_header? (severity : Severity) (lines : List (List Char)) :
    lines.countP (header? · == some severity) = headersIn severity lines :=
  List.countP_congr fun line _ => by rw [beq_iff_eq, decide_eq_true_eq, header?_eq_some_iff]

theorem count_headers (severity : Severity) (lines : List (List Char)) :
    (lines.filterMap header?).count severity = headersIn severity lines := by
  rw [← countP_header?, List.count, List.countP_filterMap]
  refine List.countP_congr fun line _ => ?_
  cases header? line <;> simp

theorem ofLines_eq (lines : List (List Char)) :
    ofLines lines = ((lines.filterMap footer?).getLast?).getD
      ⟨headersIn .warning lines, headersIn .error lines⟩ := by
  have last : lines.reverse.findSome? footer? = (lines.filterMap footer?).getLast? := by
    rw [← List.head?_filterMap, List.filterMap_reverse, List.head?_reverse]
  rw [ofLines, last, ofHeaders, countP_header?, countP_header?]

theorem Counted.unique {stderr stdout : List (List Char)} {c c' : IssueCount}
    (h : Counted stderr stdout c) (h' : Counted stderr stdout c') : c = c' := by
  have apart {lines : List (List Char)} {c : IssueCount} (last : LastShown lines c)
      (silent : Footerless lines) : False := by
    rw [← getLast?_footers_eq_some_iff, footers_eq_nil_iff.mpr silent] at last
    cases last
  have same {lines : List (List Char)} {c c' : IssueCount} (last : LastShown lines c)
      (last' : LastShown lines c') : c = c' := by
    rw [← getLast?_footers_eq_some_iff] at last last'
    exact Option.some.inj (last.symm.trans last')
  cases h with
  | output last =>
    cases h' with
    | output last' => exact same last last'
    | errors silent' | headers silent' => exact (apart last silent').elim
  | errors silent last =>
    cases h' with
    | output last' => exact (apart last' silent).elim
    | errors _ last' => exact same last last'
    | headers _ silent' => exact (apart last silent').elim
  | headers silent silent' =>
    cases h' with
    | output last => exact (apart last silent).elim
    | errors _ last => exact (apart last silent').elim
    | headers => rfl

theorem counted_joinStreams (stderr stdout : String) :
    Counted (lineBodies stderr.toList) (lineBodies stdout.toList)
      (ofText (joinStreams stderr stdout)) := by
  have both (severity : Severity) : headersIn severity (lineBodies (joinStreams stderr stdout).toList) =
      headersIn severity (lineBodies stderr.toList) + headersIn severity (lineBodies stdout.toList) := by
    simp only [← count_headers, filterMap_joinStreams header?_return, List.count_append]
  rw [ofText, ofLines_eq, filterMap_joinStreams footer?_return, List.getLast?_append, both, both]
  cases output : ((lineBodies stdout.toList).filterMap footer?).getLast? with
  | some c => exact .output (getLast?_footers_eq_some_iff.mp output)
  | none =>
    have silent := footers_eq_nil_iff.mp (List.getLast?_eq_none_iff.mp output)
    cases errors : ((lineBodies stderr.toList).filterMap footer?).getLast? with
    | some c => exact .errors silent (getLast?_footers_eq_some_iff.mp errors)
    | none => exact .headers silent (footers_eq_nil_iff.mp (List.getLast?_eq_none_iff.mp errors))

/-- An analyzer whose command was not broken off gives the text of both its streams. The issues in it
are counted by the last footer of the output, or else by the last one of the error stream, or else by
the headers of both, and the headers and footers in it are those of the one stream and then those of
the other. -/
theorem streams_counted_apart (stderr stdout : String) :
    (∀ (l : Linter) (tree after : Node) (success : Bool),
      runCommand tree l.directory l.timeout l.command =
          (.ok ⟨success, stdout, stderr, false⟩, after) →
        l.run tree = (.ok (joinStreams stderr stdout), after)) ∧
      (∀ c, ofText (joinStreams stderr stdout) = c ↔
        Counted (lineBodies stderr.toList) (lineBodies stdout.toList) c) ∧
      (lineBodies (joinStreams stderr stdout).toList).filterMap header? =
        (lineBodies stderr.toList).filterMap header? ++
          (lineBodies stdout.toList).filterMap header? ∧
      (lineBodies (joinStreams stderr stdout).toList).filterMap footer? =
        (lineBodies stderr.toList).filterMap footer? ++
          (lineBodies stdout.toList).filterMap footer? := by
  refine ⟨fun l tree after success ran => ?_, fun c => ⟨?_, ?_⟩,
    filterMap_joinStreams header?_return stderr stdout,
    filterMap_joinStreams footer?_return stderr stdout⟩
  · simp [Linter.run, ran]
  · rintro rfl
    exact counted_joinStreams stderr stdout
  · exact (counted_joinStreams stderr stdout).unique

set_option maxRecDepth 100000 in
/-- A command that prints on both streams: an error without a line feed on the one, and a warning on
the other. -/
theorem streams_counted_apart_printed :
    let l : Linter := ⟨"printf 'x a' >&2; echo '! b'", ⟨"/p"⟩, 1000⟩
    let tree : Node := .dir [("p", .dir [])]
    ∃ after, runCommand tree l.directory l.timeout l.command =
        (.ok ⟨true, "! b\n", "x a", false⟩, after) ∧
      l.run tree = (.ok "x a\n! b\n", after) ∧ ofText "x a\n! b\n" = ⟨1, 1⟩ ∧
      Counted (lineBodies "x a".toList) (lineBodies "! b\n".toList) ⟨1, 1⟩ := by
  intro l tree
  obtain ⟨given, counted, _, _⟩ := streams_counted_apart "x a" "! b\n"
  have joined : joinStreams "x a" "! b\n" = "x a\n! b\n" := by decide
  have free : tree.LinkFree := by
    refine .dir ?_
    simp [Node.LinkFree.dir]
  have place : startPlace tree l.directory l.command = .ok ["p"] := by
    have there : tree.at? ["p"] = some (.dir []) := rfl
    have located : tree.locate [] l.directory = .ok ["p"] :=
      free.locate_of_at? (by decide) (by decide) there
    have clean : l.command.toList.contains '\x00' = false := by decide
    simp only [startPlace, clean, located]
    rfl
  have printed : CommandOutput.ofResult l.timeout
      (Shell.run tree ["p"] l.timeout (.ofString l.command)) = ⟨true, "! b\n", "x a", false⟩ := by
    decide +kernel
  have ran : runCommand tree l.directory l.timeout l.command =
      (.ok ⟨true, "! b\n", "x a", false⟩,
        (Shell.run tree ["p"] l.timeout (.ofString l.command)).tree) := by
    rw [runCommand, place, ← printed]
  rw [joined] at given counted
  have count : ofText "x a\n! b\n" = ⟨1, 1⟩ := by decide
  exact ⟨_, ran, given l tree _ true ran, count, (counted _).mp count⟩

/-- A footer that would stand on both streams is none. -/
example : ofText (joinStreams "Found 1 warning" " and 2 errors") = ⟨0, 0⟩ := by decide

end IssueCount

end LintRepair
