import LintRepair.Proofs.LineRemoval
import LintRepair.Proofs.PatternMatches
import LintRepair.Proofs.WhiteSpace

/-!
The lines that the default patterns match.

* `readPatterns_default`: both patterns can be read, as the two below;
* `matchesBlocks_toolCall`: the first one matches a line that calls a tool;
* `matchesBlocks_stateBlock`: the second one matches the lines from an empty declaration of the
  state to the call that would have been its value.
-/

namespace LintRepair

/-! ## Lines and their line feeds -/

section
variable {w v : List Char}

theorem terminated_append (clean : '\n' ∉ w) (h : Terminated v) : Terminated (w ++ v) := by
  obtain ⟨body, hb, rfl⟩ := h
  exact ⟨w ++ body, by simp [clean, hb], (List.append_assoc _ _ _).symm⟩

theorem Terminated.of_append (h : Terminated (w ++ v)) (ne : v ≠ []) : Terminated v := by
  obtain ⟨body, clean, same⟩ := h
  obtain ⟨v, c, rfl⟩ := (List.eq_nil_or_concat v).resolve_left ne
  rw [List.concat_eq_append, ← List.append_assoc] at same
  obtain ⟨rfl, last⟩ := List.append_inj' same rfl
  exact ⟨v, fun feed => clean (List.mem_append_right w feed), by rw [List.concat_eq_append, last]⟩

theorem Terminated.behind_word {word : List Char} (h : Terminated (w ++ (word ++ v)))
    (clean : '\n' ∉ word) (ne : word ≠ []) : Terminated v := by
  have whole := h.of_append (by simp [ne])
  refine whole.of_append ?_
  rintro rfl
  obtain ⟨body, _, same⟩ := whole
  rw [List.append_nil] at same
  simp [same] at clean

/-- White space is a number of blank lines and the beginning of another line. -/
theorem Blank.exists_lines {gap : List Char} (h : Blank gap) :
    ∃ (lines : List (List Char)) (indent : List Char), gap = lines.flatten ++ indent ∧
      (∀ line ∈ lines, Terminated line ∧ Blank line) ∧ Blank indent ∧ '\n' ∉ indent := by
  induction gap with
  | nil => exact ⟨[], [], rfl, by simp, h, by simp⟩
  | cons c gap ih =>
    obtain ⟨first, later⟩ := List.forall_mem_cons.mp h
    obtain ⟨lines, indent, rfl, blanks, blank, clean⟩ := ih later
    by_cases feed : c = '\n'
    · subst feed
      refine ⟨['\n'] :: lines, indent, rfl, ?_, blank, clean⟩
      exact List.forall_mem_cons.mpr ⟨⟨⟨[], by simp, rfl⟩, by simpa [Blank] using first⟩, blanks⟩
    · cases lines with
      | nil =>
        refine ⟨[], c :: indent, rfl, by simp, List.forall_mem_cons.mpr ⟨first, blank⟩, ?_⟩
        simp [clean, Ne.symm feed]
      | cons line lines =>
        obtain ⟨⟨whole, blank'⟩, others⟩ := List.forall_mem_cons.mp blanks
        refine ⟨(c :: line) :: lines, indent, rfl, ?_, blank, clean⟩
        refine List.forall_mem_cons.mpr ⟨⟨?_, List.forall_mem_cons.mpr ⟨first, blank'⟩⟩, others⟩
        exact terminated_append (w := [c]) (by simpa using Ne.symm feed) whole

end

/-! ## Sets of characters -/

namespace CharSet

variable {c d : Char}

theorem mem_single : (single d).mem c = true ↔ c = d := by
  simp only [single, mem, Bool.and_eq_true, decide_eq_true_eq]
  exact ⟨fun h => Char.le_antisymm h.2 h.1, by rintro rfl; simp⟩

theorem mem_complement_single : (complement (single d)).mem c = true ↔ c ≠ d := by
  rw [mem, Bool.not_eq_true', ← Bool.not_eq_true, mem_single]

theorem mem_all : all.mem c = true := by
  have bound : c.toNat ≤ 0x10FFFF := by
    have valid : c.toNat < 0xD800 ∨ 0xDFFF < c.toNat ∧ c.toNat < 0x110000 := c.valid
    omega
  simp only [all, mem, Bool.and_eq_true, decide_eq_true_eq]
  exact ⟨UInt32.le_iff_toNat_le.mpr (Nat.zero_le _), UInt32.le_iff_toNat_le.mpr bound⟩

theorem mem_empty : empty.mem c = false := by
  rw [empty, mem, mem_all, Bool.not_true]

end CharSet

namespace Declaration

open Pattern (Matches)

/-! ## What the lines look like -/

def IsIndent (s : List Char) : Prop := ∀ c ∈ s, c = ' ' ∨ c = '\t'

def toolCall : List Char := "const start = await client.callTool".toList

def stateOpening : List Char := "const conversationState =".toList

def stateLoading : List Char := "await this.conversationManager".toList

/-- A line that keeps what a tool answers. -/
def CallsTool (line : List Char) : Prop :=
  Terminated line ∧ ∃ indent more, IsIndent indent ∧ line = indent ++ (toolCall ++ more)

/-- A line that declares the state and does not say what it is. -/
def OpensState (line : List Char) : Prop :=
  ∃ indent gap ending, IsIndent indent ∧ IsIndent gap ∧ ending ≠ LineEnding.missing ∧
    line = indent ++ (stateOpening ++ (gap ++ ending.text))

/-- A line that asks for the state. -/
def LoadsState (line : List Char) : Prop :=
  Terminated line ∧ ∃ gap more, Blank gap ∧ line = gap ++ (stateLoading ++ more)

/-- The declaration of the state up to the line that asks for it, with nothing but blank lines
between the two. -/
inductive StateBlock : List (List Char) → Prop
  | mk {first last : List Char} {gaps : List (List Char)} (opens : OpensState first)
      (blank : ∀ line ∈ gaps, Terminated line ∧ Blank line) (loads : LoadsState last) :
      StateBlock (first :: (gaps ++ [last]))

/-! ## The patterns -/

/-- A text, before what another pattern matches. -/
def literal : List Char → Pattern → Pattern
  | [], p => p
  | c :: text, p => .seq (.set (.single c)) (literal text p)

def indentation : Pattern :=
  .times (.set (.union (.union .empty (.single ' ')) (.single '\t'))) 0 none true

def carriageReturn : Pattern := .times (.set (.single '\r')) 0 (some 1) true

def restOfLine : Pattern :=
  .seq (.times (.set (.complement (.single '\n'))) 0 none true)
    (.seq carriageReturn (.set (.single '\n')))

def indented (p : Pattern) : Pattern := .seq (.look (.lineStart false)) (.seq indentation p)

def toolCallPattern : Pattern := indented (literal toolCall restOfLine)

def stateBlockPattern : Pattern :=
  indented (literal stateOpening (.seq indentation (.seq carriageReturn (.seq (.set (.single '\n'))
    (.seq (.times (.set .space) 0 none true) (literal stateLoading restOfLine))))))

set_option maxRecDepth 100000 in
theorem readPatterns_default :
    readPatterns defaultPatterns = [toolCallPattern, stateBlockPattern] := by
  decide +kernel

/-! ## What the patterns match -/

section
variable {p : Pattern} {previous : Option Char} {w rest : List Char}

theorem matches_literal_iff {text : List Char} : Matches (literal text p) previous w rest ↔
    ∃ v, w = text ++ v ∧ Matches p (lastOf previous text) v rest := by
  induction text generalizing previous w with
  | nil => simp [literal, lastOf]
  | cons c text ih =>
    simp only [literal, Pattern.matches_seq_iff, Pattern.matches_set_iff, CharSet.mem_single, ih,
      lastOf_cons]
    constructor
    · rintro ⟨_, _, rfl, ⟨_, rfl, rfl⟩, v, rfl, further⟩
      exact ⟨v, rfl, further⟩
    · rintro ⟨v, rfl, further⟩
      exact ⟨[c], text ++ v, rfl, ⟨c, rfl, rfl⟩, v, rfl, further⟩

theorem matches_indentation_iff : Matches indentation previous w rest ↔ IsIndent w := by
  simp [indentation, Pattern.matches_run_iff, CharSet.mem, CharSet.mem_single, CharSet.mem_empty,
    IsIndent]

theorem matches_carriageReturn_iff :
    Matches carriageReturn previous w rest ↔ w = [] ∨ w = ['\r'] := by
  simp only [carriageReturn, Pattern.matches_run_iff, CharSet.mem_single]
  constructor
  · rintro ⟨members, few⟩
    match w, few 1 rfl with
    | [], _ => exact .inl rfl
    | [c], _ => exact .inr (by rw [members c List.mem_cons_self])
  · rintro (rfl | rfl) <;> simp

theorem matches_feed_iff : Matches (.set (.single '\n')) previous w rest ↔ w = ['\n'] := by
  simp [Pattern.matches_set_iff, CharSet.mem_single]

theorem matches_restOfLine_iff : Matches restOfLine previous w rest ↔ Terminated w := by
  simp only [restOfLine, Pattern.matches_seq_iff, Pattern.matches_run_iff,
    matches_carriageReturn_iff, matches_feed_iff, CharSet.mem_complement_single]
  constructor
  · rintro ⟨body, _, rfl, ⟨members, _⟩, ending, _, rfl, short, rfl⟩
    refine terminated_append (fun feed => members _ feed rfl) ⟨ending, ?_, rfl⟩
    rcases short with rfl | rfl <;> decide
  · rintro ⟨body, clean, rfl⟩
    refine ⟨body, ['\n'], rfl, ⟨fun c hc => ne_of_mem_of_not_mem hc clean, by simp⟩, ?_⟩
    exact ⟨[], ['\n'], rfl, .inl rfl, rfl⟩

theorem holds_lineStart_iff {next : Option Char} :
    (Look.lineStart false).holds previous next = true ↔ AtLineStart previous := by
  cases previous <;> simp [Look.holds, AtLineStart]

theorem matches_indented_iff : Matches (indented p) previous w rest ↔
    AtLineStart previous ∧ ∃ indent v, IsIndent indent ∧ w = indent ++ v ∧
      Matches p (lastOf previous indent) v rest := by
  simp only [indented, Pattern.matches_seq_iff, Pattern.matches_look_iff, matches_indentation_iff,
    holds_lineStart_iff]
  constructor
  · rintro ⟨_, _, rfl, ⟨rfl, start⟩, indent, v, rfl, blank, further⟩
    exact ⟨start, indent, v, blank, rfl, further⟩
  · rintro ⟨start, indent, v, blank, rfl, further⟩
    exact ⟨[], indent ++ v, rfl, ⟨rfl, start⟩, indent, v, rfl, blank, further⟩

theorem IsIndent.no_feed (h : IsIndent w) : '\n' ∉ w := by
  intro feed
  rcases h _ feed with same | same <;> cases same

theorem IsIndent.blank (h : IsIndent w) : Blank w := by
  intro c hc
  rcases h c hc with rfl | rfl <;> decide

theorem matches_toolCallPattern_iff : Matches toolCallPattern previous w rest ↔
    AtLineStart previous ∧ CallsTool w := by
  have oneLine : '\n' ∉ toolCall := by decide
  simp only [toolCallPattern, matches_indented_iff, matches_literal_iff, matches_restOfLine_iff]
  refine and_congr_right fun _ => ?_
  constructor
  · rintro ⟨indent, _, blank, rfl, more, rfl, whole⟩
    have line := terminated_append blank.no_feed (terminated_append oneLine whole)
    exact ⟨line, indent, more, blank, rfl⟩
  · rintro ⟨whole, indent, more, blank, rfl⟩
    exact ⟨indent, _, blank, rfl, more, rfl, whole.behind_word oneLine (by decide)⟩

theorem ends_line_iff {s : List Char} :
    (∃ ending v, s = ending ++ v ∧ (ending = [] ∨ ending = ['\r']) ∧ v = ['\n']) ↔
      ∃ ending : LineEnding, ending ≠ .missing ∧ s = ending.text := by
  constructor
  · rintro ⟨_, _, rfl, rfl | rfl, rfl⟩
    · exact ⟨.lineFeed, by decide, rfl⟩
    · exact ⟨.returnFeed, by decide, rfl⟩
  · rintro ⟨ending, ended, rfl⟩
    cases ending with
    | missing => contradiction
    | lineFeed => exact ⟨[], _, rfl, .inl rfl, rfl⟩
    | returnFeed => exact ⟨['\r'], _, rfl, .inr rfl, rfl⟩

theorem matches_stateBlockPattern_iff : Matches stateBlockPattern previous w rest ↔
    AtLineStart previous ∧ ∃ run, StateBlock run ∧ w = run.flatten := by
  simp only [stateBlockPattern, matches_indented_iff, matches_literal_iff, matches_restOfLine_iff,
    Pattern.matches_seq_iff, matches_indentation_iff, matches_carriageReturn_iff, matches_feed_iff,
    Pattern.matches_run_iff]
  refine and_congr_right fun _ => ?_
  constructor
  · rintro ⟨indent, _, blank, rfl, _, rfl, gap, _, rfl, blank', ending, _, rfl, short, _, _, rfl,
      rfl, space, _, rfl, ⟨spaces, _⟩, more, rfl, whole⟩
    obtain ⟨ending', ended, text⟩ := ends_line_iff.mp ⟨ending, _, rfl, short, rfl⟩
    obtain ⟨gaps, indent', rfl, blanks, blank'', clean⟩ := Blank.exists_lines spaces
    have loads : LoadsState (indent' ++ (stateLoading ++ more)) :=
      ⟨terminated_append clean (terminated_append (by decide) whole), indent', more, blank'', rfl⟩
    refine ⟨_, .mk ⟨indent, gap, ending', blank, blank', ended, rfl⟩ blanks loads, ?_⟩
    simp [← text]
  · rintro ⟨_, ⟨⟨indent, gap, ending, blank, blank', ended, rfl⟩, blanks, loads⟩, rfl⟩
    rename_i gaps
    obtain ⟨whole, gap', more, blank'', rfl⟩ := loads
    obtain ⟨ret, feed, text, short, rfl⟩ := ends_line_iff.mpr ⟨ending, ended, rfl⟩
    have spaces : Blank (gaps.flatten ++ gap') := by
      intro c hc
      rcases List.mem_append.mp hc with within | behind
      · obtain ⟨line, among, member⟩ := List.mem_flatten.mp within
        exact (blanks line among).2 c member
      · exact blank'' c behind
    refine ⟨indent, _, blank, ?_, _, rfl, gap, _, rfl, blank', ret, _, rfl, short, ['\n'], _, rfl,
      rfl, gaps.flatten ++ gap', _, rfl, ⟨spaces, by simp⟩, more, rfl,
      whole.behind_word (by decide) (by decide)⟩
    simp [text]

end

/-! ## Blocks -/

section
variable {p : Pattern} {block : List (List Char) → Prop} {line : List Char}

theorem LineBlocks.matchesBlocks (h : LineBlocks block) (simple : p.isSimple = true)
    (matches_iff : ∀ {previous w rest}, Matches p previous w rest ↔
      AtLineStart previous ∧ ∃ run, block run ∧ w = run.flatten) : MatchesBlocks p block where
  toLineBlocks := h
  found_iff previous s n := by
    have unique : ∀ {w rest v more}, w ++ rest = v ++ more → Matches p previous w rest →
        Matches p previous v more → w = v := by
      intro w rest v more cut first second
      obtain ⟨_, run, here, rfl⟩ := matches_iff.mp first
      obtain ⟨_, run', here', rfl⟩ := matches_iff.mp second
      have lines := congrArg rawLines cut
      rw [rawLines_append_lines (h.terminated here), rawLines_append_lines (h.terminated here')]
        at lines
      rw [h.unique here here' lines]
    rw [Pattern.matchLength?_eq_some_iff simple unique]
    simp only [matches_iff]
    constructor
    · rintro ⟨_, rest, rfl, ⟨start, run, here, rfl⟩, rfl⟩
      exact ⟨start, run, rest, here, rfl, rfl⟩
    · rintro ⟨start, run, rest, here, rfl, rfl⟩
      exact ⟨_, rest, rfl, ⟨start, run, here, rfl⟩, rfl⟩

theorem matchesBlocks_toolCall :
    MatchesBlocks toolCallPattern fun run => ∃ line, run = [line] ∧ CallsTool line := by
  refine LineBlocks.matchesBlocks ⟨?_, ?_, ?_⟩ (by decide) ?_
  · rintro _ ⟨line, rfl, _⟩
    simp
  · rintro _ ⟨line, rfl, calls⟩
    simpa using calls.1
  · rintro _ _ rest rest' ⟨line, rfl, _⟩ ⟨line', rfl, _⟩ same
    rw [(List.cons.inj same).1]
  · intro previous w rest
    rw [matches_toolCallPattern_iff]
    refine and_congr_right fun _ => ⟨fun calls => ⟨_, ⟨w, rfl, calls⟩, by simp⟩, ?_⟩
    rintro ⟨_, ⟨line, rfl, calls⟩, rfl⟩
    simpa using calls

/-! ## Blocks of the state -/

theorem OpensState.terminated (h : OpensState line) : Terminated line := by
  obtain ⟨indent, gap, ending, blank, blank', ended, rfl⟩ := h
  have feed : Terminated ending.text := by
    cases ending with
    | missing => contradiction
    | lineFeed => exact ⟨[], by decide, rfl⟩
    | returnFeed => exact ⟨['\r'], by decide, rfl⟩
  exact terminated_append blank.no_feed
    (terminated_append (by decide) (terminated_append blank'.no_feed feed))

/-- The first character of a line that is no white space. -/
def firstInk (line : List Char) : Option Char := (dropSpaces line).head?

theorem firstInk_blank (h : Blank line) : firstInk line = none := by
  rw [firstInk, ← List.append_nil line, h.dropSpaces_append]
  rfl

theorem OpensState.firstInk (h : OpensState line) : firstInk line = some 'c' := by
  obtain ⟨indent, gap, ending, blank, _, _, rfl⟩ := h
  rw [Declaration.firstInk, blank.blank.dropSpaces_append]
  rfl

theorem LoadsState.firstInk (h : LoadsState line) : firstInk line = some 'a' := by
  obtain ⟨_, gap, more, blank, rfl⟩ := h
  rw [Declaration.firstInk, blank.dropSpaces_append]
  rfl

theorem OpensState.not_blank (h : OpensState line) : ¬ Blank line := by
  intro blank
  have := h.firstInk.symm.trans (firstInk_blank blank)
  cases this

theorem LoadsState.not_blank (h : LoadsState line) : ¬ Blank line := by
  intro blank
  have := h.firstInk.symm.trans (firstInk_blank blank)
  cases this

theorem OpensState.not_loads (h : OpensState line) : ¬ LoadsState line := by
  intro loads
  have := h.firstInk.symm.trans loads.firstInk
  revert this
  decide

theorem takeWhile_blank {gaps rest : List (List Char)} (blank : ∀ line ∈ gaps, Blank line)
    (ink : ¬ Blank line) :
    (gaps ++ line :: rest).takeWhile (fun line => decide (Blank line)) = gaps := by
  rw [List.takeWhile_append_of_pos (by simpa using blank), List.takeWhile_cons_of_neg (by simpa),
    List.append_nil]

/-- Behind blank lines there is one line that comes next. -/
theorem eq_of_blank {gaps gaps' rest rest' : List (List Char)} {line' : List Char}
    (blank : ∀ line ∈ gaps, Blank line) (blank' : ∀ line ∈ gaps', Blank line)
    (ink : ¬ Blank line) (ink' : ¬ Blank line')
    (same : gaps ++ line :: rest = gaps' ++ line' :: rest') : gaps = gaps' ∧ line = line' := by
  have between := congrArg (List.takeWhile fun line => decide (Blank line)) same
  rw [takeWhile_blank blank ink, takeWhile_blank blank' ink'] at between
  subst between
  exact ⟨rfl, (List.cons.inj (List.append_cancel_left same)).1⟩

theorem lineBlocks_stateBlock : LineBlocks StateBlock where
  ne_nil := by
    rintro _ ⟨_, _, _⟩
    simp
  terminated := by
    rintro _ ⟨opens, blank, loads⟩ line member
    rcases List.mem_cons.mp member with rfl | member
    · exact opens.terminated
    · rcases List.mem_append.mp member with between | last
      · exact (blank line between).1
      · exact List.mem_singleton.mp last ▸ loads.1
  unique := by
    rintro _ _ rest rest' ⟨_, blank, loads⟩ ⟨_, blank', loads'⟩ same
    simp only [List.cons_append, List.append_assoc, List.nil_append] at same
    obtain ⟨rfl, behind⟩ := List.cons.inj same
    obtain ⟨rfl, rfl⟩ := eq_of_blank (fun line h => (blank line h).2)
      (fun line h => (blank' line h).2) loads.not_blank loads'.not_blank behind
    rfl

theorem matchesBlocks_stateBlock : MatchesBlocks stateBlockPattern StateBlock :=
  lineBlocks_stateBlock.matchesBlocks (by decide) matches_stateBlockPattern_iff

end

end Declaration

end LintRepair
