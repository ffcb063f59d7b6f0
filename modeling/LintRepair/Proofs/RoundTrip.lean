import LintRepair.Proofs.Independence
import LintRepair.Proofs.Locations
import LintRepair.Proofs.Messages

/-!
Reading gives back what was printed. The analyzer prints a finding as a header,
some lines of its own and a marker. The findings that are read from a text of
such diagnostics are the printed ones, in their order.
-/

namespace LintRepair

/-- A finding as the analyzer prints it. -/
structure Printed where
  kind : Kind
  captured : String
  file : Path
  line : Nat
  column : Nat
  /-- The lines between the header and the marker. -/
  filler : List String
  /-- Is the corner of the marker a rounded one? -/
  rounded : Bool

namespace Printed

def finding (d : Printed) : Finding := ⟨d.kind, d.file, d.line, d.column, some d.captured⟩

def header (d : Printed) : String := "  ! " ++ d.kind.sentence d.captured ++ "."

def corner (d : Printed) : String := if d.rounded then "╭─[" else ",-["

def marker (d : Printed) : String :=
  "   " ++ d.corner ++ d.file.text ++ ":" ++ toString d.line ++ ":" ++ toString d.column ++ "]"

def text (d : Printed) : String := textOfLines (d.header :: (d.filler ++ [d.marker]))

/-- The name and the path can be told from what surrounds them, the numbers fit into words, and the
lines of its own do not look like other parts of a diagnostic. -/
structure Legible (d : Printed) : Prop where
  named : d.captured.toList ≠ []
  unquoted : '\'' ∉ d.captured.toList
  unbroken : '\n' ∉ d.captured.toList
  file_ne_nil : d.file.text.toList ≠ []
  file_unbroken : '\n' ∉ d.file.text.toList
  file_first : ∀ c ∈ d.file.text.toList.head?, isSpace c = false
  file_last : ∀ c ∈ d.file.text.toList.getLast?, isSpace c = false
  line_pos : 1 ≤ d.line
  line_le : d.line ≤ wordMax
  column_le : d.column ≤ wordMax
  filler_few : d.filler.length ≤ 4
  filler_unbroken : ∀ line ∈ d.filler, '\n' ∉ line.toList
  filler_opens : ∀ line ∈ d.filler, opensDiagnostic line.toList = false
  filler_marker : ∀ line ∈ d.filler, Location.hasMarker line.toList = false
  marker_silent : message? d.marker.toList = none

theorem toList_header (d : Printed) : d.header.toList = d.kind.headerLine d.captured.toList := by
  rw [header, String.toList_append, String.toList_append, Kind.toList_sentence]
  simp [Kind.headerLine]

theorem toList_marker (d : Printed) :
    d.marker.toList = Location.markerLine d.corner.toList d.file.text.toList
      (Nat.toDigits 10 d.line) (Nat.toDigits 10 d.column) := by
  simp [marker, Location.markerLine]

theorem corner_known (d : Printed) : d.corner.toList ∈ Location.openings := by
  rw [corner]
  split <;> decide

theorem shown_header (d : Printed) :
    shown d.header.toList = d.kind.headerLine d.captured.toList := by
  rw [toList_header]
  apply shown_eq_self
  simp only [Kind.headerLine, List.getLast?_append, List.getLast?_singleton, Option.some_or]
  decide

theorem shown_marker (d : Printed) : shown d.marker.toList = d.marker.toList := by
  apply shown_eq_self
  simp only [toList_marker, Location.markerLine, List.getLast?_append, List.getLast?_cons,
    Option.some_or, Option.getD_some]
  decide

/-- The lines between the header and the marker as they are read. -/
def body (d : Printed) : List (List Char) := d.filler.map fun line => shown line.toList

section
variable {d : Printed} (legible : d.Legible)
include legible

theorem Legible.lines_unbroken :
    ∀ line ∈ d.header :: (d.filler ++ [d.marker]), '\n' ∉ line.toList := by
  have digits (n : Nat) : '\n' ∉ Nat.toDigits 10 n := fun feed =>
    absurd (Nat.isDigit_of_mem_toDigits (by decide) (by decide) feed) (by decide)
  have header : '\n' ∉ d.header.toList := by
    have pieces (k : Kind) : '\n' ∉ k.lead ∧ '\n' ∉ k.tail := by cases k <;> decide
    simp [toList_header, Kind.headerLine, pieces d.kind, legible.unbroken]
  have marker : '\n' ∉ d.marker.toList := by
    have corner : '\n' ∉ d.corner.toList := by
      rw [Printed.corner]
      split <;> decide
    simp [toList_marker, Location.markerLine, corner, legible.file_unbroken, digits]
  intro line hl
  rw [List.mem_cons, List.mem_append, List.mem_singleton] at hl
  rcases hl with rfl | hl | rfl
  · exact header
  · exact legible.filler_unbroken line hl
  · exact marker

theorem Legible.lineBodies : lineBodies d.text.toList =
    d.kind.headerLine d.captured.toList :: (d.body ++ [d.marker.toList]) := by
  rw [text, lineBodies_textOfLines legible.lines_unbroken]
  simp [shown_header, shown_marker, body]

theorem Legible.isDiagnostic : IsDiagnostic d.text := by
  refine ⟨wholeLines_textOfLines _, ?_⟩
  rw [legible.lineBodies]
  rintro line ⟨⟩
  exact opensDiagnostic_headerLine _ _

/-- What a line does not look like, it does not look like without its end either. -/
theorem Legible.body_silent :
    ∀ line ∈ d.body, opensDiagnostic line = false ∧ Location.hasMarker line = false := by
  rw [body, List.forall_mem_map]
  intro line hl
  obtain ⟨rest, whole⟩ := eq_shown_append line.toList
  have opens := legible.filler_opens line hl
  have marked := legible.filler_marker line hl
  rw [whole] at opens marked
  constructor
  · by_contra h
    rw [opensDiagnostic_append rest (by simpa using h)] at opens
    cases opens
  · by_contra h
    rw [Location.hasMarker_append rest (by simpa using h)] at marked
    cases marked

theorem Legible.marker_location :
    Location.ofLine? d.marker.toList = some ⟨d.file, d.line, d.column⟩ := by
  have trimmed := trim_eq_self legible.file_first legible.file_last
  have positive : d.line ≠ 0 := Nat.pos_iff_ne_zero.mp legible.line_pos
  rw [toList_marker, Location.ofLine?_marker d.corner_known legible.file_ne_nil trimmed positive
    legible.line_le legible.column_le]
  simp

theorem Legible.marker_opens : opensDiagnostic d.marker.toList = false := by
  have header : header? d.marker.toList = none := by
    rw [toList_marker, corner]
    split <;> rfl
  simp [opensDiagnostic, header, legible.marker_silent]

end

end Printed

/-! ## Reading a diagnostic -/

theorem message?_eq_none {line : List Char} (h : opensDiagnostic line = false) :
    message? line = none := by
  simp only [opensDiagnostic, Bool.or_eq_false_iff, Option.isSome_eq_false_iff,
    Option.isNone_iff_eq_none] at h
  exact h.2

theorem findingsIn_silent {lines : List (List Char)}
    (h : ∀ line ∈ lines, opensDiagnostic line = false) : findingsIn lines = [] := by
  induction lines with
  | nil => rfl
  | cons line lines ih =>
    rw [List.forall_mem_cons] at h
    simp [findingsIn, findingAt?, message?_eq_none h.1, ih h.2]

theorem confirmedLocation?_marker {lines : List (List Char)} {marker : List Char}
    (silent : ∀ line ∈ lines, opensDiagnostic line = false ∧ Location.hasMarker line = false)
    (opens : opensDiagnostic marker = false) (marked : Location.hasMarker marker = true) :
    confirmedLocation? (lines ++ [marker]) = Location.ofLine? marker := by
  induction lines with
  | nil => simp [confirmedLocation?, opens, marked]
  | cons line lines ih =>
    rw [List.forall_mem_cons] at silent
    simp [confirmedLocation?, silent.1, ih silent.2]

theorem Printed.Legible.readFindings {d : Printed} (legible : d.Legible) :
    readFindings d.text = [d.finding] := by
  have marked : Location.hasMarker d.marker.toList = true := by
    rw [toList_marker]
    exact Location.hasMarker_markerLine d.corner_known _ _ _
  have within : (d.body ++ [d.marker.toList]).take lookahead = d.body ++ [d.marker.toList] := by
    apply List.take_of_length_le
    have few := legible.filler_few
    simp only [body, List.length_append, List.length_map, List.length_singleton, lookahead]
    omega
  have located : confirmedLocation? (d.body ++ [d.marker.toList]) =
      some ⟨d.file, d.line, d.column⟩ := by
    rw [confirmedLocation?_marker legible.body_silent legible.marker_opens marked,
      legible.marker_location]
  have nothingElse : findingsIn (d.body ++ [d.marker.toList]) = [] := by
    apply findingsIn_silent
    rw [List.forall_mem_append]
    exact ⟨fun line hl => (legible.body_silent line hl).1, by simpa using legible.marker_opens⟩
  rw [LintRepair.readFindings, legible.lineBodies, findingsIn, nothingElse, findingAt?,
    message?_headerLine legible.named legible.unquoted, within, located]
  simp [Message.finding, Printed.finding]

/-- The findings that are read from a text of diagnostics are those that were printed into it. -/
theorem reads_back_what_is_printed (diagnostics : List Printed)
    (legible : ∀ d ∈ diagnostics, d.Legible) :
    readFindings (String.join (diagnostics.map Printed.text)) =
      diagnostics.map Printed.finding := by
  have each : ∀ text ∈ diagnostics.map Printed.text, IsDiagnostic text := by
    rw [List.forall_mem_map]
    exact fun d hd => (legible d hd).isDiagnostic
  have ended : Opened (lineBodies "".toList) := by decide
  have apart := readFindings_join each ended
  have alone : ∀ d ∈ diagnostics, readFindings d.text = [d.finding] := fun d hd =>
    (legible d hd).readFindings
  calc readFindings (String.join (diagnostics.map Printed.text))
      = (diagnostics.map Printed.text).flatMap readFindings ++ readFindings "" := by
        simpa using apart
    _ = diagnostics.flatMap fun d => readFindings d.text := by
      simp [List.flatMap_map, show readFindings "" = [] from rfl]
    _ = diagnostics.flatMap fun d => [d.finding] := List.flatMap_congr alone
    _ = diagnostics.map Printed.finding := List.map_eq_flatMap.symm

/-- A path that looks like a marker itself, with as many lines before its marker as there may be,
and the greatest numbers there are. -/
theorem reads_back_what_is_printed_deceptive :
    let first : Printed := ⟨.unusedVariable, "Parameter ", ⟨"a ,-[b:1:2]:3"⟩, wordMax, 0,
      [" 1 | x\r", "", "  help", "'"], false⟩
    let second : Printed := ⟨.unusedCatchBinding, "e\re", ⟨"C:\\x.ts"⟩, 1, wordMax, [], true⟩
    (∀ d ∈ [first, second], d.Legible) ∧
      readFindings (first.text ++ (second.text ++ "")) = [first.finding, second.finding] := by
  intro first second
  have plain {end? : Option Char} (c : Char) (there : end? = some c) (ink : isSpace c = false) :
      ∀ d ∈ end?, isSpace d = false := by
    rintro d rfl
    cases there
    exact ink
  have legible : ∀ d ∈ [first, second], d.Legible := by
    rw [List.forall_mem_cons, List.forall_mem_singleton]
    constructor
    · constructor
      case marker_silent => exact message?_of_unquoted (by decide)
      case file_first => exact plain 'a' (by decide) (by decide)
      case file_last => exact plain '3' (by decide) (by decide)
      all_goals decide
    · constructor
      case marker_silent => exact message?_of_unquoted (by decide)
      case file_first => exact plain 'C' (by decide) (by decide)
      case file_last => exact plain 's' (by decide) (by decide)
      all_goals decide
  have read := reads_back_what_is_printed [first, second] legible
  simp only [List.map_cons, List.map_nil, String.join_cons, String.join_nil] at read
  exact ⟨legible, read⟩

end LintRepair
