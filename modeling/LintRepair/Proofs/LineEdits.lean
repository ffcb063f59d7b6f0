import LintRepair.Proofs.Lines

/-!
What an edit of one line promises, said without the functions that cut and join
lines.

* `linesOf_iff`: a text is cut into lines in one way only;
* `parts_iff`: so is a line into its body and what ends it.
-/

namespace LintRepair

/-- The lines of a text: they make it up, and each but the last ends at its only line feed. -/
def LinesOf (text : List Char) (lines : List (List Char)) : Prop :=
  lines.flatten = text ∧ IsCut lines

theorem linesOf_iff {text : List Char} {lines : List (List Char)} :
    LinesOf text lines ↔ lines = rawLines text := by
  constructor
  · rintro ⟨rfl, cut⟩
    exact (rawLines_of_isCut cut).symm
  · rintro rfl
    exact ⟨rawLines_flatten text, rawLines_isCut text⟩

namespace Line

/-- A raw line and its parts. A carriage return before the line feed that ends the line goes with it,
but only one. -/
inductive Parts : List Char → Line → Prop
  | returnFeed (body : List Char) : Parts (body ++ ['\r', '\n']) ⟨body, .returnFeed⟩
  | lineFeed (body : List Char) (single : body.getLast? ≠ some '\r') :
      Parts (body ++ ['\n']) ⟨body, .lineFeed⟩
  | missing (body : List Char) (unended : body.getLast? ≠ some '\n') :
      Parts body ⟨body, .missing⟩

theorem parts_ofRaw (raw : List Char) : Parts raw (ofRaw raw) := by
  by_cases unended : raw.getLast? = some '\n'
  · obtain ⟨rest, rfl⟩ := List.getLast?_eq_some_iff.mp unended
    by_cases single : rest.getLast? = some '\r'
    · obtain ⟨body, rfl⟩ := List.getLast?_eq_some_iff.mp single
      rw [List.append_assoc, List.singleton_append, ofRaw_returnFeed]
      exact .returnFeed body
    · rw [ofRaw_lineFeed single]
      exact .lineFeed rest single
  · rw [ofRaw_missing unended]
    exact .missing raw unended

theorem parts_iff {raw : List Char} {line : Line} : Parts raw line ↔ line = ofRaw raw := by
  constructor
  · intro parts
    cases parts with
    | returnFeed body => exact (ofRaw_returnFeed body).symm
    | lineFeed body single => exact (ofRaw_lineFeed single).symm
    | missing body unended => exact (ofRaw_missing unended).symm
  · rintro rfl
    exact parts_ofRaw raw

end Line

/-! ## Editing -/

/-- What an edit needs: the line is there, and its body is changed to one without a line break. -/
structure EditsTo (edit : String → Option String) (lines : List (List Char)) (number : Nat)
    (line : Line) (body : String) : Prop where
  first : 1 ≤ number
  last : number ≤ lines.length
  found : ∃ raw, lines[number - 1]? = some raw ∧ Line.Parts raw line
  edited : edit (.ofList line.body) = some body
  feedless : '\n' ∉ body.toList
  returnless : '\r' ∉ body.toList

theorem editsTo_iff {edit : String → Option String} {lines : List (List Char)} {number : Nat}
    {line : Line} {body : String} :
    EditsTo edit lines number line body ↔
      ∃ index raw, number = index + 1 ∧ lines[index]? = some raw ∧ line = .ofRaw raw ∧
        edit (.ofList (Line.ofRaw raw).body) = some body ∧ Unbroken body.toList := by
  constructor
  · rintro ⟨first, -, ⟨raw, there, parts⟩, edited, feedless, returnless⟩
    obtain rfl := Line.parts_iff.mp parts
    exact ⟨number - 1, raw, by omega, there, rfl, edited, feedless, returnless⟩
  · rintro ⟨index, raw, rfl, there, rfl, edited, feedless, returnless⟩
    have bound := (List.getElem?_eq_some_iff.mp there).1
    exact ⟨by omega, bound, ⟨raw, there, Line.parts_ofRaw raw⟩, edited, feedless, returnless⟩

theorem rebody_eq_nil_iff {raw body : List Char} :
    rebody raw body = [] ↔ body = [] ∧ (Line.ofRaw raw).ending = .missing := by
  rw [rebody, List.append_eq_nil_iff]
  cases (Line.ofRaw raw).ending <;> simp [LineEnding.text]

/-- The lines with another body in one of them are cut as before just if something of that line is
left. -/
theorem IsCut.rebody_iff {lines : List (List Char)} (cut : IsCut lines) {index : Nat}
    {raw body : List Char} (there : lines[index]? = some raw) (fits : Unbroken body) :
    IsCut (lines.set index (LintRepair.rebody raw body)) ↔ LintRepair.rebody raw body ≠ [] := by
  have bound := (List.getElem?_eq_some_iff.mp there).1
  constructor
  · intro again empty
    refine again.ne_nil ?_
    rw [empty]
    exact List.mem_set bound []
  · exact cut.rebody there fits

/-- An edit answers just if the line is there and its body is changed to one without a line break.
The answer holds all other lines as they were, and the line with its new body and its old ending.
Cut again, it has these lines, unless nothing of the line is left. -/
theorem one_line_edited {content : String} {lines : List (List Char)}
    (cut : LinesOf content.toList lines) (edit : String → Option String) (number : Nat) :
    (∀ updated, editLineOf? edit number content = some updated ↔
      ∃ line body, EditsTo edit lines number line body ∧
        updated.toList = (lines.set (number - 1) (body.toList ++ line.ending.text)).flatten) ∧
    ∀ updated line body, editLineOf? edit number content = some updated →
      EditsTo edit lines number line body →
      (LinesOf updated.toList (lines.set (number - 1) (body.toList ++ line.ending.text)) ↔
        ¬ (body = "" ∧ line.ending = .missing)) ∧
      (¬ (body = "" ∧ line.ending = .missing) →
        (lineBodies updated.toList)[number - 1]? = some body.toList ∧
        ∀ i, i ≠ number - 1 → (rawLines updated.toList)[i]? = lines[i]?) := by
  obtain rfl := linesOf_iff.mp cut
  constructor
  · intro updated
    rw [editLineOf?_eq_some_iff]
    constructor
    · rintro ⟨index, raw, body, rfl, there, edited, fits, rfl⟩
      exact ⟨.ofRaw raw, body, editsTo_iff.mpr ⟨index, raw, rfl, there, rfl, edited, fits⟩,
        String.toList_ofList⟩
    · rintro ⟨line, body, edits, text⟩
      obtain ⟨index, raw, rfl, there, rfl, edited, fits⟩ := editsTo_iff.mp edits
      refine ⟨index, raw, body, rfl, there, edited, fits, ?_⟩
      rw [← String.toList_inj, text, String.toList_ofList]
      rfl
  · intro updated line body answer edits
    obtain ⟨index, raw, rfl, there, rfl, edited, fits⟩ := editsTo_iff.mp edits
    have text : updated.toList =
        ((rawLines content.toList).set index (rebody raw body.toList)).flatten := by
      rw [editLineOf?_eq_some_iff.mpr ⟨index, raw, body, rfl, there, edited, fits, rfl⟩,
        Option.some.injEq] at answer
      rw [← answer, String.toList_ofList]
    have emptied : body = "" ∧ (Line.ofRaw raw).ending = .missing ↔
        rebody raw body.toList = [] := by
      rw [rebody_eq_nil_iff, String.toList_eq_nil_iff]
    have again : LinesOf updated.toList
        ((rawLines content.toList).set index (rebody raw body.toList)) ↔
          rebody raw body.toList ≠ [] :=
      (and_iff_right text.symm).trans (cut.2.rebody_iff there fits)
    refine ⟨again.trans (not_congr emptied.symm), fun remains => ?_⟩
    have bound := (List.getElem?_eq_some_iff.mp there).1
    rw [lineBodies, ← linesOf_iff.mp (again.mpr fun gone => remains (emptied.mpr gone))]
    refine ⟨?_, fun i other => List.getElem?_set_ne (Ne.symm other)⟩
    rw [List.getElem?_map, Nat.add_sub_cancel, List.getElem?_set_self bound, Option.map_some,
      ofRaw_rebody fits]

/-- Of two carriage returns the first belongs to the body, and one without a line feed ends
nothing. -/
theorem one_line_edited_returns :
    LinesOf "a\r\r\nb\nc\r".toList ["a\r\r\n".toList, "b\n".toList, "c\r".toList] ∧
    editLineOf? (fun _ => some "") 1 "a\r\r\nb\nc\r" = some "\r\nb\nc\r" ∧
    LinesOf "\r\nb\nc\r".toList ["\r\n".toList, "b\n".toList, "c\r".toList] := by
  have cut : LinesOf "a\r\r\nb\nc\r".toList
      ["a\r\r\n".toList, "b\n".toList, "c\r".toList] := linesOf_iff.mpr (by decide)
  have edits : EditsTo (fun _ => some "") ["a\r\r\n".toList, "b\n".toList, "c\r".toList] 1
      ⟨"a\r".toList, .returnFeed⟩ "" :=
    editsTo_iff.mpr ⟨0, "a\r\r\n".toList, rfl, rfl, by decide, rfl, by decide⟩
  obtain ⟨answers, again⟩ := one_line_edited cut (fun _ => some "") 1
  have answer := (answers "\r\nb\nc\r").mpr ⟨_, _, edits, by decide⟩
  exact ⟨cut, answer, (again _ _ _ answer edits).1.mpr (by decide)⟩

end LintRepair
