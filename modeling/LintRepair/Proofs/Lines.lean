import LintRepair.Edit.Line

/-!
Cutting a text into lines and editing one of them.

* `rawLines_flatten` and `rawLines_of_isCut`: cutting a text is the inverse of
  joining lines, on exactly those lists that `IsCut` describes;
* `lineBodies_append`: behind whole lines the lines of a text go on as they are;
* `lineBodies_textOfLines`: the lines of a text that was written line by line;
* `editLine?_eq_some_iff`, `editLineOf?_eq_some_iff`: what an edit of one line
  answers, and when;
* `rawLines_editLine`: cut again, the edited text has the same lines but one.
-/

namespace LintRepair

/-! ## Raw lines -/

/-- A raw line with its line feed, the only one in it. -/
def Terminated (raw : List Char) : Prop := ∃ body, '\n' ∉ body ∧ raw = body ++ ['\n']

/-- Raw lines one after the other. The last of them can do without its line feed but is not
empty. -/
def IsCut : List (List Char) → Prop
  | [] => True
  | raw :: lines => (Terminated raw ∨ lines = [] ∧ raw ≠ [] ∧ '\n' ∉ raw) ∧ IsCut lines

theorem rawLines_flatten (s : List Char) : (rawLines s).flatten = s := by
  fun_induction rawLines s with
  | case1 => rfl
  | case2 s ih => simp [ih]
  | case3 c s _ cut ih =>
    rw [cut] at ih
    simp [← ih]
  | case4 c s _ line lines cut ih =>
    rw [cut] at ih
    simp [← ih]

theorem rawLines_terminated {body : List Char} (h : '\n' ∉ body) (rest : List Char) :
    rawLines (body ++ '\n' :: rest) = (body ++ ['\n']) :: rawLines rest := by
  induction body with
  | nil => simp [rawLines]
  | cons c body ih =>
    simp only [List.mem_cons, not_or] at h
    rw [List.cons_append, rawLines, if_neg (Ne.symm h.1), ih h.2]
    rfl

theorem rawLines_open {body : List Char} (h : '\n' ∉ body) (ne : body ≠ []) :
    rawLines body = [body] := by
  induction body with
  | nil => contradiction
  | cons c body ih =>
    simp only [List.mem_cons, not_or] at h
    rw [rawLines, if_neg (Ne.symm h.1)]
    cases body with
    | nil => rfl
    | cons d body => rw [ih h.2 (by simp)]

theorem rawLines_isCut (s : List Char) : IsCut (rawLines s) := by
  fun_induction rawLines s with
  | case1 => trivial
  | case2 s ih => exact ⟨.inl ⟨[], by simp, rfl⟩, ih⟩
  | case3 c s hc _ _ => exact ⟨.inr ⟨rfl, by simp, by simpa using Ne.symm hc⟩, trivial⟩
  | case4 c s hc line lines cut ih =>
    rw [cut] at ih
    obtain ⟨first, others⟩ := ih
    refine ⟨?_, others⟩
    rcases first with ⟨body, hb, rfl⟩ | ⟨last, _, hl⟩
    · exact .inl ⟨c :: body, by simp [hb, Ne.symm hc], rfl⟩
    · exact .inr ⟨last, by simp, by simp [hl, Ne.symm hc]⟩

theorem rawLines_of_isCut {lines : List (List Char)} (h : IsCut lines) :
    rawLines lines.flatten = lines := by
  induction lines with
  | nil => rfl
  | cons raw lines ih =>
    obtain ⟨first, others⟩ := h
    rcases first with ⟨body, hb, rfl⟩ | ⟨rfl, ne, hb⟩
    · simpa [ih others] using rawLines_terminated hb lines.flatten
    · simpa using rawLines_open hb ne

theorem IsCut.ne_nil {lines : List (List Char)} (h : IsCut lines) : [] ∉ lines := by
  induction lines with
  | nil => simp
  | cons raw lines ih =>
    obtain ⟨first, others⟩ := h
    have here : [] ≠ raw := by
      rcases first with ⟨body, _, rfl⟩ | ⟨_, ne, _⟩
      · simp
      · exact ne.symm
    simp [here, ih others]

/-- A text of whole lines: if there is a last one, it has its line feed too. -/
def WholeLines (s : List Char) : Prop := ∀ c ∈ s.getLast?, c = '\n'

instance (s : List Char) : Decidable (WholeLines s) := Option.decidableForallMem s.getLast?

theorem WholeLines.tail {c : Char} {s : List Char} (h : WholeLines (c :: s)) : WholeLines s := by
  cases s with
  | nil => simp [WholeLines]
  | cons d s => simpa [WholeLines] using h

theorem rawLines_append {s : List Char} (whole : WholeLines s) (rest : List Char) :
    rawLines (s ++ rest) = rawLines s ++ rawLines rest := by
  induction s with
  | nil => rfl
  | cons c s ih =>
    rw [List.cons_append, rawLines, rawLines, ih whole.tail]
    split
    · rfl
    · rename_i unended
      cases cut : rawLines s with
      | nil =>
        -- A text without lines is empty, so the one character would have to be a line feed.
        have empty : s = [] := by simpa [cut] using (rawLines_flatten s).symm
        subst empty
        exact absurd (whole c rfl) unended
      | cons line lines => rfl

theorem lineBodies_append {s : List Char} (whole : WholeLines s) (rest : List Char) :
    lineBodies (s ++ rest) = lineBodies s ++ lineBodies rest := by
  simp only [lineBodies, rawLines_append whole, List.map_append]

/-! ## Lines apart from what ends them -/

namespace Line

theorem ofRaw_cons {c : Char} {s : List Char} (feed : c :: s ≠ ['\n'])
    (returnFeed : c :: s ≠ ['\r', '\n']) :
    ofRaw (c :: s) = ⟨c :: (ofRaw s).body, (ofRaw s).ending⟩ := by
  rw [ofRaw]
  · simpa using feed
  · simpa using returnFeed

theorem ofRaw_text (raw : List Char) : (ofRaw raw).text = raw := by
  fun_induction ofRaw raw with
  | case1 | case2 | case3 => rfl
  | case4 c s _ _ l ih =>
    simp only [text] at ih ⊢
    rw [List.cons_append, ih]

theorem ofRaw_returnFeed (body : List Char) :
    ofRaw (body ++ ['\r', '\n']) = ⟨body, .returnFeed⟩ := by
  induction body with
  | nil => rfl
  | cons c body ih =>
    have longer : c :: (body ++ ['\r', '\n']) ≠ ['\r', '\n'] := by
      intro same
      simpa using congrArg List.length same
    rw [List.cons_append, ofRaw_cons (by simp) longer, ih]

theorem ofRaw_lineFeed {body : List Char} (h : body.getLast? ≠ some '\r') :
    ofRaw (body ++ ['\n']) = ⟨body, .lineFeed⟩ := by
  induction body with
  | nil => rfl
  | cons c body ih =>
    cases body with
    | nil =>
      have noReturn : c ≠ '\r' := by simpa using h
      rw [List.cons_append, ofRaw_cons (by simp) (by simpa using noReturn)]
      rfl
    | cons d body =>
      rw [List.cons_append, ofRaw_cons (by simp) (by simp), ih (by simpa using h)]

/-- A body without line breaks is found again before what ends it. -/
theorem ofRaw_append {body : List Char} (feed : '\n' ∉ body) (ret : '\r' ∉ body)
    (ending : LineEnding) : ofRaw (body ++ ending.text) = ⟨body, ending⟩ := by
  induction body with
  | nil => cases ending <;> rfl
  | cons c body ih =>
    simp only [List.mem_cons, not_or] at feed ret
    rw [List.cons_append, ofRaw_cons, ih feed.2 ret.2]
    · intro h
      exact feed.1 (List.cons.inj h).1.symm
    · intro h
      exact ret.1 (List.cons.inj h).1.symm

theorem ofRaw_missing {raw : List Char} (unended : raw.getLast? ≠ some '\n') :
    ofRaw raw = ⟨raw, .missing⟩ := by
  have whole := ofRaw_text raw
  cases parts : ofRaw raw with
  | mk body ending =>
    rw [parts] at whole
    cases ending with
    | missing => simpa [text, LineEnding.text] using whole
    | lineFeed | returnFeed =>
      rw [← whole] at unended
      simp [text, LineEnding.text] at unended

theorem ending_of_no_feed {raw : List Char} (h : '\n' ∉ raw) : (ofRaw raw).ending = .missing := by
  rw [ofRaw_missing fun ended => h (List.mem_of_getLast? ended)]

theorem ending_of_terminated {raw : List Char} (h : Terminated raw) :
    (ofRaw raw).ending ≠ .missing := by
  obtain ⟨body, clean, rfl⟩ := h
  induction body with
  | nil => decide
  | cons c body ih =>
    by_cases ret : c :: (body ++ ['\n']) = ['\r', '\n']
    · rw [List.cons_append, ret]
      decide
    · rw [List.cons_append, ofRaw_cons (by simp) ret]
      exact ih (fun feed => clean (List.mem_cons_of_mem c feed))

end Line

/-! ## Writing lines -/

/-- What is read of a line that was written with a line feed behind it: all but a carriage return at
its end. -/
def shown (line : List Char) : List Char := (Line.ofRaw (line ++ ['\n'])).body

theorem shown_eq_self {line : List Char} (h : line.getLast? ≠ some '\r') : shown line = line := by
  rw [shown, Line.ofRaw_lineFeed h]

theorem eq_shown_append (line : List Char) : ∃ rest, line = shown line ++ rest := by
  by_cases h : line.getLast? = some '\r'
  · obtain ⟨body, rfl⟩ := List.getLast?_eq_some_iff.mp h
    refine ⟨['\r'], ?_⟩
    have cut : shown (body ++ ['\r']) = body := by
      rw [shown, List.append_assoc, List.singleton_append, Line.ofRaw_returnFeed]
    rw [cut]
  · exact ⟨[], by rw [shown_eq_self h, List.append_nil]⟩

/-- A text of lines, each with its line feed. -/
def textOfLines (lines : List String) : String := String.join (lines.map (· ++ "\n"))

theorem toList_textOfLines_cons (line : String) (lines : List String) :
    (textOfLines (line :: lines)).toList =
      line.toList ++ '\n' :: (textOfLines lines).toList := by
  simp [textOfLines]

theorem wholeLines_textOfLines (lines : List String) : WholeLines (textOfLines lines).toList := by
  induction lines with
  | nil => decide
  | cons line lines ih =>
    intro c hc
    rw [toList_textOfLines_cons, List.append_cons, List.getLast?_append] at hc
    rcases Option.or_eq_some_iff.mp hc with later | ⟨_, here⟩
    · exact ih c later
    · simpa using here.symm

theorem lineBodies_textOfLines {lines : List String} (h : ∀ line ∈ lines, '\n' ∉ line.toList) :
    lineBodies (textOfLines lines).toList = lines.map fun line => shown line.toList := by
  induction lines with
  | nil => rfl
  | cons line lines ih =>
    have here : '\n' ∉ line.toList := h line List.mem_cons_self
    rw [lineBodies, toList_textOfLines_cons, rawLines_terminated here, List.map_cons, List.map_cons]
    exact congrArg _ (ih fun x hx => h x (List.mem_cons_of_mem line hx))

/-! ## Editing a line -/

/-- A body that fits into one line. -/
def Unbroken (body : List Char) : Prop := '\n' ∉ body ∧ '\r' ∉ body

instance (body : List Char) : Decidable (Unbroken body) := inferInstanceAs (Decidable (_ ∧ _))

/-- The line with another body, ended as before. -/
def rebody (raw body : List Char) : List Char := body ++ (Line.ofRaw raw).ending.text

theorem ofRaw_rebody {raw body : List Char} (h : Unbroken body) :
    Line.ofRaw (rebody raw body) = ⟨body, (Line.ofRaw raw).ending⟩ :=
  Line.ofRaw_append h.1 h.2 _

theorem rebody_terminated {raw body : List Char} (h : Unbroken body)
    (ended : (Line.ofRaw raw).ending ≠ .missing) : Terminated (rebody raw body) := by
  unfold rebody
  cases ending : (Line.ofRaw raw).ending with
  | missing => contradiction
  | lineFeed => exact ⟨body, h.1, rfl⟩
  | returnFeed => exact ⟨body ++ ['\r'], by simp [h.1], by simp [LineEnding.text]⟩

/-- Giving a line another body leaves a cut a cut, unless nothing of the line is left. -/
theorem IsCut.rebody {lines : List (List Char)} (cut : IsCut lines) {index : Nat}
    {raw body : List Char} (there : lines[index]? = some raw) (fits : Unbroken body)
    (remains : LintRepair.rebody raw body ≠ []) :
    IsCut (lines.set index (LintRepair.rebody raw body)) := by
  induction lines generalizing index with
  | nil => cases there
  | cons first lines ih =>
    obtain ⟨hFirst, others⟩ := cut
    cases index with
    | zero =>
      obtain rfl : first = raw := by simpa using there
      refine ⟨?_, others⟩
      rcases hFirst with ended | ⟨rfl, _, feedless⟩
      · exact .inl (rebody_terminated fits (Line.ending_of_terminated ended))
      · refine .inr ⟨rfl, remains, ?_⟩
        simpa [LintRepair.rebody, Line.ending_of_no_feed feedless, LineEnding.text] using fits.1
    | succ index =>
      refine ⟨?_, ih others there⟩
      rcases hFirst with ended | ⟨rfl, rest⟩
      · exact .inl ended
      · exact .inr ⟨rfl, rest⟩

theorem editRaw?_zero (edit : List Char → Option (List Char)) (raw : List Char)
    (lines : List (List Char)) :
    editRaw? edit 0 (raw :: lines) = (edit (Line.ofRaw raw).body).bind fun body =>
      if Unbroken body then some (rebody raw body :: lines) else none := by
  have guarded (fits : Bool) (out : List (List Char)) :
      ((guard (fits = true) : Option Unit).bind fun _ => some out) =
        if fits = true then some out else none := by
    cases fits <;> rfl
  have tested (body : List Char) :
      (!body.contains '\n' && !body.contains '\r') = true ↔ Unbroken body := by
    simp [Unbroken]
  have opened : editRaw? edit 0 (raw :: lines) = (edit (Line.ofRaw raw).body).bind fun body =>
      (guard ((!body.contains '\n' && !body.contains '\r') = true) : Option Unit).bind fun _ =>
        some (rebody raw body :: lines) := rfl
  rw [opened]
  refine congrArg (Option.bind _) (funext fun body => ?_)
  rw [guarded]
  simp only [tested]

theorem editRaw?_succ (edit : List Char → Option (List Char)) (index : Nat) (raw : List Char)
    (lines : List (List Char)) :
    editRaw? edit (index + 1) (raw :: lines) = (editRaw? edit index lines).map (raw :: ·) := rfl

theorem editRaw?_eq_some_iff {edit : List Char → Option (List Char)} {index : Nat}
    {lines out : List (List Char)} :
    editRaw? edit index lines = some out ↔
      ∃ raw body, lines[index]? = some raw ∧ edit (Line.ofRaw raw).body = some body ∧
        Unbroken body ∧ out = lines.set index (rebody raw body) := by
  induction lines generalizing index out with
  | nil =>
    have missing : editRaw? edit index [] = none := by cases index <;> rfl
    simp [missing]
  | cons first lines ih =>
    cases index with
    | zero =>
      rw [editRaw?_zero]
      cases edited : edit (Line.ofRaw first).body with
      | none => simp [edited]
      | some body =>
        by_cases fits : Unbroken body
        · simp [edited, fits, eq_comm]
        · simp [edited, fits]
    | succ index =>
      simp only [editRaw?_succ, Option.map_eq_some_iff, ih]
      constructor
      · rintro ⟨_, ⟨raw, body, there, edited, fits, rfl⟩, rfl⟩
        exact ⟨raw, body, there, edited, fits, rfl⟩
      · rintro ⟨raw, body, there, edited, fits, rfl⟩
        exact ⟨_, ⟨raw, body, there, edited, fits, rfl⟩, rfl⟩

/-- An edit answers if the line is there and gets a body that fits into one line. -/
theorem editLine?_eq_some_iff {edit : List Char → Option (List Char)} {number : Nat}
    {text updated : List Char} :
    editLine? edit number text = some updated ↔
      ∃ index raw body, number = index + 1 ∧ (rawLines text)[index]? = some raw ∧
        edit (Line.ofRaw raw).body = some body ∧ Unbroken body ∧
        updated = ((rawLines text).set index (rebody raw body)).flatten := by
  cases number with
  | zero => simp [editLine?]
  | succ index =>
    simp only [editLine?, Option.map_eq_some_iff, editRaw?_eq_some_iff]
    constructor
    · rintro ⟨_, ⟨raw, body, there, edited, fits, rfl⟩, rfl⟩
      exact ⟨index, raw, body, rfl, there, edited, fits, rfl⟩
    · rintro ⟨_, raw, body, same, there, edited, fits, rfl⟩
      obtain rfl := Nat.succ.inj same
      exact ⟨_, ⟨raw, body, there, edited, fits, rfl⟩, rfl⟩

theorem editLineOf?_eq_some_iff {edit : String → Option String} {number : Nat}
    {content updated : String} :
    editLineOf? edit number content = some updated ↔
      ∃ index raw body, number = index + 1 ∧ (rawLines content.toList)[index]? = some raw ∧
        edit (.ofList (Line.ofRaw raw).body) = some body ∧ Unbroken body.toList ∧
        updated = .ofList ((rawLines content.toList).set index (rebody raw body.toList)).flatten := by
  simp only [editLineOf?, Option.map_eq_some_iff, editLine?_eq_some_iff]
  constructor
  · rintro ⟨_, ⟨index, raw, _, line, there, ⟨body, edited, rfl⟩, fits, rfl⟩, rfl⟩
    exact ⟨index, raw, body, line, there, edited, fits, rfl⟩
  · rintro ⟨index, raw, body, line, there, edited, fits, rfl⟩
    exact ⟨_, ⟨index, raw, _, line, there, ⟨body, edited, rfl⟩, fits, rfl⟩, rfl⟩

/-- Cut again, an edited text has the same lines but for the edited one. -/
theorem rawLines_editLine {text : List Char} {index : Nat} {raw body : List Char}
    (there : (rawLines text)[index]? = some raw) (fits : Unbroken body)
    (remains : rebody raw body ≠ []) :
    rawLines ((rawLines text).set index (rebody raw body)).flatten =
      (rawLines text).set index (rebody raw body) :=
  rawLines_of_isCut ((rawLines_isCut text).rebody there fits remains)

end LintRepair
