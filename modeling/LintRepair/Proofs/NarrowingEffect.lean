import LintRepair.Proofs.NarrowingRepeat

/-!
What narrowing does to a text, said about the text as it was before all four passes.

* `Narrowable`: between which texts an `any` is narrowed;
* `Narrowing.refines`: a pass replaces only what the passes before it have kept;
* `word_kept`: a word is kept unless it is an `any` that can be narrowed;
* `narrowing_is_conservative`: all of this for a whole run.
-/

namespace LintRepair.Annotation

/-! ## Where an `any` can be narrowed -/

/-- An `any` between these texts can be narrowed: as the type of a declaration, in `Promise<any>`,
in `any[]` and in `Record<string, any>`. -/
inductive Narrowable : List Char → List Char → Prop
  | declared {left gap gap' right : List Char} (blank : Blank gap) (blank' : Blank gap')
      (ends : Ends right) : Narrowable (left ++ ':' :: gap) (gap' ++ right)
  | promised {left right : List Char} (boundary : atWordStart left.getLast? = true) :
      Narrowable (left ++ "Promise<".toList) ('>' :: right)
  | listed {left right : List Char} (boundary : atWordStart left.getLast? = true) :
      Narrowable left ('[' :: ']' :: right)
  | recorded {left gap right : List Char} (boundary : atWordStart left.getLast? = true)
      (blank : Blank gap) : Narrowable (left ++ ("Record<string,".toList ++ gap)) ('>' :: right)

/-- A word in full: no character of a word stands on either side of it. -/
structure WholeWord (left word right : List Char) : Prop where
  ne_nil : word ≠ []
  letters : ∀ c ∈ word, isWord c = true
  starts : atWordStart left.getLast? = true
  ends : ∀ c ∈ right.head?, isWord c = false

variable {left right word gap gap' s t part text passed : List Char}

theorem Ends.not_word (h : Ends s) : ∀ c ∈ s.head?, isWord c = false := by
  cases h with
  | semicolon => simp [show isWord ';' = false by decide]
  | equals => simp [show isWord '=' = false by decide]

theorem head_not_word (blank : Blank gap) (h : ∀ c ∈ s.head?, isWord c = false) :
    ∀ c ∈ (gap ++ s).head?, isWord c = false := by
  cases gap with
  | nil => exact h
  | cons d gap =>
    rintro _ ⟨⟩
    exact isWord_of_isSpace (blank d List.mem_cons_self)

theorem atWordStart_append {c : Char} (last : s.getLast? = some c) (ink : isWord c = false) :
    atWordStart (left ++ s).getLast? = true := by
  simp [atWordStart, List.getLast?_append, last, ink]

theorem wholeWord_any (starts : atWordStart left.getLast? = true)
    (ends : ∀ c ∈ right.head?, isWord c = false) : WholeWord left "any".toList right :=
  ⟨by decide, List.all_eq_true.mp (by decide), starts, ends⟩

theorem atWordStart_colon (blank : Blank gap) :
    atWordStart (left ++ ':' :: gap).getLast? = true := by
  rw [List.append_cons]
  exact blank.atWordStart (atWordStart_append rfl (by decide))

/-- An `any` that can be narrowed is a word of its own. -/
theorem Narrowable.wholeWord (h : Narrowable left right) : WholeWord left "any".toList right := by
  apply wholeWord_any
  · cases h with
    | declared blank => exact atWordStart_colon blank
    | promised => exact atWordStart_append (c := '<') (by decide) (by decide)
    | listed boundary => exact boundary
    | recorded _ blank =>
      rw [← List.append_assoc]
      exact blank.atWordStart (atWordStart_append (c := ',') (by decide) (by decide))
  · cases h with
    | declared _ blank' ends => exact head_not_word blank' ends.not_word
    | promised => simp [show isWord '>' = false by decide]
    | listed => simp [show isWord '[' = false by decide]
    | recorded => simp [show isWord '>' = false by decide]

/-- Where a word in full stands, no other one does. -/
theorem WholeWord.unique {word' right' : List Char} (h : WholeWord left word right)
    (h' : WholeWord left word' right') (cut : word ++ right = word' ++ right') : word = word' := by
  have taken {word right : List Char} (h : WholeWord left word right) :
      (word ++ right).takeWhile isWord = word := by
    rw [List.takeWhile_append_of_pos h.letters]
    cases right with
    | nil => simp
    | cons c right => simp [h.ends c rfl]
  rw [← taken h, cut, taken h']

/-- What is declared as `any` is not narrowed if something else than the end of a declaration
follows. -/
theorem not_narrowable {c : Char} (blank' : Blank gap') (ink : isSpace c = false)
    (other : ¬ Ends (c :: right)) (brackets : c ≠ '>' ∧ c ≠ '[') :
    ¬ Narrowable left (gap' ++ c :: right) := by
  intro narrowable
  generalize whole : gap' ++ c :: right = behind at narrowable
  have first := congrArg dropSpaces whole
  rw [blank'.dropSpaces_ink ink] at first
  cases narrowable with
  | @declared _ _ inner tail _ blank ends =>
    have last : dropSpaces (inner ++ tail) = tail := by
      cases ends <;> exact blank.dropSpaces_ink (by decide)
    rw [last] at first
    exact other (first ▸ ends)
  | promised => exact brackets.1 (List.cons.inj first).1
  | listed => exact brackets.2 (List.cons.inj first).1
  | recorded => exact brackets.1 (List.cons.inj first).1

/-! ## Pieces of a text and what becomes of them -/

/-- A piece of a text and what becomes of it: a character that is kept, an `any` that becomes
`unknown`, or the space before one that becomes a single blank. -/
inductive Piece where
  | kept (c : Char)
  | narrowed
  | respaced (gap : List Char)

namespace Piece

def source : Piece → List Char
  | kept c => [c]
  | narrowed => "any".toList
  | respaced gap => gap

def result : Piece → List Char
  | kept c => [c]
  | narrowed => "unknown".toList
  | respaced _ => [' ']

@[simp] theorem source_kept (c : Char) : (kept c).source = [c] := rfl

@[simp] theorem result_kept (c : Char) : (kept c).result = [c] := rfl

@[simp] theorem source_narrowed : narrowed.source = "any".toList := rfl

@[simp] theorem result_narrowed : narrowed.result = "unknown".toList := rfl

end Piece

/-- The text that is cut into these pieces. -/
def sourceOf (pieces : List Piece) : List Char := pieces.flatMap Piece.source

/-- What becomes of it. -/
def resultOf (pieces : List Piece) : List Char := pieces.flatMap Piece.result

/-- What may become of a piece behind one text and before other pieces: an `any` may be narrowed
where it can be, and space may be changed only in `Record<string, any>`, together with the `any`. -/
def Piece.Allowed (passed : List Char) (rest : List Piece) : Piece → Prop
  | kept _ => True
  | narrowed => Narrowable passed (sourceOf rest)
  | respaced gap => Blank gap ∧
      (∃ start, passed = start ++ "Record<string,".toList ∧ atWordStart start.getLast? = true) ∧
      ∃ more behind, rest = narrowed :: more ∧ sourceOf more = '>' :: behind

/-- Everything that becomes of these pieces, behind some text, is allowed. -/
def Conservative (passed : List Char) (pieces : List Piece) : Prop :=
  ∀ left piece right, pieces = left ++ piece :: right →
    piece.Allowed (passed ++ sourceOf left) right

/-- The space in `Record<string, any>` has not been changed yet. -/
def Plain (pieces : List Piece) : Prop := ∀ gap, .respaced gap ∉ pieces

variable {pieces more : List Piece} {piece : Piece}

@[simp] theorem sourceOf_nil : sourceOf [] = [] := rfl

@[simp] theorem resultOf_nil : resultOf [] = [] := rfl

@[simp] theorem sourceOf_cons : sourceOf (piece :: pieces) = piece.source ++ sourceOf pieces := rfl

@[simp] theorem resultOf_cons : resultOf (piece :: pieces) = piece.result ++ resultOf pieces := rfl

@[simp] theorem sourceOf_append : sourceOf (pieces ++ more) = sourceOf pieces ++ sourceOf more :=
  List.flatMap_append

@[simp] theorem resultOf_append : resultOf (pieces ++ more) = resultOf pieces ++ resultOf more :=
  List.flatMap_append

@[simp] theorem sourceOf_kept (s : List Char) : sourceOf (s.map .kept) = s := by
  simp [sourceOf, List.flatMap_map]

@[simp] theorem resultOf_kept (s : List Char) : resultOf (s.map .kept) = s := by
  simp [resultOf, List.flatMap_map]

theorem eq_nil_of_resultOf (h : resultOf pieces = []) : pieces = [] := by
  cases pieces with
  | nil => rfl
  | cons piece pieces => cases piece <;> cases h

theorem plain_kept (s : List Char) : Plain (s.map .kept) := by
  intro gap member
  simp at member

theorem Plain.append (h : Plain pieces) (h' : Plain more) : Plain (pieces ++ more) := by
  intro gap member
  rcases List.mem_append.mp member with here | there
  · exact h gap here
  · exact h' gap there

/-- The last character behind more pieces, as a pass sees it. -/
theorem getLast?_resultOf (before more : List Piece) :
    (resultOf (before ++ more)).getLast? = lastOf (resultOf before).getLast? (resultOf more) := by
  rw [resultOf_append, List.getLast?_append]
  rfl

theorem conservative_nil : Conservative passed [] := by
  intro left piece right cut
  simp at cut

theorem conservative_cons : Conservative passed (piece :: pieces) ↔
    piece.Allowed passed pieces ∧ Conservative (passed ++ piece.source) pieces := by
  constructor
  · intro h
    refine ⟨by simpa using h [] piece pieces rfl, ?_⟩
    rintro left other right rfl
    simpa using h (piece :: left) other right rfl
  · rintro ⟨here, later⟩ left other right cut
    cases left with
    | nil =>
      cases cut
      simpa using here
    | cons first left =>
      obtain ⟨rfl, rfl⟩ := List.cons.inj cut
      simpa using later left other right rfl

theorem conservative_kept : Conservative passed (s.map .kept ++ pieces) ↔
    Conservative (passed ++ s) pieces := by
  induction s generalizing passed with
  | nil => simp
  | cons c s ih =>
    rw [List.map_cons, List.cons_append, conservative_cons, ih, Piece.source_kept,
      ← List.append_cons]
    exact and_iff_right trivial

/-! ## One pass -/

/-- What was kept reads the same before and after, and what no narrowing writes was kept. -/
theorem kept_of_result (plain : Plain pieces) (cut : resultOf pieces = part ++ s)
    (unwritten : .narrowed ∉ pieces ∨ 'u' ∉ part) :
    ∃ rest, pieces = part.map .kept ++ rest ∧ resultOf rest = s := by
  induction part generalizing pieces with
  | nil => exact ⟨pieces, rfl, cut⟩
  | cons c part ih =>
    cases pieces with
    | nil => cases cut
    | cons piece pieces =>
      have tail : Plain pieces := fun gap member => plain gap (List.mem_cons_of_mem _ member)
      have later : .narrowed ∉ pieces ∨ 'u' ∉ part :=
        unwritten.imp (fun h m => h (List.mem_cons_of_mem _ m))
          fun h m => h (List.mem_cons_of_mem _ m)
      cases piece with
      | kept d =>
        obtain ⟨rfl, behind⟩ := List.cons.inj cut
        obtain ⟨rest, rfl, result⟩ := ih tail behind later
        exact ⟨rest, rfl, result⟩
      | narrowed =>
        obtain ⟨rfl, _⟩ := List.cons.inj cut
        rcases unwritten with absent | absent <;> exact absurd List.mem_cons_self absent
      | respaced gap => exact absurd List.mem_cons_self (plain gap)

/-- The passes keep where words start. -/
theorem atWordStart_source (plain : Plain pieces)
    (h : atWordStart (resultOf pieces).getLast? = true) :
    atWordStart (sourceOf pieces).getLast? = true := by
  rcases List.eq_nil_or_concat pieces with rfl | ⟨init, piece, rfl⟩
  · exact h
  · cases piece with
    | kept c => simpa [List.getLast?_append] using h
    | narrowed =>
      have letter : atWordStart (resultOf (init ++ [.narrowed])).getLast? = false := by
        rw [resultOf_append, List.getLast?_append]
        rfl
      rw [List.concat_eq_append, letter] at h
      cases h
    | respaced gap => exact absurd (by simp) (plain gap)

theorem conservative_narrowed {rest : List Piece}
    (narrowable : Narrowable (passed ++ left) (right ++ sourceOf rest))
    (h : Conservative (passed ++ (left ++ ("any".toList ++ right))) rest) :
    Conservative passed (left.map .kept ++ (.narrowed :: (right.map .kept ++ rest))) := by
  rw [conservative_kept, conservative_cons, conservative_kept]
  refine ⟨?_, ?_⟩
  · have allowed : Narrowable (passed ++ left) (sourceOf (right.map .kept ++ rest)) := by
      rwa [sourceOf_append, sourceOf_kept]
    exact allowed
  · simpa using h

theorem Mark.ends {mark : List Char} (marked : Mark mark s) (last : s = [] → t = []) :
    Ends (mark ++ t) := by
  cases marked with
  | semicolon => exact .semicolon
  | last =>
    rw [last rfl]
    exact .equals (by simp)
  | assigned other =>
    refine .equals ?_
    rintro c ⟨⟩
    exact other

/-- What an edit does to its part of the text, in pieces. It is allowed wherever the part stands, if
words start there as they did. -/
theorem Narrowing.edit_pieces {offer : Option Char → List Char → Option Substitution}
    {start head : Char} (narrowing : Narrowing offer start head) {previous : Option Char}
    {further : Nat} (taken : offer previous (part ++ s) = some ⟨text, further⟩)
    (width : further + 1 = part.length) :
    ∃ edited, sourceOf edited = part ∧ resultOf edited = text ∧ (start ≠ 'R' → Plain edited) ∧
      (start ≠ ':' → 'u' ∉ part) ∧
      ∀ passed rest, (atWordStart previous = true → atWordStart passed.getLast? = true) →
        (s = [] → sourceOf rest = []) → Conservative (passed ++ part) rest →
          Conservative passed (edited ++ rest) := by
  have plain (left right : List Char) : Plain (left.map .kept ++ .narrowed :: right.map .kept) :=
    (plain_kept left).append fun gap member => by simp at member
  cases narrowing with
  | declared =>
    obtain ⟨gap, gap', mark, blank, blank', marked, rfl, rfl⟩ := declared?_edit taken width
    refine ⟨(':' :: gap).map .kept ++ .narrowed :: (gap' ++ mark).map .kept, ?_, ?_,
      fun _ => plain _ _, fun later => absurd rfl later, ?_⟩
    · simp [typing]
    · simp [typing]
    · intro passed rest _ last later
      rw [List.append_assoc, List.cons_append]
      apply conservative_narrowed
      · rw [List.append_assoc]
        exact .declared blank blank' (marked.ends last)
      · simpa [typing] using later
  | promised =>
    obtain ⟨boundary, _, cut, same⟩ := promised?_eq_some_iff.mp taken
    cases same
    obtain ⟨rfl, rfl⟩ := List.append_inj cut width.symm
    refine ⟨"Promise<".toList.map .kept ++ .narrowed :: ['>'].map .kept, by decide, by decide,
      fun _ => plain _ _, fun _ => by decide, ?_⟩
    intro passed rest starts _ later
    rw [List.append_assoc, List.cons_append]
    exact conservative_narrowed (.promised (starts boundary)) later
  | listed =>
    obtain ⟨boundary, _, cut, same⟩ := listed?_eq_some_iff.mp taken
    cases same
    obtain ⟨rfl, rfl⟩ := List.append_inj cut width.symm
    refine ⟨[].map .kept ++ .narrowed :: "[]".toList.map .kept, by decide, by decide,
      fun _ => plain _ _, fun _ => by decide, ?_⟩
    intro passed rest starts _ later
    rw [List.append_assoc, List.cons_append]
    refine conservative_narrowed ?_ later
    rw [List.append_nil]
    exact .listed (starts boundary)
  | recorded =>
    obtain ⟨boundary, gap, _, blank, cut, same⟩ := recorded?_eq_some_iff.mp taken
    cases same
    have shape (rest : List Char) : "Record<string,".toList ++ (gap ++ ("any>".toList ++ rest)) =
        ("Record<string,".toList ++ (gap ++ "any>".toList)) ++ rest := by simp
    rw [shape] at cut
    obtain ⟨rfl, rfl⟩ := List.append_inj cut (by rw [← width]; simp; omega)
    refine ⟨"Record<string,".toList.map .kept ++ .respaced gap :: .narrowed :: ['>'].map .kept,
      ?_, ?_, fun first => absurd rfl first, fun _ => ?_, ?_⟩
    · rw [sourceOf_append, sourceOf_kept]
      rfl
    · rw [resultOf_append, resultOf_kept]
      rfl
    · simp only [List.mem_append, not_or]
      exact ⟨by decide, blank.not_mem (by decide), by decide⟩
    · intro passed rest starts _ later
      rw [List.append_assoc, conservative_kept, List.cons_append, conservative_cons]
      refine ⟨⟨blank, ⟨passed, rfl, starts boundary⟩, _, _, rfl, rfl⟩, ?_⟩
      have narrowable : Narrowable (passed ++ "Record<string,".toList ++ gap ++ [])
          (['>'] ++ sourceOf rest) := by
        rw [List.append_nil, List.append_assoc]
        exact .recorded (starts boundary) blank
      exact conservative_narrowed narrowable (by simpa using later)

/-- A text behind another one can be cut into pieces that become `t`, each as it is allowed. Only
the pass for records changes space. -/
def Refines (start : Char) (passed s t : List Char) : Prop :=
  ∃ pieces, sourceOf pieces = s ∧ resultOf pieces = t ∧ Conservative passed pieces ∧
    (start ≠ 'R' → Plain pieces)

theorem Refines.prepend {start : Char} {edited : List Piece}
    (later : Refines start (passed ++ sourceOf edited) s t)
    (fits : ∀ rest, sourceOf rest = s → Conservative (passed ++ sourceOf edited) rest →
      Conservative passed (edited ++ rest)) (plain : start ≠ 'R' → Plain edited) :
    Refines start passed (sourceOf edited ++ s) (resultOf edited ++ t) := by
  obtain ⟨rest, source, rfl, allowed, plain'⟩ := later
  refine ⟨edited ++ rest, ?_, resultOf_append, fits rest source allowed, ?_⟩
  · rw [sourceOf_append, source]
  · exact fun notLast => (plain notLast).append (plain' notLast)

/-- A pass over what becomes of some pieces replaces only what they keep, and only where this is
allowed. -/
theorem Narrowing.refines {offer : Option Char → List Char → Option Substitution}
    {start head : Char} (narrowing : Narrowing offer start head) {before pieces : List Piece}
    (plain : Plain before) (plain' : Plain pieces) (fresh : start = ':' → .narrowed ∉ pieces)
    (h : Substituted offer (resultOf before).getLast? (resultOf pieces) t)
    (allowed : Conservative (sourceOf before) pieces) :
    Refines start (sourceOf before) (sourceOf pieces) t := by
  induction size : pieces.length using Nat.strongRecOn generalizing before pieces t with
  | ind n ih =>
    subst size
    have behind (first rest : List Piece) {t : List Char} (cut : pieces = first ++ rest)
        (ne : first ≠ []) (pass : Substituted offer
          (lastOf (resultOf before).getLast? (resultOf first)) (resultOf rest) t)
        (later : Conservative (sourceOf before ++ sourceOf first) rest) :
        Refines start (sourceOf before ++ sourceOf first) (sourceOf rest) t := by
      subst cut
      have shorter : rest.length < (first ++ rest).length := by
        have := List.length_pos_iff.mpr ne
        rw [List.length_append]
        omega
      have plainFirst : Plain first := fun gap member => plain' gap (List.mem_append_left _ member)
      have plainRest : Plain rest := fun gap member => plain' gap (List.mem_append_right _ member)
      rw [← getLast?_resultOf] at pass
      rw [← sourceOf_append] at later ⊢
      exact ih rest.length shorter (plain.append plainFirst) plainRest
        (fun colon member => fresh colon (List.mem_append_right _ member)) pass later rfl
    cases pieces with
    | nil => exact ⟨[], rfl, h.eq_nil.symm, conservative_nil, fun _ => plain'⟩
    | cons piece pieces =>
      have single : [piece] ≠ [] := by simp
      obtain ⟨here, later⟩ := conservative_cons.mp allowed
      cases piece with
      | respaced gap => exact absurd List.mem_cons_self (plain' gap)
      | narrowed =>
        have absent : start ∉ "unknown".toList := by cases narrowing <;> decide
        obtain ⟨_, rfl, pass⟩ := Substituted.copied narrowing.offers h absent
        refine (behind [.narrowed] pieces rfl single pass later).prepend ?_ (by simp [Plain])
        intro rest source fits
        have same : Narrowable (sourceOf before) (sourceOf rest) := source ▸ here
        exact conservative_cons.mpr ⟨same, fits⟩
      | kept c =>
        generalize whole : resultOf (.kept c :: pieces) = s at h
        cases h with
        | nil => cases whole
        | copy _ pass =>
          obtain ⟨rfl, rfl⟩ := List.cons.inj whole
          refine (behind [.kept c] pieces rfl single pass later).prepend ?_ (by simp [Plain])
          exact fun rest _ fits => conservative_cons.mpr ⟨trivial, fits⟩
        | @edit _ part _ _ _ _ taken width pass =>
          obtain ⟨edited, rfl, rfl, plainEdited, absent, fits⟩ := narrowing.edit_pieces taken width
          have unwritten : .narrowed ∉ .kept c :: pieces ∨ 'u' ∉ sourceOf edited := by
            by_cases colon : start = ':'
            · exact .inl (fresh colon)
            · exact .inr (absent colon)
          obtain ⟨rest, cut, rfl⟩ := kept_of_result plain' whole unwritten
          have ne : (sourceOf edited).map Piece.kept ≠ [] := by
            rintro empty
            rw [List.map_eq_nil_iff.mp empty] at width
            cases width
          have source := sourceOf_kept (sourceOf edited)
          rw [cut, conservative_kept] at allowed
          rw [← resultOf_kept (sourceOf edited)] at pass
          have refined := behind _ rest cut ne pass (by rwa [source])
          rw [source] at refined
          rw [cut, sourceOf_append, source]
          refine refined.prepend (fun rest' same later => ?_) plainEdited
          refine fits _ rest' (atWordStart_source plain) ?_ later
          intro last
          rw [same, eq_nil_of_resultOf last]
          rfl

/-! ## Words that are kept -/

/-- A part of the text, between these two others, is kept. -/
def Keeps (pieces : List Piece) (left word right : List Char) : Prop :=
  ∃ before behind, pieces = before ++ (word.map .kept ++ behind) ∧ sourceOf before = left ∧
    sourceOf behind = right

theorem Keeps.cons (h : Keeps pieces left word right) (piece : Piece) :
    Keeps (piece :: pieces) (piece.source ++ left) word right := by
  obtain ⟨before, behind, rfl, rfl, rfl⟩ := h
  exact ⟨piece :: before, behind, rfl, rfl, rfl⟩

theorem not_atWordStart {c : Char} (last : s.getLast? = some c) (letter : isWord c = true) :
    ¬ atWordStart (passed ++ s).getLast? = true := by
  simp [atWordStart, List.getLast?_append, last, letter]

/-- From a place in a word on, its letters are kept if no `any` that can be narrowed begins
there. -/
theorem letters_kept (allowed : Conservative passed pieces) (cut : sourceOf pieces = word ++ right)
    (letters : ∀ c ∈ word, isWord c = true)
    (free : ∀ behind, word ++ right = "any".toList ++ behind → ¬ Narrowable passed behind) :
    ∃ rest, pieces = word.map .kept ++ rest ∧ sourceOf rest = right := by
  induction word generalizing passed pieces with
  | nil => exact ⟨pieces, rfl, cut⟩
  | cons c word ih =>
    rw [List.forall_mem_cons] at letters
    cases pieces with
    | nil => cases cut
    | cons piece pieces =>
      obtain ⟨here, later⟩ := conservative_cons.mp allowed
      cases piece with
      | kept d =>
        -- Behind a letter no word begins.
        obtain ⟨rfl, cut'⟩ := List.cons.inj cut
        obtain ⟨rest, rfl, source⟩ := ih later cut' letters.2 fun behind _ narrowable =>
          not_atWordStart rfl letters.1 narrowable.wholeWord.starts
        exact ⟨rest, rfl, source⟩
      | narrowed => exact absurd here (free _ cut.symm)
      | respaced gap =>
        obtain ⟨blank, _, more, behind, rfl, _⟩ := here
        cases gap with
        | nil =>
          rw [Piece.source, List.append_nil] at later
          exact absurd (conservative_cons.mp later).1 (free _ cut.symm)
        | cons d gap =>
          obtain ⟨rfl, _⟩ := List.cons.inj cut
          rw [isWord_of_isSpace (blank d List.mem_cons_self)] at letters
          cases letters.1

/-- A word in full is kept, unless it is an `any` that can be narrowed. -/
theorem word_kept (allowed : Conservative passed pieces)
    (cut : sourceOf pieces = left ++ (word ++ right))
    (whole : WholeWord (passed ++ left) word right)
    (free : word = "any".toList → ¬ Narrowable (passed ++ left) right) :
    Keeps pieces left word right := by
  induction pieces generalizing passed left with
  | nil =>
    have empty : left = [] ∧ word = [] ∧ right = [] := by simpa using cut
    exact absurd empty.2.1 whole.ne_nil
  | cons piece pieces ih =>
    obtain ⟨here, later⟩ := conservative_cons.mp allowed
    rw [sourceOf_cons] at cut
    have next {more : List Char} (begins : left = piece.source ++ more)
        (rest : sourceOf pieces = more ++ (word ++ right)) :
        Keeps (piece :: pieces) left word right := by
      subst begins
      rw [← List.append_assoc] at whole free
      exact (ih later rest whole free).cons piece
    cases left with
    | nil =>
      rw [List.append_nil] at whole free
      rw [List.nil_append] at cut
      have apart : ∀ behind, word ++ right = "any".toList ++ behind →
          ¬ Narrowable passed behind := by
        intro behind same narrowable
        have word_eq := whole.unique narrowable.wholeWord same
        rw [word_eq] at same
        exact free word_eq (List.append_cancel_left same ▸ narrowable)
      obtain ⟨rest, kept, source⟩ := letters_kept allowed cut whole.letters apart
      exact ⟨[], rest, kept, rfl, source⟩
    | cons c left =>
      rcases List.append_eq_append_iff.mp cut with ⟨more, begins, rest⟩ | ⟨more, inside, rest⟩
      · exact next begins rest
      · cases more with
        | nil =>
          have rest : sourceOf pieces = [] ++ (word ++ right) := rest.symm
          exact next (by rw [inside, List.append_nil, List.append_nil]) rest
        | cons d more =>
          -- The word would begin inside of a piece.
          exfalso
          cases piece with
          | kept e => simp at inside
          | narrowed =>
            have ends := List.getLast?_eq_some_getLast (List.cons_ne_nil c left)
            have letter := here.wholeWord.letters _ (by
              rw [← Piece.source_narrowed, inside]
              exact List.mem_append_left _ (List.getLast_mem (List.cons_ne_nil c left)))
            exact not_atWordStart ends letter whole.starts
          | respaced gap =>
            obtain ⟨first, others, rfl⟩ := List.exists_cons_of_ne_nil whole.ne_nil
            obtain ⟨rfl, _⟩ := List.cons.inj rest
            have space : isSpace first = true :=
              here.1 first (by rw [show gap = _ from inside]; simp)
            have letter := whole.letters first List.mem_cons_self
            rw [isWord_of_isSpace space] at letter
            cases letter

/-! ## The whole run -/

/-- The four passes together do to the text what becomes of some pieces of it. -/
theorem exists_pieces (content : List Char) :
    ∃ pieces, sourceOf pieces = content ∧ resultOf pieces = narrow content ∧
      Conservative [] pieces := by
  have none : Plain [] := by simp [Plain]
  have whole := resultOf_kept content
  have start : Conservative [] (content.map .kept) := by
    rw [← List.append_nil (content.map Piece.kept), conservative_kept]
    exact conservative_nil
  have first := Narrowing.declared.substituted_all (resultOf (content.map .kept))
  obtain ⟨pieces₁, source₁, result₁, allowed₁, plain₁⟩ := Narrowing.declared.refines none
    (plain_kept content) (by simp) first start
  rw [whole] at result₁
  have second := Narrowing.promised.substituted_all (resultOf pieces₁)
  obtain ⟨pieces₂, source₂, result₂, allowed₂, plain₂⟩ := Narrowing.promised.refines none
    (plain₁ (by decide)) (fun colon => absurd colon (by decide)) second allowed₁
  have third := Narrowing.listed.substituted_all (resultOf pieces₂)
  obtain ⟨pieces₃, source₃, result₃, allowed₃, plain₃⟩ := Narrowing.listed.refines none
    (plain₂ (by decide)) (fun colon => absurd colon (by decide)) third allowed₂
  have fourth := Narrowing.recorded.substituted_all (resultOf pieces₃)
  obtain ⟨pieces₄, source₄, result₄, allowed₄, _⟩ := Narrowing.recorded.refines none
    (plain₃ (by decide)) (fun colon => absurd colon (by decide)) fourth allowed₃
  refine ⟨pieces₄, ?_, ?_, allowed₄⟩
  · rw [source₄, source₃, source₂, source₁, sourceOf_kept]
  · rw [result₄, result₃, result₂, result₁, narrow_eq]

/-- Unless annotations touch, no `any` that can be narrowed is left. -/
theorem not_narrowable_narrow (apart : ¬ Chained s)
    (cut : narrow s = left ++ ("any".toList ++ right)) :
    ¬ Narrowable left right := by
  intro narrowable
  have idle {offer : Option Char → List Char → Option Substitution} {start head : Char}
      (narrowing : Narrowing offer start head) {before : List Char} {c : Char} {rest : List Char}
      (there : narrow s = before ++ c :: rest) : offer before.getLast? (c :: rest) = none := by
    have untouched := untouched_narrow apart narrowing
    rw [there] at untouched
    have last : lastOf none before = before.getLast? := by
      rw [lastOf, Option.or_none]
    exact last ▸ (untouched_append untouched).1
  cases narrowable with
  | @declared before gap gap' rest blank blank' ends =>
    rw [List.append_assoc, List.cons_append] at cut
    refine declared?_eq_none_iff.mp (idle .declared cut) (declared_iff.mpr ?_)
    exact ⟨gap, gap', rest, blank, blank', ends, rfl⟩
  | @promised before rest boundary =>
    have there : narrow s = before ++ ("Promise<any>".toList ++ rest) := by simpa using cut
    have offered := promised?_eq_some_iff.mpr ⟨boundary, rest, rfl, rfl⟩
    exact Option.some_ne_none _ (offered.symm.trans (idle .promised there))
  | @listed _ rest boundary =>
    have offered := listed?_eq_some_iff.mpr ⟨boundary, rest, rfl, rfl⟩
    exact Option.some_ne_none _ (offered.symm.trans (idle .listed cut))
  | @recorded before gap rest boundary blank =>
    have there : narrow s =
        before ++ ("Record<string,".toList ++ (gap ++ ("any>".toList ++ rest))) := by
      simpa using cut
    have offered := recorded?_eq_some_iff.mpr ⟨boundary, gap, rest, blank, rfl, rfl⟩
    exact Option.some_ne_none _ (offered.symm.trans (idle .recorded there))

/-- What follows an `any` that is not the type of a declaration: an arrow, a comparison, or the end
of a parameter. -/
inductive Signature : List Char → Prop
  | arrow {rest : List Char} : Signature ('=' :: '>' :: rest)
  | compared {rest : List Char} : Signature ('=' :: '=' :: rest)
  | closed {rest : List Char} : Signature (')' :: rest)
  | continued {rest : List Char} : Signature (',' :: rest)

theorem Signature.not_word (h : Signature s) : ∀ c ∈ s.head?, isWord c = false := by
  cases h <;> rintro c ⟨⟩ <;> decide

theorem Signature.not_narrowable (h : Signature s) (blank' : Blank gap') :
    ¬ Narrowable left (gap' ++ s) := by
  cases h with
  | @arrow rest =>
    have other : ¬ Ends ('=' :: '>' :: rest) := fun (.equals other) => (other '>' rfl).1 rfl
    exact Annotation.not_narrowable blank' (by decide) other (by decide)
  | @compared rest =>
    have other : ¬ Ends ('=' :: '=' :: rest) := fun (.equals other) => (other '=' rfl).2 rfl
    exact Annotation.not_narrowable blank' (by decide) other (by decide)
  | closed => exact Annotation.not_narrowable blank' (by decide) (by rintro ⟨⟩) (by decide)
  | continued => exact Annotation.not_narrowable blank' (by decide) (by rintro ⟨⟩) (by decide)

/-- Narrowing cuts a text into pieces, replaces an `any` only where it can be narrowed and space
only in `Record<string, any>`, and keeps all else. So it keeps every other word, and every `any` of a
signature. Unless annotations touch, it leaves no `any` that can be narrowed. -/
theorem narrowing_is_conservative (content : String) :
    ∃ pieces : List Piece, sourceOf pieces = content.toList ∧
      resultOf pieces = (remedy.mend content).toList ∧ Conservative [] pieces ∧
      (∀ left word right, content.toList = left ++ (word ++ right) → WholeWord left word right →
        word ≠ "any".toList → Keeps pieces left word right) ∧
      (∀ left gap gap' tail, Blank gap → Blank gap' → Signature tail →
        content.toList = (left ++ ':' :: gap) ++ ("any".toList ++ (gap' ++ tail)) →
          Keeps pieces (left ++ ':' :: gap) "any".toList (gap' ++ tail)) ∧
      (¬ Chained content.toList → ∀ left right,
        (remedy.mend content).toList = left ++ ("any".toList ++ right) →
          ¬ Narrowable left right) := by
  obtain ⟨pieces, source, result, allowed⟩ := exists_pieces content.toList
  have mended : (remedy.mend content).toList = narrow content.toList := String.toList_ofList
  refine ⟨pieces, source, result.trans mended.symm, allowed, ?_, ?_, ?_⟩
  · intro left word right cut whole other
    exact word_kept allowed (source.trans cut) whole fun same => absurd same other
  · intro left gap gap' tail blank blank' signature cut
    have whole : WholeWord (left ++ ':' :: gap) "any".toList (gap' ++ tail) :=
      wholeWord_any (atWordStart_colon blank) (head_not_word blank' signature.not_word)
    exact word_kept allowed (source.trans cut) whole fun _ => signature.not_narrowable blank'
  · intro apart left right cut
    exact not_narrowable_narrow apart (mended.symm.trans cut)

end LintRepair.Annotation
