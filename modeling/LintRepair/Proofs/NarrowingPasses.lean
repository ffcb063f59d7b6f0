import LintRepair.Proofs.Narrowings

/-!
What one pass of a narrowing does to the places where narrowings have something to
do. No pass makes a place for any of them (`Narrowing.refuses_copied`), and the last
three passes leave nothing for themselves (`Narrowing.untouched_later`). Whatever a
pass does behind the colon of an annotation, the annotation stays
(`Narrowing.declared_kept`).
-/

namespace LintRepair.Annotation

variable {offer other : Option Char → List Char → Option Substitution}
  {start head start' head' : Char} {previous : Option Char} {s t part text : List Char}
  {further : Nat}

/-! ## Annotations before and after a pass -/

/-- A declared type ends before this text. -/
inductive Ends : List Char → Prop
  | semicolon {rest : List Char} : Ends (';' :: rest)
  | equals {rest : List Char} (other : ∀ c ∈ rest.head?, c ≠ '>' ∧ c ≠ '=') : Ends ('=' :: rest)

theorem ends_iff : Ends s ↔ ∃ mark rest, Mark mark rest ∧ s = mark ++ rest := by
  constructor
  · rintro (_ | @⟨rest, other⟩)
    · exact ⟨[';'], _, .semicolon, rfl⟩
    · cases rest with
      | nil => exact ⟨['='], [], .last, rfl⟩
      | cons c rest => exact ⟨['=', c], rest, .assigned (other c rfl), rfl⟩
  · rintro ⟨_, _, _ | _ | other, rfl⟩
    · exact .semicolon
    · exact .equals (by simp)
    · refine .equals ?_
      rintro c ⟨⟩
      exact other

theorem declared_iff : Declared s ↔ ∃ gap gap' tail, Blank gap ∧ Blank gap' ∧ Ends tail ∧
    s = ':' :: (gap ++ ("any".toList ++ (gap' ++ tail))) := by
  constructor
  · rintro @⟨gap, gap', mark, rest, blank, blank', marked⟩
    exact ⟨gap, gap', mark ++ rest, blank, blank', ends_iff.mpr ⟨mark, rest, marked, rfl⟩,
      by simp [typing]⟩
  · rintro ⟨gap, gap', tail, blank, blank', ends, rfl⟩
    obtain ⟨mark, rest, marked, rfl⟩ := ends_iff.mp ends
    have whole : ':' :: (gap ++ ("any".toList ++ (gap' ++ (mark ++ rest)))) =
        typing gap "any".toList gap' mark ++ rest := by simp [typing]
    rw [whole]
    exact .mk blank blank' marked

namespace Narrowing

theorem ink (narrowing : Narrowing offer start head) :
    isSpace start = false ∧ isSpace head = false := by
  cases narrowing <;> decide

/-- No narrowing begins or writes anything that ends a declared type. -/
theorem not_end (narrowing : Narrowing offer start head) :
    (start ≠ '>' ∧ start ≠ '=' ∧ start ≠ ';') ∧ head ≠ '>' ∧ head ≠ '=' ∧ head ≠ ';' := by
  cases narrowing <;> decide

theorem ends_of_ends (narrowing : Narrowing offer start head) (h : Substituted offer previous s t)
    (ends : Ends t) : Ends s := by
  obtain ⟨⟨arrow, equals, _⟩, _, equals', semicolon'⟩ := narrowing.not_end
  cases ends with
  | semicolon =>
    obtain ⟨rest, rfl, _⟩ := h.reflected (w := [';']) narrowing.offers (by simpa using semicolon')
    exact .semicolon
  | equals other =>
    obtain ⟨rest, rfl, behind⟩ := h.reflected (w := ['=']) narrowing.offers (by simpa using equals')
    refine .equals fun c first => ?_
    rcases behind.head_eq narrowing.offers with same | ⟨first', _⟩
    · exact other c (same ▸ first)
    · obtain rfl : start = c := Option.some.inj (first'.symm.trans first)
      exact ⟨arrow, equals⟩

theorem ends_kept (narrowing : Narrowing offer start head) (h : Substituted offer previous s t)
    (ends : Ends s) : Ends t := by
  obtain ⟨⟨_, equals, semicolon⟩, arrow', equals', _⟩ := narrowing.not_end
  cases ends with
  | semicolon =>
    obtain ⟨rest, rfl, _⟩ := h.copied (w := [';']) narrowing.offers (by simpa using semicolon)
    exact .semicolon
  | equals other =>
    obtain ⟨rest, rfl, behind⟩ := h.copied (w := ['=']) narrowing.offers (by simpa using equals)
    refine .equals fun c first => ?_
    rcases behind.head_eq narrowing.offers with same | ⟨_, first'⟩
    · exact other c (same.symm ▸ first)
    · obtain rfl : head = c := Option.some.inj (first'.symm.trans first)
      exact ⟨arrow', equals'⟩

/-- No pass makes an annotation that was not there. -/
theorem declared_of_declared (narrowing : Narrowing offer start head) {c : Char}
    (h : Substituted offer (some c) s t) (declared : Declared (c :: t)) : Declared (c :: s) := by
  obtain ⟨gap, gap', tail, blank, blank', ends, whole⟩ := declared_iff.mp declared
  obtain ⟨rfl, rfl⟩ := List.cons.inj whole
  have absent : head ∉ gap ++ ("any".toList ++ gap') := by
    have letters : head ∉ "any".toList := by cases narrowing <;> decide
    simp only [List.mem_append, not_or]
    exact ⟨blank.not_mem narrowing.ink.2, letters, blank'.not_mem narrowing.ink.2⟩
  have shape : gap ++ ("any".toList ++ (gap' ++ tail)) =
      (gap ++ ("any".toList ++ gap')) ++ tail := by simp
  rw [shape] at h
  obtain ⟨rest, rfl, behind⟩ := h.reflected narrowing.offers absent
  refine declared_iff.mpr ⟨gap, gap', rest, blank, blank', narrowing.ends_of_ends behind ends, ?_⟩
  simp

/-- What is declared as `any` is not a list of it. -/
theorem refuses_any (narrowing : Narrowing offer start head) {gap tail : List Char}
    (blank : Blank gap) (ends : Ends tail) :
    offer previous ('a' :: ("ny".toList ++ (gap ++ tail))) = none := by
  cases narrowing with
  | listed =>
    cases found : listed? previous ('a' :: ("ny".toList ++ (gap ++ tail))) with
    | none => rfl
    | some edit =>
      obtain ⟨_, rest, whole, _⟩ := listed?_eq_some_iff.mp found
      have behind : gap ++ tail = '[' :: ']' :: rest := by simpa using whole
      cases gap with
      | nil =>
        rw [List.nil_append] at behind
        rw [behind] at ends
        cases ends
      | cons c gap =>
        obtain ⟨rfl, _⟩ := List.cons.inj behind
        exact absurd List.mem_cons_self (blank.not_mem (show isSpace '[' = false by decide))
  | declared => exact declared.offers.refuses (by decide)
  | promised => exact promised.offers.refuses (by decide)
  | recorded => exact recorded.offers.refuses (by decide)

/-- Behind its colon, an annotation is seen by no pass. -/
theorem declared_kept (narrowing : Narrowing offer start head)
    (h : Substituted offer (some ':') s t) (declared : Declared (':' :: s)) :
    Declared (':' :: t) := by
  obtain ⟨gap, gap', tail, blank, blank', ends, whole⟩ := declared_iff.mp declared
  obtain ⟨_, rfl⟩ := List.cons.inj whole
  have absent : start ∉ "ny".toList ++ gap' := by
    have letters : start ∉ "ny".toList := by cases narrowing <;> decide
    simp only [List.mem_append, not_or]
    exact ⟨letters, blank'.not_mem narrowing.ink.1⟩
  obtain ⟨_, rfl, atAny⟩ := h.copied narrowing.offers (blank.not_mem narrowing.ink.1)
  have shape : "any".toList ++ (gap' ++ tail) = 'a' :: (("ny".toList ++ gap') ++ tail) := by simp
  rw [shape] at atAny
  obtain ⟨_, rfl, behind⟩ := atAny.of_refused (by
    rw [List.append_assoc]
    exact narrowing.refuses_any blank' ends)
  obtain ⟨rest, rfl, atEnd⟩ := behind.copied narrowing.offers absent
  refine declared_iff.mpr ⟨gap, gap', rest, blank, blank', narrowing.ends_kept atEnd ends, ?_⟩
  simp

end Narrowing

/-! ## What a pass leaves to do -/

theorem declared?_eq_none_iff : declared? previous s = none ↔ ¬ Declared s := by
  rw [← isSome_declared?_iff, Option.not_isSome_iff_eq_none]

namespace Narrowing

/-- A word of the text was there before the pass, if the pass cannot have written it. -/
theorem reflects_word (narrowing : Narrowing offer start head) {c : Char} {word rest : List Char}
    (h : Substituted offer (some c) s t) (ne : word ≠ []) (cut : c :: t = word ++ rest)
    (absent : head ∉ word.tail) : ∃ rest', c :: s = word ++ rest' := by
  cases word with
  | nil => exact absurd rfl ne
  | cons d word =>
    obtain ⟨rfl, rfl⟩ := List.cons.inj cut
    obtain ⟨rest', rfl, _⟩ := h.reflected narrowing.offers absent
    exact ⟨rest', rfl⟩

/-- Where a narrowing had nothing to do, it still has not after a pass that did nothing there. -/
theorem refuses_copied (narrowing : Narrowing offer start head)
    (narrowing' : Narrowing other start' head') {c : Char} (h : Substituted offer (some c) s t)
    (refused : other previous (c :: s) = none) : other previous (c :: t) = none := by
  cases found : other previous (c :: t) with
  | none => rfl
  | some edit =>
    refine absurd refused (Option.ne_none_iff_exists'.mpr ?_)
    cases narrowing' with
    | declared =>
      have declared := isSome_declared?_iff.mp (Option.isSome_iff_exists.mpr ⟨edit, found⟩)
      exact Option.isSome_iff_exists.mp
        (isSome_declared?_iff.mpr (narrowing.declared_of_declared h declared))
    | promised =>
      obtain ⟨boundary, rest, cut, _⟩ := promised?_eq_some_iff.mp found
      obtain ⟨rest', cut'⟩ :=
        narrowing.reflects_word h (by decide) cut (by cases narrowing <;> decide)
      exact ⟨_, promised?_eq_some_iff.mpr ⟨boundary, rest', cut', rfl⟩⟩
    | listed =>
      obtain ⟨boundary, rest, cut, _⟩ := listed?_eq_some_iff.mp found
      obtain ⟨rest', cut'⟩ :=
        narrowing.reflects_word h (by decide) cut (by cases narrowing <;> decide)
      exact ⟨_, listed?_eq_some_iff.mpr ⟨boundary, rest', cut', rfl⟩⟩
    | recorded =>
      obtain ⟨boundary, gap, rest, blank, cut, _⟩ := recorded?_eq_some_iff.mp found
      have shape (rest : List Char) : "Record<string,".toList ++ (gap ++ ("any>".toList ++ rest)) =
          ("Record<string,".toList ++ (gap ++ "any>".toList)) ++ rest := by simp
      have absent : head ∉ "ecord<string,".toList ++ (gap ++ "any>".toList) := by
        have letters : head ∉ "ecord<string,".toList ∧ head ∉ "any>".toList := by
          cases narrowing <;> decide
        simp only [List.mem_append, not_or]
        exact ⟨letters.1, blank.not_mem narrowing.ink.2, letters.2⟩
      rw [shape] at cut
      obtain ⟨rest', cut'⟩ := narrowing.reflects_word h (by simp) cut absent
      rw [← shape] at cut'
      exact ⟨_, recorded?_eq_some_iff.mpr ⟨boundary, gap, rest', blank, cut', rfl⟩⟩

/-- What is written has nothing for a narrowing in it if it has none at its start, and no other
narrowing can begin in it. -/
theorem untouched_written (narrowing' : Narrowing other start' head') (ne : text ≠ [])
    (refused : other previous (text ++ t) = none) (absent : start' ∉ text.tail)
    (h : Untouched other (lastOf previous text) t) : Untouched other previous (text ++ t) := by
  cases text with
  | nil => exact absurd rfl ne
  | cons c text =>
    rw [lastOf_cons] at h
    exact ⟨refused, h.append narrowing'.offers absent⟩

/-- The texts that the later narrowings write have nothing for any narrowing in them. -/
theorem untouched_edited (narrowing : Narrowing offer start head) (later : start ≠ ':')
    (narrowing' : Narrowing other start' head')
    (taken : offer previous (part ++ s) = some ⟨text, further⟩) (width : further + 1 = part.length)
    (h : Untouched other (lastOf previous part) t) : Untouched other previous (text ++ t) := by
  rw [lastOf, ← (narrowing.offers.replaces taken width).ends] at h
  cases narrowing with
  | declared => exact absurd rfl later
  | promised =>
    obtain ⟨_, _, _, same⟩ := promised?_eq_some_iff.mp taken
    cases same
    refine narrowing'.untouched_written (by decide) ?_ (by cases narrowing' <;> decide) h
    cases narrowing' with
    | promised =>
      rw [promised?]
      cases atWordStart previous <;> rfl
    | declared => exact declared.offers.refuses (by decide)
    | listed => exact listed.offers.refuses (by decide)
    | recorded => exact recorded.offers.refuses (by decide)
  | listed =>
    obtain ⟨_, _, _, same⟩ := listed?_eq_some_iff.mp taken
    cases same
    refine narrowing'.untouched_written (by decide) ?_ (by cases narrowing' <;> decide) h
    exact narrowing'.offers.refuses (by cases narrowing' <;> decide)
  | recorded =>
    obtain ⟨_, _, _, _, _, same⟩ := recorded?_eq_some_iff.mp taken
    cases same
    refine narrowing'.untouched_written (by decide) ?_ (by cases narrowing' <;> decide) h
    cases narrowing' with
    | recorded =>
      rw [recorded?]
      cases atWordStart previous <;> rfl
    | declared => exact declared.offers.refuses (by decide)
    | listed => exact listed.offers.refuses (by decide)
    | promised => exact promised.offers.refuses (by decide)

/-- A later narrowing leaves nothing for itself, and nothing for one that had nothing to do
before. -/
theorem untouched_later (narrowing : Narrowing offer start head) (later : start ≠ ':')
    (narrowing' : Narrowing other start' head') (h : Substituted offer previous s t)
    (idle : other = offer ∨ Untouched other previous s) : Untouched other previous t :=
  h.untouched (fun _ _ _ _ => narrowing.refuses_copied narrowing')
    (fun _ _ _ _ _ _ => narrowing.untouched_edited later narrowing') idle

end Narrowing

end LintRepair.Annotation
