import LintRepair.Proofs.Substituting
import LintRepair.Proofs.WhiteSpace
import LintRepair.Remedy.Annotation

/-!
The four narrowings: where each of them has something to do, and what it writes
there.

* `declared?_eq_some_iff`, `promised?_eq_some_iff`, `listed?_eq_some_iff` and
  `recorded?_eq_some_iff`: one by one;
* `Narrowing.narrowed`: what they have in common.
-/

namespace LintRepair.Annotation

variable {previous : Option Char} {s : List Char} {edit : Substitution}

/-! ## Annotations of declarations -/

/-- What ends an annotation, and the text behind it: a semicolon, or an equals sign that begins
neither an arrow nor a comparison, together with the next character. -/
inductive Mark : List Char → List Char → Prop
  | semicolon {rest : List Char} : Mark [';'] rest
  | last : Mark ['='] []
  | assigned {c : Char} {rest : List Char} (other : c ≠ '>' ∧ c ≠ '=') : Mark ['=', c] rest

/-- The annotation of a declaration with its end. -/
def typing (gap type gap' mark : List Char) : List Char :=
  ':' :: (gap ++ (type ++ (gap' ++ mark)))

/-- An `any` that can be narrowed, as the annotation of a declaration, stands here. -/
inductive Declared : List Char → Prop
  | mk {gap gap' mark rest : List Char} (blank : Blank gap) (blank' : Blank gap')
      (marked : Mark mark rest) : Declared (typing gap "any".toList gap' mark ++ rest)

theorem Mark.ne_nil {mark rest : List Char} (h : Mark mark rest) : mark ≠ [] := by
  cases h <;> simp

theorem getLast?_typing {gap type gap' mark : List Char} (ne : mark ≠ []) :
    (typing gap type gap' mark).getLast? = mark.getLast? := by
  have shape : typing gap type gap' mark = (':' :: (gap ++ (type ++ gap'))) ++ mark := by
    simp [typing]
  rw [shape, List.getLast?_append_of_ne_nil _ ne]

theorem Mark.ink {mark rest : List Char} (h : Mark mark rest) :
    ∃ c more, mark = c :: more ∧ isSpace c = false := by
  cases h with
  | semicolon => exact ⟨';', [], rfl, by decide⟩
  | last => exact ⟨'=', [], rfl, by decide⟩
  | assigned => exact ⟨'=', [_], rfl, by decide⟩

theorem ending?_eq_some_iff {ending : List Char} : ending? s = some ending ↔
    ∃ gap mark rest, Blank gap ∧ Mark mark rest ∧ ending = gap ++ mark ∧
      s = gap ++ (mark ++ rest) := by
  constructor
  · intro h
    have blank := blank_takeWhile s
    have cut : s = s.takeWhile isSpace ++ s.dropWhile isSpace :=
      List.takeWhile_append_dropWhile.symm
    unfold ending? at h
    simp only at h
    split at h
    · rename_i rest there
      rw [there] at cut
      exact ⟨_, [';'], rest, blank, .semicolon, (Option.some.inj h).symm, cut⟩
    · rename_i there
      rw [there] at cut
      exact ⟨_, ['='], [], blank, .last, (Option.some.inj h).symm, cut⟩
    · rename_i c rest there
      rw [there] at cut
      split at h
      · cases h
      · rename_i other
        exact ⟨_, ['=', c], rest, blank, .assigned (not_or.mp other), (Option.some.inj h).symm, cut⟩
    · cases h
  · rintro ⟨gap, mark, rest, blank, marked, rfl, rfl⟩
    obtain ⟨c, more, rfl, ink⟩ := marked.ink
    have spaces : (gap ++ (c :: more ++ rest)).takeWhile isSpace = gap := blank.takeWhile_ink ink
    have there : (gap ++ (c :: more ++ rest)).dropWhile isSpace = c :: more ++ rest :=
      blank.dropSpaces_ink ink
    unfold ending?
    rw [spaces, there]
    cases marked with
    | semicolon => rfl
    | last => rfl
    | assigned other => simp [other.1, other.2]

theorem declared?_eq_some_iff : declared? previous s = some edit ↔
    ∃ gap gap' mark rest, Blank gap ∧ Blank gap' ∧ Mark mark rest ∧
      s = typing gap "any".toList gap' mark ++ rest ∧
      edit = ⟨typing gap "unknown".toList gap' mark,
        gap.length + 3 + (gap' ++ mark).length⟩ := by
  have ink : isSpace 'a' = false := by decide
  simp only [declared?, Option.bind_eq_bind, Option.bind_eq_some_iff, ending?_eq_some_iff]
  constructor
  · rintro ⟨s, colon, _, any, _, ⟨gap', mark, rest, blank', marked, rfl, rfl⟩, same⟩
    obtain rfl := after?_eq_some_iff.mp colon
    obtain ⟨gap, blank, rfl⟩ := (after?_dropSpaces_word rfl ink).mp any
    rw [blank.takeWhile_word rfl ink] at same
    refine ⟨gap, gap', mark, rest, blank, blank', marked, ?_, ?_⟩
    · simp [typing]
    · cases same
      simp [typing]
  · rintro ⟨gap, gap', mark, rest, blank, blank', marked, rfl, rfl⟩
    refine ⟨gap ++ ("any".toList ++ (gap' ++ (mark ++ rest))), ?_, gap' ++ (mark ++ rest), ?_,
      gap' ++ mark, ⟨gap', mark, rest, blank', marked, rfl, rfl⟩, ?_⟩
    · simp [typing, after?_eq_some_iff]
    · exact (after?_dropSpaces_word rfl ink).mpr ⟨gap, blank, rfl⟩
    · rw [blank.takeWhile_word rfl ink]
      simp [typing]

theorem isSome_declared?_iff : (declared? previous s).isSome = true ↔ Declared s := by
  rw [Option.isSome_iff_exists]
  constructor
  · rintro ⟨edit, h⟩
    obtain ⟨gap, gap', mark, rest, blank, blank', marked, rfl, _⟩ := declared?_eq_some_iff.mp h
    exact .mk blank blank' marked
  · rintro ⟨blank, blank', marked⟩
    exact ⟨_, declared?_eq_some_iff.mpr ⟨_, _, _, _, blank, blank', marked, rfl, rfl⟩⟩

/-! ## The other places -/

theorem guarded_eq_some_iff {word : List Char} {e : Substitution} :
    (do guard (atWordStart previous); let _ ← after? word s; return e) = some edit ↔
      atWordStart previous = true ∧ ∃ rest, s = word ++ rest ∧ edit = e := by
  simp only [Option.bind_eq_bind, Option.bind_eq_some_iff, Option.guard_eq_some', exists_const,
    after?_eq_some_iff, Option.pure_def, Option.some.injEq]
  refine and_congr_right fun _ => exists_congr fun rest => and_congr_right fun _ => eq_comm

theorem promised?_eq_some_iff : promised? previous s = some edit ↔
    atWordStart previous = true ∧
      ∃ rest, s = "Promise<any>".toList ++ rest ∧ edit = ⟨"Promise<unknown>".toList, 11⟩ :=
  guarded_eq_some_iff

theorem listed?_eq_some_iff : listed? previous s = some edit ↔
    atWordStart previous = true ∧
      ∃ rest, s = "any[]".toList ++ rest ∧ edit = ⟨"unknown[]".toList, 4⟩ :=
  guarded_eq_some_iff

theorem recorded?_eq_some_iff : recorded? previous s = some edit ↔
    atWordStart previous = true ∧
      ∃ gap rest, Blank gap ∧ s = "Record<string,".toList ++ (gap ++ ("any>".toList ++ rest)) ∧
        edit = ⟨"Record<string, unknown>".toList, 17 + gap.length⟩ := by
  have ink : isSpace 'a' = false := by decide
  simp only [recorded?, Option.bind_eq_bind, Option.bind_eq_some_iff, Option.guard_eq_some',
    exists_const]
  refine and_congr_right fun _ => ⟨?_, ?_⟩
  · rintro ⟨s, record, rest, any, same⟩
    obtain rfl := after?_eq_some_iff.mp record
    obtain ⟨gap, blank, rfl⟩ := (after?_dropSpaces_word rfl ink).mp any
    rw [blank.takeWhile_word rfl ink] at same
    exact ⟨gap, rest, blank, rfl, (Option.some.inj same).symm⟩
  · rintro ⟨gap, rest, blank, rfl, rfl⟩
    refine ⟨gap ++ ("any>".toList ++ rest), after?_eq_some_iff.mpr rfl, rest, ?_, ?_⟩
    · exact (after?_dropSpaces_word rfl ink).mpr ⟨gap, blank, rfl⟩
    · rw [blank.takeWhile_word rfl ink]
      rfl

/-! ## What they have in common -/

/-- A narrowing, with the first character of what it looks for and of what it writes. -/
inductive Narrowing :
    (Option Char → List Char → Option Substitution) → Char → Char → Prop
  | declared : Narrowing declared? ':' ':'
  | promised : Narrowing promised? 'P' 'P'
  | listed : Narrowing listed? 'a' 'u'
  | recorded : Narrowing recorded? 'R' 'R'

/-- What a narrowing writes for a part of the text: the part with one `any` less. Only the first
narrowing takes colons. -/
structure Narrowed (start head : Char) (part text : List Char) : Prop extends
    Replaces start head part text where
  fewer : text.count 'a' + 1 = part.count 'a'
  colon : ':' ∈ part → start = ':'

namespace Narrowing

variable {offer : Option Char → List Char → Option Substitution} {start head : Char}

theorem narrowed (narrowing : Narrowing offer start head) (h : offer previous s = some edit) :
    ∃ part rest, s = part ++ rest ∧ edit.further + 1 = part.length ∧
      Narrowed start head part edit.text := by
  cases narrowing with
  | declared =>
    obtain ⟨gap, gap', mark, rest, blank, blank', marked, rfl, rfl⟩ := declared?_eq_some_iff.mp h
    refine ⟨_, rest, rfl, ?_, ⟨rfl, rfl, ?_⟩, ?_, fun _ => rfl⟩
    · simp [typing]
      omega
    · rw [getLast?_typing marked.ne_nil, getLast?_typing marked.ne_nil]
    · simp [typing]
      omega
  | promised =>
    obtain ⟨_, rest, rfl, rfl⟩ := promised?_eq_some_iff.mp h
    exact ⟨_, rest, rfl, by decide, ⟨by decide, by decide, by decide⟩, by decide, by decide⟩
  | listed =>
    obtain ⟨_, rest, rfl, rfl⟩ := listed?_eq_some_iff.mp h
    exact ⟨_, rest, rfl, by decide, ⟨by decide, by decide, by decide⟩, by decide, by decide⟩
  | recorded =>
    obtain ⟨_, gap, rest, blank, rfl, rfl⟩ := recorded?_eq_some_iff.mp h
    have letter : gap.count 'a' = 0 := List.count_eq_zero.mpr (blank.not_mem (by decide))
    have colon : ':' ∉ gap := blank.not_mem (by decide)
    refine ⟨"Record<string,".toList ++ (gap ++ "any>".toList), rest, by simp, ?_, ⟨rfl, rfl, ?_⟩,
      ?_, ?_⟩
    · simp
      omega
    · rw [List.getLast?_append, List.getLast?_append]
      rfl
    · simp [List.count_append, letter]
    · simp [colon]

theorem offers (narrowing : Narrowing offer start head) : Offers offer start head := by
  intro previous s edit h
  obtain ⟨part, rest, cut, width, narrowed⟩ := narrowing.narrowed h
  exact ⟨part, rest, cut, width, narrowed.toReplaces⟩

theorem narrowed_part (narrowing : Narrowing offer start head) {part text : List Char}
    {further : Nat} (taken : offer previous (part ++ s) = some ⟨text, further⟩)
    (width : further + 1 = part.length) : Narrowed start head part text := by
  obtain ⟨part', rest, cut, width', narrowed⟩ := narrowing.narrowed taken
  obtain ⟨rfl, _⟩ := List.append_inj cut (width.symm.trans width')
  exact narrowed

end Narrowing

end LintRepair.Annotation
