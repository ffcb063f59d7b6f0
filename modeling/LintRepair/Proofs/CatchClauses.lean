import LintRepair.Proofs.WhiteSpace
import LintRepair.Remedy.CatchClause

/-!
The catch clauses of a line: what they look like, and that they are recognised
where they stand.

* `afterClause?_eq_some_iff`: a clause with the name is recognised, whatever the
  name is and however it is spaced, and nothing else is;
* `replaceFirst?_eq_some` and `replaceFirst?_eq_none`: what is replaced is the first
  thing that is recognised;
* `Binding.ext_length`: at most one clause begins at a place.
-/

namespace LintRepair.CatchClause

/-- The type that a binding may be annotated with, behind a colon. -/
inductive Annotated : List Char → Prop
  | bare : Annotated []
  | typed {gap gap' type : List Char} (blank : Blank gap) (blank' : Blank gap')
      (known : type = "unknown".toList ∨ type = "any".toList) :
      Annotated (gap ++ ':' :: (gap' ++ type))

/-- The end `) {` of a clause. -/
inductive Closing : List Char → Prop
  | mk {gap gap' : List Char} (blank : Blank gap) (blank' : Blank gap') :
      Closing (gap ++ ')' :: (gap' ++ ['{']))

/-- A clause `catch (name) {`. -/
inductive Clause (name : List Char) : List Char → Prop
  | mk {gap gap' note closing : List Char} (blank : Blank gap) (blank' : Blank gap')
      (noted : Annotated note) (closed : Closing closing) :
      Clause name ("catch".toList ++ (gap ++ '(' :: (gap' ++ (name ++ (note ++ closing)))))

/-- A clause `catch {` without a binding. -/
inductive Bare : List Char → Prop
  | mk {gap : List Char} (blank : Blank gap) : Bare ("catch".toList ++ (gap ++ ['{']))

variable {name s rest : List Char}

/-! ## Recognising a clause -/

theorem afterClosing?_eq_some_iff :
    afterClosing? s = some rest ↔ ∃ closing, Closing closing ∧ s = closing ++ rest := by
  have ink : isSpace ')' = false ∧ isSpace '{' = false := by decide
  simp only [afterClosing?, Option.bind_eq_bind, Option.bind_eq_some_iff,
    after?_dropSpaces_eq_some_iff ink.1, after?_dropSpaces_eq_some_iff ink.2]
  constructor
  · rintro ⟨_, ⟨gap, blank, rfl⟩, gap', blank', rfl⟩
    exact ⟨_, .mk blank blank', by simp⟩
  · rintro ⟨_, @⟨gap, gap', blank, blank'⟩, rfl⟩
    exact ⟨gap' ++ '{' :: rest, ⟨gap, blank, by simp⟩, gap', blank', rfl⟩

theorem afterAnnotation?_eq_some_iff :
    afterAnnotation? s = some rest ↔ ∃ gap gap' type, Blank gap ∧ Blank gap' ∧
      (type = "unknown".toList ∨ type = "any".toList) ∧
      s = gap ++ ':' :: (gap' ++ (type ++ rest)) := by
  have ink : isSpace ':' = false ∧ isSpace 'u' = false ∧ isSpace 'a' = false := by decide
  have types (s : List Char) : ((after? "unknown".toList (dropSpaces s)).or
      (after? "any".toList (dropSpaces s))) = some rest ↔
        after? "unknown".toList (dropSpaces s) = some rest ∨
          after? "any".toList (dropSpaces s) = some rest := by
    rw [Option.or_eq_some_iff]
    constructor
    · exact Or.imp_right And.right
    · rintro (h | h)
      · exact .inl h
      · refine .inr ⟨?_, h⟩
        rw [after?_eq_some_iff.mp h]
        rfl
  simp only [afterAnnotation?, Option.bind_eq_bind, Option.bind_eq_some_iff, types]
  constructor
  · rintro ⟨_, colon, type⟩
    obtain ⟨gap, blank, rfl⟩ := (after?_dropSpaces_eq_some_iff ink.1).mp colon
    rcases type with type | type
    · obtain ⟨gap', blank', rfl⟩ := (after?_dropSpaces_word rfl ink.2.1).mp type
      exact ⟨gap, gap', _, blank, blank', .inl rfl, rfl⟩
    · obtain ⟨gap', blank', rfl⟩ := (after?_dropSpaces_word rfl ink.2.2).mp type
      exact ⟨gap, gap', _, blank, blank', .inr rfl, rfl⟩
  · rintro ⟨gap, gap', type, blank, blank', known, rfl⟩
    refine ⟨_, (after?_dropSpaces_eq_some_iff ink.1).mpr ⟨gap, blank, rfl⟩, ?_⟩
    rcases known with rfl | rfl
    · exact .inl ((after?_dropSpaces_word rfl ink.2.1).mpr ⟨gap', blank', rfl⟩)
    · exact .inr ((after?_dropSpaces_word rfl ink.2.2).mpr ⟨gap', blank', rfl⟩)

/-- What is left behind the end of a clause, where an annotation may come first. -/
def afterTail? (s : List Char) : Option (List Char) :=
  ((afterAnnotation? s).bind afterClosing?).or (afterClosing? s)

theorem afterName?_eq (name s : List Char) :
    afterName? name s = (after? name s).bind afterTail? := rfl

theorem afterTail?_dropSpaces (s : List Char) : afterTail? (dropSpaces s) = afterTail? s := by
  have twice : dropSpaces (dropSpaces s) = dropSpaces s := List.dropWhile_idempotent isSpace s
  rw [afterTail?, afterAnnotation?, afterClosing?, twice]
  rfl

theorem afterTail?_eq_some_iff : afterTail? s = some rest ↔
    ∃ note closing, Annotated note ∧ Closing closing ∧ s = note ++ (closing ++ rest) := by
  rw [afterTail?, Option.or_eq_some_iff]
  constructor
  · rintro (h | ⟨_, h⟩)
    · obtain ⟨_, noted, ends⟩ := Option.bind_eq_some_iff.mp h
      obtain ⟨gap, gap', type, blank, blank', known, rfl⟩ := afterAnnotation?_eq_some_iff.mp noted
      obtain ⟨closing, closed, rfl⟩ := afterClosing?_eq_some_iff.mp ends
      exact ⟨_, closing, .typed blank blank' known, closed, by simp⟩
    · obtain ⟨closing, closed, rfl⟩ := afterClosing?_eq_some_iff.mp h
      exact ⟨[], closing, .bare, closed, rfl⟩
  · rintro ⟨note, closing, noted, closed, rfl⟩
    have ends : afterClosing? (closing ++ rest) = some rest :=
      afterClosing?_eq_some_iff.mpr ⟨closing, closed, rfl⟩
    cases noted with
    | bare =>
      refine .inr ⟨?_, ends⟩
      -- Where the binding ends, there is no colon.
      obtain ⟨blank, _⟩ := closed
      rw [afterAnnotation?, List.nil_append, List.append_assoc, List.cons_append,
        blank.dropSpaces_ink (by decide)]
      rfl
    | typed blank blank' known =>
      refine .inl (Option.bind_eq_some_iff.mpr ⟨closing ++ rest, ?_, ends⟩)
      exact afterAnnotation?_eq_some_iff.mpr ⟨_, _, _, blank, blank', known, by simp⟩

theorem mem_afterSpaces {s t : List Char} :
    t ∈ afterSpaces s ↔ ∃ gap, Blank gap ∧ s = gap ++ t := by
  induction s with
  | nil =>
    simp only [afterSpaces, List.mem_singleton]
    constructor
    · rintro rfl
      exact ⟨[], blank_nil, rfl⟩
    · rintro ⟨gap, _, h⟩
      exact (List.append_eq_nil_iff.mp h.symm).2
  | cons c s ih =>
    rw [afterSpaces]
    constructor
    · intro h
      split at h
      · rename_i space
        rcases List.mem_append.mp h with h | h
        · obtain ⟨gap, blank, rfl⟩ := ih.mp h
          refine ⟨c :: gap, ?_, rfl⟩
          exact List.forall_mem_cons.mpr ⟨space, blank⟩
        · exact ⟨[], blank_nil, (List.mem_singleton.mp h).symm⟩
      · exact ⟨[], blank_nil, (List.mem_singleton.mp h).symm⟩
    · rintro ⟨gap, blank, h⟩
      cases gap with
      | nil =>
        rw [List.nil_append] at h
        rw [← h]
        split <;> simp
      | cons d gap =>
        obtain ⟨rfl, rfl⟩ := List.cons.inj h
        obtain ⟨space, blank⟩ := List.forall_mem_cons.mp blank
        rw [if_pos space]
        exact List.mem_append_left _ (ih.mpr ⟨gap, blank, rfl⟩)

/-- Where a name can be read at several places, since it begins with white space, the clause ends
at the same place all the same. -/
theorem afterName?_unique {gap gap' t t' rest' : List Char} (blank : Blank gap)
    (blank' : Blank gap') (same : gap ++ t = gap' ++ t') (h : afterName? name t = some rest)
    (h' : afterName? name t' = some rest') : rest = rest' := by
  rw [afterName?_eq] at h h'
  obtain ⟨u, named, tail⟩ := Option.bind_eq_some_iff.mp h
  obtain ⟨u', named', tail'⟩ := Option.bind_eq_some_iff.mp h'
  obtain rfl := after?_eq_some_iff.mp named
  obtain rfl := after?_eq_some_iff.mp named'
  have ink : dropSpaces (name ++ u) = dropSpaces (name ++ u') := by
    rw [← blank.dropSpaces_append, same, blank'.dropSpaces_append]
  by_cases spaces : Blank name
  · rw [spaces.dropSpaces_append, spaces.dropSpaces_append] at ink
    rw [← afterTail?_dropSpaces, ink, afterTail?_dropSpaces, tail'] at tail
    exact (Option.some.inj tail).symm
  · have printed : ¬ (name.dropWhile isSpace).isEmpty = true := by
      simpa [Blank] using spaces
    rw [dropSpaces, dropSpaces, List.dropWhile_append, if_neg printed, List.dropWhile_append,
      if_neg printed] at ink
    rw [List.append_cancel_left ink, tail'] at tail
    exact (Option.some.inj tail).symm

theorem afterClause?_eq_some_iff :
    afterClause? name s = some rest ↔ ∃ clause, Clause name clause ∧ s = clause ++ rest := by
  have ink : isSpace '(' = false := by decide
  simp only [afterClause?, Option.bind_eq_bind, Option.bind_eq_some_iff,
    after?_dropSpaces_eq_some_iff ink, after?_eq_some_iff]
  constructor
  · rintro ⟨_, rfl, _, ⟨gap, blank, rfl⟩, h⟩
    obtain ⟨t, found, here⟩ := List.exists_of_findSome?_eq_some h
    obtain ⟨gap', blank', rfl⟩ := mem_afterSpaces.mp found
    rw [afterName?_eq] at here
    obtain ⟨u, named, tail⟩ := Option.bind_eq_some_iff.mp here
    obtain rfl := after?_eq_some_iff.mp named
    obtain ⟨note, closing, noted, closed, rfl⟩ := afterTail?_eq_some_iff.mp tail
    exact ⟨_, .mk blank blank' noted closed, by simp⟩
  · rintro ⟨_, @⟨gap, gap', note, closing, blank, blank', noted, closed⟩, rfl⟩
    refine ⟨gap ++ '(' :: (gap' ++ (name ++ (note ++ (closing ++ rest)))), by simp,
      gap' ++ (name ++ (note ++ (closing ++ rest))), ⟨gap, blank, by simp⟩, ?_⟩
    have here : afterName? name (name ++ (note ++ (closing ++ rest))) = some rest := by
      rw [afterName?_eq, after?_eq_some_iff.mpr rfl]
      exact afterTail?_eq_some_iff.mpr ⟨note, closing, noted, closed, rfl⟩
    cases found : (afterSpaces (gap' ++ (name ++ (note ++ (closing ++ rest))))).findSome?
        (afterName? name) with
    | none =>
      have missed := List.findSome?_eq_none_iff.mp found _
        (mem_afterSpaces.mpr ⟨gap', blank', rfl⟩)
      rw [here] at missed
      cases missed
    | some other =>
      obtain ⟨t, member, there⟩ := List.exists_of_findSome?_eq_some found
      obtain ⟨gap'', blank'', same⟩ := mem_afterSpaces.mp member
      rw [afterName?_unique blank' blank'' same here there]

theorem clause_iff {clause : List Char} :
    afterClause? name clause = some [] ↔ Clause name clause := by
  simp [afterClause?_eq_some_iff]

instance (name clause : List Char) : Decidable (Clause name clause) := decidable_of_iff _ clause_iff

theorem afterWord?_eq_some_iff {previous : Option Char} :
    afterWord? name previous s = some rest ↔
      atWordStart previous = true ∧ ∃ clause, Clause name clause ∧ s = clause ++ rest := by
  rw [afterWord?]
  split <;> simp [*, afterClause?_eq_some_iff]

theorem Clause.cons {clause : List Char} (h : Clause name clause) :
    ∃ more, clause = 'c' :: more := by
  cases h
  exact ⟨_, rfl⟩

theorem afterBraced?_eq_some_iff {previous : Option Char} :
    afterBraced? name previous s = some rest ↔
      ∃ gap clause, Blank gap ∧ Clause name clause ∧ s = '}' :: (gap ++ (clause ++ rest)) := by
  simp only [afterBraced?, Option.bind_eq_bind, Option.bind_eq_some_iff, after?_eq_some_iff,
    afterClause?_eq_some_iff]
  constructor
  · rintro ⟨s, rfl, clause, shape, h⟩
    refine ⟨s.takeWhile isSpace, clause, blank_takeWhile s, shape, ?_⟩
    rw [← h, dropSpaces, List.takeWhile_append_dropWhile]
    rfl
  · rintro ⟨gap, clause, blank, shape, rfl⟩
    obtain ⟨more, rfl⟩ := shape.cons
    exact ⟨_, rfl, _, shape, blank.dropSpaces_ink (by decide)⟩

theorem afterBare?_eq_some_iff {previous : Option Char} :
    afterBare? previous s = some rest ↔
      atWordStart previous = true ∧ ∃ clause, Bare clause ∧ s = clause ++ rest := by
  have ink : isSpace '{' = false := by decide
  simp only [afterBare?, Option.bind_eq_bind, Option.bind_eq_some_iff, Option.guard_eq_some',
    after?_eq_some_iff, after?_dropSpaces_eq_some_iff ink, exists_const]
  constructor
  · rintro ⟨start, _, rfl, gap, blank, rfl⟩
    exact ⟨start, _, .mk blank, by simp⟩
  · rintro ⟨start, _, ⟨blank⟩, rfl⟩
    exact ⟨start, _, by rw [List.append_assoc], _, blank, by simp⟩

/-! ## The first thing that is recognised -/

section
variable {recognise : Option Char → List Char → Option (List Char)} {previous : Option Char}
  {text out : List Char}

/-- The first place at which something is recognised, with what is left behind it. -/
structure First (recognise : Option Char → List Char → Option (List Char))
    (previous : Option Char) (s passed here rest : List Char) : Prop where
  cut : s = passed ++ here
  found : recognise (lastOf previous passed) here = some rest
  nowhere : ∀ sooner later, s = sooner ++ later → sooner.length < passed.length →
    recognise (lastOf previous sooner) later = none

theorem replaceFirst?_eq_some (h : replaceFirst? recognise text previous s = some out) :
    ∃ passed here rest, First recognise previous s passed here rest ∧
      out = passed ++ (text ++ rest) := by
  induction s generalizing previous out with
  | nil => cases h
  | cons c s ih =>
    rw [replaceFirst?] at h
    cases here : recognise previous (c :: s) with
    | some rest =>
      simp only [here, Option.some.injEq] at h
      exact ⟨[], c :: s, rest, ⟨rfl, here, by simp⟩, h.symm⟩
    | none =>
      simp only [here] at h
      obtain ⟨replaced, later, rfl⟩ := Option.map_eq_some_iff.mp h
      obtain ⟨passed, there, rest, first, rfl⟩ := ih later
      refine ⟨c :: passed, there, rest, ⟨?_, ?_, ?_⟩, rfl⟩
      · rw [first.cut, List.cons_append]
      · rw [lastOf_cons, first.found]
      · intro sooner after cut shorter
        cases sooner with
        | nil =>
          rw [List.nil_append] at cut
          rw [← cut]
          exact here
        | cons d sooner =>
          obtain ⟨rfl, behind⟩ := List.cons.inj cut
          rw [lastOf_cons]
          exact first.nowhere sooner after behind (by simpa using shorter)

theorem replaceFirst?_eq_none (h : replaceFirst? recognise text previous s = none)
    {passed here : List Char} (cut : s = passed ++ here) (ne : here ≠ []) :
    recognise (lastOf previous passed) here = none := by
  induction s generalizing previous passed with
  | nil => exact absurd (List.append_eq_nil_iff.mp cut.symm).2 ne
  | cons c s ih =>
    rw [replaceFirst?] at h
    cases first : recognise previous (c :: s) with
    | some rest =>
      rw [first] at h
      cases h
    | none =>
      rw [first] at h
      cases passed with
      | nil =>
        rw [List.nil_append] at cut
        rw [← cut]
        exact first
      | cons d passed =>
        obtain ⟨rfl, behind⟩ := List.cons.inj cut
        rw [lastOf_cons]
        exact ih (Option.map_eq_none_iff.mp h) behind

end

/-! ## Clauses of a line -/

/-- A clause of the line that binds the name. -/
@[ext]
structure Binding (name line : List Char) where
  before : List Char
  clause : List Char
  after : List Char
  cut : line = before ++ (clause ++ after)
  start : atWordStart before.getLast? = true
  shape : Clause name clause

/-- A clause without a binding stands on the line. -/
def HasBare (line : List Char) : Prop :=
  ∃ before clause after, line = before ++ (clause ++ after) ∧
    atWordStart before.getLast? = true ∧ Bare clause

theorem hasBare_iff {line : List Char} :
    (firstMatch afterBare? none line).isSome = true ↔ HasBare line := by
  constructor
  · intro h
    obtain ⟨rest, h⟩ := Option.isSome_iff_exists.mp h
    obtain ⟨before, here, rfl, found⟩ := firstMatch_eq_some h
    obtain ⟨start, clause, bare, rfl⟩ := afterBare?_eq_some_iff.mp found
    exact ⟨before, clause, rest, rfl, by simpa [lastOf] using start, bare⟩
  · rintro ⟨before, clause, after, rfl, start, bare⟩
    apply isSome_firstMatch
    have found : afterBare? before.getLast? (clause ++ after) = some after :=
      afterBare?_eq_some_iff.mpr ⟨start, clause, bare, rfl⟩
    rw [lastOf, Option.or_none, found]
    rfl

namespace Binding

variable {line : List Char}

theorem found (b : Binding name line) : afterClause? name (b.clause ++ b.after) = some b.after :=
  afterClause?_eq_some_iff.mpr ⟨b.clause, b.shape, rfl⟩

theorem ext_length {b b' : Binding name line} (h : b.before.length = b'.before.length) :
    b = b' := by
  have cut : b.before ++ (b.clause ++ b.after) = b'.before ++ (b'.clause ++ b'.after) := by
    rw [← b.cut, ← b'.cut]
  obtain ⟨before, here⟩ := List.append_inj cut h
  have after : b.after = b'.after := by
    have same := b.found
    rw [here, b'.found] at same
    exact (Option.some.inj same).symm
  rw [after] at here
  exact Binding.ext before (List.append_cancel_right here) after

end Binding

end LintRepair.CatchClause
