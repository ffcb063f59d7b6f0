import LintRepair.Proofs.CatchClauses

/-!
What mending does to a line with catch clauses. Of the clauses that bind the name
one leads: the first that follows a closing brace, or else the first of all. Its
binding is dropped, wherever the finding points.

* `Binding.Leads`: the clause that is taken;
* `mendLine_of_leads`, `exists_leads`, `mendLine_eq_none_iff` and
  `mendLine_eq_self_iff`: what mending a line comes to;
* `Binding.dropped_injective`: the line tells which binding was dropped.
-/

namespace LintRepair.CatchClause

variable {name line : List Char}

namespace Binding

/-! ## Dropping a binding -/

/-- The clause directly follows a closing brace. -/
def Braced (b : Binding name line) : Prop :=
  ∃ stem gap, b.before = stem ++ '}' :: gap ∧ Blank gap

theorem rdropWhile_brace {stem gap : List Char} (blank : Blank gap) :
    (stem ++ '}' :: gap).rdropWhile isSpace = stem ++ ['}'] :=
  blank.rdropWhile_ink (by decide)

theorem braced_iff (b : Binding name line) :
    (b.before.rdropWhile isSpace).getLast? = some '}' ↔ b.Braced := by
  constructor
  · intro h
    obtain ⟨stem, brace⟩ := List.getLast?_eq_some_iff.mp h
    refine ⟨stem, b.before.rtakeWhile isSpace, ?_, ?_⟩
    · rw [List.append_cons, ← brace, List.rdropWhile_append_rtakeWhile]
    · intro c hc
      exact List.mem_rtakeWhile_imp hc
  · rintro ⟨stem, gap, h, blank⟩
    rw [h, rdropWhile_brace blank, List.getLast?_concat]

instance (b : Binding name line) : Decidable b.Braced := decidable_of_iff _ b.braced_iff

/-- The line with the binding dropped. Before it there is one blank if a closing brace comes before
that, and whatever there was if not. -/
def dropped (b : Binding name line) : List Char :=
  if b.Braced then b.before.rdropWhile isSpace ++ (" catch \x7b".toList ++ b.after)
  else b.before ++ ("catch \x7b".toList ++ b.after)

theorem dropped_of_braced {b : Binding name line} {stem gap : List Char}
    (h : b.before = stem ++ '}' :: gap) (blank : Blank gap) :
    b.dropped = stem ++ ("\x7d catch \x7b".toList ++ b.after) := by
  rw [dropped, if_pos ⟨stem, gap, h, blank⟩, h, rdropWhile_brace blank]
  simp

/-! ## The leading binding -/

/-- The first of the clauses that follow a closing brace, or the first of all if none does. -/
inductive Leads (b : Binding name line) : Prop
  | braced (here : b.Braced)
      (first : ∀ other : Binding name line, other.Braced → b.before.length ≤ other.before.length)
  | plain (nowhere : ∀ other : Binding name line, ¬ other.Braced)
      (first : ∀ other : Binding name line, b.before.length ≤ other.before.length)

theorem Leads.unique {b b' : Binding name line} (h : b.Leads) (h' : b'.Leads) : b = b' := by
  apply ext_length
  cases h with
  | braced here first =>
    cases h' with
    | braced here' first' => exact Nat.le_antisymm (first b' here') (first' b here)
    | plain nowhere => exact absurd here (nowhere b)
  | plain nowhere first =>
    cases h' with
    | braced here' => exact absurd here' (nowhere b')
    | plain _ first' => exact Nat.le_antisymm (first b') (first' b)

end Binding

theorem lastOf_none (passed : List Char) : lastOf none passed = passed.getLast? :=
  Option.or_none

/-- Behind a closing brace and white space a word starts. -/
theorem atWordStart_brace (stem : List Char) {gap : List Char} (blank : Blank gap) :
    atWordStart (stem ++ '}' :: gap).getLast? = true := by
  rw [List.append_cons]
  apply blank.atWordStart
  rw [List.getLast?_concat]
  decide

/-- Of two clauses behind closing braces, the one with the first brace comes first. -/
theorem length_le_of_brace {c : Char} {stem gap rest stem' gap' rest' : List Char}
    (blank : Blank gap) (ink : isSpace c = false)
    (same : stem ++ '}' :: (gap ++ rest) = stem' ++ '}' :: (gap' ++ c :: rest'))
    (order : stem.length ≤ stem'.length) :
    (stem ++ '}' :: gap).length ≤ (stem' ++ '}' :: gap').length := by
  obtain ⟨more, rfl⟩ : stem <+: stem' :=
    List.prefix_of_prefix_length_le ⟨_, same⟩ (List.prefix_append _ _) order
  rw [List.append_assoc] at same
  have behind := List.append_cancel_left same
  cases more with
  | nil =>
    have near := length_le_of_not_mem (blank.not_mem ink) (List.cons.inj behind).2
    simp only [List.length_append, List.length_cons, List.length_nil]
    omega
  | cons d more =>
    -- The second brace is not in the white space behind the first.
    have brace : '}' ∉ gap := blank.not_mem (by decide)
    have near := length_le_of_not_mem brace (List.cons.inj behind).2
    simp only [List.length_append, List.length_cons]
    omega

theorem Binding.cut_brace (b : Binding name line) {stem gap : List Char}
    (h : b.before = stem ++ '}' :: gap) :
    line = stem ++ '}' :: (gap ++ (b.clause ++ b.after)) := by
  have cut := b.cut
  rw [h] at cut
  simpa using cut

theorem Binding.foundBraced (b : Binding name line) {gap : List Char} (blank : Blank gap)
    (previous : Option Char) :
    afterBraced? name previous ('}' :: (gap ++ (b.clause ++ b.after))) = some b.after :=
  afterBraced?_eq_some_iff.mpr ⟨gap, b.clause, blank, b.shape, rfl⟩

theorem Binding.foundWord (b : Binding name line) :
    afterWord? name (lastOf none b.before) (b.clause ++ b.after) = some b.after := by
  rw [lastOf_none]
  exact afterWord?_eq_some_iff.mpr ⟨b.start, b.clause, b.shape, rfl⟩

theorem exists_leads_of_braced {out : List Char}
    (h : replaceFirst? (afterBraced? name) "\x7d catch \x7b".toList none line = some out) :
    ∃ b : Binding name line, b.Leads ∧ out = b.dropped := by
  obtain ⟨stem, _, rest, first, rfl⟩ := replaceFirst?_eq_some h
  obtain ⟨gap, clause, blank, shape, rfl⟩ := afterBraced?_eq_some_iff.mp first.found
  have cut := first.cut
  let b : Binding name line :=
    ⟨stem ++ '}' :: gap, clause, rest, by rw [cut]; simp, atWordStart_brace stem blank, shape⟩
  have before : b.before = stem ++ '}' :: gap := rfl
  refine ⟨b, .braced ⟨stem, gap, before, blank⟩ ?_, (b.dropped_of_braced before blank).symm⟩
  rintro other ⟨stem', gap', before', blank'⟩
  have there := other.cut_brace before'
  have order : stem.length ≤ stem'.length := by
    by_contra sooner
    have missed := first.nowhere stem' _ there (Nat.lt_of_not_le sooner)
    rw [other.foundBraced blank'] at missed
    cases missed
  obtain ⟨more, head⟩ := other.shape.cons
  rw [head] at there
  rw [before, before']
  exact length_le_of_brace blank (by decide) (cut.symm.trans there) order

theorem not_braced (h : replaceFirst? (afterBraced? name) "\x7d catch \x7b".toList none line = none)
    (b : Binding name line) : ¬ b.Braced := by
  rintro ⟨stem, gap, before, blank⟩
  have missed := replaceFirst?_eq_none h (b.cut_brace before) (by simp)
  rw [b.foundBraced blank] at missed
  cases missed

theorem exists_leads_of_plain {out : List Char} (nowhere : ∀ b : Binding name line, ¬ b.Braced)
    (h : replaceFirst? (afterWord? name) "catch \x7b".toList none line = some out) :
    ∃ b : Binding name line, b.Leads ∧ out = b.dropped := by
  obtain ⟨before, _, rest, first, rfl⟩ := replaceFirst?_eq_some h
  obtain ⟨start, clause, shape, rfl⟩ := afterWord?_eq_some_iff.mp first.found
  rw [lastOf_none] at start
  let b : Binding name line := ⟨before, clause, rest, first.cut, start, shape⟩
  refine ⟨b, .plain nowhere ?_, ?_⟩
  · intro other
    by_contra sooner
    have missed := first.nowhere other.before _ other.cut (Nat.lt_of_not_le sooner)
    rw [other.foundWord] at missed
    cases missed
  · rw [Binding.dropped, if_neg (nowhere b)]

theorem isEmpty_of_plain
    (h : replaceFirst? (afterWord? name) "catch \x7b".toList none line = none) :
    IsEmpty (Binding name line) := by
  refine ⟨fun b => ?_⟩
  obtain ⟨more, clause⟩ := b.shape.cons
  have missed := replaceFirst?_eq_none h b.cut (by simp [clause])
  rw [b.foundWord] at missed
  cases missed

/-- A binding leads and is dropped, or there is none, and then the line is kept for a clause without
one. -/
theorem mendLine_cases (name line : List Char) :
    (∃ b : Binding name line, b.Leads ∧ mendLine line name = some b.dropped) ∨
      IsEmpty (Binding name line) ∧
        mendLine line name = (firstMatch afterBare? none line).map fun _ => line := by
  cases braced : replaceFirst? (afterBraced? name) "\x7d catch \x7b".toList none line with
  | some out =>
    obtain ⟨b, leads, rfl⟩ := exists_leads_of_braced braced
    exact .inl ⟨b, leads, by rw [mendLine, braced, Option.some_or]⟩
  | none =>
    cases plain : replaceFirst? (afterWord? name) "catch \x7b".toList none line with
    | some out =>
      obtain ⟨b, leads, rfl⟩ := exists_leads_of_plain (not_braced braced) plain
      exact .inl ⟨b, leads, by rw [mendLine, braced, plain, Option.none_or, Option.some_or]⟩
    | none =>
      refine .inr ⟨isEmpty_of_plain plain, ?_⟩
      rw [mendLine, braced, plain, Option.none_or, Option.none_or]

theorem mendLine_of_leads {b : Binding name line} (h : b.Leads) :
    mendLine line name = some b.dropped := by
  rcases mendLine_cases name line with ⟨b', leads, mends⟩ | ⟨empty, _⟩
  · rw [mends, leads.unique h]
  · exact empty.elim b

theorem exists_leads (b : Binding name line) : ∃ b' : Binding name line, b'.Leads := by
  rcases mendLine_cases name line with ⟨b', leads, _⟩ | ⟨empty, _⟩
  · exact ⟨b', leads⟩
  · exact empty.elim b

/-! ## What is written -/

theorem Clause.opening {clause : List Char} (h : Clause name clause) :
    ∃ gap more, Blank gap ∧ clause = "catch".toList ++ (gap ++ '(' :: more) := by
  obtain ⟨blank, _, _, _⟩ := h
  exact ⟨_, _, blank, rfl⟩

/-- A clause with a binding is none without, whatever white space comes before. -/
theorem opening_ne {fill after gap inner more : List Char} (hfill : Blank fill) (hgap : Blank gap)
    (hinner : Blank inner) : fill ++ ("catch \x7b".toList ++ after) ≠
      gap ++ ("catch".toList ++ (inner ++ '(' :: more)) := by
  intro same
  have words := congrArg dropSpaces same
  have bare : dropSpaces (fill ++ ("catch \x7b".toList ++ after)) =
      "catch".toList ++ (' ' :: '{' :: after) := hfill.dropSpaces_ink (by decide)
  have bound : dropSpaces (gap ++ ("catch".toList ++ (inner ++ '(' :: more))) =
      "catch".toList ++ (inner ++ '(' :: more) := hgap.dropSpaces_ink (by decide)
  rw [bare, bound] at words
  have behind := congrArg dropSpaces (List.append_cancel_left words)
  rw [hinner.dropSpaces_ink (by decide)] at behind
  cases behind

namespace Binding

/-- A line without the binding begins as before, up to white space before the clause. -/
structure Cut (b : Binding name line) (stem gap fill : List Char) : Prop where
  before : b.before = stem ++ gap
  blank : Blank gap
  filled : Blank fill
  start : atWordStart (stem ++ fill).getLast? = true
  dropped : b.dropped = stem ++ (fill ++ ("catch \x7b".toList ++ b.after))

theorem exists_cut (b : Binding name line) : ∃ stem gap fill, b.Cut stem gap fill := by
  by_cases h : b.Braced
  · obtain ⟨stem, gap, before, blank⟩ := h
    refine ⟨stem ++ ['}'], gap, [' '], ?_, blank, by decide, ?_, ?_⟩
    · rw [before, List.append_cons]
    · rw [List.append_assoc]
      exact atWordStart_brace stem (by decide)
    · rw [b.dropped_of_braced before blank]
      simp
  · refine ⟨b.before, [], [], ?_, blank_nil, blank_nil, ?_, ?_⟩
    · rw [List.append_nil]
    · rw [List.append_nil]
      exact b.start
    · rw [dropped, if_neg h]
      rfl

theorem opens (b : Binding name line) : ∃ inner more, Blank inner ∧
    line = b.before ++ ("catch".toList ++ (inner ++ '(' :: more)) := by
  obtain ⟨inner, more, blank, clause⟩ := b.shape.opening
  have cut := b.cut
  rw [clause] at cut
  exact ⟨inner, more ++ b.after, blank, by simpa using cut⟩

theorem dropped_ne_of_opens (b : Binding name line) {inner more : List Char} (blank : Blank inner) :
    b.dropped ≠ b.before ++ ("catch".toList ++ (inner ++ '(' :: more)) := by
  obtain ⟨stem, gap, fill, cut⟩ := b.exists_cut
  rw [cut.dropped, cut.before, List.append_assoc]
  intro same
  exact opening_ne cut.filled cut.blank blank (List.append_cancel_left same)

theorem dropped_ne (b : Binding name line) : b.dropped ≠ line := by
  obtain ⟨inner, more, blank, opens⟩ := b.opens
  intro same
  exact b.dropped_ne_of_opens blank (same.trans opens)

end Binding

/-- No clause begins between the first letter of another one and its parenthesis. -/
theorem opening_length_le {inner more passed rest : List Char} (blank : Blank inner)
    (ne : passed ≠ [])
    (h : "catch".toList ++ (inner ++ '(' :: more) = passed ++ ("catch".toList ++ rest)) :
    ("catch".toList ++ (inner ++ ['('])).length ≤ passed.length := by
  match passed with
  | [] => exact absurd rfl ne
  | [_] | [_, _] | [_, _, _] | [_, _, _, _] => simp at h
  | _ :: _ :: _ :: _ :: _ :: passed =>
    have behind : (inner ++ ['(']) ++ more = passed ++ 'c' :: ("atch".toList ++ rest) := by simp_all
    have letter : 'c' ∉ inner := blank.not_mem (by decide)
    have absent : 'c' ∉ inner ++ ['('] := by simp [letter]
    have near := length_le_of_not_mem absent behind
    have letters : "catch".toList.length = 5 := by decide
    simp only [List.length_append, List.length_cons, letters] at near ⊢
    omega

namespace Binding

/-- What opens a clause stays when a later binding is dropped. -/
theorem opens_dropped {b b' : Binding name line} (later : b.before.length < b'.before.length) :
    ∃ inner more, Blank inner ∧
      b'.dropped = b.before ++ ("catch".toList ++ (inner ++ '(' :: more)) := by
  obtain ⟨inner, more, blank, opens⟩ := b.opens
  obtain ⟨passed, before⟩ : b.before <+: b'.before :=
    List.prefix_of_prefix_length_le ⟨_, b.cut.symm⟩ ⟨_, b'.cut.symm⟩ (Nat.le_of_lt later)
  have ne : passed ≠ [] := by
    rintro rfl
    rw [← before] at later
    simp at later
  obtain ⟨inner', more', _, opens'⟩ := b'.opens
  rw [← before, List.append_assoc] at opens'
  have behind := List.append_cancel_left (opens.symm.trans opens')
  -- The clause opens before the later one, and what opens it does not end in white space.
  have within : b.before ++ ("catch".toList ++ inner) ++ ['('] <+: b'.before := by
    refine List.prefix_of_prefix_length_le ⟨more, Eq.trans ?_ opens.symm⟩ ⟨_, b'.cut.symm⟩ ?_
    · simp
    · have apart := opening_length_le blank ne behind
      rw [← before]
      simp at apart ⊢
      omega
  obtain ⟨stem, gap, fill, cut⟩ := b'.exists_cut
  rw [cut.before] at within
  have parenthesis : '(' ∉ gap := cut.blank.not_mem (by decide)
  obtain ⟨rest, rfl⟩ := prefix_of_not_mem parenthesis within
  exact ⟨inner, rest ++ (fill ++ ("catch \x7b".toList ++ b'.after)), blank,
    cut.dropped.trans (by simp)⟩

theorem dropped_injective {b b' : Binding name line} (h : b.dropped = b'.dropped) : b = b' := by
  apply ext_length
  rcases Nat.lt_trichotomy b.before.length b'.before.length with sooner | same | later
  · obtain ⟨inner, more, blank, opens⟩ := opens_dropped sooner
    exact absurd (h.trans opens) (b.dropped_ne_of_opens blank)
  · exact same
  · obtain ⟨inner, more, blank, opens⟩ := opens_dropped later
    exact absurd (h.symm.trans opens) (b'.dropped_ne_of_opens blank)

end Binding

theorem mend_of_captured {f : Finding} {name : String} (captured : f.captured = some name)
    (line : String) :
    remedy.mend line f = (mendLine line.toList name.toList).map String.ofList := by
  have unfolded : remedy.mend line f = f.captured.bind fun name =>
      (mendLine line.toList name.toList).bind (some ∘ String.ofList) := rfl
  rw [unfolded, captured, Option.map_eq_bind, Option.bind_some]

/-- Whatever clause the finding points at, its binding is dropped just if this clause leads. -/
theorem drops_reported_binding_iff {line : String} {f : Finding} {name : String}
    (captured : f.captured = some name) (b : Binding name.toList line.toList) :
    remedy.mend line f = some (.ofList b.dropped) ↔ b.Leads := by
  rw [mend_of_captured captured]
  constructor
  · intro h
    obtain ⟨chars, mends, same⟩ := Option.map_eq_some_iff.mp h
    obtain ⟨first, leads⟩ := exists_leads b
    rw [mendLine_of_leads leads] at mends
    obtain rfl := Option.some.inj mends
    rwa [← Binding.dropped_injective (String.ofList_injective same)]
  · intro leads
    rw [mendLine_of_leads leads, Option.map_some]

/-- The second clause has a brace before it, so it leads, and a finding for the first one drops it
as well. -/
theorem drops_reported_binding_iff_nested :
    let line := "catch (e) \x7b try \x7b f(); \x7d\tcatch( e : any )\x7b log(e) \x7d"
    let f : Finding := ⟨.unusedCatchBinding, ⟨"a.ts"⟩, 1, 8, some "e"⟩
    let mended := "catch (e) \x7b try \x7b f(); \x7d catch \x7b log(e) \x7d"
    ∃ outer inner : Binding "e".toList line.toList, f.captured = some "e" ∧
      outer.before = [] ∧ inner.before = "catch (e) \x7b try \x7b f(); \x7d\t".toList ∧
      inner.Leads ∧ String.ofList inner.dropped = mended ∧ remedy.mend line f = some mended ∧
      ¬ outer.Leads ∧ remedy.mend line f ≠ some (.ofList outer.dropped) := by
  intro line f mended
  let outer : Binding "e".toList line.toList :=
    ⟨[], "catch (e) \x7b".toList, " try \x7b f(); \x7d\tcatch( e : any )\x7b log(e) \x7d".toList,
      by decide, by decide, by decide⟩
  let inner : Binding "e".toList line.toList :=
    ⟨"catch (e) \x7b try \x7b f(); \x7d\t".toList, "catch( e : any )\x7b".toList,
      " log(e) \x7d".toList, by decide, by decide, by decide⟩
  have captured : f.captured = some "e" := rfl
  have mends : remedy.mend line f = some mended := by decide +kernel
  have dropped : String.ofList inner.dropped = mended := by decide +kernel
  have leads : inner.Leads := by
    rw [← drops_reported_binding_iff captured, mends, dropped]
  have outdone : ¬ outer.Leads := by
    intro other
    have same := congrArg Binding.before (other.unique leads)
    revert same
    decide
  refine ⟨outer, inner, captured, rfl, rfl, leads, dropped, mends, outdone, ?_⟩
  rwa [Ne, drops_reported_binding_iff captured]

/-- A finding for the second of two clauses has the first one lose its binding, though it is
used. -/
theorem reported_binding_kept :
    let line :=
      "try \x7b a(); \x7d catch (e) \x7b log(e); \x7d try \x7b b(); \x7d catch (e) \x7b \x7d"
    let mended :=
      "try \x7b a(); \x7d catch \x7b log(e); \x7d try \x7b b(); \x7d catch (e) \x7b \x7d"
    let f : Finding := ⟨.unusedCatchBinding, ⟨"a.ts"⟩, 1, 56, some "e"⟩
    ∃ reported : Binding "e".toList line.toList,
      reported.clause = "catch (".toList ++ "e".toList ++ ") \x7b".toList ∧
      f.column = (reported.before ++ "catch (".toList).length + 1 ∧
      remedy.mend line f ≠ some (.ofList reported.dropped) ∧ remedy.mend line f = some mended := by
  intro line mended f
  let reported : Binding "e".toList line.toList :=
    ⟨"try \x7b a(); \x7d catch (e) \x7b log(e); \x7d try \x7b b(); \x7d ".toList,
      "catch (e) \x7b".toList, " \x7d".toList, by decide +kernel, by decide, by decide⟩
  exact ⟨reported, by decide, by decide, by decide +kernel, by decide +kernel⟩

/-! ## All that can happen to a line -/

theorem mendLine_eq_none_iff :
    mendLine line name = none ↔ IsEmpty (Binding name line) ∧ ¬ HasBare line := by
  rcases mendLine_cases name line with ⟨b, _, mends⟩ | ⟨empty, mends⟩
  · simp only [mends, reduceCtorEq, false_iff, not_and]
    exact fun empty => empty.elim b
  · rw [mends, Option.map_eq_none_iff, ← hasBare_iff, Option.not_isSome_iff_eq_none]
    simp [empty]

theorem mendLine_eq_self_iff :
    mendLine line name = some line ↔ IsEmpty (Binding name line) ∧ HasBare line := by
  rcases mendLine_cases name line with ⟨b, _, mends⟩ | ⟨empty, mends⟩
  · simp only [mends, Option.some.injEq, b.dropped_ne, false_iff, not_and]
    exact fun empty => empty.elim b
  · rw [mends, ← hasBare_iff]
    simp [empty, Option.isSome_iff_exists]

/-- The characters of a clause before its brace. -/
theorem Clause.letters {clause : List Char} (h : Clause name clause) : ∃ body,
    clause = body ++ ['{'] ∧
      ∀ c ∈ body, c ∈ name ∨ isSpace c = true ∨ c ∈ "catch(:unknownany)".toList := by
  obtain @⟨gap, gap', note, _, blank, blank', noted, @⟨gap₁, gap₂, blank₁, blank₂⟩⟩ := h
  refine ⟨"catch".toList ++ (gap ++ '(' :: (gap' ++ (name ++ (note ++ (gap₁ ++ ')' :: gap₂))))),
    by simp, ?_⟩
  have spaces {s : List Char} (h : Blank s) :
      ∀ c ∈ s, c ∈ name ∨ isSpace c = true ∨ c ∈ "catch(:unknownany)".toList :=
    fun c hc => .inr (.inl (h c hc))
  have word {s : List Char} (h : s ⊆ "catch(:unknownany)".toList) :
      ∀ c ∈ s, c ∈ name ∨ isSpace c = true ∨ c ∈ "catch(:unknownany)".toList :=
    fun c hc => .inr (.inr (h hc))
  have ofNote : ∀ c ∈ note, c ∈ name ∨ isSpace c = true ∨ c ∈ "catch(:unknownany)".toList := by
    cases noted with
    | bare => simp
    | typed blank blank' known =>
      simp only [List.forall_mem_append, List.forall_mem_cons]
      refine ⟨spaces blank, .inr (.inr (by decide)), spaces blank', ?_⟩
      rcases known with rfl | rfl
      · exact word (by decide)
      · exact word (by decide)
  simp only [List.forall_mem_append, List.forall_mem_cons]
  exact ⟨word (by decide), spaces blank, .inr (.inr (by decide)), spaces blank',
    fun c hc => .inl hc, ofNote, spaces blank₁, .inr (.inr (by decide)), spaces blank₂⟩

/-- Dropping a binding keeps the number of every character that can only be in the name. -/
theorem Binding.count_dropped (b : Binding name line) {c : Char} (ink : isSpace c = false)
    (letter : c ∉ "catch(:unknownany)".toList) (unnamed : c ∉ name) :
    b.dropped.count c = line.count c := by
  obtain ⟨stem, gap, fill, cut⟩ := b.exists_cut
  obtain ⟨body, clause, letters⟩ := b.shape.letters
  have absent : c ∉ body := by
    intro member
    rcases letters c member with inName | space | inWord
    · exact unnamed inName
    · rw [ink] at space
      cases space
    · exact letter inWord
  have word : c ∉ "catch".toList ++ [' '] := by
    rw [List.mem_append, List.mem_singleton, not_or]
    constructor
    · intro inWord
      exact letter (List.mem_append_left "(:unknownany)".toList inWord)
    · rintro rfl
      cases ink
  have whole := b.cut
  rw [cut.before, clause] at whole
  have bare : "catch \x7b".toList = ("catch".toList ++ [' ']) ++ ['{'] := by decide
  rw [cut.dropped, bare, congrArg (List.count c) whole]
  simp only [List.count_append, List.count_eq_zero.mpr absent, List.count_eq_zero.mpr word,
    List.count_eq_zero.mpr (cut.blank.not_mem ink), List.count_eq_zero.mpr (cut.filled.not_mem ink)]
  omega

/-- Mending a line has no answer just where there is no clause with the name or without one. The
line is kept just where there is one without and none with the name. Otherwise a clause loses its
binding, together with the white space behind a closing brace before it if any clause has one.
Braces stay in number. -/
theorem drops_one_binding_at_most (line : String) {f : Finding} {name : String}
    (captured : f.captured = some name) :
    (remedy.mend line f = none ↔
      IsEmpty (Binding name.toList line.toList) ∧ ¬ HasBare line.toList) ∧
    (remedy.mend line f = some line ↔
      IsEmpty (Binding name.toList line.toList) ∧ HasBare line.toList) ∧
    (Nonempty (Binding name.toList line.toList) →
      ∃ (mended : String) (b : Binding name.toList line.toList), remedy.mend line f = some mended ∧
        ((∀ other : Binding name.toList line.toList, ¬ other.Braced) ∧
            mended.toList = b.before ++ ("catch \x7b".toList ++ b.after) ∨
          ∃ stem gap, b.before = stem ++ '}' :: gap ∧ Blank gap ∧
            mended.toList = stem ++ ("\x7d catch \x7b".toList ++ b.after))) ∧
    ('{' ∉ name.toList → '}' ∉ name.toList → ∀ mended, remedy.mend line f = some mended →
      mended.toList.count '{' = line.toList.count '{' ∧
        mended.toList.count '}' = line.toList.count '}') := by
  rw [mend_of_captured captured]
  refine ⟨?_, ?_, ?_, ?_⟩
  · rw [Option.map_eq_none_iff, mendLine_eq_none_iff]
  · rw [← mendLine_eq_self_iff]
    constructor
    · intro h
      obtain ⟨chars, mends, same⟩ := Option.map_eq_some_iff.mp h
      rw [mends, ← same, String.toList_ofList]
    · intro h
      rw [h, Option.map_some, String.ofList_toList]
  · rintro ⟨some⟩
    obtain ⟨b, leads⟩ := exists_leads some
    refine ⟨.ofList b.dropped, b, by rw [mendLine_of_leads leads, Option.map_some], ?_⟩
    rw [String.toList_ofList]
    cases leads with
    | braced here =>
      obtain ⟨stem, gap, before, blank⟩ := here
      exact .inr ⟨stem, gap, before, blank, b.dropped_of_braced before blank⟩
    | plain nowhere => exact .inl ⟨nowhere, by rw [Binding.dropped, if_neg (nowhere b)]⟩
  · intro opening closing mended h
    obtain ⟨chars, mends, rfl⟩ := Option.map_eq_some_iff.mp h
    rw [String.toList_ofList]
    rcases mendLine_cases name.toList line.toList with ⟨b, _, dropped⟩ | ⟨_, kept⟩
    · obtain rfl := Option.some.inj (mends.symm.trans dropped)
      exact ⟨b.count_dropped (by decide) (by decide) opening,
        b.count_dropped (by decide) (by decide) closing⟩
    · obtain ⟨_, _, rfl⟩ := Option.map_eq_some_iff.mp (kept.symm.trans mends)
      exact ⟨rfl, rfl⟩

/-- The first clause is on its own, and the second one follows a brace and has white space of all
sorts in it. -/
theorem drops_one_binding_at_most_spaced :
    let line := "catch (e) \x7b f(); \x7d\u3000catch\t( e :any)\x7b g(); \x7d"
    let f : Finding := ⟨.unusedCatchBinding, ⟨"a.ts"⟩, 1, 8, some "e"⟩
    let mended := "catch (e) \x7b f(); \x7d catch \x7b g(); \x7d"
    f.captured = some "e" ∧ Nonempty (Binding "e".toList line.toList) ∧ '{' ∉ "e".toList ∧
      '}' ∉ "e".toList ∧ remedy.mend line f = some mended ∧
      (∃ (b : Binding "e".toList line.toList) (stem gap : List Char),
        b.before = stem ++ '}' :: gap ∧ Blank gap ∧
          mended.toList = stem ++ ("\x7d catch \x7b".toList ++ b.after)) ∧
      mended.toList.count '{' = line.toList.count '{' := by
  intro line f mended
  have captured : f.captured = some "e" := rfl
  have mends : remedy.mend line f = some mended := by decide +kernel
  let second : Binding "e".toList line.toList :=
    ⟨"catch (e) \x7b f(); \x7d\u3000".toList, "catch\t( e :any)\x7b".toList,
      " g(); \x7d".toList, by decide +kernel, by decide, by decide⟩
  have braced : second.Braced :=
    ⟨"catch (e) \x7b f(); ".toList, "\u3000".toList, by decide, by decide⟩
  obtain ⟨_, _, answers, counts⟩ := drops_one_binding_at_most line captured
  obtain ⟨other, b, mends', form⟩ := answers ⟨second⟩
  obtain rfl : mended = other := Option.some.inj (mends.symm.trans mends')
  refine ⟨captured, ⟨second⟩, by decide, by decide, mends, ?_, ?_⟩
  · rcases form with ⟨nowhere, _⟩ | ⟨stem, gap, form⟩
    · exact absurd braced (nowhere second)
    · exact ⟨b, stem, gap, form⟩
  · exact (counts (by decide) (by decide) mended mends).1

end LintRepair.CatchClause
