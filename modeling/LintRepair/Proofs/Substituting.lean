import LintRepair.Proofs.Scanning

/-!
One pass of substitutions over a text, as a relation between the text and what
becomes of it.

* `substituted_substitute`: the pass is such a relation;
* `Substituted.copied` and `Substituted.reflected`: what no substitution can begin
  with stays, and what none can write was there;
* `Substituted.untouched`: when a pass leaves nothing for another one to do.
-/

namespace LintRepair

/-- What is written for a part of the text: each begins with a character of its own, and both end in
the same one. -/
structure Replaces (start head : Char) (part text : List Char) : Prop where
  starts : part.head? = some start
  begins : text.head? = some head
  ends : text.getLast? = part.getLast?

/-- Every offer is for a part of the text ahead, with these first characters. -/
def Offers (offer : Option Char → List Char → Option Substitution) (start head : Char) : Prop :=
  ∀ previous s edit, offer previous s = some edit → ∃ part rest,
    s = part ++ rest ∧ edit.further + 1 = part.length ∧ Replaces start head part edit.text

/-- A pass over a text that comes behind some character: where nothing is offered the text is
copied, and where something is, it is taken for its part of the text. -/
inductive Substituted (offer : Option Char → List Char → Option Substitution) :
    Option Char → List Char → List Char → Prop
  | nil {previous : Option Char} : Substituted offer previous [] []
  | copy {previous : Option Char} {c : Char} {s t : List Char}
      (refused : offer previous (c :: s) = none) (rest : Substituted offer (some c) s t) :
      Substituted offer previous (c :: s) (c :: t)
  | edit {previous : Option Char} {part text s t : List Char} {further : Nat}
      (taken : offer previous (part ++ s) = some ⟨text, further⟩)
      (width : further + 1 = part.length)
      (rest : Substituted offer (lastOf previous part) s t) :
      Substituted offer previous (part ++ s) (text ++ t)

/-- Nothing is offered at any place of the text. -/
def Untouched (offer : Option Char → List Char → Option Substitution) :
    Option Char → List Char → Prop
  | _, [] => True
  | previous, c :: s => offer previous (c :: s) = none ∧ Untouched offer (some c) s

section
variable {offer other : Option Char → List Char → Option Substitution} {start head : Char}
  {previous : Option Char} {s t w : List Char}

theorem Offers.refuses (offers : Offers offer start head) {c : Char} (h : c ≠ start) :
    offer previous (c :: s) = none := by
  cases found : offer previous (c :: s) with
  | none => rfl
  | some edit =>
    obtain ⟨part, rest, cut, width, replaces⟩ := offers _ _ _ found
    have first := congrArg List.head? cut
    rw [List.head?_append, replaces.starts, Option.some_or] at first
    exact absurd (Option.some.inj first) h

theorem Offers.replaces (offers : Offers offer start head) {part text : List Char} {further : Nat}
    (taken : offer previous (part ++ s) = some ⟨text, further⟩)
    (width : further + 1 = part.length) : Replaces start head part text := by
  obtain ⟨part', rest, cut, width', replaces⟩ := offers _ _ _ taken
  obtain ⟨rfl, _⟩ := List.append_inj cut (width.symm.trans width')
  exact replaces

/-! ## Passes -/

theorem substitute_skip (offer : Option Char → List Char → Option Substitution)
    (previous : Option Char) (part s : List Char) :
    substitute offer part.length previous (part ++ s) =
      substitute offer 0 (lastOf previous part) s := by
  induction part generalizing previous with
  | nil => rfl
  | cons c part ih => rw [lastOf_cons, ← ih, List.length_cons, List.cons_append, substitute]

theorem substitute_copy {c : Char} (refused : offer previous (c :: s) = none) :
    substitute offer 0 previous (c :: s) = c :: substitute offer 0 (some c) s := by
  rw [substitute, refused]

theorem substitute_edit {part text : List Char} {further : Nat}
    (taken : offer previous (part ++ s) = some ⟨text, further⟩)
    (width : further + 1 = part.length) :
    substitute offer 0 previous (part ++ s) =
      text ++ substitute offer 0 (lastOf previous part) s := by
  cases part with
  | nil => simp at width
  | cons c part =>
    obtain rfl : further = part.length := by simpa using width
    rw [List.cons_append] at taken ⊢
    rw [substitute, taken, lastOf_cons, ← substitute_skip]

theorem substituted_substitute (offers : Offers offer start head) (previous : Option Char)
    (s : List Char) : Substituted offer previous s (substitute offer 0 previous s) := by
  -- On the length of the text, since an edit passes over a part of it.
  induction h : s.length using Nat.strongRecOn generalizing previous s with
  | ind n ih =>
    cases s with
    | nil =>
      rw [substitute]
      exact .nil
    | cons c s =>
      cases found : offer previous (c :: s) with
      | none =>
        rw [substitute_copy found]
        exact .copy found (ih s.length (by simp at h; omega) _ s rfl)
      | some edit =>
        obtain ⟨part, rest, cut, width, _⟩ := offers _ _ _ found
        rw [cut] at found h ⊢
        rw [substitute_edit found width]
        refine .edit found width (ih rest.length ?_ _ rest rfl)
        rw [← h, List.length_append]
        omega

/-! ## Texts with nothing to do -/

theorem substitute_of_untouched (h : Untouched offer previous s) :
    substitute offer 0 previous s = s := by
  induction s generalizing previous with
  | nil => rw [substitute]
  | cons c s ih => rw [substitute_copy h.1, ih h.2]

theorem untouched_append :
    Untouched offer previous (w ++ s) → Untouched offer (lastOf previous w) s := by
  induction w generalizing previous with
  | nil => exact id
  | cons c w ih =>
    intro h
    rw [lastOf_cons]
    exact ih h.2

/-- Text in which no offer can begin is left alone. -/
theorem Untouched.append (offers : Offers offer start head) (absent : start ∉ w)
    (h : Untouched offer (lastOf previous w) s) : Untouched offer previous (w ++ s) := by
  induction w generalizing previous with
  | nil => exact h
  | cons c w ih =>
    rw [lastOf_cons] at h
    simp only [List.mem_cons, not_or] at absent
    exact ⟨offers.refuses (Ne.symm absent.1), ih absent.2 h⟩

/-! ## What a pass keeps -/

namespace Substituted

theorem eq_nil (h : Substituted offer previous [] t) : t = [] := by
  generalize empty : [] = s at h
  cases h with
  | nil => rfl
  | copy => cases empty
  | edit taken width =>
    obtain ⟨rfl, _⟩ := List.append_eq_nil_iff.mp empty.symm
    cases width

theorem of_refused {c : Char} (h : Substituted offer previous (c :: s) t)
    (refused : offer previous (c :: s) = none) :
    ∃ rest, t = c :: rest ∧ Substituted offer (some c) s rest := by
  generalize whole : c :: s = text at h
  cases h with
  | nil => cases whole
  | copy _ rest =>
    obtain ⟨rfl, rfl⟩ := List.cons.inj whole
    exact ⟨_, rfl, rest⟩
  | edit taken =>
    rw [← whole, refused] at taken
    cases taken

/-- Text in which no offer can begin is copied. -/
theorem copied (offers : Offers offer start head) (h : Substituted offer previous (w ++ s) t)
    (absent : start ∉ w) :
    ∃ rest, t = w ++ rest ∧ Substituted offer (lastOf previous w) s rest := by
  induction w generalizing previous t with
  | nil => exact ⟨t, rfl, h⟩
  | cons c w ih =>
    simp only [List.mem_cons, not_or] at absent
    obtain ⟨_, rfl, next⟩ := h.of_refused (offers.refuses (Ne.symm absent.1))
    obtain ⟨rest, rfl, behind⟩ := ih next absent.2
    rw [lastOf_cons]
    exact ⟨rest, rfl, behind⟩

/-- Text that no offer can have begun to write was there before. -/
theorem reflected (offers : Offers offer start head) (h : Substituted offer previous s (w ++ t))
    (absent : head ∉ w) :
    ∃ rest, s = w ++ rest ∧ Substituted offer (lastOf previous w) rest t := by
  induction w generalizing previous s with
  | nil => exact ⟨s, rfl, h⟩
  | cons c w ih =>
    simp only [List.mem_cons, not_or] at absent
    rw [lastOf_cons]
    generalize whole : c :: w ++ t = text at h
    cases h with
    | nil => cases whole
    | copy _ next =>
      obtain ⟨rfl, rfl⟩ := List.cons.inj whole
      obtain ⟨rest, rfl, behind⟩ := ih next absent.2
      exact ⟨rest, rfl, behind⟩
    | edit taken width =>
      have first := congrArg List.head? whole
      rw [List.cons_append, List.head?_append, (offers.replaces taken width).begins] at first
      exact absurd (Option.some.inj first).symm absent.1

/-- A pass changes the first character only if something begins there. -/
theorem head_eq (offers : Offers offer start head) (h : Substituted offer previous s t) :
    s.head? = t.head? ∨ s.head? = some start ∧ t.head? = some head := by
  cases h with
  | nil => exact .inl rfl
  | copy => exact .inl rfl
  | edit taken width =>
    have replaces := offers.replaces taken width
    rw [List.head?_append, List.head?_append, replaces.starts, replaces.begins]
    exact .inr ⟨rfl, rfl⟩

/-- A pass leaves nothing for a recogniser, be it its own or one that had nothing to do before, if
neither copying nor editing makes something for it. -/
theorem untouched (copies : ∀ previous c s t, Substituted offer (some c) s t →
      other previous (c :: s) = none → other previous (c :: t) = none)
    (edits : ∀ previous part s text further t, offer previous (part ++ s) = some ⟨text, further⟩ →
      further + 1 = part.length → Untouched other (lastOf previous part) t →
        Untouched other previous (text ++ t))
    (h : Substituted offer previous s t) (idle : other = offer ∨ Untouched other previous s) :
    Untouched other previous t := by
  induction h with
  | nil => trivial
  | @copy previous c s t refused rest ih =>
    have here : other previous (c :: s) = none := by
      rcases idle with rfl | idle
      · exact refused
      · exact idle.1
    exact ⟨copies _ _ _ _ rest here, ih (idle.imp_right And.right)⟩
  | edit taken width rest ih =>
    exact edits _ _ _ _ _ _ taken width (ih (idle.imp_right untouched_append))

/-- If every edit takes away one of some character, a pass that leaves their number had nothing to
do. -/
theorem count_le {x : Char} (fewer : ∀ previous part s text further,
      offer previous (part ++ s) = some ⟨text, further⟩ → further + 1 = part.length →
        text.count x + 1 = part.count x)
    (h : Substituted offer previous s t) :
    t.count x ≤ s.count x ∧ (s.count x ≤ t.count x → Untouched offer previous s) := by
  induction h with
  | nil => exact ⟨Nat.le_refl _, fun _ => trivial⟩
  | copy refused rest ih =>
    simp only [List.count_cons]
    exact ⟨by omega, fun enough => ⟨refused, ih.2 (by omega)⟩⟩
  | edit taken width rest ih =>
    have less := fewer _ _ _ _ _ taken width
    simp only [List.count_append]
    exact ⟨by omega, fun enough => by omega⟩

end Substituted

end

end LintRepair
