import LintRepair.Proofs.PathComponents
import Mathlib.Logic.Relation

/-!
The normal form of a path as a canonical form.

* `shortens_normalComponents`: it is reached by leaving out what has no effect,
  a `.`, a name that `..` takes back, a `..` at the root;
* `normalComponents_eq_iff`: two paths have the same one if they differ by such
  parts only;
* `components_normalize`: its components are the ones computed, so nothing is
  lost by spelling it;
* `normalComponents_join`: joining goes on from the components of the first
  path, whatever its spelling.
-/

namespace LintRepair.Path

open Relation (ReflTransGen EqvGen)

/-! ## Leaving out what has no effect -/

/-- One part without an effect is left out. -/
inductive Shortens : List Component → List Component → Prop
  | here (above below : List Component) : Shortens (above ++ .here :: below) (above ++ below)
  | name (above below : List Component) (text : String) :
      Shortens (above ++ .name text :: .parent :: below) (above ++ below)
  | root (above below : List Component) :
      Shortens (above ++ .root :: .parent :: below) (above ++ .root :: below)

theorem push_here (done : List Component) : pushComponent done .here = done := by
  cases done with
  | nil => rfl
  | cons c done => cases c <;> rfl

theorem push_root (done : List Component) : pushComponent done .root = .root :: done := by
  cases done with
  | nil => rfl
  | cons c done => cases c <;> rfl

theorem normalComponents_of_shortens {a b : List Component} (h : Shortens a b) :
    normalComponents a = normalComponents b := by
  unfold normalComponents
  congr 1
  cases h with
  | here above below => rw [List.foldl_append, List.foldl_append, List.foldl_cons, push_here]
  | name above below text =>
    rw [List.foldl_append, List.foldl_append, List.foldl_cons, push_name]
    rfl
  | root above below =>
    rw [List.foldl_append, List.foldl_append, List.foldl_cons, push_root, List.foldl_cons,
      List.foldl_cons, push_root]
    rfl

/-- A push leaves out a part without an effect, or puts the component where it stood. -/
theorem shortens_push (done rest : List Component) (c : Component) :
    ReflTransGen Shortens (done.reverse ++ c :: rest)
      ((pushComponent done c).reverse ++ rest) := by
  fun_cases pushComponent done c with
  | case1 => exact .single (.here done.reverse rest)
  | case2 text done => simpa using ReflTransGen.single (Shortens.name done.reverse rest text)
  | case3 done => simpa using ReflTransGen.single (Shortens.root done.reverse rest)
  | case4 => simpa using ReflTransGen.refl

theorem shortens_foldl (done rest : List Component) :
    ReflTransGen Shortens (done.reverse ++ rest) (rest.foldl pushComponent done).reverse := by
  induction rest generalizing done with
  | nil => rw [List.append_nil, List.foldl_nil]
  | cons c rest ih => exact (shortens_push done rest c).trans (ih (pushComponent done c))

theorem shortens_normalComponents (cs : List Component) :
    ReflTransGen Shortens cs (normalComponents cs) :=
  shortens_foldl [] cs

theorem normalComponents_of_eqvGen {a b : List Component} (h : EqvGen Shortens a b) :
    normalComponents a = normalComponents b := by
  induction h with
  | rel a b step => exact normalComponents_of_shortens step
  | refl a => rfl
  | symm a b _ same => exact same.symm
  | trans a b c _ _ first second => exact first.trans second

/-- Two lists of components have one normal form if they differ by parts without an effect only. -/
theorem normalComponents_eq_iff {a b : List Component} :
    normalComponents a = normalComponents b ↔ EqvGen Shortens a b := by
  refine ⟨fun same => ?_, normalComponents_of_eqvGen⟩
  have reached (cs : List Component) : EqvGen Shortens cs (normalComponents cs) :=
    EqvGen.reflTransGen_le_eqvGen _ _ _ (shortens_normalComponents cs)
  exact .trans a _ b (same ▸ reached a) (.symm b _ (reached b))

/-! ## Spelling and joining -/

/-- A normal form is spelled so that its components are read back. -/
theorem components_normalize (p : Path) : p.normalize.components = normalComponents p.components := by
  obtain ⟨ups, names, hn, normal⟩ := normalComponents_components p
  rw [normalize, normal]
  cases p.isAbsolute with
  | true => exact components_rooted hn.isStep
  | false =>
    refine components_unrooted fun c hc => ?_
    rcases List.mem_append.mp hc with up | hc
    · rw [List.eq_of_mem_replicate up]
      trivial
    · exact hn.isStep c hc

theorem normalize_eq_iff {p q : Path} :
    p.normalize = q.normalize ↔ normalComponents p.components = normalComponents q.components := by
  constructor
  · intro same
    rw [← components_normalize, ← components_normalize, same]
  · exact congrArg ofComponents

theorem normalComponents_idem (p : Path) :
    normalComponents (normalComponents p.components) = normalComponents p.components := by
  obtain ⟨ups, names, -, normal⟩ := normalComponents_components p
  rw [normal, normalComponents_normal]

/-- The components so far may be taken in normal form before others follow. -/
theorem normalComponents_append {above above' : List Component}
    (same : normalComponents above = normalComponents above') (below : List Component) :
    normalComponents (above ++ below) = normalComponents (above' ++ below) := by
  have pushed := List.reverse_inj.mp same
  simp only [normalComponents, List.foldl_append, pushed]

theorem normalComponents_join (p : Path) {q : Path} (relative : q.isAbsolute = false) :
    normalComponents (p.join q).components = normalComponents (p.components ++ q.steps) := by
  by_cases empty : p.text.toList = []
  · -- Behind nothing, `q` still has the dot that it may start with.
    have blank : p = ⟨""⟩ := congrArg Path.mk (by simpa using empty)
    have joined : (⟨""⟩ : Path).join q = q := by simp [join, relative]
    have none : (⟨""⟩ : Path).components = [] := by decide
    rw [blank, joined, none, List.nil_append, normalComponents, foldl_push_components, relative]
    rfl
  · rw [components_join empty relative]

/-! ## The canonical form -/

theorem isAbsolute_normalize (p : Path) : p.normalize.isAbsolute = p.isAbsolute := by
  rw [Bool.eq_iff_iff, isAbsolute_iff_root_mem, components_normalize]
  obtain ⟨ups, names, -, normal⟩ := normalComponents_components p
  rw [normal]
  cases p.isAbsolute <;> simp [normalLead]

theorem normalize_normalize (p : Path) : p.normalize.normalize = p.normalize :=
  normalize_eq_iff.mpr (by rw [components_normalize, normalComponents_idem])

theorem normalize_join (p q : Path) : (p.join q).normalize = (p.normalize.join q).normalize := by
  by_cases absolute : q.isAbsolute = true
  · simp [join, absolute]
  · have relative : q.isAbsolute = false := by simpa using absolute
    rw [normalize_eq_iff, normalComponents_join p relative,
      normalComponents_join p.normalize relative, components_normalize]
    exact normalComponents_append (normalComponents_idem p).symm q.steps

/-- The normal form of a path holds no `.`, and `..` only at the start of a relative path. It is
absolute if the path is, and in normal form itself. Joining may go on from it. It is what is left when
all parts without an effect are left out, and two paths share it just if they differ by such parts. -/
theorem normalize_is_canonical (p q : Path) :
    .here ∉ p.normalize.components ∧
    (∃ ups names, IsPlace names ∧
      p.normalize.components = normalLead p.isAbsolute ups ++ names.map .name) ∧
    p.normalize.isAbsolute = p.isAbsolute ∧
    p.normalize.normalize = p.normalize ∧
    (p.join q).normalize = (p.normalize.join q).normalize ∧
    ReflTransGen Shortens p.components p.normalize.components ∧
    (p.normalize = q.normalize ↔ EqvGen Shortens p.components q.components) := by
  obtain ⟨ups, names, hn, normal⟩ := normalComponents_components p
  rw [← components_normalize] at normal
  refine ⟨?_, ⟨ups, names, hn, normal⟩, isAbsolute_normalize p, normalize_normalize p,
    normalize_join p q, ?_, normalize_eq_iff.trans normalComponents_eq_iff⟩
  · rw [normal]
    cases p.isAbsolute <;> simp [normalLead]
  · rw [components_normalize]
    exact shortens_normalComponents p.components

end LintRepair.Path
