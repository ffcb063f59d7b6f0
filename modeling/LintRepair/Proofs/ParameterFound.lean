import Mathlib.Data.List.Pairwise
import LintRepair.Proofs.ParameterSites

/-!
Which places of a line are found. Those of one shape are taken from left to
right and keep apart, so a place is overlooked only for one that reaches up to
it.

* `Shape.finds_or_covered`: a place is found, or one that covers its start is;
* `Shape.Finds.apart`: what is found does not overlap;
* `Shape.finds_iff`: the two together say which places are found;
* `Shape.finds_congr`: whether a place is found depends on nothing behind it;
* `closest?_le` and `closest?_append`: no site is closer than the one taken, and
  of equally close ones it is the first.
-/

namespace LintRepair.Parameter

variable {name line : List Char}

/-! ## Which places are found -/

/-- The word stands at this position of the line, and one of these characters follows it. -/
def Stands (word closings line : List Char) (p : Nat) : Prop :=
  Free (line.take p) ∧ Opens word closings (line.drop p)

namespace Shape

variable {shape : Shape} {p q : Nat}

/-- A place of this shape is found at this position. -/
def Finds (shape : Shape) (name line : List Char) (p : Nat) : Prop :=
  (line.take p, line.drop p) ∈ shape.places name line

theorem Finds.stands (h : shape.Finds name line p) :
    Stands (shape.opening ++ name) shape.closings line p :=
  (placesFrom_sound h).2

theorem finds_of_mem {place : List Char × List Char} (h : place ∈ shape.places name line) :
    place.1 = line.take place.1.length ∧ place.2 = line.drop place.1.length ∧
      shape.Finds name line place.1.length := by
  have cut : place.1 ++ place.2 = line := (placesFrom_sound h).1
  have left : line.take place.1.length = place.1 := by rw [← cut, List.take_left]
  have right : line.drop place.1.length = place.2 := by rw [← cut, List.drop_left]
  refine ⟨left.symm, right.symm, ?_⟩
  rwa [Finds, left, right]

theorem Finds.lt_length (h : shape.Finds name line p) : p < line.length := by
  obtain ⟨c, _, rest, there⟩ := h.stands.2
  have length := congrArg List.length there
  simp at length
  omega

theorem finds_or_covered (shape : Shape)
    (h : Stands (shape.opening ++ name) shape.closings line p) :
    shape.Finds name line p ∨
      ∃ q < p, shape.Finds name line q ∧ p ≤ q + shape.width name := by
  have bound : p ≤ line.length := by
    obtain ⟨c, _, rest, there⟩ := h.2
    have length := congrArg List.length there
    simp at length
    omega
  have either := places_or_covered h.1 h.2
  rw [List.take_append_drop, List.length_take_of_le bound] at either
  rcases either with found | ⟨place, found, shorter, covers⟩
  · exact .inl found
  · exact .inr ⟨_, shorter, (finds_of_mem found).2.2, covers⟩

/-- What is found lies ahead, behind what is skipped. -/
theorem placesFrom_beyond {skip : Nat} {before s : List Char} {place : List Char × List Char}
    (h : place ∈ shape.placesFrom name skip before s) :
    before.length + skip < place.1.length ∨ before = [] ∧ place.1 = [] := by
  fun_induction placesFrom shape name skip before s with
  | case1 => cases h
  | case2 skip before c s ih =>
    have later := (ih h).resolve_right (by simp)
    simp only [List.length_cons] at later
    omega
  | case3 before c s here ih =>
    obtain rfl := List.isEmpty_iff.mp (Bool.and_eq_true_iff.mp here).1
    rcases List.mem_cons.mp h with rfl | h
    · exact .inr ⟨rfl, rfl⟩
    · have later := (ih h).resolve_right (by simp)
      simp only [List.length_cons] at later
      omega
  | case4 before c s _ here ih =>
    rcases List.mem_cons.mp h with rfl | h
    · simp
    · have later := (ih h).resolve_right (by simp)
      simp only [List.length_cons] at later
      omega
  | case5 before c s _ _ ih =>
    have later := (ih h).resolve_right (by simp)
    simp only [List.length_cons] at later
    omega

theorem placesFrom_apart (skip : Nat) (before s : List Char) :
    (shape.placesFrom name skip before s).Pairwise fun a b =>
      a.1.length + shape.width name < b.1.length := by
  fun_induction placesFrom shape name skip before s with
  | case1 => exact .nil
  | case2 _ _ _ _ ih => exact ih
  | case3 before c s here ih =>
    refine .cons ?_ ih
    intro place found
    have later := (placesFrom_beyond found).resolve_right (by simp)
    have positive : 0 < shape.width name := Nat.succ_pos _
    simp only [List.length_cons, List.length_nil] at later ⊢
    omega
  | case4 before c s _ here ih =>
    refine .cons ?_ ih
    intro place found
    have later := (placesFrom_beyond found).resolve_right (by simp)
    simpa using later
  | case5 _ _ _ _ _ ih => exact ih

/-- Places of one shape do not overlap, and the character before a place belongs to it. -/
theorem Finds.apart (first : shape.Finds name line p) (second : shape.Finds name line q)
    (left : p < q) : p + shape.width name < q := by
  have leftLength := List.length_take_of_le (Nat.le_of_lt first.lt_length)
  have rightLength := List.length_take_of_le (Nat.le_of_lt second.lt_length)
  have differ : (line.take p, line.drop p) ≠ (line.take q, line.drop q) := by
    intro same
    have lengths := congrArg (·.1.length) same
    simp only [leftLength, rightLength] at lengths
    omega
  have symmetric : Std.Symm fun a b : List Char × List Char =>
      a.1.length + shape.width name < b.1.length ∨ b.1.length + shape.width name < a.1.length :=
    ⟨fun _ _ => Or.symm⟩
  have ordered : (shape.places name line).Pairwise fun a b =>
      a.1.length + shape.width name < b.1.length ∨ b.1.length + shape.width name < a.1.length :=
    (placesFrom_apart 0 [] line).imp Or.inl
  have either := ordered.forall first second differ
  rw [leftLength, rightLength] at either
  omega

/-- The places of a shape that count when a line is read from left to right: the word stands there,
and no earlier place that counts reaches up to it. -/
def Counts (shape : Shape) (name line : List Char) (p : Nat) : Prop :=
  Stands (shape.opening ++ name) shape.closings line p ∧
    ∀ q (_ : q < p), shape.Counts name line q → q + shape.width name < p
termination_by p

theorem counts_iff : shape.Counts name line p ↔
    Stands (shape.opening ++ name) shape.closings line p ∧
      ∀ q < p, shape.Counts name line q → q + shape.width name < p := by
  rw [Counts]

theorem finds_iff : shape.Finds name line p ↔ shape.Counts name line p := by
  induction p using Nat.strongRecOn with
  | ind p ih =>
    rw [counts_iff]
    constructor
    · intro found
      refine ⟨found.stands, fun q sooner counts => ?_⟩
      exact ((ih q sooner).mpr counts).apart found sooner
    · rintro ⟨stands, apart⟩
      rcases shape.finds_or_covered stands with here | ⟨q, sooner, there, covers⟩
      · exact here
      · have beyond := apart q sooner ((ih q sooner).mp there)
        omega

/-- Whether a place is found depends on where the word stands up to that place, and on nothing
behind it. -/
theorem finds_congr {other : List Char} (same : ∀ q ≤ p,
      Stands (shape.opening ++ name) shape.closings line q ↔
        Stands (shape.opening ++ name) shape.closings other q) :
    shape.Finds name line p ↔ shape.Finds name other p := by
  rw [finds_iff, finds_iff]
  induction p using Nat.strongRecOn with
  | ind p ih =>
    have sooner : ∀ q < p, shape.Counts name line q ↔ shape.Counts name other q := fun q hq =>
      ih q hq fun r hr => same r (by omega)
    rw [counts_iff, counts_iff, same p (Nat.le_refl p)]
    refine and_congr_right fun _ => forall₂_congr fun q hq => ?_
    rw [sooner q hq]

theorem take_opening {q : Nat} (h : Stands (shape.opening ++ name) shape.closings line q) :
    line.take q ++ shape.opening = line.take (q + shape.opening.length) := by
  obtain ⟨c, _, rest, there⟩ := h.2
  rw [List.take_add, there, List.append_assoc, List.take_left]

theorem Finds.exists_site (h : shape.Finds name line q) :
    ∃ site ∈ shape.sites name line,
      site.offset = byteLength (line.take (q + shape.opening.length)) :=
  ⟨_, List.mem_map.mpr ⟨_, h, rfl⟩, congrArg byteLength (take_opening h.stands)⟩

theorem exists_finds {site : Site} (h : site ∈ shape.sites name line) :
    ∃ q, shape.Finds name line q ∧ site.before = line.take (q + shape.opening.length) ∧
      site.offset = byteLength site.before := by
  obtain ⟨⟨before, after⟩, found, rfl⟩ := List.mem_map.mp h
  obtain ⟨left, _, finds⟩ := finds_of_mem found
  refine ⟨before.length, finds, ?_, rfl⟩
  rw [← take_opening finds.stands, ← left]

end Shape

theorem exists_markedSite {q : Nat} (h : marked.Finds name line q) :
    ∃ site ∈ markedSites name line, site.offset = byteLength (line.take q) :=
  ⟨_, List.mem_map.mpr ⟨_, h, rfl⟩, rfl⟩

theorem exists_finds_marked {site : Site} (h : site ∈ markedSites name line) :
    ∃ q, marked.Finds name line q ∧ site.offset = byteLength (line.take q) := by
  obtain ⟨⟨before, after⟩, found, rfl⟩ := List.mem_map.mp h
  obtain ⟨left, _, finds⟩ := Shape.finds_of_mem found
  exact ⟨before.length, finds, congrArg byteLength left⟩

/-! ## The closest site -/

theorem closest?_eq_none_iff {target : Nat} {all : List Site} :
    closest? target all = none ↔ all = [] := by
  cases all with
  | nil => simp [closest?]
  | cons site rest =>
    simp only [closest?, reduceCtorEq, iff_false]
    split
    · split <;> simp
    · simp

theorem closest?_le {target : Nat} {all : List Site} {site : Site}
    (h : closest? target all = some site) :
    ∀ other ∈ all, distance site.offset target ≤ distance other.offset target := by
  induction all generalizing site with
  | nil => cases h
  | cons first rest ih =>
    rw [closest?] at h
    intro other member
    split at h
    · rename_i next chosen
      have rests := ih chosen
      split at h
      · cases h
        rcases List.mem_cons.mp member with rfl | member
        · omega
        · exact rests other member
      · cases h
        rcases List.mem_cons.mp member with rfl | member
        · exact Nat.le_refl _
        · have bound := rests other member
          omega
    · rename_i none
      cases h
      rw [closest?_eq_none_iff.mp none] at member
      obtain rfl := List.mem_singleton.mp member
      exact Nat.le_refl _

/-- Of the later sites one is taken only if it is closer than all the earlier ones. -/
theorem closest?_append {target : Nat} {earlier later : List Site} {site : Site}
    (h : closest? target (earlier ++ later) = some site) :
    site ∈ earlier ∨ site ∈ later ∧
      ∀ other ∈ earlier, distance site.offset target < distance other.offset target := by
  induction earlier generalizing site with
  | nil => exact .inr ⟨mem_of_closest? h, by simp⟩
  | cons first rest ih =>
    rw [List.cons_append, closest?] at h
    split at h
    · rename_i next chosen
      split at h
      · rename_i closer
        cases h
        rcases ih chosen with among | ⟨behind, closest⟩
        · exact .inl (List.mem_cons_of_mem first among)
        · exact .inr ⟨behind, List.forall_mem_cons.mpr ⟨closer, closest⟩⟩
      · cases h
        exact .inl List.mem_cons_self
    · cases h
      exact .inl List.mem_cons_self

end LintRepair.Parameter
