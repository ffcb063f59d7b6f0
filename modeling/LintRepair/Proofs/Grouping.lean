import LintRepair.Edit.Batch
import Mathlib.Data.List.Sort
import Mathlib.Data.Prod.Lex
import Mathlib.Data.String.Basic

/-!
How a batch groups its findings. The files come in the order of their paths, each
path once however it is spelled, and each with its findings in the order in which
they were reported.
-/

namespace LintRepair

/-! ## The order of paths -/

/-- What decides where a component comes in the order. -/
def Component.key (c : Component) : ℕ ×ₗ String :=
  toLex (c.rank, match c with
    | .name text => text
    | _ => "")

theorem Component.lt_iff (a b : Component) : a.lt b = true ↔ a.key < b.key := by
  cases a <;> cases b <;> simp [lt, key, rank, Prod.Lex.toLex_lt_toLex]

theorem Component.key_injective : Function.Injective Component.key := by
  intro a b h
  cases a <;> cases b <;> simp_all [key, rank]

namespace Path

def key (p : Path) : List (ℕ ×ₗ String) := p.components.map Component.key

theorem key_inj {p q : Path} : p.key = q.key ↔ p.components = q.components :=
  List.map_inj_right Component.key_injective

theorem lt_go_iff (as bs : List Component) :
    lt.go as bs = true ↔ as.map Component.key < bs.map Component.key := by
  induction as generalizing bs with
  | nil => cases bs <;> simp [lt.go]
  | cons a as ih =>
    cases bs with
    | nil => simp [lt.go]
    | cons b bs =>
      simp [lt.go, List.cons_lt_cons_iff, Component.lt_iff, ih, Component.key_injective.eq_iff]

theorem lt_iff (p q : Path) : p.lt q = true ↔ p.key < q.key := lt_go_iff _ _

end Path

/-! ## Groups -/

/-- The files of the groups are in ascending order. -/
def Ascending (groups : List (Path × List Finding)) : Prop :=
  groups.Pairwise fun g h => g.1.key < h.1.key

/-- What a group can be after a finding was added: one of another file, the one of the file with the
finding behind the others, or a new one of a file that had none. -/
theorem mem_addFinding {groups : List (Path × List Finding)} (ascending : Ascending groups)
    {f : Finding} {g : Path × List Finding} (hg : g ∈ addFinding groups f) :
    (g ∈ groups ∧ f.file.components ≠ g.1.components) ∨
      (∃ before, (g.1, before) ∈ groups ∧ f.file.components = g.1.components ∧
        g.2 = before ++ [f]) ∨
      (g = (f.file, [f]) ∧ ∀ h ∈ groups, f.file.components ≠ h.1.components) := by
  induction groups with
  | nil => exact .inr (.inr ⟨List.mem_singleton.mp hg, by simp⟩)
  | cons group groups ih =>
    obtain ⟨file, members⟩ := group
    obtain ⟨first, later⟩ := List.pairwise_cons.mp ascending
    simp only [addFinding] at hg
    split at hg
    · rename_i same
      rcases List.mem_cons.mp hg with rfl | hg
      · exact .inr (.inl ⟨members, List.mem_cons_self, same, rfl⟩)
      · refine .inl ⟨List.mem_cons_of_mem _ hg, fun again => ?_⟩
        have apart := first g hg
        rw [Path.key_inj.mpr (same.symm.trans again)] at apart
        exact lt_irrefl _ apart
    · rename_i differs
      split at hg
      · rename_i before
        have least : ∀ h ∈ (file, members) :: groups, f.file.key < h.1.key := by
          intro h hh
          rcases List.mem_cons.mp hh with rfl | hh
          · exact (Path.lt_iff _ _).mp before
          · exact lt_trans ((Path.lt_iff _ _).mp before) (first h hh)
        have fresh : ∀ h ∈ (file, members) :: groups, f.file.components ≠ h.1.components :=
          fun h hh same => (least h hh).ne (Path.key_inj.mpr same)
        rcases List.mem_cons.mp hg with rfl | hg
        · exact .inr (.inr ⟨rfl, fresh⟩)
        · exact .inl ⟨hg, fresh g hg⟩
      · rcases List.mem_cons.mp hg with rfl | hg
        · exact .inl ⟨List.mem_cons_self, differs⟩
        · rcases ih later hg with ⟨old, other⟩ | ⟨before, old, same, members⟩ | ⟨new, fresh⟩
          · exact .inl ⟨List.mem_cons_of_mem _ old, other⟩
          · exact .inr (.inl ⟨before, List.mem_cons_of_mem _ old, same, members⟩)
          · refine .inr (.inr ⟨new, fun h hh => ?_⟩)
            rcases List.mem_cons.mp hh with rfl | hh
            · exact differs
            · exact fresh h hh

theorem addFinding_ascending {groups : List (Path × List Finding)} (ascending : Ascending groups)
    (f : Finding) : Ascending (addFinding groups f) := by
  induction groups with
  | nil => exact List.pairwise_singleton _ _
  | cons group groups ih =>
    obtain ⟨file, members⟩ := group
    obtain ⟨first, later⟩ := List.pairwise_cons.mp ascending
    simp only [addFinding]
    split
    · exact List.pairwise_cons.mpr ⟨first, later⟩
    · rename_i differs
      split
      · rename_i before
        have before := (Path.lt_iff _ _).mp before
        refine List.pairwise_cons.mpr ⟨fun h hh => ?_, ascending⟩
        rcases List.mem_cons.mp hh with rfl | hh
        · exact before
        · exact lt_trans before (first h hh)
      · rename_i notBefore
        have behind : file.key < f.file.key := by
          rw [Path.lt_iff, not_lt] at notBefore
          exact lt_of_le_of_ne notBefore fun same => differs (Path.key_inj.mp same).symm
        refine List.pairwise_cons.mpr ⟨fun h hh => ?_, ih later⟩
        rcases mem_addFinding later hh with ⟨old, _⟩ | ⟨before, old, _⟩ | ⟨rfl, _⟩
        · exact first h old
        · exact first (h.1, before) old
        · exact behind

/-- Every file that had a group still has one. -/
theorem addFinding_keeps {groups : List (Path × List Finding)} (f : Finding)
    {g : Path × List Finding} (hg : g ∈ groups) : ∃ h ∈ addFinding groups f, h.1 = g.1 := by
  induction groups with
  | nil => cases hg
  | cons group groups ih =>
    obtain ⟨file, members⟩ := group
    simp only [addFinding]
    rcases List.mem_cons.mp hg with rfl | hg
    · split
      · exact ⟨_, List.mem_cons_self, rfl⟩
      · split
        · exact ⟨_, List.mem_cons_of_mem _ List.mem_cons_self, rfl⟩
        · exact ⟨_, List.mem_cons_self, rfl⟩
    · split
      · exact ⟨g, List.mem_cons_of_mem _ hg, rfl⟩
      · split
        · exact ⟨g, List.mem_cons_of_mem _ (List.mem_cons_of_mem _ hg), rfl⟩
        · obtain ⟨h, hh, same⟩ := ih hg
          exact ⟨h, List.mem_cons_of_mem _ hh, same⟩

theorem addFinding_covers (groups : List (Path × List Finding)) (f : Finding) :
    ∃ h ∈ addFinding groups f, f.file.components = h.1.components := by
  induction groups with
  | nil => exact ⟨_, List.mem_singleton_self _, rfl⟩
  | cons group groups ih =>
    obtain ⟨file, members⟩ := group
    simp only [addFinding]
    split
    · rename_i same
      exact ⟨_, List.mem_cons_self, same⟩
    · split
      · exact ⟨_, List.mem_cons_self, rfl⟩
      · obtain ⟨h, hh, same⟩ := ih
        exact ⟨h, List.mem_cons_of_mem _ hh, same⟩

/-- The findings on a file, however it is spelled. -/
def findingsOn (findings : List Finding) (file : Path) : List Finding :=
  findings.filter (·.file.components = file.components)

/-- The groups of some findings: one for every file that is named, in order. -/
structure GroupsOf (findings : List Finding) (groups : List (Path × List Finding)) : Prop where
  ascending : Ascending groups
  named : ∀ g ∈ groups, ∃ f ∈ findings, f.file.components = g.1.components
  members : ∀ g ∈ groups, g.2 = findingsOn findings g.1
  covered : ∀ f ∈ findings, ∃ g ∈ groups, f.file.components = g.1.components

theorem GroupsOf.addFinding {findings : List Finding} {groups : List (Path × List Finding)}
    (h : GroupsOf findings groups) (f : Finding) :
    GroupsOf (findings ++ [f]) (addFinding groups f) where
  ascending := addFinding_ascending h.ascending f
  named := by
    intro g hg
    rcases mem_addFinding h.ascending hg with ⟨old, _⟩ | ⟨_, _, same, _⟩ | ⟨rfl, _⟩
    · obtain ⟨x, hx, same⟩ := h.named g old
      exact ⟨x, List.mem_append_left _ hx, same⟩
    · exact ⟨f, by simp, same⟩
    · exact ⟨f, by simp, rfl⟩
  members := by
    intro g hg
    rw [findingsOn, List.filter_append]
    rcases mem_addFinding h.ascending hg with ⟨old, other⟩ | ⟨before, old, same, now⟩ | ⟨rfl, fresh⟩
    · rw [h.members g old, findingsOn]
      simp [other]
    · have had : before = findingsOn findings g.1 := h.members (g.1, before) old
      rw [now, had, findingsOn]
      simp [same]
    · -- Findings on this file would have a group.
      have none : findings.filter (·.file.components = f.file.components) = [] := by
        rw [List.filter_eq_nil_iff]
        intro x hx same
        obtain ⟨g, hg, there⟩ := h.covered x hx
        exact fresh g hg ((of_decide_eq_true same).symm.trans there)
      simp [none]
  covered := by
    intro x hx
    rcases List.mem_append.mp hx with hx | hx
    · obtain ⟨g, hg, same⟩ := h.covered x hx
      obtain ⟨g', hg', kept⟩ := addFinding_keeps f hg
      exact ⟨g', hg', kept ▸ same⟩
    · rw [List.mem_singleton.mp hx]
      exact addFinding_covers groups f

theorem groupsOf_groupByFile (findings : List Finding) :
    GroupsOf findings (groupByFile findings) := by
  have run (seen rest : List Finding) (groups : List (Path × List Finding))
      (h : GroupsOf seen groups) : GroupsOf (seen ++ rest) (rest.foldl addFinding groups) := by
    induction rest generalizing seen groups with
    | nil => simpa using h
    | cons f rest ih =>
      have more := ih (seen ++ [f]) (addFinding groups f) (h.addFinding f)
      rwa [List.append_assoc, List.singleton_append] at more
  exact run [] findings [] ⟨.nil, by simp, by simp, by simp⟩

/-- Findings on the same files are grouped under the same files, up to how these are spelled. -/
theorem GroupsOf.files_eq {findings others : List Finding} {xs ys : List (Path × List Finding)}
    (hx : GroupsOf findings xs) (hy : GroupsOf others ys)
    (same : ∀ file : Path, (∃ f ∈ findings, f.file.components = file.components) ↔
      ∃ f ∈ others, f.file.components = file.components) :
    xs.map (·.1.components) = ys.map (·.1.components) := by
  have keys : xs.map (·.1.key) = ys.map (·.1.key) := by
    have sortedX : (xs.map (·.1.key)).Pairwise (· < ·) := List.pairwise_map.mpr hx.ascending
    have sortedY : (ys.map (·.1.key)).Pairwise (· < ·) := List.pairwise_map.mpr hy.ascending
    refine sortedX.eq_of_mem_iff sortedY fun key => ?_
    rw [List.mem_map, List.mem_map]
    constructor
    · rintro ⟨g, hg, rfl⟩
      obtain ⟨f, hf, named⟩ := (same g.1).mp (hx.named g hg)
      obtain ⟨g', hg', there⟩ := hy.covered f hf
      exact ⟨g', hg', Path.key_inj.mpr (there.symm.trans named)⟩
    · rintro ⟨g, hg, rfl⟩
      obtain ⟨f, hf, named⟩ := (same g.1).mpr (hy.named g hg)
      obtain ⟨g', hg', there⟩ := hx.covered f hf
      exact ⟨g', hg', Path.key_inj.mpr (there.symm.trans named)⟩
  -- Keys stand for components, one for one.
  have back : ∀ groups : List (Path × List Finding),
      groups.map (·.1.key) = (groups.map (·.1.components)).map (List.map Component.key) := by
    intro groups
    rw [List.map_map]
    rfl
  rw [back, back] at keys
  exact List.map_injective_iff.mpr (List.map_injective_iff.mpr Component.key_injective) keys

end LintRepair
