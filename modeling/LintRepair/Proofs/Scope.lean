import LintRepair.Proofs.PathComponents

/-!
What a scope lets through. With an absolute root every resolved path is the path
of a place, and an admitted one lies at or below the root under a spelling that
holds no excluded text.
-/

namespace LintRepair

theorem occursIn_iff (part s : List Char) : occursIn part s = true ↔ part <:+: s := by
  induction s with
  | nil => simp [occursIn]
  | cons c s ih =>
    rw [occursIn, Bool.or_eq_true, ih, List.isPrefixOf_iff_prefix, List.infix_cons_iff]

namespace Path

theorem dropWhile_isIdle {pieces : List (List Char)} (h : ∀ p ∈ pieces, isIdle p = false) :
    pieces.dropWhile isIdle = pieces := by
  cases pieces with
  | nil => rfl
  | cons p pieces => simp [List.dropWhile, h p List.mem_cons_self]

theorem dropIdleEnd_eq {pieces : List (List Char)} (h : ∀ p ∈ pieces, isIdle p = false) :
    dropIdleEnd pieces = pieces := by
  rw [dropIdleEnd, dropWhile_isIdle (by simpa using h), List.reverse_reverse]

theorem dropPieces_eq {pieces : List (List Char)} (h : ∀ p ∈ pieces, isIdle p = false) (n : Nat) :
    dropPieces n pieces = pieces.drop n := by
  induction pieces generalizing n with
  | nil => cases n <;> rfl
  | cons p pieces ih =>
    cases n with
    | zero => rfl
    | succ n =>
      simp only [dropPieces, h p List.mem_cons_self, Bool.false_eq_true, ↓reduceIte,
        List.drop_succ_cons]
      exact ih (fun q hq => h q (List.mem_cons_of_mem p hq)) n

theorem joinPieces_names (names : List String) :
    joinPieces (names.map String.toList) = String.intercalate "/" names := by
  rw [joinPieces, ← String.toList_inj, String.toList_ofList, String.toList_intercalate]
  rfl

/-- Below a place, a path is spelled by the names that lead there. -/
theorem below?_ofPlace {root rest : List String} (h : IsPlace (root ++ rest)) :
    (ofPlace (root ++ rest)).below? (ofPlace root) = some (String.intercalate "/" rest) := by
  have hr : IsPlace root := fun n hn => h n (List.mem_append_left rest hn)
  have inside : (ofPlace (root ++ rest)).startsWith (ofPlace root) = true :=
    (startsWith_ofPlace h hr).mpr (List.prefix_append root rest)
  have named : ∀ p ∈ (root ++ rest).map String.toList, isIdle p = false := by
    intro p hp
    obtain ⟨name, hn, rfl⟩ := List.mem_map.mp hp
    exact (h name hn).not_idle
  rw [below?, if_pos inside, components_ofPlace hr, List.length_cons, List.length_map]
  congr 1
  have unfolded : (ofPlace (root ++ rest)).spellingAfter (root.length + 1) =
      spellingAfter.body (dropPieces root.length
        (pieces (List.intercalate ['/'] ((root ++ rest).map String.toList)))) := by
    unfold spellingAfter
    rw [ofPlace_text]
    rfl
  have noSlash : ∀ p ∈ (root ++ rest).map String.toList, '/' ∉ p := by
    intro p hp
    obtain ⟨name, hn, rfl⟩ := List.mem_map.mp hp
    exact (h name hn).2.2.2
  rw [unfolded]
  by_cases ne : root ++ rest = []
  · obtain ⟨rfl, rfl⟩ := List.append_eq_nil_iff.mp ne
    rfl
  · rw [pieces_intercalate (by simpa using ne) noSlash, dropPieces_eq named, spellingAfter.body,
      List.map_append, List.drop_left' (List.length_map _)]
    have behind : ∀ p ∈ rest.map String.toList, isIdle p = false := fun p hp =>
      named p (by rw [List.map_append]; exact List.mem_append_right _ hp)
    rw [dropWhile_isIdle behind, dropIdleEnd_eq behind, joinPieces_names]

end Path

namespace Scope

/-- Resolving looks at the components of a path, not at its spelling. -/
theorem resolve_eq_of_components (s : Scope) {p q : Path} (h : p.components = q.components) :
    s.resolve p = s.resolve q := by
  unfold resolve
  rw [Path.isAbsolute_eq_of_components h]
  split
  · rw [Path.normalize, Path.normalize, h]
  · rename_i relative
    have hq : q.isAbsolute = false := by simpa using relative
    have hp : p.isAbsolute = false := by rw [Path.isAbsolute_eq_of_components h, hq]
    have joined : (s.root.join p).components = (s.root.join q).components := by
      by_cases empty : s.root.text.toList = []
      · have : s.root.text = "" := by simpa using empty
        simpa [Path.join, hp, hq, this] using h
      · rw [Path.components_join empty hp, Path.components_join empty hq,
          Path.steps_eq_of_components h]
    rw [Path.normalize, Path.normalize, joined]

/-- What a path leads to as seen from an absolute root is a place. -/
theorem resolve_absolute {s : Scope} (h : s.root.isAbsolute = true) (path : Path) :
    ∃ place, Path.IsPlace place ∧ s.resolve path = .ofPlace place := by
  unfold resolve
  split
  · exact Path.normalize_absolute (by assumption)
  · rename_i relative
    have hq : path.isAbsolute = false := by simpa using relative
    obtain ⟨text, ht⟩ := Path.isAbsolute_iff.mp h
    obtain ⟨a, joined, own⟩ := Path.join_text (p := s.root) (by simp [ht]) hq
    apply Path.normalize_absolute
    rw [Path.isAbsolute_iff, joined]
    rcases own with own | own
    · exact ⟨text ++ '/' :: path.text.toList, by rw [← own, ht, List.cons_append]⟩
    · cases a with
      | nil => exact ⟨path.text.toList, rfl⟩
      | cons c a => simp_all

theorem root_ofRoot {root : Path} (h : root.isAbsolute = true) (exclude : List String) :
    ∃ place, Path.IsPlace place ∧ (Scope.ofRoot root exclude).root = .ofPlace place :=
  Path.normalize_absolute h

/-- An admitted path is spelled below the root by plain names without an excluded text. -/
theorem admits_resolved {root : Path} (h : root.isAbsolute = true) {exclude : List String}
    {path : Path} (admitted : (Scope.ofRoot root exclude).admits
      ((Scope.ofRoot root exclude).resolve path) = true) :
    ∃ above below, Path.IsPlace (above ++ below) ∧
      (Scope.ofRoot root exclude).root = .ofPlace above ∧
      (Scope.ofRoot root exclude).resolve path = .ofPlace (above ++ below) ∧
      ∀ entry ∈ exclude, entry ≠ "" →
        ¬ entry.toList <:+: (String.intercalate "/" below).toList := by
  obtain ⟨above, ha, atRoot⟩ := root_ofRoot h exclude
  have rootAbsolute : (Scope.ofRoot root exclude).root.isAbsolute = true := by
    rw [atRoot]
    exact Path.ofPlace_isAbsolute above
  obtain ⟨place, hp, resolved⟩ := resolve_absolute rootAbsolute path
  simp only [admits, Bool.and_eq_true, Bool.not_eq_true', resolved, atRoot] at admitted
  obtain ⟨below, rfl⟩ := (Path.startsWith_ofPlace hp ha).mp admitted.1
  refine ⟨above, below, hp, atRoot, resolved, ?_⟩
  intro entry he hne inside
  have notExcluded := admitted.2
  simp only [isExcluded, Path.below?_ofPlace hp, Option.getD_some, List.any_eq_false,
    Bool.and_eq_true, Bool.not_eq_true', occursIn_iff] at notExcluded
  exact notExcluded entry he ⟨by simpa using hne, inside⟩

end Scope

end LintRepair
