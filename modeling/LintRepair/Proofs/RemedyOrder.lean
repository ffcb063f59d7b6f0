import LintRepair.Remedy.Catalog
import Mathlib.Data.List.Induction
import Mathlib.Data.List.Nodup

/-!
The remedies that an order schedules.

* `orderedFrom_eq`: with some names passed over, the remedies found for the
  first occurrences of the others;
* `idxOf_eraseDups`: first occurrences stand in the order of their positions;
* `ids_ordered`: the names of the remedies are the first occurrences of those
  names that have one.
-/

namespace LintRepair

/-- The first occurrences of a list, in the order of their positions in it. -/
theorem idxOf_eraseDups {α : Type} [DecidableEq α] (xs : List α) :
    xs.eraseDups.Pairwise fun a b => xs.idxOf a < xs.idxOf b := by
  induction xs using List.reverseRecOn with
  | nil => simp
  | append_singleton xs x ih =>
    -- What came before keeps its position, and a new element has the last one.
    have earlier : xs.eraseDups.Pairwise fun a b => (xs ++ [x]).idxOf a < (xs ++ [x]).idxOf b := by
      refine ih.imp_of_mem fun {a b} ha hb before => ?_
      rwa [List.idxOf_append_of_mem (List.mem_eraseDups.mp ha),
        List.idxOf_append_of_mem (List.mem_eraseDups.mp hb)]
    rw [List.eraseDups_append]
    by_cases seen : x ∈ xs
    · simpa [List.removeAll, seen] using earlier
    · have new : ([x].removeAll xs).eraseDups = [x] := by
        simp [List.removeAll, seen, List.eraseDups_cons]
      rw [new, List.pairwise_append]
      refine ⟨earlier, List.pairwise_singleton _ _, ?_⟩
      intro a ha b hb
      obtain rfl := List.mem_singleton.mp hb
      have inside := List.mem_eraseDups.mp ha
      rw [List.idxOf_append_of_mem inside, List.idxOf_append_of_notMem seen]
      exact Nat.lt_add_right _ (List.idxOf_lt_length_of_mem inside)

theorem eraseDups_of_nodup {α : Type} [DecidableEq α] {xs : List α} (h : xs.Nodup) :
    xs.eraseDups = xs := by
  induction xs with
  | nil => rfl
  | cons x xs ih =>
    obtain ⟨new, others⟩ := List.nodup_cons.mp h
    have kept : (xs.filter fun y => !y == x) = xs := by
      refine List.filter_eq_self.mpr fun y hy => ?_
      simpa using ne_of_mem_of_not_mem hy new
    rw [List.eraseDups_cons, kept, ih others]

namespace Catalog

theorem find?_eq_some_iff {c : Catalog} {id : RemedyId} {r : Remedy} :
    c.find? id = some r ↔
      r.id = id ∧ ∃ before after, c = before ++ r :: after ∧ ∀ s ∈ before, s.id ≠ id := by
  simp [find?, List.find?_eq_some_iff_append]

theorem isSome_find? {c : Catalog} {id : RemedyId} :
    (c.find? id).isSome = true ↔ ∃ r ∈ c, r.id = id := by
  simp [find?]

/-- The loop finds a remedy for the first occurrence of each name that was not seen before it. -/
theorem orderedFrom_eq (c : Catalog) (seen order : List RemedyId) :
    c.orderedFrom seen order = (order.removeAll seen).eraseDups.filterMap c.find? := by
  induction order generalizing seen with
  | nil => rfl
  | cons id order ih =>
    by_cases again : id ∈ seen
    · have passed : (id :: order).removeAll seen = order.removeAll seen := by
        simp [List.removeAll, again]
      simp [orderedFrom, again, ih, passed]
    · have taken : (id :: order).removeAll seen = id :: order.removeAll seen := by
        simp [List.removeAll, again]
      -- The seen names grow by what `eraseDups` takes out of the rest.
      have later : order.removeAll (id :: seen) = (order.removeAll seen).filter (!· == id) := by
        rw [List.removeAll_cons, List.removeAll, List.removeAll, List.filter_comm]
      have found : (c.find? id).toList = [id].filterMap c.find? := by
        cases h : c.find? id <;> simp [h]
      rw [orderedFrom, if_neg (by simpa using again), ih, taken, List.eraseDups_cons, ← later, found,
        ← List.filterMap_append, List.singleton_append]

theorem ordered_eq (c : Catalog) (order : List RemedyId) :
    c.ordered order = order.eraseDups.filterMap c.find? := by
  have unseen : order.removeAll [] = order := by simp [List.removeAll]
  rw [ordered, orderedFrom_eq, unseen]

theorem ids_ordered (c : Catalog) (order : List RemedyId) :
    (c.ordered order).map Remedy.id = order.eraseDups.filter fun id => (c.find? id).isSome := by
  have named (id : RemedyId) :
      (c.find? id).map Remedy.id = Option.guard (fun id => (c.find? id).isSome) id := by
    cases found : c.find? id with
    | none => simp [Option.guard, found]
    | some r => simp [Option.guard, found, (find?_eq_some_iff.mp found).1]
  rw [ordered_eq, List.map_filterMap, funext named, List.filterMap_eq_filter]

/-- An order schedules the names that have a remedy, each once and in the order of their first
occurrence, and for each the first remedy of the catalog under that name. So only first occurrences
count, and the names scheduled are an order for the same remedies. -/
theorem schedules_first_occurrences (c : Catalog) (order : List RemedyId) :
    (∀ id, id ∈ (c.ordered order).map Remedy.id ↔ id ∈ order ∧ ∃ r ∈ c, r.id = id) ∧
    ((c.ordered order).map Remedy.id).Nodup ∧
    ((c.ordered order).map Remedy.id).Pairwise (fun a b => order.idxOf a < order.idxOf b) ∧
    (∀ r ∈ c.ordered order,
      ∃ before after, c = before ++ r :: after ∧ ∀ s ∈ before, s.id ≠ r.id) ∧
    (∀ other : List RemedyId, other.eraseDups = order.eraseDups →
      c.ordered other = c.ordered order) ∧
    c.ordered ((c.ordered order).map Remedy.id) = c.ordered order := by
  have ascending : ((c.ordered order).map Remedy.id).Pairwise
      (fun a b => order.idxOf a < order.idxOf b) := by
    rw [ids_ordered]
    exact (idxOf_eraseDups order).filter _
  have distinct : ((c.ordered order).map Remedy.id).Nodup := by
    refine ascending.imp ?_
    rintro a b before rfl
    exact Nat.lt_irrefl _ before
  refine ⟨fun id => ?_, distinct, ascending, fun r hr => ?_, fun other same => ?_, ?_⟩
  · rw [ids_ordered, List.mem_filter, List.mem_eraseDups, isSome_find?]
  · rw [ordered_eq] at hr
    obtain ⟨id, -, found⟩ := List.mem_filterMap.mp hr
    obtain ⟨rfl, first⟩ := find?_eq_some_iff.mp found
    exact first
  · rw [ordered_eq, ordered_eq, same]
  · rw [ordered_eq c ((c.ordered order).map _), eraseDups_of_nodup distinct, ids_ordered,
      List.filterMap_filter, ordered_eq]
    refine List.filterMap_congr fun id _ => ?_
    cases c.find? id <;> rfl

end Catalog

end LintRepair
