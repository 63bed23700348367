import Mathlib

/-!
# Insertion at a partition point

A list that is sorted by a relation is kept sorted by inserting a new element at the point where
the elements before it end.  `partitionPoint` is that index, as the standard library of Rust defines
it for a list whose elements with a property all come first.
-/

namespace BifrostRelayer

variable {α : Type*} {p : α → Bool} {r : α → α → Prop} {l : List α} {x : α}

/-- `partition_point`: the index of the first element without the property. -/
def partitionPoint (p : α → Bool) (l : List α) : ℕ := (l.takeWhile p).length

/-- Inserting at the partition point separates the elements with the property from the rest. -/
theorem insertIdx_partitionPoint (p : α → Bool) (l : List α) (x : α) :
    l.insertIdx (partitionPoint p l) x = l.takeWhile p ++ x :: l.dropWhile p := by
  rw [partitionPoint]
  induction l with
  | nil => rfl
  | cons y l ih =>
    by_cases hy : p y = true
    · rw [List.takeWhile_cons_of_pos hy, List.dropWhile_cons_of_pos hy, List.length_cons,
        List.insertIdx_succ_cons, ih, List.cons_append]
    · rw [List.takeWhile_cons_of_neg hy, List.dropWhile_cons_of_neg hy, List.length_nil,
        List.insertIdx_zero, List.nil_append]

/-- An insertion at the partition point adds exactly the new element. -/
theorem mem_insertIdx_partitionPoint {y : α} :
    y ∈ l.insertIdx (partitionPoint p l) x ↔ y = x ∨ y ∈ l := by
  rw [insertIdx_partitionPoint, List.mem_append, List.mem_cons]
  conv_rhs => rw [← List.takeWhile_append_dropWhile (p := p) (l := l), List.mem_append]
  tauto

/-- What follows the partition point of a sorted list comes after an element that is comparable
with all of them. -/
theorem rel_of_mem_dropWhile [IsTrans α r] (h : l.Pairwise r)
    (hx : ∀ y ∈ l, p y = true ∨ r x y) : ∀ y ∈ l.dropWhile p, r x y := by
  induction l with
  | nil => simp
  | cons z l ih =>
    obtain ⟨hz, hl⟩ := List.pairwise_cons.1 h
    intro y hy
    by_cases hpz : p z = true
    · rw [List.dropWhile_cons_of_pos hpz] at hy
      exact ih hl (fun y hy => hx y (List.mem_cons_of_mem _ hy)) y hy
    · rw [List.dropWhile_cons_of_neg hpz] at hy
      have hxz : r x z := (hx z List.mem_cons_self).resolve_left hpz
      rcases List.mem_cons.1 hy with rfl | hy
      · exact hxz
      · exact IsTrans.trans _ _ _ hxz (hz y hy)

/-- Inserting at the partition point keeps a list sorted, if every element is either one that the
partition puts before the new one, or comes after it. -/
theorem pairwise_insertIdx_partitionPoint [IsTrans α r] (h : l.Pairwise r)
    (hbefore : ∀ y ∈ l, p y = true → r y x) (hafter : ∀ y ∈ l, p y = true ∨ r x y) :
    (l.insertIdx (partitionPoint p l) x).Pairwise r := by
  have hx : ∀ y ∈ l.dropWhile p, r x y := rel_of_mem_dropWhile h hafter
  have htake : ∀ y ∈ l.takeWhile p, r y x := fun y hy =>
    hbefore y ((List.takeWhile_sublist p).subset hy) (List.mem_takeWhile_imp hy)
  rw [insertIdx_partitionPoint, List.pairwise_append, List.pairwise_cons]
  refine ⟨h.sublist (List.takeWhile_sublist p), ⟨hx, h.sublist (List.dropWhile_sublist p)⟩, ?_⟩
  intro y hy z hz
  rcases List.mem_cons.1 hz with rfl | hz
  · exact htake y hy
  · exact IsTrans.trans _ _ _ (htake y hy) (hx z hz)

end BifrostRelayer
