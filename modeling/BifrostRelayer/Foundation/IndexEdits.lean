import Mathlib

/-!
# Bulk edits of a vector by index

A loop that inspects a snapshot of a vector often records what to do with each entry as lists of
indices and applies them to the live vector afterwards: first the in-place updates, then the
removals, in descending order so that the indices still to come stay valid.  This file shows that
the two passes together amount to one decision per entry: `eraseAll_modifyAll` rewrites them to a
`mapIdx` followed by `reduceOption`, so that nothing is lost, duplicated or reordered.

What a single edit does to a property of all entries and to a count of them stands at the end.
-/

namespace BifrostRelayer

variable {α : Type*}

/-- Apply a list of in-place updates, one after the other; an index out of range is ignored. -/
def modifyAll (l : List α) (us : List (ℕ × (α → α))) : List α :=
  us.foldl (fun l u => l.modify u.1 u.2) l

/-- Remove the entries at the listed indices, in the order of the list; an index out of range is
ignored. -/
def eraseAll (l : List α) (is : List ℕ) : List α :=
  is.foldl (fun l i => if i < l.length then l.eraseIdx i else l) l

/-- The update that a list of updates prescribes for the index `i`. -/
def updateAt (us : List (ℕ × (α → α))) (i : ℕ) : α → α :=
  ((us.find? fun u => u.1 == i).map Prod.snd).getD id

@[simp] lemma modifyAll_nil (l : List α) : modifyAll l [] = l := rfl

@[simp] lemma modifyAll_cons (l : List α) (u : ℕ × (α → α)) (us : List (ℕ × (α → α))) :
    modifyAll l (u :: us) = modifyAll (l.modify u.1 u.2) us := rfl

lemma modifyAll_append (l : List α) (us vs : List (ℕ × (α → α))) :
    modifyAll l (us ++ vs) = modifyAll (modifyAll l us) vs := by
  simp [modifyAll, List.foldl_append]

/-- An index that no update names is left alone. -/
lemma updateAt_of_notMem {us : List (ℕ × (α → α))} {i : ℕ} (h : i ∉ us.map Prod.fst) :
    updateAt us i = id := by
  have hnone : us.find? (fun u => u.1 == i) = none := by
    rw [List.find?_eq_none]
    intro u hu
    simp only [beq_iff_eq]
    rintro rfl
    exact h (List.mem_map_of_mem hu)
  simp [updateAt, hnone]

/-- With at most one update per index, the listed update is the one prescribed. -/
lemma updateAt_of_mem {us : List (ℕ × (α → α))} (hus : (us.map Prod.fst).Nodup) {i : ℕ}
    {f : α → α} (h : (i, f) ∈ us) : updateAt us i = f := by
  induction us with
  | nil => simp at h
  | cons u us ih =>
    rw [List.map_cons, List.nodup_cons] at hus
    rcases List.mem_cons.mp h with rfl | h
    · simp [updateAt]
    · have hne : u.1 ≠ i := by
        rintro rfl
        exact hus.1 (List.mem_map.mpr ⟨_, h, rfl⟩)
      rw [← ih hus.2 h]
      simp [updateAt, beq_eq_false_iff_ne.mpr hne]

/-- With at most one update per index, each entry receives the update of its own index. -/
theorem modifyAll_eq_mapIdx (us : List (ℕ × (α → α))) (hus : (us.map Prod.fst).Nodup)
    (l : List α) : modifyAll l us = l.mapIdx fun i x => updateAt us i x := by
  induction us generalizing l with
  | nil => simp [updateAt, List.mapIdx_eq_zipIdx_map]
  | cons u us ih =>
    rw [List.map_cons, List.nodup_cons] at hus
    rw [modifyAll_cons, ih hus.2]
    apply List.ext_getElem?
    intro j
    simp only [List.getElem?_mapIdx, List.getElem?_modify, Option.map_eq_map, Option.map_map]
    congr 1
    funext x
    by_cases hj : u.1 = j
    · subst hj
      have hrest : updateAt us u.1 = id := updateAt_of_notMem hus.1
      simp only [Function.comp_apply, hrest]
      simp [updateAt]
    · simp [updateAt, hj, beq_eq_false_iff_ne.mpr hj]

/-- Removing one more index, below all those removed already. -/
lemma eraseIdx_reduceOption_mapIdx (f : ℕ → α → Option α) (l : List α) {i : ℕ}
    (hlow : ∀ j ≤ i, ∀ x, (f j x).isSome) :
    ((l.mapIdx f).reduceOption).eraseIdx i =
      (l.mapIdx fun j x => if j = i then none else f j x).reduceOption := by
  induction l generalizing f i with
  | nil => simp
  | cons a l ih =>
    obtain ⟨b, hb⟩ := Option.isSome_iff_exists.mp (hlow 0 (Nat.zero_le i) a)
    simp only [List.mapIdx_cons, hb, List.reduceOption_cons_of_some]
    cases i with
    | zero =>
      simp
    | succ i =>
      have hshift : ∀ j ≤ i, ∀ x, (f (j + 1) x).isSome := fun j hj => hlow (j + 1) (by omega)
      simp [ih (fun j => f (j + 1)) hshift]

/-- Removing further indices, in descending order and below all those removed already. -/
lemma eraseAll_reduceOption_mapIdx (is : List ℕ) (his : is.Pairwise (· > ·))
    (f : ℕ → α → Option α) (hlow : ∀ i ∈ is, ∀ j ≤ i, ∀ x, (f j x).isSome) (l : List α) :
    eraseAll ((l.mapIdx f).reduceOption) is =
      (l.mapIdx fun j x => if j ∈ is then none else f j x).reduceOption := by
  induction is generalizing f with
  | nil => simp [eraseAll]
  | cons i is ih =>
    rw [List.pairwise_cons] at his
    have herase : eraseAll ((l.mapIdx f).reduceOption) (i :: is) =
        eraseAll (((l.mapIdx f).reduceOption).eraseIdx i) is := by
      simp only [eraseAll, List.foldl_cons]
      congr 1
      split
      · rfl
      · rw [List.eraseIdx_of_length_le (by omega)]
    rw [herase, eraseIdx_reduceOption_mapIdx f l (hlow i List.mem_cons_self), ih his.2]
    · congr 2
      funext j x
      by_cases hji : j = i
      · simp [hji]
      · simp [hji]
    · intro k hk j hj x
      have hki : k < i := his.1 k hk
      rw [if_neg (by omega)]
      exact hlow k (List.mem_cons_of_mem i hk) j hj x

/-- Removing a descending list of indices keeps exactly the entries at the other indices, in
order. -/
theorem eraseAll_eq_reduceOption (is : List ℕ) (his : is.Pairwise (· > ·)) (l : List α) :
    eraseAll l is = (l.mapIdx fun j x => if j ∈ is then none else some x).reduceOption := by
  have hsome : (l.mapIdx fun _ x => some x).reduceOption = l := by
    clear his
    induction l with
    | nil => rfl
    | cons a l ih => rw [List.mapIdx_cons, List.reduceOption_cons_of_some, ih]
  have h := eraseAll_reduceOption_mapIdx is his (fun _ x => some x) (fun _ _ _ _ _ => rfl) l
  rwa [hsome] at h

/-- Updates and descending removals together decide about every entry by its own index: it is
dropped, or kept after its own update, and the order of the kept entries does not change. -/
theorem eraseAll_modifyAll (l : List α) (us : List (ℕ × (α → α))) (is : List ℕ)
    (hus : (us.map Prod.fst).Nodup) (his : is.Pairwise (· > ·)) :
    eraseAll (modifyAll l us) is =
      (l.mapIdx fun j x => if j ∈ is then none else some (updateAt us j x)).reduceOption := by
  rw [eraseAll_eq_reduceOption is his, modifyAll_eq_mapIdx us hus, List.mapIdx_mapIdx]
  rfl

/-- The two passes implement a decision per entry, if they remove what the decision drops and
update what it keeps. -/
theorem eraseAll_modifyAll_eq_decision {l : List α} {us : List (ℕ × (α → α))} {is : List ℕ}
    (hus : (us.map Prod.fst).Nodup) (his : is.Pairwise (· > ·)) (d : ℕ → α → Option α)
    (hdrop : ∀ j x, l[j]? = some x → j ∈ is → d j x = none)
    (hkeep : ∀ j x, l[j]? = some x → j ∉ is → d j x = some (updateAt us j x)) :
    eraseAll (modifyAll l us) is = (l.mapIdx d).reduceOption := by
  rw [eraseAll_modifyAll l us is hus his]
  congr 1
  apply List.ext_getElem?
  intro j
  rw [List.getElem?_mapIdx, List.getElem?_mapIdx]
  cases hx : l[j]? with
  | none => rfl
  | some x =>
    by_cases hj : j ∈ is
    · simp [hj, hdrop j x hx hj]
    · simp [hj, hkeep j x hx hj]

/-- Decisions per entry that keep an attribute of the entry keep the order of the attributes. -/
lemma map_reduceOption_mapIdx_sublist {β : Type*} {d : ℕ → α → Option α} {g : α → β} (l : List α)
    (hd : ∀ i x y, d i x = some y → g y = g x) :
    ((l.mapIdx d).reduceOption.map g).Sublist (l.map g) := by
  induction l generalizing d with
  | nil => simp
  | cons a l ih =>
    have htail := ih (d := fun i => d (i + 1)) fun i => hd (i + 1)
    rw [List.mapIdx_cons]
    cases ha : d 0 a with
    | none =>
      rw [List.reduceOption_cons_of_none, List.map_cons]
      exact htail.cons _
    | some b =>
      rw [List.reduceOption_cons_of_some, List.map_cons, List.map_cons, hd 0 a b ha]
      exact htail.cons_cons _

/-- The entries that decisions per entry leave. -/
lemma mem_reduceOption_mapIdx {d : ℕ → α → Option α} {l : List α} {y : α} :
    y ∈ (l.mapIdx d).reduceOption ↔ ∃ i x, l[i]? = some x ∧ d i x = some y := by
  rw [List.reduceOption_mem_iff, List.mem_iff_getElem?]
  constructor
  · rintro ⟨i, hi⟩
    rw [List.getElem?_mapIdx, Option.map_eq_some_iff] at hi
    obtain ⟨x, hx, hd⟩ := hi
    exact ⟨i, x, hx, hd⟩
  · rintro ⟨i, x, hx, hd⟩
    exact ⟨i, by rw [List.getElem?_mapIdx, hx, Option.map_some, hd]⟩

/-- What a loop over keyed entries records keeps the order of the keys. -/
lemma map_filterMap_sublist {β γ κ : Type*} {g : β → Option γ} {key : β → κ} {key' : γ → κ}
    (hg : ∀ c u, g c = some u → key' u = key c) (cs : List β) :
    ((cs.filterMap g).map key').Sublist (cs.map key) := by
  induction cs with
  | nil => simp
  | cons c cs ih =>
    cases hc : g c with
    | none =>
      rw [List.filterMap_cons_none hc, List.map_cons]
      exact ih.cons _
    | some u =>
      rw [List.filterMap_cons_some hc, List.map_cons, List.map_cons, hg c u hc]
      exact ih.cons_cons _

/-- Sorting distinct indices in descending order. -/
lemma pairwise_gt_mergeSort {is : List ℕ} (h : is.Nodup) :
    (is.mergeSort fun a b => decide (b ≤ a)).Pairwise (· > ·) := by
  have hsorted : (is.mergeSort fun a b => decide (b ≤ a)).Pairwise
      fun a b => decide (b ≤ a) = true :=
    List.pairwise_mergeSort
      (fun a b c hab hbc => by simp only [decide_eq_true_eq] at *; omega)
      (fun a b => by simp only [Bool.or_eq_true, decide_eq_true_eq]; omega) is
  have hnodup : (is.mergeSort fun a b => decide (b ≤ a)).Nodup :=
    (List.mergeSort_perm is _).nodup_iff.mpr h
  refine (hsorted.and hnodup).imp ?_
  rintro a b ⟨hle, hne⟩
  simp only [decide_eq_true_eq] at hle
  exact lt_of_le_of_ne hle (Ne.symm hne)

/-- An edit of one entry keeps what holds of all entries, if it holds of the new one. -/
lemma forall_mem_set {P : α → Prop} {l : List α} {i : ℕ} {y : α} (h : ∀ x ∈ l, P x) (hy : P y) :
    ∀ x ∈ l.set i y, P x := by
  intro x hx
  rcases List.mem_or_eq_of_mem_set hx with hx | rfl
  · exact h x hx
  · exact hy

/-- An edit of one entry changes a count by what it changes there. -/
lemma countP_set_add {p : α → Bool} {l : List α} {i : ℕ} {x : α} (y : α) (hx : l[i]? = some x) :
    (l.set i y).countP p + (p x).toNat = l.countP p + (p y).toNat := by
  obtain ⟨hi, rfl⟩ := List.getElem?_eq_some_iff.mp hx
  rw [List.countP_set hi]
  cases hpx : p l[i] with
  | false => cases p y <;> simp
  | true =>
    have hpos : 0 < l.countP p := List.countP_pos_iff.mpr ⟨l[i], List.getElem_mem hi, hpx⟩
    cases p y <;> simp <;> omega

end BifrostRelayer
