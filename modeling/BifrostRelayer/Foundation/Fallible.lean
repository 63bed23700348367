import Mathlib

/-!
# Calls that can fail

A call returns `Except ε β`.  Calls in a row are taken apart with `bind_eq_ok`; a list of calls, one
for each element of a list, succeeds as a whole exactly when each of them does, which
`mapM_eq_ok_iff` says for the results and `exists_mapM_eq_error` for the failures.

A partial function `α → Option β` keeps the elements on which it is defined.  Two such functions are
compared with `filterMap_eq_iff`.
-/

namespace BifrostRelayer

namespace Fallible

variable {α β ε : Type}

/-! ### Calls in a row -/

/-- Two computations in a row. -/
lemma bind_eq_ok {x : Except ε α} {f : α → Except ε β} {b : β} :
    (x >>= f) = .ok b ↔ ∃ a, x = .ok a ∧ f a = .ok b := by
  cases x <;> simp [bind, Except.bind]

/-- A list of calls succeeds with the results of each call. -/
theorem mapM_eq_ok_iff {f : α → Except ε β} {l : List α} {parts : List β} :
    l.mapM f = .ok parts ↔ List.Forall₂ (fun a part => f a = .ok part) l parts := by
  induction l generalizing parts with
  | nil =>
    rw [List.mapM_nil, List.forall₂_nil_left_iff]
    constructor
    · rintro ⟨⟩
      rfl
    · rintro rfl
      rfl
  | cons a l ih =>
    rw [List.mapM_cons, bind_eq_ok, List.forall₂_cons_left_iff]
    refine exists_congr fun part => ?_
    rw [bind_eq_ok]
    constructor
    · rintro ⟨hpart, rest, hrest, heq⟩
      exact ⟨rest, hpart, ih.mp hrest, (Except.ok.inj heq).symm⟩
    · rintro ⟨rest, hpart, hrest, rfl⟩
      exact ⟨hpart, rest, ih.mpr hrest, rfl⟩

/-- A list of calls fails when one of them does. -/
theorem exists_mapM_eq_error {f : α → Except ε β} {l : List α} {a : α} (hmem : a ∈ l) {error : ε}
    (herror : f a = .error error) : ∃ error', l.mapM f = .error error' := by
  cases hmap : l.mapM f with
  | error error' => exact ⟨error', rfl⟩
  | ok parts =>
    have hcalls := mapM_eq_ok_iff.mp hmap
    obtain ⟨i, hi, rfl⟩ := List.getElem_of_mem hmem
    have hcall := hcalls.get hi (hcalls.length_eq ▸ hi)
    rw [List.get_eq_getElem, herror] at hcall
    cases hcall

/-- If a list of calls succeeds as a whole, each call has returned a part of the result. -/
lemma mem_of_mapM_ok {f : α → Except ε β} {l : List α} {parts : List β} (h : l.mapM f = .ok parts) :
    ∀ a ∈ l, ∃ part ∈ parts, f a = .ok part := by
  have hcalls := mapM_eq_ok_iff.mp h
  intro a ha
  obtain ⟨i, hi, rfl⟩ := List.getElem_of_mem ha
  have hi' : i < parts.length := hcalls.length_eq ▸ hi
  exact ⟨parts[i], List.getElem_mem hi', hcalls.get hi hi'⟩

/-- Calls that all succeed. -/
lemma mapM_eq_ok_map {f : α → Except ε β} {g : α → β} {l : List α}
    (h : ∀ a ∈ l, f a = .ok (g a)) : l.mapM f = .ok (l.map g) :=
  mapM_eq_ok_iff.mpr (List.forall₂_map_right_iff.mpr (List.forall₂_same.mpr h))

/-- One more call behind a list of calls whose results were put together. -/
lemma map_flatten_mapM_concat {f : α → Except ε (List β)} {l : List α} {results : List β}
    (h : (l.mapM f).map List.flatten = .ok results) (a : α) :
    ((l ++ [a]).mapM f).map List.flatten = (f a).map fun part => results ++ part := by
  cases hl : l.mapM f with
  | error error =>
    rw [hl] at h
    cases h
  | ok parts =>
    rw [hl] at h
    obtain rfl : parts.flatten = results := Except.ok.inj h
    rw [List.mapM_append, hl]
    cases ha : f a with
    | error error => simp [ha, bind, Except.bind, Except.map]
    | ok part => simp [ha, bind, Except.bind, Except.map, pure, Except.pure]

/-! ### Partial functions on lists -/

/-- A partial function that is defined on all elements of a list maps the list. -/
theorem mapM_eq_some_iff {f : α → Option β} {l : List α} {parts : List β} :
    l.mapM f = some parts ↔ List.Forall₂ (fun a part => f a = some part) l parts := by
  induction l generalizing parts with
  | nil =>
    rw [List.mapM_nil, List.forall₂_nil_left_iff]
    exact Option.some_inj.trans eq_comm
  | cons a l ih =>
    rw [List.mapM_cons, Option.bind_eq_bind, Option.bind_eq_some_iff, List.forall₂_cons_left_iff]
    refine exists_congr fun part => ?_
    rw [Option.bind_eq_bind, Option.bind_eq_some_iff]
    constructor
    · rintro ⟨hpart, rest, hrest, heq⟩
      exact ⟨rest, hpart, ih.mp hrest, (Option.some.inj heq).symm⟩
    · rintro ⟨rest, hpart, hrest, rfl⟩
      exact ⟨hpart, rest, ih.mpr hrest, rfl⟩

lemma exists_mapM_eq_some_iff {f : α → Option β} {l : List α} :
    (∃ parts, l.mapM f = some parts) ↔ ∀ a ∈ l, f a ≠ none := by
  induction l with
  | nil => simp
  | cons a l ih =>
    rw [List.forall_mem_cons, ← ih, List.mapM_cons]
    cases f a <;> cases l.mapM f <;> simp

/-- A function that keeps less and agrees on what it keeps leaves a shorter list. -/
lemma filterMap_sublist {f g : α → Option β} {l : List α}
    (hle : ∀ a ∈ l, ∀ b, f a = some b → g a = some b) : (l.filterMap f).Sublist (l.filterMap g) := by
  induction l with
  | nil => simp
  | cons a l ih =>
    obtain ⟨ha, hl⟩ := List.forall_mem_cons.mp hle
    cases hf : f a with
    | some b => simpa [hf, ha b hf] using ih hl
    | none =>
      rw [List.filterMap_cons_none hf]
      cases hg : g a with
      | none => simpa [hg] using ih hl
      | some b =>
        rw [List.filterMap_cons_some hg]
        exact (ih hl).cons b

/-- Such a function leaves the same list only if it keeps the same. -/
theorem filterMap_eq_iff {f g : α → Option β} {l : List α}
    (hle : ∀ a ∈ l, ∀ b, f a = some b → g a = some b) :
    l.filterMap f = l.filterMap g ↔ ∀ a ∈ l, ∀ b, g a = some b → f a = some b := by
  induction l with
  | nil => simp
  | cons a l ih =>
    obtain ⟨ha, hl⟩ := List.forall_mem_cons.mp hle
    rw [List.forall_mem_cons, ← ih hl]
    cases hf : f a with
    | some b => simp [hf, ha b hf]
    | none =>
      cases hg : g a with
      | none => simp [hf, hg]
      | some b =>
        -- One list is at most as long as the tail of the other.
        have hlength := (filterMap_sublist hl).length_le
        have hne : l.filterMap f ≠ b :: l.filterMap g := by
          intro heq
          rw [heq, List.length_cons] at hlength
          omega
        simpa [hf, hg] using hne

end Fallible

end BifrostRelayer
