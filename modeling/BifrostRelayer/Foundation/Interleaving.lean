import Mathlib

/-!
# Tasks that run interleaved over a shared store

A program of several tasks is a shared store together with a control point per task.  A step moves
one task and may write the store.  Such programs are verified by annotating every control point of
every task with an assertion about the store: a step has to establish the assertion of the point
its own task goes to, and must not invalidate the assertion of the point another task is at.
`Asserts.move` and `Asserts.goto` are the rules.  `numAt` counts the tasks at points of a kind, for
stores that count the tasks themselves.
-/

namespace BifrostRelayer

/-- Tasks `τ`, each at a control point `π`, over a shared store `β`. -/
structure Interleaved (τ π β : Type*) where
  /-- The store that all tasks read and write. -/
  shared : β
  /-- Where each task stands. -/
  pc : τ → π

namespace Interleaved

variable {τ π β : Type*}

/-- The state after the task `t` has left the store `b` and gone to the point `p`. -/
def move [DecidableEq τ] (s : Interleaved τ π β) (t : τ) (b : β) (p : π) : Interleaved τ π β :=
  ⟨b, Function.update s.pc t p⟩

/-- Every task stands at a point whose assertion holds of the store. -/
def Asserts (A : τ → π → β → Prop) (s : Interleaved τ π β) : Prop :=
  ∀ t, A t (s.pc t) s.shared

/-- A step of the task `t` keeps all assertions, if it establishes its own and does not interfere
with those of the other tasks. -/
theorem Asserts.move [DecidableEq τ] {A : τ → π → β → Prop} {s : Interleaved τ π β}
    (h : s.Asserts A) {t : τ} {b : β} {p : π} (hown : A t p b)
    (hothers : ∀ u, u ≠ t → A u (s.pc u) s.shared → A u (s.pc u) b) :
    (s.move t b p).Asserts A := by
  intro u
  by_cases hu : u = t
  · subst hu
    simpa [Interleaved.move] using hown
  · simpa [Interleaved.move, hu] using hothers u hu (h u)

/-- A step that leaves the store alone interferes with no other task. -/
theorem Asserts.goto [DecidableEq τ] {A : τ → π → β → Prop} {s : Interleaved τ π β}
    (h : s.Asserts A) {t : τ} {p : π} (hown : A t p s.shared) :
    (s.move t s.shared p).Asserts A :=
  h.move hown fun _ _ hu => hu

/-! ### Counting tasks -/

/-- The number of tasks at points of the kind `A`. -/
def numAt [Fintype τ] (A : π → Bool) (s : Interleaved τ π β) : ℕ :=
  (Finset.univ.filter fun t => A (s.pc t) = true).card

/-- If tasks change their points only within their kinds, as many tasks are at each kind. -/
lemma numAt_congr [Fintype τ] {A : π → Bool} {s s' : Interleaved τ π β}
    (h : ∀ t, A (s'.pc t) = A (s.pc t)) : s'.numAt A = s.numAt A := by
  simp [numAt, h]

/-- A task that goes to a point of the same kind is counted as before. -/
lemma numAt_move_of_eq [Fintype τ] [DecidableEq τ] {A : π → Bool} {s : Interleaved τ π β} {t : τ}
    {b : β} {p : π} (h : A p = A (s.pc t)) : (s.move t b p).numAt A = s.numAt A := by
  refine numAt_congr fun u => ?_
  by_cases hu : u = t
  · subst hu
    simpa [Interleaved.move] using h
  · simp [Interleaved.move, hu]

/-- A task that goes to a point of the kind is counted once more. -/
lemma numAt_move_of_new [Fintype τ] [DecidableEq τ] {A : π → Bool} {s : Interleaved τ π β} {t : τ}
    {b : β} {p : π} (hold : A (s.pc t) = false) (hnew : A p = true) :
    (s.move t b p).numAt A = s.numAt A + 1 := by
  have hset : (Finset.univ.filter fun u => A ((s.move t b p).pc u) = true) =
      insert t (Finset.univ.filter fun u => A (s.pc u) = true) := by
    ext u
    rw [Finset.mem_insert, Finset.mem_filter, Finset.mem_filter]
    by_cases hu : u = t
    · subst hu
      simp [Interleaved.move, hnew]
    · simp [Interleaved.move, hu]
  rw [numAt, hset, Finset.card_insert_of_notMem (by simp [hold])]
  rfl

/-- At most all tasks are counted. -/
lemma numAt_le [Fintype τ] (A : π → Bool) (s : Interleaved τ π β) :
    s.numAt A ≤ Fintype.card τ :=
  Finset.card_le_univ _

/-- All tasks are counted only if each is at a point of the kind. -/
lemma forall_of_numAt [Fintype τ] {A : π → Bool} {s : Interleaved τ π β}
    (h : Fintype.card τ ≤ s.numAt A) (t : τ) : A (s.pc t) = true := by
  have hall : (Finset.univ.filter fun u => A (s.pc u) = true) = Finset.univ :=
    Finset.eq_univ_of_card _ (le_antisymm (Finset.card_le_univ _) h)
  simpa using Finset.eq_univ_iff_forall.mp hall t

end Interleaved

end BifrostRelayer
