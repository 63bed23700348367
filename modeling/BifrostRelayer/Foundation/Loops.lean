import Mathlib.Algebra.Order.Group.Nat

/-!
# Loops

A loop, or a chain of tail calls, is a partial step function: it maps the state before a step to the
state behind it, and has no value where the loop is left.  `run` makes a number of steps, or as many
as there are.

There are two rules.  What every step keeps holds after every number of steps: `run_invariant`.  If
every step that keeps the invariant also decreases a measure, the loop is left after at most as many
steps as the measure says: `step_run_eq_none`.
-/

namespace BifrostRelayer

namespace Loops

variable {σ : Type*} {step : σ → Option σ} {P : σ → Prop} {μ : σ → ℕ} {s : σ}

/-- The state after `n` steps, or the one in which the loop is left before. -/
def run (step : σ → Option σ) : ℕ → σ → σ
  | 0, s => s
  | n + 1, s =>
      match step s with
      | none => s
      | some s' => run step n s'

@[simp] lemma run_zero : run step 0 s = s := rfl

lemma run_succ_of_step {s' : σ} (h : step s = some s') (n : ℕ) :
    run step (n + 1) s = run step n s' := by
  rw [run, h]

/-- A loop that is left stays so. -/
lemma run_of_left (h : step s = none) (n : ℕ) : run step n s = s := by
  cases n with
  | zero => rfl
  | succ n => rw [run, h]

/-- Steps compose. -/
lemma run_add (m n : ℕ) (s : σ) : run step (m + n) s = run step n (run step m s) := by
  induction m generalizing s with
  | zero => rw [Nat.zero_add, run_zero]
  | succ m ih =>
    rw [Nat.succ_add]
    cases hs : step s with
    | none => rw [run_of_left hs, run_of_left hs, run_of_left hs]
    | some s' => rw [run_succ_of_step hs, run_succ_of_step hs, ih]

/-- What every step keeps holds after every number of steps. -/
theorem run_invariant (hstep : ∀ s s', P s → step s = some s' → P s') (hs : P s) (n : ℕ) :
    P (run step n s) := by
  induction n generalizing s with
  | zero => exact hs
  | succ n ih =>
    cases hs' : step s with
    | none => rwa [run_of_left hs']
    | some s' =>
      rw [run_succ_of_step hs']
      exact ih (hstep s s' hs hs')

/-- A loop with a decreasing measure is left. -/
theorem step_run_eq_none (hstep : ∀ s s', P s → step s = some s' → P s' ∧ μ s' < μ s) (hs : P s)
    {n : ℕ} (hn : μ s ≤ n) : step (run step n s) = none := by
  induction n generalizing s with
  | zero =>
    cases hs' : step s with
    | none => rwa [run_of_left hs']
    | some s' =>
      have hlt := (hstep s s' hs hs').2
      omega
  | succ n ih =>
    cases hs' : step s with
    | none => rwa [run_of_left hs']
    | some s' =>
      obtain ⟨hkeep, hlt⟩ := hstep s s' hs hs'
      rw [run_succ_of_step hs']
      exact ih hkeep (by omega)

end Loops

end BifrostRelayer
