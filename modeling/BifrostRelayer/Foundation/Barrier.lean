import Mathlib.Order.Basic
import Mathlib.Tactic.Ring

/-!
# Barriers

A barrier of size `n` holds back the tasks that arrive at it until `n` of them have arrived; then all
of them pass and the next generation begins.  An arrival gets a ticket, the generation it belongs to,
and passes when that generation is over.

A barrier knows only how many tasks have arrived, not which.  `generation_mul_le` and
`ticket_lt_iff` say what a passed ticket means in terms of the number of all arrivals; that each
task of a group has arrived follows only if the group has as many tasks as the barrier has places and
no other task arrives.
-/

namespace BifrostRelayer

/-- A barrier: its size, the arrivals of the generation that is open, and its number. -/
structure Barrier where
  size : ℕ
  arrived : ℕ
  generation : ℕ
  /-- A generation is over when it is full. -/
  arrived_lt : arrived < size
deriving DecidableEq

namespace Barrier

/-- A new barrier.  The size `0` is treated as `1`. -/
def new (n : ℕ) : Barrier where
  size := max n 1
  arrived := 0
  generation := 0
  arrived_lt := by omega

/-- An arrival: the barrier after it and the ticket. -/
def arrive (b : Barrier) : Barrier × ℕ :=
  if h : b.arrived + 1 < b.size then (⟨b.size, b.arrived + 1, b.generation, h⟩, b.generation)
  else (⟨b.size, 0, b.generation + 1, Nat.zero_lt_of_lt b.arrived_lt⟩, b.generation)

/-- The generation of the ticket is over. -/
def isOver (b : Barrier) (ticket : ℕ) : Bool := decide (ticket < b.generation)

/-- The number of all arrivals at a barrier. -/
def total (b : Barrier) : ℕ := b.generation * b.size + b.arrived

variable {b : Barrier}

@[simp] lemma size_new (n : ℕ) : (new n).size = max n 1 := rfl

@[simp] lemma total_new (n : ℕ) : (new n).total = 0 := by
  simp [new, total]

@[simp] lemma size_arrive : b.arrive.1.size = b.size := by
  unfold arrive
  split <;> rfl

@[simp] lemma ticket_arrive : b.arrive.2 = b.generation := by
  unfold arrive
  split <;> rfl

lemma generation_le_arrive : b.generation ≤ b.arrive.1.generation := by
  unfold arrive
  split <;> simp

/-- Every arrival is counted. -/
@[simp] lemma total_arrive : b.arrive.1.total = b.total + 1 := by
  have hlt := b.arrived_lt
  unfold arrive
  split
  · simp only [total]
    omega
  · have hfull : b.size = b.arrived + 1 := by omega
    simp only [total, hfull]
    ring

/-- The generations that are over were full. -/
lemma generation_mul_le : b.generation * b.size ≤ b.total :=
  Nat.le_add_right _ _

/-- The generation of a ticket is over exactly if it and the ones before it are full. -/
lemma ticket_lt_iff {ticket : ℕ} : ticket < b.generation ↔ (ticket + 1) * b.size ≤ b.total := by
  have hlt := b.arrived_lt
  constructor
  · intro h
    exact (Nat.mul_le_mul_right b.size h).trans generation_mul_le
  · intro h
    by_contra hge
    have hle : b.generation * b.size ≤ ticket * b.size := Nat.mul_le_mul_right _ (by omega)
    rw [Nat.succ_mul] at h
    unfold total at h
    omega

end Barrier

end BifrostRelayer
