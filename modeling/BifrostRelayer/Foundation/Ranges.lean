import Mathlib

/-!
# Ranges of block numbers

A scanner that processes `from..=to` and goes on at `to + 1` covers consecutive ranges.  Block
numbers are 64-bit, with additions that saturate; a range and its successor are adjacent as long as
the end of the range is below the largest number.
-/

namespace BifrostRelayer

/-- `u64::MAX`. -/
def u64Max : ℕ := 2 ^ 64 - 1

/-- `saturating_add` on `u64`. -/
def saturatingAdd (a b : ℕ) : ℕ := min (a + b) u64Max

/-- A sum that fits does not saturate. -/
lemma saturatingAdd_of_le {a b : ℕ} (h : a + b ≤ u64Max) : saturatingAdd a b = a + b :=
  min_eq_left h

/-- The numbers of `a..=b`. -/
def rangeInclusive (a b : ℕ) : List ℕ := List.range' a (b + 1 - a)

@[simp]
lemma mem_rangeInclusive {a b n : ℕ} : n ∈ rangeInclusive a b ↔ a ≤ n ∧ n ≤ b := by
  rw [rangeInclusive, List.mem_range'_1]
  omega

/-- A range that ends before it begins is empty. -/
lemma rangeInclusive_of_lt {a b : ℕ} (h : b < a) : rangeInclusive a b = [] := by
  rw [rangeInclusive, Nat.sub_eq_zero_of_le (Nat.succ_le_of_lt h), List.range'_zero]

/-- Two adjacent ranges form one range. -/
lemma rangeInclusive_append {a m b : ℕ} (ha : a ≤ m + 1) (hb : m ≤ b) :
    rangeInclusive a m ++ rangeInclusive (m + 1) b = rangeInclusive a b := by
  have hstart : a + (m + 1 - a) = m + 1 := by omega
  have hlength : m + 1 - a + (b + 1 - (m + 1)) = b + 1 - a := by omega
  simp only [rangeInclusive]
  rw [← hlength, ← List.range'_append_1, hstart]

/-- Ranges that are not empty and have at most `size` numbers each, the first of which begins at
`a`, every other one where the range before it ends, and the last one of which ends before `b`. -/
inductive Tiles (size a : ℕ) : ℕ → List (ℕ × ℕ) → Prop where
  | nil : Tiles size a a []
  | snoc {b c : ℕ} {ranges : List (ℕ × ℕ)} : Tiles size a b ranges → b ≤ c → c + 1 ≤ b + size →
      Tiles size a (c + 1) (ranges ++ [(b, c)])

lemma Tiles.le {size a b : ℕ} {ranges : List (ℕ × ℕ)} (h : Tiles size a b ranges) : a ≤ b := by
  induction h with
  | nil => exact le_rfl
  | snoc _ hle _ ih => omega

lemma Tiles.of_mem {size a b : ℕ} {ranges : List (ℕ × ℕ)} (h : Tiles size a b ranges) {r : ℕ × ℕ}
    (hr : r ∈ ranges) : r.1 ≤ r.2 ∧ r.2 + 1 ≤ r.1 + size := by
  induction h with
  | nil => simp at hr
  | snoc _ hle hsize ih =>
    obtain hr | hr := List.mem_append.mp hr
    · exact ih hr
    · rw [List.mem_singleton.mp hr]
      exact ⟨hle, hsize⟩

/-- No range goes beyond the end. -/
lemma Tiles.lt_of_mem {size a b : ℕ} {ranges : List (ℕ × ℕ)} (h : Tiles size a b ranges)
    {r : ℕ × ℕ} (hr : r ∈ ranges) : r.2 < b := by
  induction h with
  | nil => simp at hr
  | snoc _ hle _ ih =>
    obtain hr | hr := List.mem_append.mp hr
    · have := ih hr
      omega
    · rw [List.mem_singleton.mp hr]
      exact Nat.lt_succ_self _

/-- Ranges that tile have each number once, in order. -/
theorem Tiles.flatMap_rangeInclusive {size a b : ℕ} {ranges : List (ℕ × ℕ)}
    (h : Tiles size a b ranges) :
    ranges.flatMap (fun r => rangeInclusive r.1 r.2) = List.range' a (b - a) := by
  induction h with
  | nil => rw [Nat.sub_self, List.range'_zero, List.flatMap_nil]
  | @snoc b c ranges h hle hsize ih =>
    have hab := h.le
    have hstart : a + (b - a) = b := by omega
    have hlength : b - a + (c + 1 - b) = c + 1 - a := by omega
    rw [List.flatMap_append, ih, List.flatMap_singleton, rangeInclusive, ← hlength,
      ← List.range'_append_1, hstart]

/-- Increasing numbers from a range are at most as many as the range has. -/
lemma length_le_of_pairwise_lt {l : List ℕ} {a b : ℕ} (hsorted : l.Pairwise (· < ·))
    (hrange : ∀ n ∈ l, a ≤ n ∧ n < b) : l.length ≤ b - a := by
  have hnodup : l.Nodup := hsorted.imp Nat.ne_of_lt
  have hsubset : l.toFinset ⊆ Finset.Ico a b := by
    intro n hn
    exact Finset.mem_Ico.mpr (hrange n (List.mem_toFinset.mp hn))
  have hcard := Finset.card_le_card hsubset
  rwa [List.toFinset_card_of_nodup hnodup, Nat.card_Ico] at hcard

/-- Increasing numbers that are as many as their range has fill it. -/
theorem eq_range'_of_pairwise_lt {l : List ℕ} {a : ℕ} (hsorted : l.Pairwise (· < ·))
    (hrange : ∀ n ∈ l, a ≤ n ∧ n < a + l.length) : l = List.range' a l.length := by
  induction l generalizing a with
  | nil => rfl
  | cons n l ih =>
    obtain ⟨hn, hl⟩ := List.forall_mem_cons.mp hrange
    obtain ⟨hlt, hsorted'⟩ := List.pairwise_cons.mp hsorted
    rw [List.length_cons] at hn hl
    -- The rest lies above the first number and has no room if that is not `a`.
    have hroom : l.length ≤ a + (l.length + 1) - (n + 1) :=
      length_le_of_pairwise_lt hsorted' fun m hm => ⟨hlt m hm, (hl m hm).2⟩
    obtain rfl : n = a := by omega
    have hrest : l = List.range' (n + 1) l.length := by
      refine ih hsorted' fun m hm => ⟨hlt m hm, ?_⟩
      have := (hl m hm).2
      omega
    rw [List.length_cons, List.range'_succ, ← hrest]

end BifrostRelayer
