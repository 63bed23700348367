import Mathlib

/-!
# Products in double precision

A number of type `f64` has 53 significant bits.  Integers and products that do not fit are rounded
to the nearest such number, and to the one with an even last bit when two are equally near.  As long
as no exponent is out of range, a product of a natural number with a constant `c / 2 ^ 52` is exact
up to this rounding, so it is computed here on natural numbers.

What is proved is how far such a product, rounded up to an integer, can fall below the exact one:
for all numbers the relative error is small, and numbers that are small enough lose nothing.
-/

namespace BifrostRelayer

namespace Binary64

/-! ### Rounding -/

/-- The distance of the numbers with 53 significant bits around `n`. -/
def ulp (n : ℕ) : ℕ := 2 ^ (n.size - 53)

/-- The nearest number with 53 significant bits, ties to even. -/
def nearestEven (n : ℕ) : ℕ :=
  let quotient := n / ulp n
  let remainder := n % ulp n
  if 2 * remainder < ulp n ∨ 2 * remainder = ulp n ∧ quotient % 2 = 0 then quotient * ulp n
  else (quotient + 1) * ulp n

lemma ulp_pos (n : ℕ) : 0 < ulp n := Nat.two_pow_pos _

/-- A number with at most 53 bits is not rounded. -/
lemma ulp_of_lt {n : ℕ} (h : n < 2 ^ 53) : ulp n = 1 := by
  have hsize : n.size ≤ 53 := Nat.size_le.mpr h
  rw [ulp, Nat.sub_eq_zero_of_le hsize, pow_zero]

lemma nearestEven_of_lt {n : ℕ} (h : n < 2 ^ 53) : nearestEven n = n := by
  simp [nearestEven, ulp_of_lt h, Nat.mod_one]

/-- The distance is small for small numbers. -/
lemma ulp_le {n k : ℕ} (h : n < 2 ^ (53 + k)) : ulp n ≤ 2 ^ k := by
  have hsize : n.size ≤ 53 + k := Nat.size_le.mpr h
  exact Nat.pow_le_pow_right Nat.two_pos (by omega)

/-- The distance is small in relation to a number that is rounded. -/
lemma ulp_mul_le {n : ℕ} (h : 2 ^ 53 ≤ n) : ulp n * 2 ^ 52 ≤ n := by
  have hsize : 53 < n.size := Nat.lt_size.mpr h
  have hbit : 2 ^ (n.size - 1) ≤ n := Nat.lt_size.mp (by omega)
  rw [ulp, ← pow_add]
  exact (Nat.pow_le_pow_right Nat.two_pos (by omega)).trans hbit

/-- Rounding loses at most half of the distance. -/
lemma two_mul_le (n : ℕ) : 2 * n ≤ 2 * nearestEven n + ulp n := by
  have hdiv := Nat.div_add_mod n (ulp n)
  have hmod := Nat.mod_lt n (ulp_pos n)
  rw [mul_comm] at hdiv
  simp only [nearestEven]
  split
  · omega
  · rw [Nat.add_mul, Nat.one_mul]
    omega

/-- Rounding loses a small part only. -/
lemma pred_mul_le (n : ℕ) : (2 ^ 53 - 1) * n ≤ 2 ^ 53 * nearestEven n := by
  rcases lt_or_ge n (2 ^ 53) with h | h
  · rw [nearestEven_of_lt h]
    omega
  · have hulp := ulp_mul_le h
    have hnear := two_mul_le n
    omega

/-! ### Products -/

/-- The product with the constant `c / 2 ^ 52`, rounded up to an integer. -/
def mulCeil (c n : ℕ) : ℕ := (nearestEven (nearestEven n * c) + (2 ^ 52 - 1)) / 2 ^ 52

lemma le_mulCeil_mul (c n : ℕ) : nearestEven (nearestEven n * c) ≤ mulCeil c n * 2 ^ 52 := by
  rw [mulCeil]
  omega

/-- A product with a constant that exceeds one by more than the error of two roundings is not below
the number. -/
theorem le_mulCeil {c : ℕ} (hc : 2 ^ 158 ≤ (2 ^ 53 - 1) * (2 ^ 53 - 1) * c) (n : ℕ) :
    n ≤ mulCeil c n := by
  have hfirst := pred_mul_le n
  have hsecond := pred_mul_le (nearestEven n * c)
  have hup := le_mulCeil_mul c n
  refine Nat.le_of_mul_le_mul_left (c := 2 ^ 158) ?_ (by positivity)
  calc 2 ^ 158 * n ≤ (2 ^ 53 - 1) * (2 ^ 53 - 1) * c * n := Nat.mul_le_mul_right n hc
    _ = (2 ^ 53 - 1) * c * ((2 ^ 53 - 1) * n) := by ring
    _ ≤ (2 ^ 53 - 1) * c * (2 ^ 53 * nearestEven n) := Nat.mul_le_mul_left _ hfirst
    _ = 2 ^ 53 * ((2 ^ 53 - 1) * (nearestEven n * c)) := by ring
    _ ≤ 2 ^ 53 * (2 ^ 53 * nearestEven (nearestEven n * c)) := Nat.mul_le_mul_left _ hsecond
    _ ≤ 2 ^ 53 * (2 ^ 53 * (mulCeil c n * 2 ^ 52)) :=
      Nat.mul_le_mul_left _ (Nat.mul_le_mul_left _ hup)
    _ = 2 ^ 158 * mulCeil c n := by ring

/-- A product with at most 102 bits is not below the exact product with a fraction `a / b` that does
not exceed the constant, if `b` is small. -/
theorem mul_le_mul_mulCeil {a b c n : ℕ} (hc : a * 2 ^ 52 ≤ b * c) (hb : b < 16)
    (hn : n < 2 ^ 53) (hproduct : n * c < 2 ^ 102) : a * n ≤ b * mulCeil c n := by
  have hulp : ulp (n * c) ≤ 2 ^ 49 := ulp_le hproduct
  have hnear := two_mul_le (n * c)
  have hup := le_mulCeil_mul c n
  rw [nearestEven_of_lt hn] at hup
  have hexact : a * n * 2 ^ 52 ≤ b * (n * c) := by
    calc a * n * 2 ^ 52 = a * 2 ^ 52 * n := by ring
      _ ≤ b * c * n := Nat.mul_le_mul_right n hc
      _ = b * (n * c) := by ring
  have hround : b * (2 * (n * c)) ≤ b * (2 * (mulCeil c n * 2 ^ 52) + 2 ^ 49) :=
    Nat.mul_le_mul_left b (by omega)
  have hsmall : b * 2 ^ 49 < 2 ^ 53 := by omega
  nlinarith

end Binary64

end BifrostRelayer
