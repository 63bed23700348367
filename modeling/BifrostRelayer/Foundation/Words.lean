import Mathlib.Data.BitVec
import Mathlib.Tactic.NormNum

/-!
# Words with checked and wrapping arithmetic

Unsigned words as a big-integer library has them: operators and powers wrap around, and the checked
operations return nothing when the exact result does not fit.  Each operation comes with one lemma
that says when it returns what, in terms of the natural numbers that the words stand for.
-/

namespace BifrostRelayer

namespace Words

variable {w : ℕ}

/-- The product, if it fits. -/
def checkedMul (a b : BitVec w) : Option (BitVec w) :=
  if a.toNat * b.toNat < 2 ^ w then some (a * b) else none

/-- The quotient, if the divisor is not zero. -/
def checkedDiv (a b : BitVec w) : Option (BitVec w) :=
  if b.toNat = 0 then none else some (a / b)

/-- The power, wrapped around. -/
def wrappingPow (base : BitVec w) (n : ℕ) : BitVec w := .ofNat w (base.toNat ^ n)

/-- The power, if it fits. -/
def checkedPow (base : BitVec w) (n : ℕ) : Option (BitVec w) :=
  if base.toNat ^ n < 2 ^ w then some (wrappingPow base n) else none

/-- A checked product is the exact one. -/
lemma checkedMul_eq_some {a b c : BitVec w} :
    checkedMul a b = some c ↔ a.toNat * b.toNat < 2 ^ w ∧ c.toNat = a.toNat * b.toNat := by
  unfold checkedMul
  constructor
  · intro h
    split_ifs at h with hlt
    obtain rfl := Option.some.inj h
    exact ⟨hlt, by rw [BitVec.toNat_mul, Nat.mod_eq_of_lt hlt]⟩
  · rintro ⟨hlt, hc⟩
    rw [if_pos hlt, Option.some.injEq]
    apply BitVec.eq_of_toNat_eq
    rw [BitVec.toNat_mul, Nat.mod_eq_of_lt hlt, hc]

/-- A product is refused just if it does not fit. -/
lemma checkedMul_eq_none {a b : BitVec w} :
    checkedMul a b = none ↔ 2 ^ w ≤ a.toNat * b.toNat := by
  unfold checkedMul
  split_ifs with hlt
  · exact iff_of_false nofun hlt.not_ge
  · exact iff_of_true rfl (not_lt.1 hlt)

/-- A checked quotient is the exact one. -/
lemma checkedDiv_eq_some {a b c : BitVec w} :
    checkedDiv a b = some c ↔ b.toNat ≠ 0 ∧ c.toNat = a.toNat / b.toNat := by
  unfold checkedDiv
  split_ifs with hb
  · exact iff_of_false nofun fun h => h.1 hb
  · rw [Option.some.injEq]
    constructor
    · rintro rfl
      exact ⟨hb, BitVec.toNat_udiv⟩
    · rintro ⟨-, hc⟩
      apply BitVec.eq_of_toNat_eq
      rw [BitVec.toNat_udiv, hc]

/-- A power that fits is the exact one. -/
lemma toNat_wrappingPow {base : BitVec w} {n : ℕ} (h : base.toNat ^ n < 2 ^ w) :
    (wrappingPow base n).toNat = base.toNat ^ n := by
  rw [wrappingPow, BitVec.toNat_ofNat, Nat.mod_eq_of_lt h]

/-- The checked power of a power that fits. -/
lemma checkedPow_of_lt {base : BitVec w} {n : ℕ} (h : base.toNat ^ n < 2 ^ w) :
    checkedPow base n = some (wrappingPow base n) := if_pos h

/-- The checked power of a power that does not fit. -/
lemma checkedPow_of_ge {base : BitVec w} {n : ℕ} (h : 2 ^ w ≤ base.toNat ^ n) :
    checkedPow base n = none := if_neg h.not_gt

end Words

end BifrostRelayer
