import Mathlib

/-!
# Hexadecimal text

Byte strings written in hexadecimal, two digits a byte.  The encoder writes lower case, the decoder
reads both cases.  Text is a list of ASCII bytes.
-/

namespace BifrostRelayer

namespace Hex

/-- The ASCII byte of a digit, in lower case. -/
def digit (n : ℕ) : UInt8 := if n < 10 then .ofNat (48 + n) else .ofNat (87 + n)

/-- The value of a digit of either case. -/
def digitValue (c : UInt8) : Option ℕ :=
  if 48 ≤ c.toNat ∧ c.toNat ≤ 57 then some (c.toNat - 48)
  else if 97 ≤ c.toNat ∧ c.toNat ≤ 102 then some (c.toNat - 87)
  else if 65 ≤ c.toNat ∧ c.toNat ≤ 70 then some (c.toNat - 55)
  else none

/-- The two digits of a byte. -/
def byteDigits (x : UInt8) : List UInt8 := [digit (x.toNat / 16), digit (x.toNat % 16)]

/-- The hexadecimal text of a byte string. -/
def encode (bs : List UInt8) : List UInt8 := bs.flatMap byteDigits

/-- The hexadecimal text with the prefix `0x`. -/
def encodePrefixed (bs : List UInt8) : List UInt8 := 48 :: 120 :: encode bs

/-- Read hexadecimal text; it must have an even length and only digits. -/
def decode : List UInt8 → Option (List UInt8)
  | [] => some []
  | [_] => none
  | hi :: lo :: text =>
      match digitValue hi, digitValue lo with
      | some hi, some lo => (decode text).map (.ofNat (16 * hi + lo) :: ·)
      | _, _ => none

/-- A digit has its value. -/
lemma digitValue_digit {n : ℕ} (hn : n < 16) : digitValue (digit n) = some n := by
  interval_cases n <;> decide

/-- Decoding undoes encoding. -/
theorem decode_encode (bs : List UInt8) : decode (encode bs) = some bs := by
  induction bs with
  | nil => rfl
  | cons x bs ih =>
    have hx := x.toNat_lt
    have hhi := digitValue_digit (show x.toNat / 16 < 16 by omega)
    have hlo := digitValue_digit (show x.toNat % 16 < 16 by omega)
    have hsplit : encode (x :: bs) =
        digit (x.toNat / 16) :: digit (x.toNat % 16) :: encode bs := rfl
    have hbyte : UInt8.ofNat (16 * (x.toNat / 16) + x.toNat % 16) = x := by
      rw [Nat.div_add_mod]
      exact UInt8.ofNat_toNat
    simp [hsplit, decode, hhi, hlo, ih, hbyte]

/-- Different byte strings have different texts. -/
theorem encode_injective : Function.Injective encode := by
  intro bs bs' h
  have hdecode := decode_encode bs
  rw [h, decode_encode] at hdecode
  exact (Option.some.inj hdecode).symm

/-- Two digits a byte. -/
@[simp] lemma length_encode (bs : List UInt8) : (encode bs).length = 2 * bs.length := by
  induction bs with
  | nil => rfl
  | cons x bs ih =>
    simp only [encode, List.flatMap_cons, List.length_append, List.length_cons] at ih ⊢
    rw [ih]
    simp only [byteDigits, List.length_cons, List.length_nil]
    omega

/-- The ASCII bytes of lower-case digits. -/
def IsDigit (c : UInt8) : Prop := 48 ≤ c.toNat ∧ c.toNat ≤ 57 ∨ 97 ≤ c.toNat ∧ c.toNat ≤ 102

/-- A digit is written as one. -/
lemma isDigit_digit {n : ℕ} (hn : n < 16) : IsDigit (digit n) := by
  unfold IsDigit
  interval_cases n <;> decide

/-- The text has nothing but digits. -/
lemma isDigit_of_mem_encode {bs : List UInt8} {c : UInt8} (h : c ∈ encode bs) : IsDigit c := by
  obtain ⟨x, -, hc⟩ := List.mem_flatMap.1 h
  have hx := x.toNat_lt
  rcases List.mem_pair.1 hc with rfl | rfl
  · exact isDigit_digit (by omega)
  · exact isDigit_digit (by omega)

end Hex

end BifrostRelayer
