import Mathlib

/-!
# Little-endian bytes and the SCALE codec

SCALE writes fixed-width integers with the least significant byte first, and byte strings with their
length in front.  The length is a compact integer: its two lowest bits say in how many bytes it is
written.  No compact integer begins another one, so a byte string can be read off the front of
whatever follows it.
-/

namespace BifrostRelayer

namespace Scale

/-- The number that a list of bytes is, the least significant byte first. -/
def leNat : List UInt8 → ℕ
  | [] => 0
  | x :: bs => x.toNat + 256 * leNat bs

/-- The first `n` bytes of a number, the least significant byte first. -/
def leBytes : ℕ → ℕ → List UInt8
  | 0, _ => []
  | n + 1, s => .ofNat (s % 256) :: leBytes n (s / 256)

@[simp] lemma length_leBytes (n s : ℕ) : (leBytes n s).length = n := by
  induction n generalizing s with
  | zero => rfl
  | succ n ih => simp [leBytes, ih]

/-- The bytes of a number are the number, cut to their width. -/
lemma leNat_leBytes (n s : ℕ) : leNat (leBytes n s) = s % 256 ^ n := by
  induction n generalizing s with
  | zero => simp [leNat, leBytes, Nat.mod_one]
  | succ n ih =>
    have hbyte : (UInt8.ofNat (s % 256)).toNat = s % 256 := by simp
    rw [leBytes, leNat, ih, hbyte, pow_succ', Nat.mod_mul]

/-- Numbers that fit are known by their bytes. -/
lemma leBytes_inj {n a b : ℕ} (ha : a < 256 ^ n) (hb : b < 256 ^ n)
    (h : leBytes n a = leBytes n b) : a = b := by
  have hnat := congrArg leNat h
  rwa [leNat_leBytes, leNat_leBytes, Nat.mod_eq_of_lt ha, Nat.mod_eq_of_lt hb] at hnat

/-- The compact form of a number below `2 ^ 32`. -/
def compact (n : ℕ) : List UInt8 :=
  if n < 2 ^ 6 then leBytes 1 (4 * n)
  else if n < 2 ^ 14 then leBytes 2 (4 * n + 1)
  else if n < 2 ^ 30 then leBytes 4 (4 * n + 2)
  else 3 :: leBytes 4 n

/-- A byte string with its length; a length of `2 ^ 32` or more cannot be encoded. -/
def encodeVec (bs : List UInt8) : Option (List UInt8) :=
  if bs.length < 2 ^ 32 then some (compact bs.length ++ bs) else none

/-- The number of bytes that a compact integer with a given first byte has. -/
def compactWidth (first : ℕ) : ℕ :=
  if first % 4 = 0 then 1 else if first % 4 = 1 then 2 else if first % 4 = 2 then 4 else 5

/-- Read a compact integer off the front of a byte string. -/
def readCompact (bs : List UInt8) : ℕ :=
  let first := (bs.headD 0).toNat
  if first % 4 = 3 then leNat (bs.tail.take 4) else leNat (bs.take (compactWidth first)) / 4

/-- A compact integer in one of the three short modes is read back. -/
lemma readCompact_short (w mode : ℕ) {n : ℕ} (rest : List UInt8) (hmode : mode < 3)
    (hwidth : compactWidth mode = w + 1) (hn : 4 * n + mode < 256 ^ (w + 1)) :
    readCompact (leBytes (w + 1) (4 * n + mode) ++ rest) = n := by
  have hfirst : ((leBytes (w + 1) (4 * n + mode) ++ rest).headD 0).toNat % 4 = mode := by
    rw [leBytes, List.cons_append, List.headD_cons]
    simp only [UInt8.toNat_ofNat']
    omega
  have hcut : compactWidth ((leBytes (w + 1) (4 * n + mode) ++ rest).headD 0).toNat = w + 1 := by
    rw [compactWidth, hfirst, ← hwidth, compactWidth, Nat.mod_eq_of_lt (by omega)]
  unfold readCompact
  rw [if_neg (by rw [hfirst]; omega), hcut, List.take_left' (by simp), leNat_leBytes,
    Nat.mod_eq_of_lt hn]
  omega

/-- A compact integer is read back, whatever follows it. -/
lemma readCompact_compact {n : ℕ} (hn : n < 2 ^ 32) (rest : List UInt8) :
    readCompact (compact n ++ rest) = n := by
  unfold compact
  split_ifs with h6 h14 h30
  · exact readCompact_short 0 0 rest (by decide) rfl (by omega)
  · exact readCompact_short 1 1 rest (by decide) rfl (by omega)
  · exact readCompact_short 3 2 rest (by decide) rfl (by omega)
  · have hfirst : (((3 : UInt8) :: leBytes 4 n ++ rest).headD 0).toNat % 4 = 3 := rfl
    unfold readCompact
    rw [if_pos hfirst, List.cons_append, List.tail_cons, List.take_left' (by simp), leNat_leBytes,
      Nat.mod_eq_of_lt (by omega)]

/-- An encoded byte string is known, and so is what follows it. -/
theorem encodeVec_append_inj {bs bs' enc enc' rest rest' : List UInt8}
    (h : encodeVec bs = some enc) (h' : encodeVec bs' = some enc')
    (heq : enc ++ rest = enc' ++ rest') : bs = bs' ∧ rest = rest' := by
  unfold encodeVec at h h'
  split_ifs at h h' with hlen hlen'
  obtain rfl := Option.some.inj h
  obtain rfl := Option.some.inj h'
  rw [List.append_assoc, List.append_assoc] at heq
  have hread := readCompact_compact hlen (bs ++ rest)
  rw [heq, readCompact_compact hlen'] at hread
  rw [hread] at heq
  exact List.append_inj (List.append_cancel_left heq) hread.symm

end Scale

end BifrostRelayer
