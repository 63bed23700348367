import Mathlib

/-!
# Decimal text

Numbers written in decimal, as lists of ASCII bytes.  `value` reads any list of digits, with leading
zeros or none; `decimal` writes a number without leading zeros.  A number with a decimal point has two
lists of digits, and `fixedPoint` is its value; `rescaled` has the digits of the number that it is in
units of a power of ten, cut off behind them.
-/

namespace BifrostRelayer

namespace Decimal

/-- The ASCII bytes of the digits. -/
def IsDigit (c : UInt8) : Prop := 48 ≤ c.toNat ∧ c.toNat ≤ 57

instance : DecidablePred IsDigit := fun c => inferInstanceAs (Decidable (48 ≤ c.toNat ∧ c.toNat ≤ 57))

/-- The value of a digit. -/
def digitValue (c : UInt8) : ℕ := c.toNat - 48

/-- The value of a list of digits, the most significant one first. -/
def value (ds : List UInt8) : ℕ := Nat.ofDigits 10 (ds.reverse.map digitValue)

/-- A number in decimal. -/
def decimal (n : ℕ) : List UInt8 :=
  if n = 0 then [48] else ((Nat.digits 10 n).map fun d => .ofNat (48 + d)).reverse

/-- Appending digits shifts the value. -/
lemma value_append (ds ds' : List UInt8) :
    value (ds ++ ds') = value ds * 10 ^ ds'.length + value ds' := by
  unfold value
  rw [List.reverse_append, List.map_append, Nat.ofDigits_append, List.length_map,
    List.length_reverse]
  ring

@[simp] lemma value_nil : value [] = 0 := rfl

@[simp] lemma value_singleton (c : UInt8) : value [c] = digitValue c := by
  simp [value]

/-- The first digit counts most. -/
lemma value_cons (c : UInt8) (ds : List UInt8) :
    value (c :: ds) = digitValue c * 10 ^ ds.length + value ds := by
  rw [← List.singleton_append, value_append, value_singleton]

/-- Zeros have no value. -/
@[simp] lemma value_replicate_zero (n : ℕ) : value (List.replicate n 48) = 0 := by
  induction n with
  | zero => rfl
  | succ n ih =>
    rw [List.replicate_succ, value_cons, ih]
    simp [digitValue]

/-- The value of digits has at most as many digits. -/
lemma value_lt {ds : List UInt8} (hds : ∀ c ∈ ds, IsDigit c) : value ds < 10 ^ ds.length := by
  induction ds with
  | nil => simp
  | cons c ds ih =>
    have hc := hds c (List.mem_cons_self ..)
    have hrest := ih fun c' hc' => hds c' (List.mem_cons_of_mem c hc')
    have hdigit : digitValue c ≤ 9 := by
      unfold digitValue
      unfold IsDigit at hc
      omega
    calc value (c :: ds) = digitValue c * 10 ^ ds.length + value ds := value_cons c ds
      _ < 9 * 10 ^ ds.length + 10 ^ ds.length :=
        Nat.add_lt_add_of_le_of_lt (Nat.mul_le_mul_right _ hdigit) hrest
      _ = 10 ^ (c :: ds).length := by rw [List.length_cons]; ring

/-- Reading a number in decimal. -/
theorem value_decimal (n : ℕ) : value (decimal n) = n := by
  unfold decimal
  split_ifs with hn
  · rw [hn]
    rfl
  · unfold value
    rw [List.reverse_reverse, List.map_map]
    have hmap : (Nat.digits 10 n).map (digitValue ∘ fun d => .ofNat (48 + d)) =
        Nat.digits 10 n := by
      conv_rhs => rw [← List.map_id (Nat.digits 10 n)]
      refine List.map_congr_left fun d hd => ?_
      have hlt := Nat.digits_lt_base (by decide) hd
      simp only [Function.comp_apply, digitValue, UInt8.toNat_ofNat', id_eq]
      omega
    rw [hmap, Nat.ofDigits_digits]

/-- Different numbers are written differently. -/
theorem decimal_injective : Function.Injective decimal := by
  intro a b h
  have hvalue := congrArg value h
  rwa [value_decimal, value_decimal] at hvalue

/-- A number is written with digits only. -/
lemma isDigit_of_mem_decimal {n : ℕ} {c : UInt8} (h : c ∈ decimal n) : IsDigit c := by
  unfold decimal at h
  split_ifs at h with hn
  · rw [List.mem_singleton.1 h]
    decide
  · obtain ⟨d, hd, rfl⟩ := List.mem_map.1 (List.mem_reverse.1 h)
    have hlt := Nat.digits_lt_base (by decide) hd
    unfold IsDigit
    simp only [UInt8.toNat_ofNat']
    omega

/-! ### Leading zeros and separators -/

/-- The digits without leading zeros. -/
def trimZeros (ds : List UInt8) : List UInt8 := ds.dropWhile fun c => c = 48

/-- Leading zeros do not count. -/
@[simp] lemma value_trimZeros (ds : List UInt8) : value (trimZeros ds) = value ds := by
  induction ds with
  | nil => rfl
  | cons c ds ih =>
    unfold trimZeros at ih ⊢
    rw [List.dropWhile_cons]
    split_ifs with hc
    · obtain rfl : c = 48 := by simpa using hc
      rw [ih, value_cons]
      simp [digitValue]
    · rfl

/-- The digits left are digits. -/
lemma mem_of_mem_trimZeros {ds : List UInt8} {c : UInt8} (h : c ∈ trimZeros ds) : c ∈ ds :=
  (List.dropWhile_suffix _).subset h

/-- The text before and behind the first byte of a kind, if there is one. -/
def splitFirst (p : UInt8 → Bool) (text : List UInt8) : Option (List UInt8 × List UInt8) :=
  match text.dropWhile fun c => !p c with
  | [] => none
  | _ :: rest => some (text.takeWhile fun c => !p c, rest)

/-- A text is split at the first separator. -/
lemma splitFirst_append {p : UInt8 → Bool} {before : List UInt8} {c : UInt8} (rest : List UInt8)
    (hbefore : ∀ x ∈ before, p x = false) (hc : p c = true) :
    splitFirst p (before ++ c :: rest) = some (before, rest) := by
  have hall : ∀ x ∈ before, (!p x) = true := fun x hx => by rw [hbefore x hx]; rfl
  unfold splitFirst
  rw [List.dropWhile_append_of_pos hall, List.takeWhile_append_of_pos hall]
  simp [hc]

/-- A text without a separator is not split. -/
lemma splitFirst_eq_none {p : UInt8 → Bool} {text : List UInt8}
    (h : ∀ x ∈ text, p x = false) : splitFirst p text = none := by
  have hall : ∀ x ∈ text, (!p x) = true := fun x hx => by rw [h x hx]; rfl
  unfold splitFirst
  rw [List.dropWhile_eq_nil_iff.2 hall]

/-! ### Decimal points -/

/-- The value of digits with a decimal point between them. -/
def fixedPoint (integer fraction : List UInt8) : ℚ :=
  value (integer ++ fraction) / 10 ^ fraction.length

/-- The digits in units of `10 ^ -k`: cut off or filled up behind the decimal point. -/
def rescaled (k : ℕ) (integer fraction : List UInt8) : List UInt8 :=
  integer ++ (fraction.take k ++ List.replicate (k - fraction.length) 48)

/-- Cutting off rounds down. -/
lemma value_rescaled {k : ℕ} {integer fraction : List UInt8}
    (hdigits : ∀ c ∈ fraction, IsDigit c) :
    value (rescaled k integer fraction) = ⌊fixedPoint integer fraction * 10 ^ k⌋₊ := by
  have hfloor : ⌊fixedPoint integer fraction * 10 ^ k⌋₊ =
      value (integer ++ fraction) * 10 ^ k / 10 ^ fraction.length := by
    rw [fixedPoint, div_mul_eq_mul_div]
    exact_mod_cast Nat.floor_div_eq_div (K := ℚ) (value (integer ++ fraction) * 10 ^ k)
      (10 ^ fraction.length)
  rw [hfloor, rescaled]
  rcases le_total k fraction.length with hle | hle
  · have hpow : (10 : ℕ) ^ fraction.length = 10 ^ (fraction.length - k) * 10 ^ k := by
      rw [← pow_add, Nat.sub_add_cancel hle]
    have hrest : value (fraction.drop k) < 10 ^ (fraction.length - k) := by
      rw [← List.length_drop]
      exact value_lt fun c hc => hdigits c (List.mem_of_mem_drop hc)
    have hsplit : value (integer ++ fraction) =
        value (integer ++ fraction.take k) * 10 ^ (fraction.length - k) +
          value (fraction.drop k) := by
      rw [← List.length_drop, ← value_append, List.append_assoc, List.take_append_drop]
    rw [Nat.sub_eq_zero_of_le hle, List.replicate_zero, List.append_nil, hpow,
      Nat.mul_div_mul_right _ _ (Nat.pow_pos (by decide)), hsplit, mul_comm (value _),
      Nat.mul_add_div (Nat.pow_pos (by decide)), Nat.div_eq_of_lt hrest, add_zero]
  · have hpow : (10 : ℕ) ^ k = 10 ^ (k - fraction.length) * 10 ^ fraction.length := by
      rw [← pow_add, Nat.sub_add_cancel hle]
    rw [List.take_of_length_le hle, ← List.append_assoc, value_append, value_replicate_zero,
      List.length_replicate, add_zero, hpow, ← mul_assoc,
      Nat.mul_div_cancel _ (Nat.pow_pos (by decide))]

end Decimal

end BifrostRelayer
