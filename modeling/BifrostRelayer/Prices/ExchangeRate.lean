import BifrostRelayer.Foundation.Decimal
import BifrostRelayer.Foundation.Words

/-!
# Exchange rates

An exchange rate arrives as a JSON number, and is kept as text so that no digit is lost.
`rate_to_scaled_u256` reads it as a 256-bit word in units of `10 ^ -18`: it writes scientific notation
as plain decimal digits by moving the decimal point, cuts off behind 18 digits, and reads the digits.

The text is a list of ASCII bytes.  A panic is `none`.  One comes from the decimal position
`i32::MIN`, which cannot be negated; `rate_parsed_exactly_iff` says that every other number is read
exactly.
-/

namespace BifrostRelayer

namespace Prices

open Decimal Words

/-- `U256`. -/
abbrev U256 : Type := BitVec 256

/-! ### The integer types -/

/-- A number as an `i32`, wrapped around. -/
def wrapI32 (n : ℤ) : ℤ := (n + 2 ^ 31) % 2 ^ 32 - 2 ^ 31

/-- `as usize`. -/
def asUsize (n : ℤ) : ℕ := (n % 2 ^ 64).toNat

/-- Whether a text begins with a minus, and the text behind a sign. -/
def splitSign : List UInt8 → Bool × List UInt8
  | [] => (false, [])
  | c :: text => if c = 43 then (false, text) else if c = 45 then (true, text) else (false, c :: text)

/-- `parse::<i32>()`: digits, maybe with a sign in front. -/
def parseI32 (text : List UInt8) : Option ℤ :=
  let (negative, digits) := splitSign text
  if digits ≠ [] ∧ ∀ c ∈ digits, IsDigit c then
    let n : ℤ := if negative then -value digits else value digits
    if -2 ^ 31 ≤ n ∧ n < 2 ^ 31 then some n else none
  else none

/-- `"0".repeat(n)`; more than `isize::MAX` bytes cannot be allocated. -/
def repeatZero (n : ℕ) : Option (List UInt8) :=
  if n < 2 ^ 63 then some (List.replicate n 48) else none

/-- `U256::from_str_radix` with radix 10, which skips underscores. -/
def fromStrRadix10 (text : List UInt8) : Except Unit U256 :=
  let digits := text.filter fun c => c ≠ 95
  if (∀ c ∈ digits, IsDigit c) ∧ value digits < 2 ^ 256 then .ok (.ofNat 256 (value digits))
  else .error ()

/-! ### The functions -/

/-- A decimal point. -/
def dot : UInt8 := 46

/-- The letters in front of an exponent. -/
def isExponentLetter (c : UInt8) : Bool := c = 101 || c = 69

/-- The text before and behind the decimal point. -/
def splitPoint (text : List UInt8) : List UInt8 × List UInt8 :=
  (splitFirst (fun c => c = dot) text).getD (text, [])

/-- The digits with the decimal point at a position relative to their start. -/
def placePoint (digits : List UInt8) (decimalPos : ℤ) : Option (List UInt8) :=
  if decimalPos ≤ 0 then
    (repeatZero (asUsize (wrapI32 (-decimalPos)))).map fun zeros => 48 :: dot :: (zeros ++ digits)
  else if digits.length ≤ asUsize decimalPos then
    (repeatZero (asUsize decimalPos - digits.length)).map fun zeros => digits ++ zeros
  else some (digits.take (asUsize decimalPos) ++ dot :: digits.drop (asUsize decimalPos))

/-- `normalize_scientific_notation`. -/
def normalizeScientificNotation (s : List UInt8) : Option (List UInt8) :=
  match splitFirst isExponentLetter s with
  | none => some s
  | some (mantissa, exponentText) =>
      let exponent := (parseI32 exponentText).getD 0
      let (integer, fractional) := splitPoint mantissa
      placePoint (trimZeros integer ++ fractional)
        (wrapI32 (wrapI32 (trimZeros integer).length + exponent))

/-- `DECIMALS`. -/
def decimals : ℕ := 18

/-- The digits of a decimal number in units of `10 ^ -18`, as a word. -/
def scaleDecimal (integerPart fractionalPart : List UInt8) : Except Unit U256 :=
  let combined :=
    if decimals ≤ fractionalPart.length then integerPart ++ fractionalPart.take decimals
    else integerPart ++ fractionalPart ++ List.replicate (decimals - fractionalPart.length) 48
  let trimmed := trimZeros combined
  if trimmed = [] then .ok 0 else fromStrRadix10 trimmed

/-- `rate_to_scaled_u256`. -/
def rateToScaledU256 (rate : List UInt8) : Option (Except Unit U256) :=
  (normalizeScientificNotation rate).map fun normalized =>
    scaleDecimal (splitPoint normalized).1 (splitPoint normalized).2

/-- `convert_amount_with_rate`. -/
def convertAmountWithRate (amount : U256) (rate : List UInt8) : Option (Except Unit U256) :=
  (rateToScaledU256 rate).map fun scaled => do
    let rateScaled ← scaled
    match (checkedMul amount rateScaled).bind fun v => checkedDiv v (.ofNat 256 (10 ^ 18)) with
    | some converted => .ok converted
    | none => .error ()

/-! ### JSON numbers -/

/-- The sign of an exponent. -/
inductive Sign where
  | none
  | plus
  | minus

/-- The text of a sign. -/
def Sign.text : Sign → List UInt8
  | .none => []
  | .plus => [43]
  | .minus => [45]

/-- The exponent of a number. -/
structure Exponent where
  letter : UInt8
  sign : Sign
  digits : List UInt8
  letter_isExponentLetter : isExponentLetter letter = true
  digits_ne : digits ≠ []
  isDigit : ∀ c ∈ digits, IsDigit c

/-- An unsigned JSON number, with leading zeros allowed. -/
structure JsonNumber where
  integer : List UInt8
  fraction : Option (List UInt8)
  exponent : Option Exponent
  integer_ne : integer ≠ []
  integer_isDigit : ∀ c ∈ integer, IsDigit c
  fraction_ne : fraction ≠ some []
  fraction_isDigit : ∀ digits ∈ fraction, ∀ c ∈ digits, IsDigit c

/-- The text of an exponent. -/
def Exponent.text (e : Exponent) : List UInt8 := e.letter :: (e.sign.text ++ e.digits)

/-- The value of an exponent. -/
def Exponent.value (e : Exponent) : ℤ :=
  match e.sign with
  | .none | .plus => Decimal.value e.digits
  | .minus => -Decimal.value e.digits

namespace JsonNumber

variable (n : JsonNumber)

/-- The digits behind the decimal point. -/
def fractional : List UInt8 := n.fraction.getD []

/-- The text in front of the exponent. -/
def mantissa : List UInt8 :=
  match n.fraction with
  | none => n.integer
  | some digits => n.integer ++ dot :: digits

/-- The text of a number. -/
def text : List UInt8 :=
  match n.exponent with
  | none => n.mantissa
  | some e => n.mantissa ++ e.text

/-- The value of the exponent, 0 if there is none. -/
def exponentValue : ℤ :=
  match n.exponent with
  | none => 0
  | some e => e.value

/-- The rational number that the text denotes. -/
def value : ℚ := fixedPoint n.integer n.fractional * 10 ^ n.exponentValue

/-- Where the decimal point belongs in the digits without leading zeros in front of it. -/
def decimalPosition : ℤ := (trimZeros n.integer).length + n.exponentValue

end JsonNumber

/-! ### What the functions should return -/

/-- The word of a rate. -/
def scaled (v : ℚ) : Except Unit U256 :=
  if ⌊v * 10 ^ 18⌋₊ < 2 ^ 256 then .ok (.ofNat 256 ⌊v * 10 ^ 18⌋₊) else .error ()

/-- An amount times a rate. -/
def converted (amount : U256) (v : ℚ) : Except Unit U256 :=
  if ⌊v * 10 ^ 18⌋₊ < 2 ^ 256 ∧ amount.toNat * ⌊v * 10 ^ 18⌋₊ < 2 ^ 256 then
    .ok (.ofNat 256 (amount.toNat * ⌊v * 10 ^ 18⌋₊ / 10 ^ 18))
  else .error ()

/-! ### Reading decimal digits -/

/-- Digits are no separators. -/
lemma isDigit_ne {c x : UInt8} (h : IsDigit c) (hx : ¬ IsDigit x) : c ≠ x := by
  rintro rfl
  exact hx h

/-- Digits that fit are read. -/
lemma fromStrRadix10_of_isDigit {ds : List UInt8} (hds : ∀ c ∈ ds, IsDigit c) :
    fromStrRadix10 ds =
      if value ds < 2 ^ 256 then .ok (.ofNat 256 (value ds)) else .error () := by
  have hfilter : (ds.filter fun c => c ≠ 95) = ds :=
    List.filter_eq_self.2 fun c hc => by simpa using isDigit_ne (hds c hc) (by decide)
  unfold fromStrRadix10
  rw [hfilter]
  simp only [and_iff_right hds]

/-- The digits are those of the number in units of `10 ^ -18`. -/
lemma scaleDecimal_eq {integer fraction : List UInt8} (hinteger : ∀ c ∈ integer, IsDigit c)
    (hfraction : ∀ c ∈ fraction, IsDigit c) :
    scaleDecimal integer fraction = scaled (fixedPoint integer fraction) := by
  have hcombined : (if decimals ≤ fraction.length then integer ++ fraction.take decimals
      else integer ++ fraction ++ List.replicate (decimals - fraction.length) 48) =
        rescaled 18 integer fraction := by
    unfold rescaled decimals
    split_ifs with hle
    · rw [Nat.sub_eq_zero_of_le hle, List.replicate_zero, List.append_nil]
    · rw [List.take_of_length_le (by omega), List.append_assoc]
  have hvalue : value (rescaled 18 integer fraction) = ⌊fixedPoint integer fraction * 10 ^ 18⌋₊ :=
    value_rescaled hfraction
  have hdigits : ∀ c ∈ trimZeros (rescaled 18 integer fraction), IsDigit c := by
    intro c hc
    have hmem := mem_of_mem_trimZeros hc
    simp only [rescaled, List.mem_append, List.mem_replicate] at hmem
    rcases hmem with hmem | hmem | ⟨-, rfl⟩
    · exact hinteger c hmem
    · exact hfraction c (List.mem_of_mem_take hmem)
    · decide
  unfold scaleDecimal scaled
  rw [hcombined, ← hvalue]
  simp only
  split_ifs with hempty hfits hfits
  · have hzero : value (rescaled 18 integer fraction) = 0 := by
      rw [← value_trimZeros, hempty, value_nil]
    rw [hzero]
    rfl
  · have hzero : value (rescaled 18 integer fraction) = 0 := by
      rw [← value_trimZeros, hempty, value_nil]
    rw [hzero] at hfits
    exact absurd hfits (by norm_num)
  · rw [fromStrRadix10_of_isDigit hdigits, value_trimZeros, if_pos hfits]
  · rw [fromStrRadix10_of_isDigit hdigits, value_trimZeros, if_neg hfits]

/-- Digits without a point. -/
lemma splitPoint_of_isDigit {ds : List UInt8} (hds : ∀ c ∈ ds, IsDigit c) :
    splitPoint ds = (ds, []) := by
  unfold splitPoint
  rw [splitFirst_eq_none fun c hc => by simpa using isDigit_ne (hds c hc) (by decide)]
  rfl

/-- Digits with a point. -/
lemma splitPoint_append {ds : List UInt8} (hds : ∀ c ∈ ds, IsDigit c) (rest : List UInt8) :
    splitPoint (ds ++ dot :: rest) = (ds, rest) := by
  unfold splitPoint
  rw [splitFirst_append rest (fun c hc => by simpa using isDigit_ne (hds c hc) (by decide))
    (by simp)]
  rfl

/-! ### Reading a JSON number -/

/-- The sign of an exponent is read; its first digit is not taken for one. -/
lemma splitSign_exponent (e : Exponent) :
    splitSign (e.sign.text ++ e.digits) =
      ((match e.sign with | .minus => true | _ => false), e.digits) := by
  obtain ⟨letter, sign, digits, hletter, hne, hdigits⟩ := e
  cases sign with
  | plus => rfl
  | minus => rfl
  | none =>
    obtain ⟨c, ds, rfl⟩ := List.exists_cons_of_ne_nil hne
    have hc := hdigits c (List.mem_cons_self ..)
    simp only [Sign.text, List.nil_append, splitSign, if_neg (isDigit_ne hc (x := 43) (by decide)),
      if_neg (isDigit_ne hc (x := 45) (by decide))]

/-- An exponent that fits is read. -/
lemma parseI32_exponent (e : Exponent) (hfits : -2 ^ 31 ≤ e.value ∧ e.value < 2 ^ 31) :
    parseI32 (e.sign.text ++ e.digits) = some e.value := by
  have hall : e.digits ≠ [] ∧ ∀ c ∈ e.digits, IsDigit c := ⟨e.digits_ne, e.isDigit⟩
  have hvalue : (if (match e.sign with | .minus => true | _ => false) = true then
      -(Decimal.value e.digits : ℤ) else Decimal.value e.digits) = e.value := by
    unfold Exponent.value
    cases e.sign <;> rfl
  unfold parseI32
  rw [splitSign_exponent]
  simp only [if_pos hall, hvalue]
  exact if_pos hfits

namespace JsonNumber

variable {n : JsonNumber}

/-- The digits behind the decimal point are digits. -/
lemma isDigit_fractional (n : JsonNumber) : ∀ c ∈ n.fractional, IsDigit c := by
  intro c hc
  unfold fractional at hc
  cases hfraction : n.fraction with
  | none => simp [hfraction] at hc
  | some digits =>
    rw [hfraction] at hc
    exact n.fraction_isDigit digits hfraction c hc

/-- The mantissa is split at its point. -/
lemma splitPoint_mantissa (n : JsonNumber) : splitPoint n.mantissa = (n.integer, n.fractional) := by
  unfold mantissa fractional
  cases n.fraction with
  | none => exact splitPoint_of_isDigit n.integer_isDigit
  | some digits => exact splitPoint_append n.integer_isDigit digits

/-- The mantissa has no letter in it. -/
lemma isExponentLetter_mantissa (n : JsonNumber) : ∀ c ∈ n.mantissa, isExponentLetter c = false := by
  have hdigit : ∀ c, IsDigit c → isExponentLetter c = false := by
    intro c hc
    have hlower : c ≠ 101 := isDigit_ne hc (by decide)
    have hupper : c ≠ 69 := isDigit_ne hc (by decide)
    simp [isExponentLetter, hlower, hupper]
  intro c hc
  unfold mantissa at hc
  cases hfraction : n.fraction with
  | none =>
    rw [hfraction] at hc
    exact hdigit c (n.integer_isDigit c hc)
  | some digits =>
    rw [hfraction] at hc
    rcases List.mem_append.1 hc with hc | hc
    · exact hdigit c (n.integer_isDigit c hc)
    · rcases List.mem_cons.1 hc with rfl | hc
      · decide
      · exact hdigit c (n.fraction_isDigit digits hfraction c hc)

/-- All digits, without the zeros in front. -/
def digits (n : JsonNumber) : List UInt8 := trimZeros n.integer ++ n.fractional

/-- They are digits. -/
lemma isDigit_digits (n : JsonNumber) : ∀ c ∈ n.digits, IsDigit c := by
  intro c hc
  rcases List.mem_append.1 hc with hc | hc
  · exact n.integer_isDigit c (mem_of_mem_trimZeros hc)
  · exact n.isDigit_fractional c hc

/-- The number in terms of its digits and the decimal position. -/
lemma value_eq (n : JsonNumber) :
    n.value = Decimal.value n.digits * 10 ^ (n.decimalPosition - n.digits.length) := by
  have hdigits : Decimal.value n.digits = Decimal.value (n.integer ++ n.fractional) := by
    rw [digits, value_append, value_trimZeros, value_append]
  have hexp : n.decimalPosition - n.digits.length = n.exponentValue - n.fractional.length := by
    rw [decimalPosition, digits, List.length_append]
    push_cast
    ring
  rw [hdigits, hexp, zpow_sub₀ (by norm_num), zpow_natCast, value, fixedPoint]
  ring

end JsonNumber

/-! ### Moving the decimal point -/

/-- A text of digits with a decimal point, and its value. -/
def Denotes (text : List UInt8) (v : ℚ) : Prop :=
  ∃ integer fraction, splitPoint text = (integer, fraction) ∧ (∀ c ∈ integer, IsDigit c) ∧
    (∀ c ∈ fraction, IsDigit c) ∧ fixedPoint integer fraction = v

/-- The decimal position `i32::MIN` cannot be negated. -/
lemma placePoint_min (ds : List UInt8) : placePoint ds (-2 ^ 31) = none := by
  have hcount : asUsize (wrapI32 (- -2 ^ 31)) = 2 ^ 64 - 2 ^ 31 := by decide
  rw [placePoint, if_pos (by norm_num), hcount, repeatZero, if_neg (by norm_num)]
  rfl

section PlacePoint

variable {ds : List UInt8} (hds : ∀ c ∈ ds, IsDigit c)

/-- Zeros are digits. -/
lemma isDigit_of_mem_replicate {k : ℕ} {c : UInt8} (h : c ∈ List.replicate k (48 : UInt8)) :
    IsDigit c := by
  rw [List.eq_of_mem_replicate h]
  decide

include hds in
/-- The point in front of the digits. -/
lemma denotes_front (k : ℕ) :
    Denotes (48 :: dot :: (List.replicate k 48 ++ ds)) (value ds * 10 ^ (-k - ds.length : ℤ)) := by
  have hzero : ∀ c ∈ [(48 : UInt8)], IsDigit c := by
    simp only [List.mem_singleton, forall_eq]
    decide
  refine ⟨[48], List.replicate k 48 ++ ds, splitPoint_append hzero _, hzero, ?_, ?_⟩
  · intro c hc
    rcases List.mem_append.1 hc with hc | hc
    · exact isDigit_of_mem_replicate hc
    · exact hds c hc
  · have hvalue : value ([48] ++ (List.replicate k 48 ++ ds)) = value ds := by
      rw [value_append, value_append, value_replicate_zero, value_singleton]
      simp [digitValue]
    rw [fixedPoint, hvalue, List.length_append, List.length_replicate, ← zpow_natCast,
      div_eq_mul_inv, ← zpow_neg]
    congr 2
    push_cast
    ring

include hds in
/-- The point behind the digits. -/
lemma denotes_behind {k : ℕ} (hlen : ds.length ≤ k) :
    Denotes (ds ++ List.replicate (k - ds.length) 48) (value ds * 10 ^ (k - ds.length : ℤ)) := by
  have hdigits : ∀ c ∈ ds ++ List.replicate (k - ds.length) 48, IsDigit c := by
    intro c hc
    rcases List.mem_append.1 hc with hc | hc
    · exact hds c hc
    · exact isDigit_of_mem_replicate hc
  refine ⟨_, [], splitPoint_of_isDigit hdigits, hdigits, nofun, ?_⟩
  rw [fixedPoint, List.append_nil, value_append, value_replicate_zero, List.length_replicate]
  push_cast
  rw [List.length_nil, pow_zero, div_one, add_zero, ← zpow_natCast, Nat.cast_sub hlen]

include hds in
/-- The point between the digits. -/
lemma denotes_between {k : ℕ} (hlen : k ≤ ds.length) :
    Denotes (ds.take k ++ dot :: ds.drop k) (value ds * 10 ^ (k - ds.length : ℤ)) := by
  have htake : ∀ c ∈ ds.take k, IsDigit c := fun c hc => hds c (List.mem_of_mem_take hc)
  refine ⟨_, _, splitPoint_append htake _, htake, fun c hc => hds c (List.mem_of_mem_drop hc), ?_⟩
  rw [fixedPoint, List.take_append_drop, List.length_drop, ← zpow_natCast, div_eq_mul_inv,
    ← zpow_neg, Nat.cast_sub hlen]
  congr 2
  ring

include hds in
/-- Every decimal position but `i32::MIN` gives a text of the number. -/
lemma placePoint_denotes {p : ℤ} (hmin : -2 ^ 31 < p) (hmax : p < 2 ^ 31) :
    ∃ text, placePoint ds p = some text ∧ Denotes text (value ds * 10 ^ (p - ds.length)) := by
  have hcast : ∀ k : ℕ, k < 2 ^ 31 → asUsize (k : ℤ) = k := by
    intro k hk
    unfold asUsize
    omega
  unfold placePoint
  split_ifs with hle hlen
  · obtain ⟨k, rfl⟩ : ∃ k : ℕ, p = -k := ⟨(-p).toNat, by omega⟩
    have hwrap : wrapI32 (- -(k : ℤ)) = k := by
      unfold wrapI32
      omega
    rw [hwrap, hcast k (by omega), repeatZero, if_pos (by omega)]
    exact ⟨_, rfl, denotes_front hds k⟩
  · obtain ⟨k, rfl⟩ : ∃ k : ℕ, p = k := ⟨p.toNat, by omega⟩
    rw [hcast k (by omega)] at hlen ⊢
    rw [repeatZero, if_pos (by omega)]
    exact ⟨_, rfl, denotes_behind hds hlen⟩
  · obtain ⟨k, rfl⟩ : ∃ k : ℕ, p = k := ⟨p.toNat, by omega⟩
    rw [hcast k (by omega)] at hlen ⊢
    exact ⟨_, rfl, denotes_between hds (by omega)⟩

end PlacePoint

/-! ### Rates -/

namespace JsonNumber

variable {n : JsonNumber} {e : Exponent}

/-- The exponent and the decimal position are `i32` values. -/
def Fits (n : JsonNumber) : Prop :=
  ∀ e ∈ n.exponent, (-2 ^ 31 ≤ e.value ∧ e.value < 2 ^ 31) ∧
    -2 ^ 31 ≤ n.decimalPosition ∧ n.decimalPosition < 2 ^ 31

/-- A number without an exponent is left alone. -/
lemma normalize_of_no_exponent (he : n.exponent = none) :
    normalizeScientificNotation n.text = some n.mantissa := by
  unfold normalizeScientificNotation text
  rw [he, splitFirst_eq_none n.isExponentLetter_mantissa]

/-- A number with an exponent has its point moved. -/
lemma normalize_of_exponent (he : n.exponent = some e) (hfits : n.Fits) :
    normalizeScientificNotation n.text = placePoint n.digits n.decimalPosition := by
  obtain ⟨hexp, hpos⟩ := hfits e he
  have hwrap : wrapI32 (wrapI32 (trimZeros n.integer).length + e.value) = n.decimalPosition := by
    have hvalue : n.exponentValue = e.value := by rw [exponentValue, he]
    unfold decimalPosition at hpos ⊢
    rw [hvalue] at hpos ⊢
    unfold wrapI32
    omega
  unfold normalizeScientificNotation text
  rw [he]
  simp only [Exponent.text, splitFirst_append _ n.isExponentLetter_mantissa
    e.letter_isExponentLetter, parseI32_exponent e hexp, n.splitPoint_mantissa, Option.getD_some,
    hwrap]
  rfl

/-- A normalized text stands for the number. -/
lemma normalize_denotes (hfits : n.Fits)
    (hmin : n.exponent = none ∨ n.decimalPosition ≠ -2 ^ 31) :
    ∃ text, normalizeScientificNotation n.text = some text ∧ Denotes text n.value := by
  cases he : n.exponent with
  | none =>
    refine ⟨n.mantissa, normalize_of_no_exponent he, n.integer, n.fractional,
      n.splitPoint_mantissa, n.integer_isDigit, n.isDigit_fractional, ?_⟩
    rw [value, exponentValue, he, zpow_zero, mul_one]
  | some e =>
    obtain ⟨-, hlow, hhigh⟩ := hfits e he
    have hne : n.decimalPosition ≠ -2 ^ 31 := by
      rcases hmin with hnone | hne
      · rw [he] at hnone
        cases hnone
      · exact hne
    rw [normalize_of_exponent he hfits, n.value_eq]
    exact placePoint_denotes n.isDigit_digits (lt_of_le_of_ne hlow hne.symm) hhigh

/-- A rate is read exactly, unless the decimal position is `i32::MIN`. -/
lemma rateToScaledU256_eq (hfits : n.Fits)
    (hmin : n.exponent = none ∨ n.decimalPosition ≠ -2 ^ 31) :
    rateToScaledU256 n.text = some (scaled n.value) := by
  obtain ⟨text, htext, integer, fraction, hsplit, hinteger, hfraction, hvalue⟩ :=
    normalize_denotes hfits hmin
  rw [rateToScaledU256, htext, Option.map_some, hsplit, scaleDecimal_eq hinteger hfraction, hvalue]

/-- An amount is converted with the rate that is read. -/
lemma convertAmountWithRate_eq {rate : List UInt8} {v : ℚ}
    (hrate : rateToScaledU256 rate = some (scaled v)) (amount : U256) :
    convertAmountWithRate amount rate = some (converted amount v) := by
  rw [convertAmountWithRate, hrate, Option.map_some, Option.some.injEq]
  unfold scaled converted
  split_ifs with hfits hboth hboth
  · have hword : (BitVec.ofNat 256 ⌊v * 10 ^ 18⌋₊).toNat = ⌊v * 10 ^ 18⌋₊ := by
      rw [BitVec.toNat_ofNat, Nat.mod_eq_of_lt hfits]
    obtain ⟨product, hproduct⟩ : ∃ product : U256,
        checkedMul amount (.ofNat 256 ⌊v * 10 ^ 18⌋₊) = some product := by
      rw [checkedMul, hword, if_pos hboth.2]
      exact ⟨_, rfl⟩
    have hdiv : checkedDiv product (.ofNat 256 (10 ^ 18)) =
        some (.ofNat 256 (amount.toNat * ⌊v * 10 ^ 18⌋₊ / 10 ^ 18)) := by
      rw [checkedDiv_eq_some, (checkedMul_eq_some.1 hproduct).2, hword]
      refine ⟨by decide, ?_⟩
      rw [BitVec.toNat_ofNat, Nat.mod_eq_of_lt (lt_of_le_of_lt (Nat.div_le_self ..) hboth.2)]
      rfl
    simp only [bind, Except.bind, hproduct, Option.bind_some, hdiv]
  · have hproduct : checkedMul amount (.ofNat 256 ⌊v * 10 ^ 18⌋₊) = none := by
      rw [checkedMul_eq_none, BitVec.toNat_ofNat, Nat.mod_eq_of_lt hfits]
      exact not_lt.1 fun hlt => hboth ⟨hfits, hlt⟩
    simp only [bind, Except.bind, hproduct, Option.bind_none]
  · exact absurd hboth.1 hfits
  · rfl

/-- A number is read as the floor of its value in units of `10 ^ -18`, or refused if this does not
fit, and amounts are converted accordingly, in whatever notation it is written; just the decimal
position `i32::MIN` panics. -/
theorem rate_parsed_exactly_iff (n : JsonNumber) (hfits : n.Fits) :
    (rateToScaledU256 n.text = some (scaled n.value) ∧
      ∀ amount, convertAmountWithRate amount n.text = some (converted amount n.value)) ↔
      (n.exponent = none ∨ n.decimalPosition ≠ -2 ^ 31) := by
  constructor
  · rintro ⟨hrate, -⟩
    by_contra hmin
    rw [not_or, not_not] at hmin
    obtain ⟨e, he⟩ := Option.ne_none_iff_exists'.1 hmin.1
    rw [rateToScaledU256, normalize_of_exponent he hfits, hmin.2, placePoint_min] at hrate
    cases hrate
  · intro hmin
    have hrate := rateToScaledU256_eq hfits hmin
    exact ⟨hrate, convertAmountWithRate_eq hrate⟩

/-- A number with one digit, a fraction, and a negative exponent. -/
def sample (integer : UInt8) (fraction : Option (List UInt8)) (exponent : List UInt8)
    (hinteger : IsDigit integer) (hne : fraction ≠ some [])
    (hfraction : ∀ digits ∈ fraction, ∀ c ∈ digits, IsDigit c) (hexponent : exponent ≠ [])
    (hdigits : ∀ c ∈ exponent, IsDigit c) : JsonNumber where
  integer := [integer]
  fraction := fraction
  exponent := some ⟨101, .minus, exponent, by decide, hexponent, hdigits⟩
  integer_ne := by simp
  integer_isDigit := by simpa using hinteger
  fraction_ne := hne
  fraction_isDigit := hfraction

/-- `1.23e-5`. -/
def sampleRate : JsonNumber :=
  sample 49 (some [50, 51]) [53] (by decide) (by simp) (by decide +kernel) (by simp)
    (by decide +kernel)

/-- `0e-2147483648`. -/
def sampleMinimum : JsonNumber :=
  sample 48 none [50, 49, 52, 55, 52, 56, 51, 54, 52, 56] (by decide) (by simp) (by simp) (by simp)
    (by decide +kernel)

/-- The rate `1.23e-5` is read exactly. -/
theorem rate_parsed_exactly_sample :
    sampleRate.text = [49, 46, 50, 51, 101, 45, 53] ∧
      rateToScaledU256 sampleRate.text = some (scaled sampleRate.value) ∧
      rateToScaledU256 sampleRate.text = some (.ok 12300000000000) := by
  have hfits : sampleRate.Fits := by
    rintro e ⟨⟩
    decide +kernel
  exact ⟨rfl, ((rate_parsed_exactly_iff sampleRate hfits).2 (.inr (by decide +kernel))).1,
    by decide +kernel⟩

/-- The rate `0e-2147483648`, whose exponent and decimal position fit, panics. -/
theorem rate_minimum_panics :
    sampleMinimum.Fits ∧ sampleMinimum.decimalPosition = -2 ^ 31 ∧
      rateToScaledU256 sampleMinimum.text = none ∧ scaled sampleMinimum.value = .ok 0 := by
  refine ⟨?_, by decide +kernel, by decide +kernel, ?_⟩
  · rintro e ⟨⟩
    decide +kernel
  · have hzero : sampleMinimum.value = 0 := by
      have hdigits : Decimal.value sampleMinimum.digits = 0 := by decide +kernel
      rw [value_eq, hdigits, Nat.cast_zero, zero_mul]
    rw [hzero, scaled, zero_mul, Nat.floor_zero]
    rfl

end JsonNumber

end Prices

end BifrostRelayer
