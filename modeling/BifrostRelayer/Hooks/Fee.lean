import BifrostRelayer.Hooks.Executor

/-!
# The fee of a hook

The fee is computed with checked products and quotients of 256-bit words, and with powers of ten
that are not checked: of the decimals of the token, and of the decimals of the aggregator.  A power
wraps around from `10 ^ 78` on.  `fee_exact_iff` says that the fee is the exact floor of the formula,
and that no overflow stays unreported, just if the powers that are computed are smaller.
-/

namespace BifrostRelayer

namespace Hooks

open Fallible SolidityAbi Words

section Powers

/-- A power of ten that fits. -/
lemma toNat_pow10 {n : ℕ} (hn : n ≤ 77) : (wrappingPow (10 : U256) n).toNat = 10 ^ n := by
  apply toNat_wrappingPow
  calc 10 ^ n ≤ 10 ^ 77 := Nat.pow_le_pow_right (by decide) hn
    _ < 2 ^ 256 := by norm_num

/-- The check passes a power that fits. -/
lemma checkedPow10_of_le {n : ℕ} (hn : n ≤ 77) : checkedPow10 n = pow10 n := by
  apply checkedPow_of_lt
  calc 10 ^ n ≤ 10 ^ 77 := Nat.pow_le_pow_right (by decide) hn
    _ < 2 ^ 256 := by norm_num

/-- The check reports a power that does not fit. -/
lemma checkedPow10_of_gt {n : ℕ} (hn : 77 < n) : checkedPow10 n = none := by
  apply checkedPow_of_ge
  calc 2 ^ 256 ≤ 10 ^ 78 := by norm_num
    _ ≤ 10 ^ n := Nat.pow_le_pow_right (by decide) hn

end Powers

/-! ### An aggregator's answer on the scale of 18 decimals -/

/-- Scaling up by what the decimals lack. -/
lemma mul_pow_sub_eq_div {a d : ℕ} (hd : d ≤ 18) : a * 10 ^ (18 - d) = a * 10 ^ 18 / 10 ^ d := by
  have hpow : (10 : ℕ) ^ 18 = 10 ^ (18 - d) * 10 ^ d := by
    rw [← pow_add, Nat.sub_add_cancel hd]
  rw [hpow, ← mul_assoc, Nat.mul_div_cancel _ (Nat.pow_pos (by decide))]

/-- Scaling down by what the decimals have too much. -/
lemma div_pow_sub_eq_div {a d : ℕ} (hd : 18 ≤ d) : a / 10 ^ (d - 18) = a * 10 ^ 18 / 10 ^ d := by
  have hpow : (10 : ℕ) ^ d = 10 ^ (d - 18) * 10 ^ 18 := by
    rw [← pow_add, Nat.sub_add_cancel hd]
  rw [hpow, Nat.mul_div_mul_right _ _ (Nat.pow_pos (by decide))]

/-- With at most 95 decimals an answer is normalized exactly, unless it is refused. -/
lemma normalizeAnswer_exact {answer price : BitVec 256} {decimals : UInt8}
    (hdecimals : decimals.toNat ≤ 95) (h : normalizeAnswer pow10 answer decimals = .ok price) :
    price.toNat = answer.toNat * 10 ^ 18 / 10 ^ decimals.toNat := by
  unfold normalizeAnswer at h
  split_ifs at h with hle
  · simp only [bind_eq_ok, orPowerOverflow_eq_ok, okOr_eq_ok, pow10, Option.some.injEq,
      exists_eq_left', checkedMul_eq_some] at h
    rw [h.2, toNat_pow10 (by omega), mul_pow_sub_eq_div hle]
  · simp only [bind_eq_ok, orPowerOverflow_eq_ok, okOr_eq_ok, pow10, Option.some.injEq,
      exists_eq_left', checkedDiv_eq_some] at h
    rw [h.2, toNat_pow10 (by omega), div_pow_sub_eq_div (by omega)]

/-- With at most 95 decimals no power has to be reported. -/
lemma normalizeAnswer_checked {answer : BitVec 256} {decimals : UInt8}
    (hdecimals : decimals.toNat ≤ 95) :
    normalizeAnswer checkedPow10 answer decimals = normalizeAnswer pow10 answer decimals := by
  unfold normalizeAnswer
  rw [checkedPow10_of_le (by omega), checkedPow10_of_le (by omega)]

/-- With more decimals the power has to be reported. -/
lemma normalizeAnswer_overflow {answer : BitVec 256} {decimals : UInt8}
    (hdecimals : 95 < decimals.toNat) :
    normalizeAnswer checkedPow10 answer decimals = .error .powerOverflow := by
  unfold normalizeAnswer
  rw [if_neg (by omega), checkedPow10_of_gt (by omega)]
  rfl

/-! ### The conversion -/

variable {feeInDnc dncPrice price : U256} {decimals : UInt8}

/-- With at most 77 decimals the fee is converted exactly, unless it is refused. -/
lemma feeInBridgedAsset_exact {fee : U256} (hdecimals : decimals.toNat ≤ 77)
    (h : feeInBridgedAsset pow10 feeInDnc dncPrice decimals price = .ok fee) :
    fee.toNat =
      feeInDnc.toNat * dncPrice.toNat * 10 ^ decimals.toNat / (price.toNat * 10 ^ 18) := by
  unfold feeInBridgedAsset at h
  simp only [bind_eq_ok, orPowerOverflow_eq_ok, okOr_eq_ok, pow10, Option.some.injEq,
    exists_eq_left', checkedMul_eq_some, checkedDiv_eq_some] at h
  obtain ⟨value, ⟨-, hvalue⟩, scaled, ⟨-, hscaled⟩, amount, ⟨-, hamount⟩, -, hfee⟩ := h
  rw [hfee, hamount, hscaled, hvalue, toNat_pow10 hdecimals, toNat_pow10 (by decide),
    Nat.div_div_eq_div_mul]

/-- With at most 77 decimals no power has to be reported. -/
lemma feeInBridgedAsset_checked (hdecimals : decimals.toNat ≤ 77) :
    feeInBridgedAsset checkedPow10 feeInDnc dncPrice decimals price =
      feeInBridgedAsset pow10 feeInDnc dncPrice decimals price := by
  unfold feeInBridgedAsset
  rw [checkedPow10_of_le hdecimals, checkedPow10_of_le (by decide)]

/-- A first product that overflows is reported before a power is computed. -/
lemma feeInBridgedAsset_refused {pow : ℕ → Option U256}
    (hvalue : 2 ^ 256 ≤ feeInDnc.toNat * dncPrice.toNat) :
    feeInBridgedAsset pow feeInDnc dncPrice decimals price =
      .error (.error ⟨"Fee × DNC price overflow"⟩) := by
  unfold feeInBridgedAsset
  rw [checkedMul_eq_none.2 hvalue]
  rfl

/-- With more decimals the power has to be reported. -/
lemma feeInBridgedAsset_overflow (hdecimals : 77 < decimals.toNat)
    (hvalue : feeInDnc.toNat * dncPrice.toNat < 2 ^ 256) :
    feeInBridgedAsset checkedPow10 feeInDnc dncPrice decimals price = .error .powerOverflow := by
  unfold feeInBridgedAsset
  rw [checkedPow10_of_gt hdecimals, checkedMul, if_pos hvalue]
  rfl

/-! ### The computation with all overflows reported -/

/-- A computation that reports no power. -/
def NoReport {α : Type} (x : Except Exit α) : Prop := x ≠ .error .powerOverflow

section NoReport

variable {α β : Type}

lemma NoReport.bind {x : Except Exit α} {f : α → Except Exit β} (hx : NoReport x)
    (hf : ∀ a, NoReport (f a)) : NoReport (x >>= f) := by
  cases x with
  | ok a => exact hf a
  | error exit =>
    intro h
    exact hx (by rw [Except.error.inj h])

lemma noReport_ok (a : α) : NoReport (.ok a : Except Exit α) := nofun

lemma noReport_skip : NoReport (.error .skip : Except Exit α) := nofun

lemma noReport_error (report : Report) : NoReport (.error (.error report) : Except Exit α) := nofun

lemma noReport_okOr (text : String) (x : Option α) : NoReport (okOr text x) := by
  cases x <;> nofun

lemma noReport_orPowerOverflow (n : ℕ) : NoReport (orPowerOverflow (pow10 n)) := nofun

/-- The code reports no power in the price of an answer. -/
lemma noReport_normalizeAnswer (answer : BitVec 256) (decimals : UInt8) :
    NoReport (normalizeAnswer pow10 answer decimals) := by
  unfold normalizeAnswer
  split_ifs
  · exact (noReport_orPowerOverflow _).bind fun _ => noReport_okOr _ _
  · exact (noReport_orPowerOverflow _).bind fun _ => noReport_okOr _ _

/-- Neither does it in the answer itself. -/
lemma noReport_aggregatorAnswer (r : HookReplies) (assetId : Address) :
    NoReport (aggregatorAnswer r assetId) := by
  unfold aggregatorAnswer
  cases r.aggregatorInfo assetId with
  | error report => exact noReport_error report
  | ok info =>
    cases info with
    | none => exact noReport_skip
    | some info =>
      cases hdata : r.latestRoundData info.1 with
      | error report =>
        simp only [orReturn, orSkip, bind, Except.bind, hdata]
        exact noReport_skip
      | ok data =>
        simp only [orReturn, orSkip, bind, Except.bind, hdata]
        split_ifs
        · exact noReport_skip
        · exact noReport_skip
        · exact noReport_ok _

/-- The code reports no power in the price of the bridged asset. -/
lemma noReport_bridgedPrice (r : HookReplies) (manager assetId : Address) (oid : B256) :
    NoReport (bridgedPrice pow10 r manager assetId oid) := by
  unfold bridgedPrice
  split_ifs
  · refine (noReport_aggregatorAnswer r assetId).bind fun result => ?_
    refine (noReport_normalizeAnswer _ _).bind fun normalized => ?_
    split_ifs
    · exact noReport_skip
    · exact noReport_ok _
  · unfold oraclePrice
    cases r.lastOracleInfo manager oid with
    | error report => exact noReport_skip
    | ok info =>
      simp only
      split_ifs
      · exact noReport_skip
      · exact noReport_skip
      · exact noReport_ok _

/-- The code reports no power in the fee. -/
lemma noReport_feeInBridgedAsset (feeInDnc dncPrice : U256) (decimals : UInt8) (price : U256) :
    NoReport (feeInBridgedAsset pow10 feeInDnc dncPrice decimals price) := by
  unfold feeInBridgedAsset
  refine (noReport_okOr _ _).bind fun _ => (noReport_orPowerOverflow _).bind fun _ => ?_
  refine (noReport_okOr _ _).bind fun _ => (noReport_okOr _ _).bind fun _ => ?_
  exact (noReport_orPowerOverflow _).bind fun _ => noReport_okOr _ _

end NoReport

section Estimate

variable (client : HookClient) (r : HookReplies) (msg : SocketMessage) (maxTxFee : U256)
  (isInbound : Bool)

/-- The fee is the exact floor of the formula, with the answer of an aggregator scaled exactly, and
the computation is the one in which every overflow is reported. -/
structure FeeExact : Prop where
  exact : ∀ fee gas, estimateHookGas client r msg maxTxFee isInbound = .ok (fee, gas) → 0 < gas →
    ∃ q price, quote client r msg maxTxFee isInbound = .ok q ∧ q.gas = gas ∧
      bridgedPrice pow10 r q.manager q.assetId q.bridgedOid = .ok price ∧
      fee.toNat = gas.toNat * q.gasPrice.toNat * q.dncPrice.toNat * 10 ^ q.decimals.toNat /
        (price.toNat * 10 ^ 18) ∧
      (q.bridgedOid = zeroOid → ∃ answer decimals,
        aggregatorAnswer r q.assetId = .ok (answer, decimals) ∧
          price.toNat = answer.toNat * 10 ^ 18 / 10 ^ decimals.toNat)
  reported : estimate pow10 client r msg maxTxFee isInbound =
    estimate checkedPow10 client r msg maxTxFee isInbound

/-- Where the computation gets to the answer of an aggregator, this has at most 95 decimals, and
where it gets to the conversion, the token has at most 77. -/
def PowersFit : Prop :=
  ∀ q, quote client r msg maxTxFee isInbound = .ok q →
    (q.bridgedOid = zeroOid → ∀ answer decimals,
      aggregatorAnswer r q.assetId = .ok (answer, decimals) → decimals.toNat ≤ 95) ∧
    ∀ price, bridgedPrice pow10 r q.manager q.assetId q.bridgedOid = .ok price →
      q.feeInDnc.toNat * q.dncPrice.toNat < 2 ^ 256 → q.decimals.toNat ≤ 77

variable {client r msg maxTxFee isInbound} {q : Quote}

/-- The price of the bridged asset with its powers checked. -/
lemma bridgedPrice_checked (h : q.bridgedOid = zeroOid → ∀ answer decimals,
    aggregatorAnswer r q.assetId = .ok (answer, decimals) → decimals.toNat ≤ 95) :
    bridgedPrice checkedPow10 r q.manager q.assetId q.bridgedOid =
      bridgedPrice pow10 r q.manager q.assetId q.bridgedOid := by
  unfold bridgedPrice
  split_ifs with hoid
  · unfold aggregatorPrice
    cases hanswer : aggregatorAnswer r q.assetId with
    | error exit => rfl
    | ok result =>
      obtain ⟨answer, decimals⟩ := result
      simp only [bind, Except.bind, normalizeAnswer_checked (h hoid answer decimals hanswer)]
  · rfl

/-- The second part of the estimation. -/
lemma estimate_of_quote {pow : ℕ → Option U256}
    (hq : quote client r msg maxTxFee isInbound = .ok q) :
    estimate pow client r msg maxTxFee isInbound =
      bridgedPrice pow r q.manager q.assetId q.bridgedOid >>= fun price =>
        feeInBridgedAsset pow q.feeInDnc q.dncPrice q.decimals price >>= fun fee =>
          checkMaxTxFee maxTxFee fee >>= fun _ => pure (fee, q.gas) := by
  rw [estimate, hq]
  rfl

/-- The code reports no power. -/
lemma noReport_estimate (hq : quote client r msg maxTxFee isInbound = .ok q) :
    NoReport (estimate pow10 client r msg maxTxFee isInbound) := by
  rw [estimate_of_quote hq]
  refine (noReport_bridgedPrice _ _ _ _).bind fun price => ?_
  refine (noReport_feeInBridgedAsset _ _ _ _).bind fun fee => NoReport.bind ?_ fun _ => nofun
  unfold checkMaxTxFee
  split_ifs
  · exact noReport_error _
  · exact noReport_ok _

/-- If every overflow that is met is reported, the powers fit. -/
lemma powersFit_of_reported (hreported : estimate pow10 client r msg maxTxFee isInbound =
    estimate checkedPow10 client r msg maxTxFee isInbound) :
    PowersFit client r msg maxTxFee isInbound := by
  intro q hq
  have hnone := noReport_estimate hq
  rw [hreported, estimate_of_quote hq] at hnone
  have hfew : q.bridgedOid = zeroOid → ∀ answer decimals,
      aggregatorAnswer r q.assetId = .ok (answer, decimals) → decimals.toNat ≤ 95 := by
    intro hoid answer decimals hanswer
    by_contra hmany
    have hprice : bridgedPrice checkedPow10 r q.manager q.assetId q.bridgedOid =
        .error .powerOverflow := by
      rw [bridgedPrice, if_pos hoid, aggregatorPrice, hanswer]
      simp only [bind, Except.bind, normalizeAnswer_overflow (not_le.1 hmany)]
    rw [hprice] at hnone
    exact hnone rfl
  refine ⟨hfew, fun price hprice hvalue => ?_⟩
  by_contra hmany
  rw [bridgedPrice_checked hfew, hprice] at hnone
  apply hnone
  simp only [bind, Except.bind, feeInBridgedAsset_overflow (not_le.1 hmany) hvalue]

/-- If the powers fit, every overflow that is met is reported. -/
lemma reported_of_powersFit (hfit : PowersFit client r msg maxTxFee isInbound) :
    estimate pow10 client r msg maxTxFee isInbound =
      estimate checkedPow10 client r msg maxTxFee isInbound := by
  cases hq : quote client r msg maxTxFee isInbound with
  | error exit => rw [estimate, estimate, hq]; rfl
  | ok q =>
    obtain ⟨hfew, hdecimals⟩ := hfit q hq
    rw [estimate_of_quote hq, estimate_of_quote hq, bridgedPrice_checked hfew]
    cases hprice : bridgedPrice pow10 r q.manager q.assetId q.bridgedOid with
    | error exit => rfl
    | ok price =>
      simp only [bind, Except.bind]
      rcases lt_or_ge (q.feeInDnc.toNat * q.dncPrice.toNat) (2 ^ 256) with hvalue | hvalue
      · rw [feeInBridgedAsset_checked (hdecimals price hprice hvalue)]
      · rw [feeInBridgedAsset_refused hvalue, feeInBridgedAsset_refused hvalue]

/-- A result with gas is not a skip. -/
lemma estimate_of_estimateHookGas {fee : U256} {gas : UInt64} (hgas : 0 < gas)
    (h : estimateHookGas client r msg maxTxFee isInbound = .ok (fee, gas)) :
    estimate pow10 client r msg maxTxFee isInbound = .ok (fee, gas) := by
  unfold estimateHookGas at h
  cases hest : estimate pow10 client r msg maxTxFee isInbound with
  | ok result =>
    rw [hest] at h
    rw [Except.ok.inj h]
  | error exit =>
    rw [hest] at h
    cases exit with
    | skip =>
      obtain ⟨-, rfl⟩ := Prod.mk.inj (Except.ok.inj h)
      exact absurd hgas (by decide)
    | error report => cases h
    | powerOverflow => cases h

/-- If the powers fit, the fee is exact. -/
lemma exact_of_powersFit (hfit : PowersFit client r msg maxTxFee isInbound) {fee : U256}
    {gas : UInt64} (h : estimateHookGas client r msg maxTxFee isInbound = .ok (fee, gas))
    (hgas : 0 < gas) :
    ∃ q price, quote client r msg maxTxFee isInbound = .ok q ∧ q.gas = gas ∧
      bridgedPrice pow10 r q.manager q.assetId q.bridgedOid = .ok price ∧
      fee.toNat = gas.toNat * q.gasPrice.toNat * q.dncPrice.toNat * 10 ^ q.decimals.toNat /
        (price.toNat * 10 ^ 18) ∧
      (q.bridgedOid = zeroOid → ∃ answer decimals,
        aggregatorAnswer r q.assetId = .ok (answer, decimals) ∧
          price.toNat = answer.toNat * 10 ^ 18 / 10 ^ decimals.toNat) := by
  obtain ⟨q, price, hq, hprice, hfee, -, rfl⟩ :=
    estimate_eq_ok.1 (estimate_of_estimateHookGas hgas h)
  obtain ⟨hfew, hdecimals⟩ := hfit q hq
  have hvalue : q.feeInDnc.toNat * q.dncPrice.toNat < 2 ^ 256 := by
    by_contra hvalue
    rw [feeInBridgedAsset_refused (not_lt.1 hvalue)] at hfee
    cases hfee
  refine ⟨q, price, hq, rfl, hprice, ?_, fun hoid => ?_⟩
  · rw [feeInBridgedAsset_exact (hdecimals price hprice hvalue) hfee, (quoted_of_quote hq).fee]
  · rw [bridgedPrice, if_pos hoid, aggregatorPrice] at hprice
    simp only [bind_eq_ok] at hprice
    obtain ⟨⟨answer, decimals⟩, hanswer, normalized, hnormalized, hprice⟩ := hprice
    split_ifs at hprice
    obtain rfl := Except.ok.inj hprice
    exact ⟨answer, decimals, hanswer,
      normalizeAnswer_exact (hfew hoid answer decimals hanswer) hnormalized⟩

/-- The fee is the exact floor of the formula and no overflow stays unreported, just if the powers of
ten that are computed fit. -/
theorem fee_exact_iff (client : HookClient) (r : HookReplies) (msg : SocketMessage)
    (maxTxFee : U256) (isInbound : Bool) :
    FeeExact client r msg maxTxFee isInbound ↔ PowersFit client r msg maxTxFee isInbound := by
  constructor
  · intro hexact
    exact powersFit_of_reported hexact.reported
  · intro hfit
    exact ⟨fun fee gas h hgas => exact_of_powersFit hfit h hgas, reported_of_powersFit hfit⟩

/-- A token with 78 decimals: its power of ten wraps around, and the fee is about a fourteenth of the
one that the formula gives. -/
theorem fee_wraps_at_78_decimals :
    let r := sampleReplies 1 1 1 78 1 0
    let msg := sampleMessage (.ofNat 256 (10 ^ 70))
    estimateHookGas sampleClient r msg (.ofNat 256 (10 ^ 70)) true =
        .ok (.ofNat 256 ((10 ^ 78 - 8 * 2 ^ 256) / 10 ^ 36), 1) ∧
      (10 ^ 78 - 8 * 2 ^ 256) / 10 ^ 36 ≠ 1 * 1 * 1 * 10 ^ 78 / (10 ^ 18 * 10 ^ 18) ∧
      ¬ FeeExact sampleClient r msg (.ofNat 256 (10 ^ 70)) true := by
  intro r msg
  have hfee : estimateHookGas sampleClient r msg (.ofNat 256 (10 ^ 70)) true =
      .ok (.ofNat 256 ((10 ^ 78 - 8 * 2 ^ 256) / 10 ^ 36), 1) := by
    decide +kernel
  have hquote : quote sampleClient r msg (.ofNat 256 (10 ^ 70)) true =
      .ok ⟨1, 1, 1, ⟨FixedBytes.repeatByte 20 2⟩, ⟨FixedBytes.repeatByte 20 4⟩, 78, zeroOid, 1⟩ := by
    decide +kernel
  refine ⟨hfee, by decide +kernel, fun hexact => ?_⟩
  obtain ⟨q, price, hq, -, hprice, hfloor, -⟩ := hexact.exact _ _ hfee (by decide)
  obtain rfl := Except.ok.inj (hquote.symm.trans hq)
  have hone : bridgedPrice pow10 r ⟨FixedBytes.repeatByte 20 2⟩ ⟨FixedBytes.repeatByte 20 4⟩
      zeroOid = .ok (.ofNat 256 (10 ^ 18)) := by
    decide +kernel
  obtain rfl := Except.ok.inj (hone.symm.trans hprice)
  revert hfloor
  decide +kernel

/-- A token with six decimals and an aggregator with eight: the fee is exact. -/
theorem fee_exact_sample :
    FeeExact sampleClient (sampleReplies 100000 1000000000 (2000 * 10 ^ 18) 6 100000000 8)
      (sampleMessage 5000000) 1000000 true := by
  refine (fee_exact_iff _ _ _ _ _).2 ?_
  have hquote : (quote sampleClient (sampleReplies 100000 1000000000 (2000 * 10 ^ 18) 6 100000000 8)
      (sampleMessage 5000000) 1000000 true).map (fun q => (q.decimals, q.assetId)) =
        .ok (6, ⟨FixedBytes.repeatByte 20 4⟩) := by
    decide +kernel
  intro q hq
  rw [hq] at hquote
  obtain ⟨hdecimals, hassetId⟩ := Prod.mk.inj (Except.ok.inj hquote)
  refine ⟨fun _ answer decimals hanswer => ?_, fun _ _ _ => ?_⟩
  · have hknown : aggregatorAnswer
        (sampleReplies 100000 1000000000 (2000 * 10 ^ 18) 6 100000000 8)
        ⟨FixedBytes.repeatByte 20 4⟩ = .ok (100000000, 8) := by
      decide +kernel
    rw [hassetId, hknown] at hanswer
    obtain ⟨-, rfl⟩ := Prod.mk.inj (Except.ok.inj hanswer)
    decide
  · rw [hdecimals]
    decide

end Estimate

end Hooks

end BifrostRelayer
