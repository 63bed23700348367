import BifrostRelayer.Hooks.Fee
import BifrostRelayer.Prices.Vwap

/-!
# Prices from Chainlink

`get_ticker_with_symbol` reads the last round of an aggregator, refuses a round that is too old, and
scales the answer to 18 decimals.  The answer is a signed word that is taken as an unsigned one, and
nothing of the scaling is checked: `18 - decimals`, the power of ten and the product all wrap around.
The hook executor scales an answer too, with checks of its sign and of the product.

The scaling is a parameter, so that the code, which is at `wrappingScale`, can be compared with one
that reports what wraps around.  `get_ticker_exact_iff` says for which rounds the two agree.
-/

namespace BifrostRelayer

namespace Prices

open Fallible Words
open Hooks (RoundData toU64OrDefault staleness chainlinkStalenessThresholdVolatile normalizeAnswer
  pow10 checkedPow10)

/-! ### What the calls return -/

/-- The replies of an aggregator contract. -/
structure Aggregator where
  latestRoundData : Except Report RoundData
  decimals : Except Report UInt8

/-- `aggregator_contracts` of the client. -/
structure AggregatorContracts where
  chainlinkUsdcUsd : Option Aggregator
  chainlinkUsdtUsd : Option Aggregator
  chainlinkDaiUsd : Option Aggregator
  chainlinkBtcUsd : Option Aggregator
  chainlinkWbtcUsd : Option Aggregator
  chainlinkCbbtcUsd : Option Aggregator
  chainlinkJpyUsd : Option Aggregator

/-- The contract of a symbol. -/
def AggregatorContracts.ofSymbol (contracts : AggregatorContracts) : String → Option Aggregator
  | "USDC" => contracts.chainlinkUsdcUsd
  | "USDT" => contracts.chainlinkUsdtUsd
  | "DAI" => contracts.chainlinkDaiUsd
  | "BTC" => contracts.chainlinkBtcUsd
  | "WBTC" => contracts.chainlinkWbtcUsd
  | "CBBTC" => contracts.chainlinkCbbtcUsd
  | "JPYC" => contracts.chainlinkJpyUsd
  | _ => none

/-! ### The functions -/

/-- `get_chainlink_volume_weight`. -/
def getChainlinkVolumeWeight : String → Except Report U256
  | "USDC" | "USDT" | "DAI" | "JPYC" => .ok 1
  | "BTC" | "WBTC" | "CBBTC" => .ok (.ofNat 256 10000 * .ofNat 256 (10 ^ 18))
  | symbol => .error ⟨"Invalid symbol: " ++ symbol⟩

/-- `CHAINLINK_STALENESS_THRESHOLD_STABLE`. -/
def chainlinkStalenessThresholdStable : ℕ := 86400

/-- `get_staleness_threshold`. -/
def getStalenessThreshold : String → ℕ
  | "USDC" | "USDT" | "DAI" | "JPYC" => chainlinkStalenessThresholdStable
  | _ => chainlinkStalenessThresholdVolatile

/-- The error of a round that is too old. -/
def staleReport (symbol : String) (age : ℕ) : Report :=
  ⟨"Chainlink " ++ symbol ++ " price is stale (" ++ toString age ++ "s > " ++
    toString (getStalenessThreshold symbol) ++ "s)"⟩

/-- The answer of the last round and its decimals, behind the check of its time. -/
def readAnswer (client : Option AggregatorContracts) (now : Except Report UInt64)
    (symbol : String) : Except Report (BitVec 256 × UInt8) :=
  match client with
  | none => .error ⟨"Client not found"⟩
  | some contracts =>
      match contracts.ofSymbol symbol with
      | none => .error ⟨"Invalid symbol"⟩
      | some contract => do
          let data ← contract.latestRoundData
          let time ← now
          let age := staleness time (toU64OrDefault data.updatedAt)
          if getStalenessThreshold symbol < age then .error (staleReport symbol age)
          else do
            let decimals ← contract.decimals
            .ok (data.answer, decimals)

/-- The scaling of an answer: `18 - decimals` wraps around in a `u8`, the power of ten in a `u128`
and the product in a `U256`. -/
def wrappingScale (answer : U256) (decimals : UInt8) : Option U256 :=
  some (answer * (wrappingPow (10 : BitVec 128) (18 - decimals).toNat).setWidth 256)

/-- The scaling with what wraps around reported. -/
def checkedScale (answer : U256) (decimals : UInt8) : Option U256 :=
  if decimals.toNat ≤ 18 then do
    let power ← checkedPow (10 : BitVec 128) (18 - decimals.toNat)
    checkedMul answer (power.setWidth 256)
  else none

/-- `get_ticker_with_symbol`, with a scaling. -/
def getTickerWithSymbol (scale : U256 → UInt8 → Option U256) (client : Option AggregatorContracts)
    (now : Except Report UInt64) (symbol : String) : Option (Except Report PriceResponse) :=
  match readAnswer client now symbol with
  | .error report => some (.error report)
  | .ok (answer, decimals) =>
      (scale answer decimals).map fun price => do
        let volume ← getChainlinkVolumeWeight symbol
        .ok ⟨price, volume⟩

/-! ### Exact tickers -/

/-- The aggregator of a symbol has replied with a round and with its decimals. -/
def Replied (client : Option AggregatorContracts) (symbol : String) (data : RoundData)
    (decimals : UInt8) : Prop :=
  ∃ contracts contract, client = some contracts ∧ contracts.ofSymbol symbol = some contract ∧
    contract.latestRoundData = .ok data ∧ contract.decimals = .ok decimals

/-- An answer on the scale of 18 decimals. -/
def scaledAnswer (answer : BitVec 256) (decimals : UInt8) : ℕ :=
  answer.toNat * 10 ^ 18 / 10 ^ decimals.toNat

/-- A ticker is returned only for a positive answer, at the scaled answer, as the hook executor
normalizes it; other answers are refused, and nothing wraps around in either place. -/
structure TickerExact (client : Option AggregatorContracts) (now : Except Report UInt64)
    (symbol : String) : Prop where
  ok_exact : ∀ data decimals response, Replied client symbol data decimals →
    getTickerWithSymbol wrappingScale client now symbol = some (.ok response) →
      0 < data.answer.toInt ∧ response.price.toNat = scaledAnswer data.answer decimals ∧
        normalizeAnswer pow10 data.answer decimals = .ok response.price ∧
        normalizeAnswer checkedPow10 data.answer decimals = .ok response.price
  refused : ∀ data decimals, Replied client symbol data decimals →
    (data.answer.toInt ≤ 0 ∨ 2 ^ 256 ≤ scaledAnswer data.answer decimals) →
      ∃ report, getTickerWithSymbol wrappingScale client now symbol = some (.error report)
  no_wrap : getTickerWithSymbol checkedScale client now symbol =
    getTickerWithSymbol wrappingScale client now symbol

/-- The round is not too old. -/
def Fresh (now : Except Report UInt64) (symbol : String) (data : RoundData) : Prop :=
  ∃ time, now = .ok time ∧
    staleness time (toU64OrDefault data.updatedAt) ≤ getStalenessThreshold symbol

/-! ### The scaling -/

section Scaling

variable {answer : U256} {decimals : UInt8}

/-- The power of ten of at most 18 decimals fits in a `u128`. -/
lemma pow_lt_u128 (n : ℕ) : (10 : BitVec 128).toNat ^ (18 - n) < 2 ^ 128 :=
  calc 10 ^ (18 - n) ≤ 10 ^ 18 := Nat.pow_le_pow_right (by decide) (Nat.sub_le 18 n)
    _ < 2 ^ 128 := by norm_num

lemma toNat_scale (n : ℕ) :
    ((wrappingPow (10 : BitVec 128) (18 - n)).setWidth 256).toNat = 10 ^ (18 - n) := by
  have hlt := pow_lt_u128 n
  rw [BitVec.toNat_setWidth, toNat_wrappingPow hlt]
  exact Nat.mod_eq_of_lt (hlt.trans (by norm_num))

/-- The scaling wraps around unless there are at most 18 decimals and the product fits. -/
lemma checkedScale_eq_some_iff {price : U256} :
    checkedScale answer decimals = some price ↔
      decimals.toNat ≤ 18 ∧ answer.toNat * 10 ^ (18 - decimals.toNat) < 2 ^ 256 ∧
        price.toNat = answer.toNat * 10 ^ (18 - decimals.toNat) := by
  unfold checkedScale
  split_ifs with hle
  · rw [checkedPow_of_lt (pow_lt_u128 _), Option.bind_eq_bind, Option.bind_some,
      checkedMul_eq_some, toNat_scale]
    simp [hle]
  · simp [hle]

/-- What does not wrap around is what the code computes. -/
lemma checkedScale_eq_wrappingScale (hdecimals : decimals.toNat ≤ 18)
    (hfit : answer.toNat * 10 ^ (18 - decimals.toNat) < 2 ^ 256) :
    checkedScale answer decimals = wrappingScale answer decimals := by
  have hsub : (18 - decimals).toNat = 18 - decimals.toNat :=
    UInt8.toNat_sub_of_le _ _ (by simpa [UInt8.le_iff_toNat_le] using hdecimals)
  rw [wrappingScale, hsub, checkedScale_eq_some_iff, BitVec.toNat_mul, toNat_scale]
  exact ⟨hdecimals, hfit, Nat.mod_eq_of_lt hfit⟩

lemma scaledAnswer_eq (hdecimals : decimals.toNat ≤ 18) :
    scaledAnswer answer decimals = answer.toNat * 10 ^ (18 - decimals.toNat) :=
  (Hooks.mul_pow_sub_eq_div hdecimals).symm

end Scaling

/-! ### The replies -/

section Replies

variable {client : Option AggregatorContracts} {now : Except Report UInt64} {symbol : String}

/-- The answer that is read is that of a round that is not too old. -/
lemma readAnswer_eq_ok_iff {answer : BitVec 256} {decimals : UInt8} :
    readAnswer client now symbol = .ok (answer, decimals) ↔
      ∃ data, Replied client symbol data decimals ∧ Fresh now symbol data ∧ data.answer = answer := by
  constructor
  · intro h
    unfold readAnswer at h
    split at h
    · cases h
    split at h
    · cases h
    rename_i contracts _ contract hcontract
    obtain ⟨data, hdata, h⟩ := bind_eq_ok.mp h
    obtain ⟨time, htime, h⟩ := bind_eq_ok.mp h
    dsimp only at h
    split_ifs at h with hage
    obtain ⟨decimals', hdecimals, h⟩ := bind_eq_ok.mp h
    cases h
    exact ⟨data, ⟨contracts, contract, rfl, hcontract, hdata, hdecimals⟩,
      ⟨time, htime, not_lt.mp hage⟩, rfl⟩
  · rintro ⟨data, ⟨contracts, contract, rfl, hcontract, hdata, hdecimals⟩, ⟨time, rfl, hage⟩, rfl⟩
    simp [readAnswer, hcontract, hdata, hdecimals, hage, bind, Except.bind]

lemma Replied.unique {data data' : RoundData} {decimals decimals' : UInt8}
    (h : Replied client symbol data decimals) (h' : Replied client symbol data' decimals') :
    data = data' ∧ decimals = decimals' := by
  obtain ⟨contracts, contract, hclient, hsymbol, hdata, hdecimals⟩ := h
  obtain ⟨_, _, hclient', hsymbol', hdata', hdecimals'⟩ := h'
  cases hclient.symm.trans hclient'
  cases hsymbol.symm.trans hsymbol'
  exact ⟨Except.ok.inj (hdata.symm.trans hdata'), Except.ok.inj (hdecimals.symm.trans hdecimals')⟩

/-- A symbol that has a contract has a weight. -/
lemma exists_volumeWeight {contracts : AggregatorContracts} {contract : Aggregator}
    (h : contracts.ofSymbol symbol = some contract) :
    ∃ volume, getChainlinkVolumeWeight symbol = .ok volume := by
  unfold AggregatorContracts.ofSymbol at h
  split at h
  all_goals first
    | exact ⟨_, rfl⟩
    | cases h

/-- An answer that is read is scaled. -/
lemma getTickerWithSymbol_of_ok {data : RoundData} {decimals : UInt8}
    (hreplied : Replied client symbol data decimals) (hfresh : Fresh now symbol data) :
    ∃ volume, ∀ scale, getTickerWithSymbol scale client now symbol =
      (scale data.answer decimals).map fun price => .ok ⟨price, volume⟩ := by
  have hread := readAnswer_eq_ok_iff.mpr ⟨data, hreplied, hfresh, rfl⟩
  obtain ⟨contracts, contract, rfl, hcontract, -⟩ := hreplied
  obtain ⟨volume, hvolume⟩ := exists_volumeWeight hcontract
  refine ⟨volume, fun scale => ?_⟩
  unfold getTickerWithSymbol
  rw [hread, hvolume]
  rfl

/-- A reply of the node and the clock can be refused before the scaling. -/
lemma getTickerWithSymbol_cases (client : Option AggregatorContracts) (now : Except Report UInt64)
    (symbol : String) :
    (∃ report, ∀ scale, getTickerWithSymbol scale client now symbol = some (.error report)) ∨
      ∃ data decimals, Replied client symbol data decimals ∧ Fresh now symbol data := by
  cases hread : readAnswer client now symbol with
  | error report =>
    refine .inl ⟨report, fun scale => ?_⟩
    rw [getTickerWithSymbol, hread]
  | ok read =>
    obtain ⟨data, hreplied, hfresh, -⟩ := readAnswer_eq_ok_iff.mp hread
    exact .inr ⟨data, read.2, hreplied, hfresh⟩

end Replies

/-- The hook executor normalizes an answer of at most 18 decimals to the scaled answer. -/
lemma normalizeAnswer_eq {answer price : BitVec 256} {decimals : UInt8}
    (hprice : checkedScale answer decimals = some price) :
    normalizeAnswer pow10 answer decimals = .ok price := by
  obtain ⟨hdecimals, hfit, hprice⟩ := checkedScale_eq_some_iff.mp hprice
  have hpow : (wrappingPow (10 : U256) (18 - decimals.toNat)).toNat = 10 ^ (18 - decimals.toNat) :=
    Hooks.toNat_pow10 (by omega)
  unfold normalizeAnswer
  rw [if_pos hdecimals]
  simp only [bind_eq_ok, Hooks.orPowerOverflow_eq_ok, Hooks.okOr_eq_ok, pow10,
    Option.some.injEq, exists_eq_left', checkedMul_eq_some, hpow]
  exact ⟨hfit, hprice⟩

section Exact

variable {client : Option AggregatorContracts} {now : Except Report UInt64} {symbol : String}

/-- Nothing is scaled where the reply is refused. -/
lemma tickerExact_of_error {report : Report}
    (herror : ∀ scale, getTickerWithSymbol scale client now symbol = some (.error report)) :
    TickerExact client now symbol where
  ok_exact _ _ _ _ hok := by
    rw [herror] at hok
    cases hok
  refused _ _ _ _ := ⟨report, herror _⟩
  no_wrap := (herror _).trans (herror _).symm

/-- An answer that is positive and fits is scaled exactly. -/
lemma tickerExact_of_fits {data : RoundData} {decimals : UInt8}
    (hreplied : Replied client symbol data decimals) (hfresh : Fresh now symbol data)
    (hpos : 0 < data.answer.toInt) (hdecimals : decimals.toNat ≤ 18)
    (hfit : data.answer.toNat * 10 ^ (18 - decimals.toNat) < 2 ^ 256) :
    TickerExact client now symbol := by
  obtain ⟨volume, hticker⟩ := getTickerWithSymbol_of_ok hreplied hfresh
  have hscale := checkedScale_eq_wrappingScale hdecimals hfit
  refine ⟨fun data' decimals' response hreplied' hok => ?_,
    fun data' decimals' hreplied' hbad => ?_, ?_⟩
  · obtain ⟨rfl, rfl⟩ := hreplied.unique hreplied'
    rw [hticker, ← hscale, Option.map_eq_some_iff] at hok
    obtain ⟨price, hprice, hok⟩ := hok
    cases hok
    have hnormalize := normalizeAnswer_eq hprice
    refine ⟨hpos, ?_, hnormalize, ?_⟩
    · rw [scaledAnswer_eq hdecimals]
      exact (checkedScale_eq_some_iff.mp hprice).2.2
    · rw [Hooks.normalizeAnswer_checked (by omega)]
      exact hnormalize
  · obtain ⟨rfl, rfl⟩ := hreplied.unique hreplied'
    rw [scaledAnswer_eq hdecimals] at hbad
    omega
  · rw [hticker, hticker, hscale]

/-- Exact tickers come from answers that are positive and fit. -/
lemma TickerExact.fits {data : RoundData} {decimals : UInt8} (h : TickerExact client now symbol)
    (hreplied : Replied client symbol data decimals) (hfresh : Fresh now symbol data) :
    0 < data.answer.toInt ∧ decimals.toNat ≤ 18 ∧
      data.answer.toNat * 10 ^ (18 - decimals.toNat) < 2 ^ 256 := by
  obtain ⟨volume, hticker⟩ := getTickerWithSymbol_of_ok hreplied hfresh
  have hnowrap := h.no_wrap
  rw [hticker, hticker, wrappingScale, Option.map_some, Option.map_eq_some_iff] at hnowrap
  obtain ⟨price, hprice, -⟩ := hnowrap
  obtain ⟨hdecimals, hfit, -⟩ := checkedScale_eq_some_iff.mp hprice
  obtain ⟨hpos, -⟩ := h.ok_exact data decimals _ hreplied (hticker wrappingScale)
  exact ⟨hpos, hdecimals, hfit⟩

end Exact

/-- The tickers are exact just if every round that is not too old has a positive answer, at most 18
decimals, and an answer that fits when it is scaled. -/
theorem get_ticker_exact_iff (client : Option AggregatorContracts) (now : Except Report UInt64)
    (symbol : String) :
    TickerExact client now symbol ↔
      ∀ data decimals, Replied client symbol data decimals → Fresh now symbol data →
        0 < data.answer.toInt ∧ decimals.toNat ≤ 18 ∧
          data.answer.toNat * 10 ^ (18 - decimals.toNat) < 2 ^ 256 := by
  constructor
  · intro h data decimals hreplied hfresh
    exact h.fits hreplied hfresh
  · intro h
    obtain ⟨report, herror⟩ | ⟨data, decimals, hreplied, hfresh⟩ :=
      getTickerWithSymbol_cases client now symbol
    · exact tickerExact_of_error herror
    · obtain ⟨hpos, hdecimals, hfit⟩ := h data decimals hreplied hfresh
      exact tickerExact_of_fits hreplied hfresh hpos hdecimals hfit

/-- A client with the aggregator of `BTC` only. -/
def btcClient (contract : Aggregator) : Option AggregatorContracts :=
  some ⟨none, none, none, some contract, none, none, none⟩

/-- A price of 60000 dollars with 8 decimals. -/
def positiveRound : RoundData := ⟨.ofNat 256 (60000 * 10 ^ 8), .ofNat 256 1000⟩

/-- A positive answer is scaled exactly. -/
theorem get_ticker_exact_sample :
    TickerExact (btcClient ⟨.ok positiveRound, .ok 8⟩) (.ok 1600) "BTC" ∧
      getTickerWithSymbol wrappingScale (btcClient ⟨.ok positiveRound, .ok 8⟩) (.ok 1600) "BTC" =
        some (.ok ⟨.ofNat 256 (60000 * 10 ^ 18), .ofNat 256 (10 ^ 22)⟩) := by
  have hreplied : Replied (btcClient ⟨.ok positiveRound, .ok 8⟩) "BTC" positiveRound 8 :=
    ⟨_, _, rfl, rfl, rfl, rfl⟩
  refine ⟨(get_ticker_exact_iff _ _ _).mpr fun data decimals h _ => ?_, by decide +kernel⟩
  obtain ⟨rfl, rfl⟩ := hreplied.unique h
  decide +kernel

/-- The answer `-1`. -/
def negativeRound : RoundData := ⟨BitVec.ofInt 256 (-1), .ofNat 256 1000⟩

/-- A negative answer is not refused: its ticker has a price of almost `2 ^ 256`. -/
theorem get_ticker_accepts_negative :
    getTickerWithSymbol wrappingScale (btcClient ⟨.ok negativeRound, .ok 8⟩) (.ok 1600) "BTC" =
        some (.ok ⟨.ofNat 256 (2 ^ 256 - 10 ^ 10), .ofNat 256 (10 ^ 22)⟩) ∧
      ¬TickerExact (btcClient ⟨.ok negativeRound, .ok 8⟩) (.ok 1600) "BTC" := by
  have hticker : getTickerWithSymbol wrappingScale (btcClient ⟨.ok negativeRound, .ok 8⟩) (.ok 1600)
      "BTC" = some (.ok ⟨.ofNat 256 (2 ^ 256 - 10 ^ 10), .ofNat 256 (10 ^ 22)⟩) := by
    decide +kernel
  refine ⟨hticker, fun hexact => ?_⟩
  obtain ⟨hpos, -⟩ := hexact.ok_exact negativeRound 8 _ ⟨_, _, rfl, rfl, rfl, rfl⟩ hticker
  exact absurd hpos (by decide +kernel)

end Prices

end BifrostRelayer
