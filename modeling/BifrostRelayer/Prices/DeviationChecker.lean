import BifrostRelayer.Foundation.Fallible
import BifrostRelayer.Prices.Feeder

/-!
# The price deviation checker

Between the feedings the checker compares the market prices with the prices of the oracle manager.
An asset whose price moved away by more than a threshold in basis points is fed at once, and its
oracle price is finalized.

The deviation is computed in words, as `|m - o| * 10000 / o`.  The quotient is rounded down before it
is compared with the threshold, so a deviation less than one basis point above the threshold is
missed; and the product wraps around for very large prices.
`check_and_feed_deviated_iff` says that these are the only assets that are missed, and that no asset
is fed without need.
-/

namespace BifrostRelayer

namespace Prices

open Fallible SolidityAbi Std

/-! ### The functions -/

/-- The fields of `PriceDeviationChecker` that a check reads, with what `last_oracle_data` and the
sources return. -/
structure PriceDeviationChecker where
  oracleManager : Option (B256 → Except Report B256)
  dedicatedSource : Option MarketSource
  marketSources : List MarketSource

/-- `DEFAULT_PRICE_DEVIATION_THRESHOLD_BPS`. -/
def defaultPriceDeviationThresholdBps : UInt64 := 200

/-- `get_deviation_threshold_bps`. -/
def getDeviationThresholdBps (_symbol : String) : UInt64 := defaultPriceDeviationThresholdBps

/-- The number in an oracle reply. -/
def onChainPrice (result : B256) : U256 := .ofNat 256 (beNat result.val)

/-- The deviation of a market price from a price on chain, in basis points. -/
def deviationBps (market onChain : U256) : U256 :=
  if market > onChain then (market - onChain) * 10000 / onChain
  else (onChain - market) * 10000 / onChain

/-- The three collections that the loop fills. -/
structure Deviated where
  oids : List B256
  prices : List B256
  responses : Tickers

section Loop

variable (threshold : String → UInt64) (lastOracleData : B256 → Except Report B256)

/-- One round of the loop over the market prices. -/
def checkSymbol (deviated : Deviated) (entry : String × PriceResponse) : Deviated :=
  match getAssetOids[entry.1]? with
  | none => deviated
  | some oid =>
      if entry.2.price = 0 then deviated
      else
        match lastOracleData oid with
        | .error _ => deviated
        | .ok result =>
            if onChainPrice result = 0 then deviated
            else if deviationBps entry.2.price (onChainPrice result) >
                .ofNat 256 (threshold entry.1).toNat then
              ⟨deviated.oids ++ [oid], deviated.prices ++ [priceBytes entry.2.price],
                deviated.responses.insert entry.1 entry.2⟩
            else deviated

/-- The loop over the market prices. -/
def checkSymbols (entries : List (String × PriceResponse)) (deviated : Deviated) : Deviated :=
  entries.foldl (checkSymbol threshold lastOracleData) deviated

/-- What a check sends: the feed, whether or not it gets through, and a `latest_oracle_data` for each
of the `finalized` oracle ids. -/
structure DeviationFeed where
  feed : PriceFeed
  finalized : List B256

/-- `check_and_feed` behind the fetches. -/
def feedDeviated (marketPrices : Tickers) : Option DeviationFeed :=
  let deviated := checkSymbols threshold lastOracleData marketPrices.toList ⟨[], [], ∅⟩
  if deviated.oids.isEmpty then none
  else some ⟨⟨deviated.oids, deviated.prices, deviated.responses⟩, deviated.oids⟩

end Loop

/-- The fetches of `check_and_feed`; without standard prices there is nothing to check. -/
def PriceDeviationChecker.fetchMarketPrices (checker : PriceDeviationChecker) :
    Option (Option Tickers) := do
  match ← fetchVwapPrices checker.marketSources .standard with
  | .error _ => return none
  | .ok marketPrices =>
      match checker.dedicatedSource with
      | none => return some marketPrices
      | some source =>
          let fallback := fetchVwapPrices checker.marketSources (.dedicated "JPYC")
          return some (← extendDedicated fallback marketPrices source.tickers)

/-- `PriceDeviationChecker::check_and_feed`. -/
def PriceDeviationChecker.checkAndFeed (checker : PriceDeviationChecker)
    (threshold : String → UInt64) : Option (Option DeviationFeed) := do
  match checker.oracleManager with
  | none => return none
  | some lastOracleData =>
      match ← checker.fetchMarketPrices with
      | none => return none
      | some marketPrices => return feedDeviated threshold lastOracleData marketPrices

/-! ### What a check should do -/

/-- The distance of two prices times `10000`. -/
def scaledDistance (market onChain : U256) : ℕ :=
  ((market.toNat : ℤ) - onChain.toNat).natAbs * 10000

/-- A price deviates by more than a threshold. -/
def Exceeds (threshold : UInt64) (market onChain : U256) : Prop :=
  threshold.toNat * onChain.toNat < scaledDistance market onChain

instance (threshold : UInt64) (market onChain : U256) : Decidable (Exceeds threshold market onChain) :=
  inferInstanceAs (Decidable (_ < _))

/-- A deviation that exceeds the threshold by a whole basis point at least, after the product wrapped
around. -/
def VisiblyExceeds (threshold : UInt64) (market onChain : U256) : Prop :=
  (threshold.toNat + 1) * onChain.toNat ≤ scaledDistance market onChain % 2 ^ 256

instance (threshold : UInt64) (market onChain : U256) :
    Decidable (VisiblyExceeds threshold market onChain) :=
  inferInstanceAs (Decidable (_ ≤ _))

section Spec

variable (threshold : String → UInt64) (lastOracleData : B256 → Except Report B256)

/-- The oracle id and the price of an asset of which a comparison says that it deviates. -/
def fedPrice (deviates : UInt64 → U256 → U256 → Bool) (entry : String × PriceResponse) :
    Option (B256 × B256) := do
  let oid ← getAssetOids[entry.1]?
  if entry.2.price = 0 then none
  else
    let result ← (lastOracleData oid).toOption
    if onChainPrice result ≠ 0 ∧ deviates (threshold entry.1) entry.2.price (onChainPrice result) then
      some (oid, priceBytes entry.2.price)
    else none

/-- A check feeds exactly the deviated assets and finalizes the same oracle ids; if there is none, it
sends nothing. -/
def FeedsDeviated (marketPrices : Tickers) (sent : Option DeviationFeed) : Prop :=
  let deviated := marketPrices.toList.filterMap
    (fedPrice threshold lastOracleData fun t market onChain => Exceeds t market onChain)
  match sent with
  | none => deviated = []
  | some sent =>
      deviated ≠ [] ∧ sent.feed.oidBytesList = deviated.map Prod.fst ∧
        sent.feed.priceBytesList = deviated.map Prod.snd ∧ sent.finalized = deviated.map Prod.fst

/-- Every deviation above the threshold is seen after the rounding. -/
def DeviationsVisible (marketPrices : Tickers) : Prop :=
  ∀ (symbol : String) (response : PriceResponse) (oid result : B256),
    marketPrices[symbol]? = some response → getAssetOids[symbol]? = some oid →
    response.price ≠ 0 → lastOracleData oid = .ok result → onChainPrice result ≠ 0 →
    Exceeds (threshold symbol) response.price (onChainPrice result) →
    VisiblyExceeds (threshold symbol) response.price (onChainPrice result)

end Spec

/-! ### The comparison -/

lemma toNat_deviationBps (market onChain : U256) :
    (deviationBps market onChain).toNat =
      scaledDistance market onChain % 2 ^ 256 / onChain.toNat := by
  have hscale : (10000 : U256).toNat = 10000 := rfl
  unfold deviationBps scaledDistance
  split_ifs with hgt
  · have hle : onChain.toNat ≤ market.toNat := (BitVec.lt_def.mp hgt).le
    rw [BitVec.toNat_udiv, BitVec.toNat_mul, BitVec.toNat_sub_of_le (BitVec.le_def.mpr hle), hscale]
    congr 3
    omega
  · have hle : market.toNat ≤ onChain.toNat := Nat.le_of_not_lt fun hlt => hgt (BitVec.lt_def.mpr hlt)
    rw [BitVec.toNat_udiv, BitVec.toNat_mul, BitVec.toNat_sub_of_le (BitVec.le_def.mpr hle), hscale]
    congr 3
    omega

lemma toNat_threshold (threshold : UInt64) :
    (BitVec.ofNat 256 threshold.toNat).toNat = threshold.toNat := by
  rw [BitVec.toNat_ofNat]
  exact Nat.mod_eq_of_lt (threshold.toNat_lt.trans (by norm_num))

/-- The comparison of the code. -/
lemma deviationBps_gt_iff (threshold : UInt64) (market : U256) {onChain : U256} (hne : onChain ≠ 0) :
    deviationBps market onChain > .ofNat 256 threshold.toNat ↔
      VisiblyExceeds threshold market onChain := by
  have hpos : 0 < onChain.toNat := (BitVec.pos_iff_ne_zero _).mpr hne
  rw [gt_iff_lt, BitVec.lt_def, toNat_deviationBps, toNat_threshold, ← Nat.succ_le_iff,
    Nat.le_div_iff_mul_le hpos, VisiblyExceeds]

/-- No price is fed without need. -/
lemma VisiblyExceeds.exceeds {market onChain : U256} {threshold : UInt64} (hne : onChain ≠ 0)
    (hvisible : VisiblyExceeds threshold market onChain) : Exceeds threshold market onChain := by
  have hpos : 0 < onChain.toNat := (BitVec.pos_iff_ne_zero _).mpr hne
  calc threshold.toNat * onChain.toNat < (threshold.toNat + 1) * onChain.toNat := by
        rw [add_mul, one_mul]
        omega
    _ ≤ scaledDistance market onChain % 2 ^ 256 := hvisible
    _ ≤ scaledDistance market onChain := Nat.mod_le _ _

/-! ### The loop -/

section Loop

variable (threshold : String → UInt64) (lastOracleData : B256 → Except Report B256)

/-- What the code feeds for an entry. -/
abbrev seenPrice : String × PriceResponse → Option (B256 × B256) :=
  fedPrice threshold lastOracleData fun t market onChain => VisiblyExceeds t market onChain

/-- What the code should feed for an entry. -/
abbrev deviatedPrice : String × PriceResponse → Option (B256 × B256) :=
  fedPrice threshold lastOracleData fun t market onChain => Exceeds t market onChain

lemma checkSymbol_oids_prices (deviated : Deviated) (entry : String × PriceResponse) :
    (checkSymbol threshold lastOracleData deviated entry).oids =
        deviated.oids ++ (seenPrice threshold lastOracleData entry).toList.map Prod.fst ∧
      (checkSymbol threshold lastOracleData deviated entry).prices =
        deviated.prices ++ (seenPrice threshold lastOracleData entry).toList.map Prod.snd := by
  unfold checkSymbol seenPrice fedPrice
  cases getAssetOids[entry.1]? with
  | none => simp
  | some oid =>
    by_cases hprice : entry.2.price = 0#256
    · simp [hprice]
    · cases hresult : lastOracleData oid with
      | error report => simp [hresult, Except.toOption]
      | ok result =>
        by_cases hzero : onChainPrice result = 0#256
        · simp [hresult, Except.toOption, hzero]
        · have hgt := deviationBps_gt_iff (threshold entry.1) entry.2.price hzero
          by_cases hvisible : VisiblyExceeds (threshold entry.1) entry.2.price (onChainPrice result)
          · simp [hprice, hresult, Except.toOption, hzero, hvisible, hgt.mpr hvisible]
          · simp [hprice, hresult, Except.toOption, hzero, hvisible, hgt.not.mpr hvisible]

lemma checkSymbols_oids_prices (entries : List (String × PriceResponse)) (deviated : Deviated) :
    (checkSymbols threshold lastOracleData entries deviated).oids =
        deviated.oids ++ (entries.filterMap (seenPrice threshold lastOracleData)).map Prod.fst ∧
      (checkSymbols threshold lastOracleData entries deviated).prices =
        deviated.prices ++ (entries.filterMap (seenPrice threshold lastOracleData)).map Prod.snd := by
  induction entries generalizing deviated with
  | nil => simp [checkSymbols]
  | cons entry entries ih =>
    obtain ⟨hoids, hprices⟩ := checkSymbol_oids_prices threshold lastOracleData deviated entry
    obtain ⟨hoids', hprices'⟩ := ih (checkSymbol threshold lastOracleData deviated entry)
    rw [hoids] at hoids'
    rw [hprices] at hprices'
    refine ⟨hoids'.trans ?_, hprices'.trans ?_⟩
    · cases hseen : seenPrice threshold lastOracleData entry <;> simp [hseen]
    · cases hseen : seenPrice threshold lastOracleData entry <;> simp [hseen]

lemma feedDeviated_eq (marketPrices : Tickers) :
    ∃ responses, feedDeviated threshold lastOracleData marketPrices =
      let seen := marketPrices.toList.filterMap (seenPrice threshold lastOracleData)
      if seen = [] then none
      else some ⟨⟨seen.map Prod.fst, seen.map Prod.snd, responses⟩, seen.map Prod.fst⟩ := by
  obtain ⟨hoids, hprices⟩ :=
    checkSymbols_oids_prices threshold lastOracleData marketPrices.toList ⟨[], [], ∅⟩
  refine ⟨(checkSymbols threshold lastOracleData marketPrices.toList ⟨[], [], ∅⟩).responses, ?_⟩
  unfold feedDeviated
  simp only [hoids, hprices, List.nil_append, List.isEmpty_iff, List.map_eq_nil_iff]

/-! ### The lists compared -/

lemma fedPrice_eq_some_iff (deviates : UInt64 → U256 → U256 → Bool) (entry : String × PriceResponse)
    (fed : B256 × B256) :
    fedPrice threshold lastOracleData deviates entry = some fed ↔
      ∃ oid result, getAssetOids[entry.1]? = some oid ∧ entry.2.price ≠ 0 ∧
        lastOracleData oid = .ok result ∧ onChainPrice result ≠ 0 ∧
        deviates (threshold entry.1) entry.2.price (onChainPrice result) = true ∧
        (oid, priceBytes entry.2.price) = fed := by
  unfold fedPrice
  rw [Option.bind_eq_bind, Option.bind_eq_some_iff]
  refine exists_congr fun oid => ?_
  rw [exists_and_left]
  refine and_congr_right fun _ => ?_
  rw [Option.ite_none_left_eq_some, exists_and_left, Option.bind_eq_some_iff]
  refine and_congr_right fun _ => exists_congr fun result => and_congr ?_ ?_
  · cases lastOracleData oid <;> simp [Except.toOption]
  · rw [Option.ite_none_right_eq_some, Option.some.injEq, and_assoc]

/-- What the code feeds should be fed. -/
lemma deviatedPrice_of_seenPrice {entry : String × PriceResponse} {fed : B256 × B256}
    (hseen : seenPrice threshold lastOracleData entry = some fed) :
    deviatedPrice threshold lastOracleData entry = some fed := by
  rw [fedPrice_eq_some_iff] at hseen ⊢
  obtain ⟨oid, result, hoid, hprice, hresult, hzero, hvisible, hfed⟩ := hseen
  have hexceeds := (of_decide_eq_true hvisible).exceeds hzero
  exact ⟨oid, result, hoid, hprice, hresult, hzero, decide_eq_true hexceeds, hfed⟩

/-- A check is right when the code's list is the list of the deviated assets. -/
lemma feedsDeviated_iff_filterMap_eq (marketPrices : Tickers) :
    FeedsDeviated threshold lastOracleData marketPrices
        (feedDeviated threshold lastOracleData marketPrices) ↔
      marketPrices.toList.filterMap (seenPrice threshold lastOracleData) =
        marketPrices.toList.filterMap (deviatedPrice threshold lastOracleData) := by
  have hle : ∀ entry ∈ marketPrices.toList, ∀ fed, seenPrice threshold lastOracleData entry = some fed →
      deviatedPrice threshold lastOracleData entry = some fed :=
    fun _ _ _ => deviatedPrice_of_seenPrice threshold lastOracleData
  have hsublist := filterMap_sublist hle
  obtain ⟨responses, hfeed⟩ := feedDeviated_eq threshold lastOracleData marketPrices
  rw [hfeed]
  unfold FeedsDeviated
  generalize marketPrices.toList.filterMap (seenPrice threshold lastOracleData) = seen at *
  generalize marketPrices.toList.filterMap (deviatedPrice threshold lastOracleData) = deviated at *
  by_cases hnil : seen = []
  · subst hnil
    simp [eq_comm]
  · simp only [if_neg hnil]
    constructor
    · rintro ⟨-, hoids, -, -⟩
      refine hsublist.eq_of_length ?_
      rw [← List.length_map Prod.fst, hoids, List.length_map]
    · rintro rfl
      exact ⟨hnil, rfl, rfl, rfl⟩

/-- The code's list is the list of the deviated assets when every deviation is visible. -/
lemma filterMap_seenPrice_eq_iff (marketPrices : Tickers) :
    marketPrices.toList.filterMap (seenPrice threshold lastOracleData) =
        marketPrices.toList.filterMap (deviatedPrice threshold lastOracleData) ↔
      DeviationsVisible threshold lastOracleData marketPrices := by
  rw [filterMap_eq_iff fun entry _ fed => deviatedPrice_of_seenPrice threshold lastOracleData]
  constructor
  · intro hseen symbol response oid result hresponse hoid hprice hresult hzero hexceeds
    have hmem : (symbol, response) ∈ marketPrices.toList :=
      ExtTreeMap.mem_toList_iff_getElem?_eq_some.mpr hresponse
    have hdeviated : deviatedPrice threshold lastOracleData (symbol, response) =
        some (oid, priceBytes response.price) :=
      (fedPrice_eq_some_iff ..).mpr
        ⟨oid, result, hoid, hprice, hresult, hzero, decide_eq_true hexceeds, rfl⟩
    obtain ⟨oid', result', hoid', -, hresult', -, hvisible, -⟩ :=
      (fedPrice_eq_some_iff ..).mp (hseen _ hmem _ hdeviated)
    rw [hoid, Option.some.injEq] at hoid'
    subst hoid'
    rw [hresult, Except.ok.injEq] at hresult'
    subst hresult'
    exact of_decide_eq_true hvisible
  · rintro hvisible ⟨symbol, response⟩ hmem fed hdeviated
    rw [fedPrice_eq_some_iff] at hdeviated ⊢
    obtain ⟨oid, result, hoid, hprice, hresult, hzero, hexceeds, hfed⟩ := hdeviated
    have hresponse := ExtTreeMap.mem_toList_iff_getElem?_eq_some.mp hmem
    have hseen := hvisible symbol response oid result hresponse hoid hprice hresult hzero
      (of_decide_eq_true hexceeds)
    exact ⟨oid, result, hoid, hprice, hresult, hzero, decide_eq_true hseen, hfed⟩

end Loop

/-- Market prices are checked right exactly when every deviation above the threshold is a whole basis
point above it after the product wrapped around; and so are those that `check_and_feed` collects. -/
theorem check_and_feed_deviated_iff (threshold : String → UInt64)
    (lastOracleData : B256 → Except Report B256) (marketPrices : Tickers) :
    (FeedsDeviated threshold lastOracleData marketPrices
        (feedDeviated threshold lastOracleData marketPrices) ↔
      DeviationsVisible threshold lastOracleData marketPrices) ∧
    ∀ checker : PriceDeviationChecker, checker.oracleManager = some lastOracleData →
      checker.fetchMarketPrices = some (some marketPrices) →
      ((∃ sent, checker.checkAndFeed threshold = some sent ∧
          FeedsDeviated threshold lastOracleData marketPrices sent) ↔
        DeviationsVisible threshold lastOracleData marketPrices) := by
  have hloop : FeedsDeviated threshold lastOracleData marketPrices
      (feedDeviated threshold lastOracleData marketPrices) ↔
        DeviationsVisible threshold lastOracleData marketPrices := by
    rw [feedsDeviated_iff_filterMap_eq, filterMap_seenPrice_eq_iff]
  refine ⟨hloop, fun checker horacle hmarket => ?_⟩
  have hsent : checker.checkAndFeed threshold =
      some (feedDeviated threshold lastOracleData marketPrices) := by
    rw [PriceDeviationChecker.checkAndFeed, horacle, hmarket]
    rfl
  rw [← hloop, hsent]
  simp

/-- A checker over the sample sources, with the price 50 on chain. -/
def sampleChecker : PriceDeviationChecker where
  oracleManager := some fun _ => .ok (priceBytes 50)
  dedicatedSource := none
  marketSources := sampleSources

theorem sampleChecker_feeds_deviated :
    ∃ marketPrices sent, sampleChecker.fetchMarketPrices = some (some marketPrices) ∧
      marketPrices["BTC"]? = some ⟨100, 4⟩ ∧
      sampleChecker.checkAndFeed getDeviationThresholdBps = some sent ∧
      FeedsDeviated getDeviationThresholdBps (fun _ => .ok (priceBytes 50)) marketPrices sent := by
  have hbtc : liveTickers sampleSources .standard "BTC" = [⟨100, 3⟩, ⟨103, 1⟩] := by
    rw [liveTickers_sampleSources, if_pos rfl]
  obtain ⟨marketPrices, hfetch, hlookup⟩ :=
    checker_fetchVwapPrices_eq sumsFit_sampleSources.volumesNonzero ⟨"BTC", by simp [hbtc]⟩
  have hmarket : sampleChecker.fetchMarketPrices = some (some marketPrices) := by
    rw [PriceDeviationChecker.fetchMarketPrices, sampleChecker, hfetch]
    rfl
  have hprice : marketPrices["BTC"]? = some ⟨100, 4⟩ := by
    rw [hlookup, hbtc]
    decide +kernel
  have hvisible : DeviationsVisible getDeviationThresholdBps (fun _ => .ok (priceBytes 50))
      marketPrices := by
    intro symbol response oid result hresponse _ _ hresult _ _
    have hsymbol : symbol = "BTC" := by
      by_contra hne
      rw [hlookup, liveTickers_sampleSources, if_neg hne] at hresponse
      cases hresponse
    subst hsymbol
    rw [hprice, Option.some.injEq] at hresponse
    rw [← hresponse, ← Except.ok.inj hresult]
    decide +kernel
  obtain ⟨sent, hsent, hfeeds⟩ :=
    ((check_and_feed_deviated_iff getDeviationThresholdBps _ marketPrices).2 sampleChecker rfl
      hmarket).mpr hvisible
  exact ⟨marketPrices, sent, hmarket, hprice, hsent, hfeeds⟩

/-- A market price 2.005% above the price on chain is not fed, and neither is one that is larger than
the price on chain by a factor of `2 ^ 252`. -/
theorem missed_deviations :
    ¬ FeedsDeviated getDeviationThresholdBps (fun _ => .ok (priceBytes 100000))
        ((∅ : Tickers).insert "BTC" ⟨102005, 1⟩)
        (feedDeviated getDeviationThresholdBps (fun _ => .ok (priceBytes 100000))
          ((∅ : Tickers).insert "BTC" ⟨102005, 1⟩)) ∧
      ¬ FeedsDeviated getDeviationThresholdBps (fun _ => .ok (priceBytes 1))
        ((∅ : Tickers).insert "BTC" ⟨.ofNat 256 (2 ^ 252 + 1), 1⟩)
        (feedDeviated getDeviationThresholdBps (fun _ => .ok (priceBytes 1))
          ((∅ : Tickers).insert "BTC" ⟨.ofNat 256 (2 ^ 252 + 1), 1⟩)) := by
  constructor
  · rw [feedsDeviated_iff_filterMap_eq]
    decide +kernel
  · rw [feedsDeviated_iff_filterMap_eq]
    decide +kernel

end Prices

end BifrostRelayer
