import BifrostRelayer.Foundation.Tally
import BifrostRelayer.Primitives.Socket
import BifrostRelayer.Prices.ExchangeRate

/-!
# Volume-weighted average prices

The oracle price feeder and the price deviation checker each ask all market sources of one mode for
their tickers and average the prices, weighed by volume.  Both keep, for each symbol, the sum of price
times volume and the sum of the volumes; a source that fails and a ticker without volume are left out.
The feeder also adds the stable coins that no source has a price for.

`accumulate` is the loop that both have.  It is a tally, so it does not depend on the order of the
sources, and `fetch_vwap_prices_mean` says what both functions make of it.
-/

namespace BifrostRelayer

namespace Prices

open Std Tally

/-! ### Tickers -/

/-- `FetchMode`. -/
inductive FetchMode where
  | standard
  | dedicated (symbol : String)
  deriving DecidableEq

/-- `PriceResponse`. -/
structure PriceResponse where
  price : U256
  volume : U256
  deriving DecidableEq

/-- The map from symbols to prices that a source returns. -/
abbrev Tickers : Type := ExtTreeMap String PriceResponse

/-- A market source, with what its `get_tickers` returns. -/
structure MarketSource where
  mode : FetchMode
  tickers : Except Report Tickers

/-- `std::fmt::Error`. -/
structure FmtError where

/-! ### The functions -/

/-- The sum of price times volume and the total volume of each symbol. -/
abbrev VolumeWeighted : Type := ExtTreeMap String (U256 × U256)

/-- One ticker added to the sums. -/
def addTicker (volumeWeighted : VolumeWeighted) (symbol : String) (response : PriceResponse) :
    VolumeWeighted :=
  if response.volume = 0 then volumeWeighted
  else
    match volumeWeighted[symbol]? with
    | some value =>
        volumeWeighted.insert symbol
          (value.1 + response.price * response.volume, value.2 + response.volume)
    | none => volumeWeighted.insert symbol (response.price * response.volume, response.volume)

/-- The tickers of one result added to the sums. -/
def addResult (volumeWeighted : VolumeWeighted) : Except Report Tickers → VolumeWeighted
  | .ok tickers =>
      tickers.toList.foldl (fun sums ticker => addTicker sums ticker.1 ticker.2) volumeWeighted
  | .error _ => volumeWeighted

/-- The loop over the results. -/
def accumulate (results : List (Except Report Tickers)) : VolumeWeighted :=
  results.foldl addResult ∅

/-- What the sources of a mode return. -/
def resultsOf (sources : List MarketSource) (mode : FetchMode) : List (Except Report Tickers) :=
  (sources.filter fun source => source.mode = mode).map MarketSource.tickers

/-- A sum of price times volume divided by its volume. -/
def average (value : U256 × U256) : PriceResponse := ⟨value.1 / value.2, value.2⟩

/-- The sums divided by the volumes; a division by zero is a panic. -/
def averages (volumeWeighted : VolumeWeighted) : Option Tickers :=
  if ∀ entry ∈ volumeWeighted.toList, entry.2.2 ≠ 0 then
    some (volumeWeighted.map fun _ => average)
  else none

/-- `PriceDeviationChecker::fetch_vwap_prices`. -/
def PriceDeviationChecker.fetchVwapPrices (sources : List MarketSource) (mode : FetchMode) :
    Option (Except FmtError Tickers) :=
  let volumeWeighted := accumulate (resultsOf sources mode)
  if volumeWeighted.isEmpty then some (.error ⟨⟩) else (averages volumeWeighted).map .ok

/-- `parse_ether("1").unwrap()`. -/
def oneEther : U256 := .ofNat 256 (10 ^ 18)

/-- A symbol put in at one dollar unless it is there. -/
def insertStable (volumeWeighted : VolumeWeighted) (symbol : String) : VolumeWeighted :=
  if symbol ∈ volumeWeighted then volumeWeighted else volumeWeighted.insert symbol (oneEther, 1)

/-- The stable coins that the feeder adds in the standard mode. -/
def insertStables (volumeWeighted : VolumeWeighted) : FetchMode → VolumeWeighted
  | .standard => insertStable (insertStable (insertStable volumeWeighted "USDC") "USDT") "DAI"
  | .dedicated _ => volumeWeighted

/-- `OraclePriceFeeder::fetch_vwap_prices`. -/
def OraclePriceFeeder.fetchVwapPrices (sources : List MarketSource) (mode : FetchMode) :
    Option (Except FmtError Tickers) :=
  let volumeWeighted := accumulate (resultsOf sources mode)
  if volumeWeighted.isEmpty then some (.error ⟨⟩)
  else (averages (insertStables volumeWeighted mode)).map .ok

/-! ### The mean -/

/-- The ticker with volume that a result has for a symbol. -/
def liveTicker (symbol : String) : Except Report Tickers → Option PriceResponse
  | .ok tickers => tickers[symbol]?.filter fun response => response.volume ≠ 0
  | .error _ => none

/-- The tickers with volume that the sources of a mode have for a symbol. -/
def liveTickers (sources : List MarketSource) (mode : FetchMode) (symbol : String) :
    List PriceResponse :=
  (resultsOf sources mode).filterMap (liveTicker symbol)

/-- The sum of price times volume. -/
def weightedSum (tickers : List PriceResponse) : ℕ :=
  (tickers.map fun t => t.price.toNat * t.volume.toNat).sum

/-- The sum of the volumes. -/
def volumeSum (tickers : List PriceResponse) : ℕ := (tickers.map fun t => t.volume.toNat).sum

/-- The sums of every symbol fit in a word. -/
def SumsFit (sources : List MarketSource) (mode : FetchMode) : Prop :=
  ∀ symbol, weightedSum (liveTickers sources mode symbol) < 2 ^ 256 ∧
    volumeSum (liveTickers sources mode symbol) < 2 ^ 256

/-- The volumes of no symbol add up to a multiple of `2 ^ 256`, by which the sums cannot be divided. -/
def VolumesNonzero (sources : List MarketSource) (mode : FetchMode) : Prop :=
  ∀ symbol, liveTickers sources mode symbol ≠ [] →
    volumeSum (liveTickers sources mode symbol) % 2 ^ 256 ≠ 0

/-- A price is the mean of tickers weighed by volume, and its volume is their total. -/
structure IsMean (tickers : List PriceResponse) (mean : PriceResponse) : Prop where
  price_eq : mean.price.toNat = weightedSum tickers / volumeSum tickers
  volume_eq : mean.volume.toNat = volumeSum tickers
  exists_le : ∃ t ∈ tickers, t.price ≤ mean.price
  exists_ge : ∃ t ∈ tickers, mean.price ≤ t.price

/-! ### The sums -/

/-- What one ticker adds to the sums. -/
def weighed (response : PriceResponse) : U256 × U256 :=
  (response.price * response.volume, response.volume)

/-- What one result adds to the sums. -/
def deposits : Except Report Tickers → List (String × U256 × U256)
  | .ok tickers =>
      (tickers.toList.filter fun ticker => ticker.2.volume ≠ 0).map fun ticker =>
        (ticker.1, weighed ticker.2)
  | .error _ => []

lemma addTicker_eq (sums : VolumeWeighted) (symbol : String) (response : PriceResponse) :
    addTicker sums symbol response =
      if response.volume = 0 then sums else deposit sums (symbol, weighed response) := by
  unfold addTicker deposit
  cases sums[symbol]? <;> rfl

lemma foldl_addTicker (tickers : List (String × PriceResponse)) (sums : VolumeWeighted) :
    tickers.foldl (fun sums ticker => addTicker sums ticker.1 ticker.2) sums =
      ((tickers.filter fun ticker => ticker.2.volume ≠ 0).map fun ticker =>
        (ticker.1, weighed ticker.2)).foldl deposit sums := by
  induction tickers generalizing sums with
  | nil => rfl
  | cons ticker tickers ih =>
    rw [List.foldl_cons, ih, addTicker_eq]
    by_cases hvolume : ticker.2.volume = 0
    · rw [if_pos hvolume, List.filter_cons_of_neg (by simp [hvolume])]
    · rw [if_neg hvolume, List.filter_cons_of_pos (by simpa using hvolume), List.map_cons,
        List.foldl_cons]

lemma addResult_eq (sums : VolumeWeighted) (result : Except Report Tickers) :
    addResult sums result = (deposits result).foldl deposit sums := by
  cases result with
  | error report => rfl
  | ok tickers => exact foldl_addTicker tickers.toList sums

lemma foldl_addResult (results : List (Except Report Tickers)) (sums : VolumeWeighted) :
    results.foldl addResult sums = (results.flatMap deposits).foldl deposit sums := by
  induction results generalizing sums with
  | nil => rfl
  | cons result results ih =>
    rw [List.foldl_cons, ih, addResult_eq, List.flatMap_cons, List.foldl_append]

lemma amountsAt_deposits (symbol : String) (result : Except Report Tickers) :
    amountsAt (deposits result) symbol = ((liveTicker symbol result).map weighed).toList := by
  cases result with
  | error report => rfl
  | ok tickers =>
    -- First the tickers of the symbol, of which the map holds at most one.
    have hfilter : amountsAt (deposits (.ok tickers)) symbol =
        ((tickers.toList.filter fun ticker => ticker.1 = symbol).filter fun ticker =>
          ticker.2.volume ≠ 0).map fun ticker => weighed ticker.2 := by
      rw [amountsAt, deposits, List.filter_map, List.map_map, List.filter_filter,
        List.filter_filter]
      refine congrArg₂ List.map rfl (List.filter_congr fun ticker _ => ?_)
      exact Bool.and_comm _ _
    rw [hfilter, filter_toList, liveTicker]
    cases tickers[symbol]? with
    | none => rfl
    | some response => by_cases hvolume : response.volume = 0#256 <;> simp [Option.filter, hvolume]

lemma amountsAt_flatMap_deposits (symbol : String) (results : List (Except Report Tickers)) :
    amountsAt (results.flatMap deposits) symbol =
      (results.filterMap (liveTicker symbol)).map weighed := by
  induction results with
  | nil => rfl
  | cons result results ih =>
    rw [List.flatMap_cons, amountsAt_append, ih, amountsAt_deposits]
    cases hlive : liveTicker symbol result <;> simp [hlive]

/-- The loop leaves the sums of the tickers with volume. -/
theorem getElem?_accumulate (sources : List MarketSource) (mode : FetchMode) (symbol : String) :
    (accumulate (resultsOf sources mode))[symbol]? =
      totalOf none ((liveTickers sources mode symbol).map weighed) := by
  rw [accumulate, foldl_addResult, getElem?_tally, amountsAt_flatMap_deposits, liveTickers]

/-- The order of the sources does not matter to the loop. -/
theorem accumulate_perm {sources sources' : List MarketSource} (hperm : sources.Perm sources')
    (mode : FetchMode) :
    accumulate (resultsOf sources mode) = accumulate (resultsOf sources' mode) := by
  unfold accumulate resultsOf
  rw [foldl_addResult, foldl_addResult]
  exact foldl_deposit_perm (((hperm.filter _).map _).flatMap_right deposits)

/-! ### The words -/

lemma toNat_sum_weighed_fst (tickers : List PriceResponse) :
    (tickers.map weighed).sum.1.toNat = weightedSum tickers % 2 ^ 256 := by
  induction tickers with
  | nil => rfl
  | cons t tickers ih =>
    rw [List.map_cons, List.sum_cons, Prod.fst_add, BitVec.toNat_add, ih]
    simp [weighed, weightedSum]

lemma toNat_sum_weighed_snd (tickers : List PriceResponse) :
    (tickers.map weighed).sum.2.toNat = volumeSum tickers % 2 ^ 256 := by
  induction tickers with
  | nil => rfl
  | cons t tickers ih =>
    rw [List.map_cons, List.sum_cons, Prod.snd_add, BitVec.toNat_add, ih]
    simp [weighed, volumeSum]

lemma volume_ne_zero {sources : List MarketSource} {mode : FetchMode} {symbol : String}
    {t : PriceResponse} (ht : t ∈ liveTickers sources mode symbol) : t.volume ≠ 0 := by
  obtain ⟨result, -, hlive⟩ := List.mem_filterMap.mp ht
  cases result with
  | error report => cases hlive
  | ok tickers =>
    obtain ⟨-, hvolume⟩ := Option.filter_eq_some_iff.mp hlive
    simpa using hvolume

lemma volumeSum_pos {sources : List MarketSource} {mode : FetchMode} {symbol : String}
    (hne : liveTickers sources mode symbol ≠ []) :
    0 < volumeSum (liveTickers sources mode symbol) := by
  obtain ⟨t, ht⟩ := List.exists_mem_of_ne_nil _ hne
  have hpos : 0 < t.volume.toNat := (BitVec.pos_iff_ne_zero _).mpr (volume_ne_zero ht)
  exact hpos.trans_le (List.single_le_sum (by simp) _ (List.mem_map_of_mem ht))

lemma SumsFit.volumesNonzero {sources : List MarketSource} {mode : FetchMode}
    (hfit : SumsFit sources mode) : VolumesNonzero sources mode := by
  intro symbol hne
  rw [Nat.mod_eq_of_lt (hfit symbol).2]
  exact (volumeSum_pos hne).ne'

/-- Sums that fit are divided to the mean. -/
theorem isMean_average {sources : List MarketSource} {mode : FetchMode} {symbol : String}
    (hfit : SumsFit sources mode) (hne : liveTickers sources mode symbol ≠ []) :
    IsMean (liveTickers sources mode symbol)
      (average ((liveTickers sources mode symbol).map weighed).sum) := by
  obtain ⟨hweighted, hvolume⟩ := hfit symbol
  have hpos := volumeSum_pos hne
  have hsnd := toNat_sum_weighed_snd (liveTickers sources mode symbol)
  rw [Nat.mod_eq_of_lt hvolume] at hsnd
  have hprice : (average ((liveTickers sources mode symbol).map weighed).sum).price.toNat =
      weightedSum (liveTickers sources mode symbol) /
        volumeSum (liveTickers sources mode symbol) := by
    rw [average, BitVec.toNat_udiv, toNat_sum_weighed_fst, hsnd, Nat.mod_eq_of_lt hweighted]
  obtain ⟨low, hlow, hle⟩ :=
    exists_le_mean (fun t : PriceResponse => t.price.toNat) (fun t => t.volume.toNat) hpos
  obtain ⟨high, hhigh, hge⟩ :=
    exists_mean_le (fun t : PriceResponse => t.price.toNat) (fun t => t.volume.toNat) hpos
  refine ⟨hprice, hsnd, ⟨low, hlow, ?_⟩, ⟨high, hhigh, ?_⟩⟩
  · rw [BitVec.le_def, hprice]
    exact hle
  · rw [BitVec.le_def, hprice]
    exact hge

/-! ### The functions, entry by entry -/

/-- Sums without a zero volume are divided one by one. -/
lemma averages_eq {sums : VolumeWeighted}
    (hne : ∀ (symbol : String) (value : U256 × U256), sums[symbol]? = some value → value.2 ≠ 0) :
    ∃ prices, averages sums = some prices ∧
      ∀ symbol : String, prices[symbol]? = sums[symbol]?.map average := by
  refine ⟨sums.map fun _ => average, ?_, fun symbol => ExtTreeMap.getElem?_map⟩
  unfold averages
  refine if_pos ?_
  rintro ⟨symbol, value⟩ hentry
  exact hne symbol value (ExtTreeMap.mem_toList_iff_getElem?_eq_some.mp hentry)

/-- A zero volume cannot be divided by. -/
lemma averages_eq_none {sums : VolumeWeighted} {symbol : String} {value : U256 × U256}
    (hvalue : sums[symbol]? = some value) (hzero : value.2 = 0) : averages sums = none := by
  unfold averages
  refine if_neg fun hne => ?_
  exact hne (symbol, value) (ExtTreeMap.mem_toList_iff_getElem?_eq_some.mpr hvalue) hzero

lemma getElem?_insertStable (sums : VolumeWeighted) (stable symbol : String) :
    (insertStable sums stable)[symbol]? =
      sums[symbol]?.or (if symbol = stable then some (oneEther, 1) else none) := by
  unfold insertStable
  by_cases hmem : stable ∈ sums
  · rw [if_pos hmem]
    by_cases hsymbol : symbol = stable
    · subst hsymbol
      rw [ExtTreeMap.getElem?_eq_some_getElem hmem, Option.some_or]
    · rw [if_neg hsymbol, Option.or_none]
  · rw [if_neg hmem, ExtTreeMap.getElem?_insert]
    by_cases hsymbol : symbol = stable
    · subst hsymbol
      simp [ExtTreeMap.getElem?_eq_none hmem]
    · simp [hsymbol, Ne.symm hsymbol]

/-- The stable coins that the feeder adds. -/
def stables : FetchMode → List String
  | .standard => ["USDC", "USDT", "DAI"]
  | .dedicated _ => []

lemma mem_stables_iff {mode : FetchMode} {symbol : String} :
    symbol ∈ stables mode ↔
      mode = .standard ∧ (symbol = "USDC" ∨ symbol = "USDT" ∨ symbol = "DAI") := by
  cases mode <;> simp [stables]

lemma getElem?_insertStables (sums : VolumeWeighted) (mode : FetchMode) (symbol : String) :
    (insertStables sums mode)[symbol]? =
      sums[symbol]?.or (if symbol ∈ stables mode then some (oneEther, 1) else none) := by
  cases mode with
  | dedicated symbol => simp [insertStables, stables]
  | standard =>
    simp only [insertStables, getElem?_insertStable, Option.or_assoc]
    congr 1
    split_ifs <;> simp_all [stables]

/-- The total volume is zero when the volumes add up to a multiple of `2 ^ 256`. -/
lemma sum_weighed_snd_eq_zero_iff (tickers : List PriceResponse) :
    (tickers.map weighed).sum.2 = 0 ↔ volumeSum tickers % 2 ^ 256 = 0 := by
  rw [← toNat_sum_weighed_snd, ← BitVec.toNat_inj]
  rfl

/-- The volumes that the loop leaves are not zero. -/
lemma volume_ne_zero_of_getElem? {sources : List MarketSource} {mode : FetchMode}
    (hvolumes : VolumesNonzero sources mode) {symbol : String} {value : U256 × U256}
    (hvalue : (accumulate (resultsOf sources mode))[symbol]? = some value) : value.2 ≠ 0 := by
  rw [getElem?_accumulate] at hvalue
  have hne : liveTickers sources mode symbol ≠ [] := by
    intro hnil
    rw [hnil] at hvalue
    cases hvalue
  rw [totalOf_none (by simpa using hne), Option.some.injEq] at hvalue
  rw [← hvalue]
  exact (sum_weighed_snd_eq_zero_iff _).not.mpr (hvolumes symbol hne)

lemma isEmpty_accumulate_iff (sources : List MarketSource) (mode : FetchMode) :
    (accumulate (resultsOf sources mode)).isEmpty = true ↔
      ∀ symbol, liveTickers sources mode symbol = [] := by
  rw [isEmpty_iff_getElem?]
  refine forall_congr' fun symbol => ?_
  rw [getElem?_accumulate, totalOf_none_eq_none, List.map_eq_nil_iff]

section Fetch

variable {sources : List MarketSource} {mode : FetchMode} {prices : Option Tickers}

/-- Both functions fail on empty sums only. -/
lemma fetched_eq_error_iff :
    (if (accumulate (resultsOf sources mode)).isEmpty then some (Except.error FmtError.mk)
        else prices.map Except.ok) = some (Except.error FmtError.mk) ↔
      ∀ symbol, liveTickers sources mode symbol = [] := by
  rw [← isEmpty_accumulate_iff]
  split_ifs with hempty
  · simp [hempty]
  · cases prices <;> simp [hempty]

/-- Both functions return the averages of other sums. -/
lemma fetched_of_live (hlive : ∃ symbol, liveTickers sources mode symbol ≠ []) :
    (if (accumulate (resultsOf sources mode)).isEmpty then some (Except.error FmtError.mk)
      else prices.map Except.ok) = prices.map Except.ok := by
  apply if_neg
  rw [isEmpty_accumulate_iff]
  exact not_forall.mpr hlive

/-- The checker's map holds the averages of the symbols that have tickers with volume. -/
theorem checker_fetchVwapPrices_eq (hvolumes : VolumesNonzero sources mode)
    (hlive : ∃ symbol, liveTickers sources mode symbol ≠ []) :
    ∃ checked, PriceDeviationChecker.fetchVwapPrices sources mode = some (.ok checked) ∧
      ∀ symbol : String, checked[symbol]? =
        (totalOf none ((liveTickers sources mode symbol).map weighed)).map average := by
  obtain ⟨checked, haverages, hchecked⟩ :=
    averages_eq fun _ _ hvalue => volume_ne_zero_of_getElem? hvolumes hvalue
  refine ⟨checked, ?_, fun symbol => ?_⟩
  · rw [PriceDeviationChecker.fetchVwapPrices, fetched_of_live hlive, haverages, Option.map_some]
  · rw [hchecked, getElem?_accumulate]

/-- The feeder's map holds the same averages, and the stable coins that are missing. -/
theorem feeder_fetchVwapPrices_eq (hvolumes : VolumesNonzero sources mode)
    (hlive : ∃ symbol, liveTickers sources mode symbol ≠ []) :
    ∃ fed, OraclePriceFeeder.fetchVwapPrices sources mode = some (.ok fed) ∧
      ∀ symbol : String, fed[symbol]? =
        ((totalOf none ((liveTickers sources mode symbol).map weighed)).map average).or
          (if symbol ∈ stables mode then some ⟨oneEther, 1⟩ else none) := by
  have hne (symbol : String) (value : U256 × U256)
      (hvalue : (insertStables (accumulate (resultsOf sources mode)) mode)[symbol]? = some value) :
      value.2 ≠ 0 := by
    rw [getElem?_insertStables, Option.or_eq_some_iff] at hvalue
    obtain hvalue | ⟨-, hvalue⟩ := hvalue
    · exact volume_ne_zero_of_getElem? hvolumes hvalue
    · rw [Option.ite_none_right_eq_some, Option.some.injEq] at hvalue
      rw [← hvalue.2]
      decide
  obtain ⟨fed, haverages, hfed⟩ := averages_eq hne
  refine ⟨fed, ?_, fun symbol => ?_⟩
  · rw [OraclePriceFeeder.fetchVwapPrices, fetched_of_live hlive, haverages, Option.map_some]
  · have hstable : average (oneEther, 1) = ⟨oneEther, 1⟩ := by decide +kernel
    rw [hfed, getElem?_insertStables, getElem?_accumulate, Option.map_or]
    congr 1
    rw [← hstable]
    exact apply_ite (Option.map average) _ _ _

/-- The feeder divides by zero exactly when the volumes of a symbol add up to a multiple of
`2 ^ 256`. -/
theorem feeder_fetchVwapPrices_eq_none_iff :
    OraclePriceFeeder.fetchVwapPrices sources mode = none ↔ ¬ VolumesNonzero sources mode := by
  refine ⟨fun hnone hvolumes => ?_, fun hvolumes => ?_⟩
  · by_cases hlive : ∃ symbol, liveTickers sources mode symbol ≠ []
    · obtain ⟨fed, hfed, -⟩ := feeder_fetchVwapPrices_eq hvolumes hlive
      rw [hfed] at hnone
      cases hnone
    · push Not at hlive
      have herror : OraclePriceFeeder.fetchVwapPrices sources mode = some (.error ⟨⟩) :=
        fetched_eq_error_iff.mpr hlive
      rw [herror] at hnone
      cases hnone
  · unfold VolumesNonzero at hvolumes
    push Not at hvolumes
    obtain ⟨symbol, hne, hzero⟩ := hvolumes
    have hsum : (insertStables (accumulate (resultsOf sources mode)) mode)[symbol]? =
        some ((liveTickers sources mode symbol).map weighed).sum := by
      rw [getElem?_insertStables, getElem?_accumulate, totalOf_none (by simpa using hne),
        Option.some_or]
    rw [OraclePriceFeeder.fetchVwapPrices, fetched_of_live ⟨symbol, hne⟩,
      averages_eq_none hsum ((sum_weighed_snd_eq_zero_iff _).mpr hzero), Option.map_none]

end Fetch

/-- Both functions fail exactly when no ticker has volume.  Otherwise both give each symbol that has
tickers with volume their mean, the feeder adds only the missing stable coins in the standard mode,
and neither depends on the order of the sources. -/
theorem fetch_vwap_prices_mean (sources : List MarketSource) (mode : FetchMode)
    (hfit : SumsFit sources mode) :
    (OraclePriceFeeder.fetchVwapPrices sources mode = some (.error ⟨⟩) ↔
      ∀ symbol, liveTickers sources mode symbol = []) ∧
    (PriceDeviationChecker.fetchVwapPrices sources mode = some (.error ⟨⟩) ↔
      ∀ symbol, liveTickers sources mode symbol = []) ∧
    ((∃ symbol, liveTickers sources mode symbol ≠ []) →
      ∃ fed checked : Tickers,
        OraclePriceFeeder.fetchVwapPrices sources mode = some (.ok fed) ∧
        PriceDeviationChecker.fetchVwapPrices sources mode = some (.ok checked) ∧
        (∀ symbol, liveTickers sources mode symbol ≠ [] →
          ∃ mean, fed[symbol]? = some mean ∧ checked[symbol]? = some mean ∧
            IsMean (liveTickers sources mode symbol) mean) ∧
        ∀ symbol, liveTickers sources mode symbol = [] →
          checked[symbol]? = none ∧
          fed[symbol]? =
            if mode = .standard ∧ (symbol = "USDC" ∨ symbol = "USDT" ∨ symbol = "DAI") then
              some ⟨.ofNat 256 (10 ^ 18), 1⟩
            else none) ∧
    ∀ sources' : List MarketSource, sources'.Perm sources →
      OraclePriceFeeder.fetchVwapPrices sources' mode =
        OraclePriceFeeder.fetchVwapPrices sources mode ∧
      PriceDeviationChecker.fetchVwapPrices sources' mode =
        PriceDeviationChecker.fetchVwapPrices sources mode := by
  refine ⟨fetched_eq_error_iff, fetched_eq_error_iff, fun hlive => ?_, fun sources' hperm => ?_⟩
  · obtain ⟨checked, hchecker, hchecked⟩ := checker_fetchVwapPrices_eq hfit.volumesNonzero hlive
    obtain ⟨fed, hfeeder, hfed⟩ := feeder_fetchVwapPrices_eq hfit.volumesNonzero hlive
    refine ⟨fed, checked, hfeeder, hchecker, fun symbol hne => ?_, fun symbol hnil => ?_⟩
    · have htotal := totalOf_none (List.map_eq_nil_iff.not.mpr hne : List.map weighed _ ≠ [])
      refine ⟨_, ?_, ?_, isMean_average hfit hne⟩
      · rw [hfed, htotal, Option.map_some, Option.some_or]
      · rw [hchecked, htotal, Option.map_some]
    · refine ⟨?_, ?_⟩
      · rw [hchecked, hnil]
        rfl
      · rw [hfed, hnil]
        exact if_congr mem_stables_iff rfl rfl
  · have haccumulate := accumulate_perm hperm mode
    rw [OraclePriceFeeder.fetchVwapPrices, OraclePriceFeeder.fetchVwapPrices,
      PriceDeviationChecker.fetchVwapPrices, PriceDeviationChecker.fetchVwapPrices, haccumulate]
    exact ⟨rfl, rfl⟩

/-- Two sources with a price, one that fails, and one of another mode. -/
def sampleSources : List MarketSource :=
  [⟨.standard, .ok ((∅ : Tickers).insert "BTC" ⟨100, 3⟩)⟩,
    ⟨.standard, .error ⟨"No tickers found"⟩⟩,
    ⟨.dedicated "JPYC", .ok ((∅ : Tickers).insert "JPYC" ⟨7, 1⟩)⟩,
    ⟨.standard, .ok ((∅ : Tickers).insert "BTC" ⟨103, 1⟩)⟩]

lemma liveTickers_sampleSources (symbol : String) :
    liveTickers sampleSources .standard symbol =
      if symbol = "BTC" then [⟨100, 3⟩, ⟨103, 1⟩] else [] := by
  by_cases hsymbol : symbol = "BTC"
  · subst hsymbol
    decide +kernel
  · simp [liveTickers, resultsOf, sampleSources, liveTicker, hsymbol,
      Ne.symm hsymbol]

lemma sumsFit_sampleSources : SumsFit sampleSources .standard := by
  intro symbol
  rw [liveTickers_sampleSources]
  split_ifs <;> decide

theorem fetch_vwap_prices_sample :
    ∃ fed checked : Tickers,
      OraclePriceFeeder.fetchVwapPrices sampleSources .standard = some (.ok fed) ∧
      PriceDeviationChecker.fetchVwapPrices sampleSources .standard = some (.ok checked) ∧
      (∃ mean, fed["BTC"]? = some mean ∧ checked["BTC"]? = some mean ∧
        mean.price.toNat = 100 ∧ mean.volume.toNat = 4) ∧
      checked["USDC"]? = none ∧ fed["USDC"]? = some ⟨.ofNat 256 (10 ^ 18), 1⟩ := by
  have hbtc : liveTickers sampleSources .standard "BTC" = [⟨100, 3⟩, ⟨103, 1⟩] := by
    rw [liveTickers_sampleSources, if_pos rfl]
  have husdc : liveTickers sampleSources .standard "USDC" = [] := by
    rw [liveTickers_sampleSources, if_neg (by decide)]
  obtain ⟨-, -, hok, -⟩ := fetch_vwap_prices_mean sampleSources .standard sumsFit_sampleSources
  obtain ⟨fed, checked, hfeeder, hchecker, hmean, hnone⟩ := hok ⟨"BTC", by simp [hbtc]⟩
  obtain ⟨mean, hfed, hchecked, hmean⟩ := hmean "BTC" (by simp [hbtc])
  rw [hbtc] at hmean
  refine ⟨fed, checked, hfeeder, hchecker,
    ⟨mean, hfed, hchecked, hmean.price_eq.trans (by decide),
      hmean.volume_eq.trans (by decide)⟩, (hnone "USDC" husdc).1, ?_⟩
  rw [(hnone "USDC" husdc).2, if_pos (by decide)]

end Prices

end BifrostRelayer
