import BifrostRelayer.Prices.Vwap

/-!
# The price feed

On its schedule the oracle price feeder collects prices: the averages of the market sources, and the
tickers of a dedicated source, for which the market sources stand in when it fails.  One transaction
then feeds every price that is not zero under the oracle id of its symbol.

The symbols come from the exchanges.  `BinancePriceFetcher.getTickers` passes on whatever symbols a
reply has, and the feeder unwraps the oracle id of each symbol, so a symbol without one ends the
task; so does a division by a total volume that wrapped around to zero.
`fetch_and_feed_pairs_iff` says that nothing else goes wrong.  A panic is `none`.
-/

namespace BifrostRelayer

namespace Prices

open SolidityAbi Std Tally

/-! ### Oracle ids -/

/-- The oracle id `0x010001…` that ends in a given byte. -/
def assetOid (last : UInt8) : B256 := ⟨[0x01, 0x00, 0x01] ++ List.replicate 28 0x00 ++ [last], rfl⟩

/-- `get_asset_oids`. -/
def getAssetOids : ExtTreeMap String B256 :=
  .ofList
    [("BFC", assetOid 0x01), ("BIFI", assetOid 0x02), ("BTC", assetOid 0x03),
      ("ETH", assetOid 0x04), ("BNB", assetOid 0x05), ("POL", assetOid 0x06),
      ("USDC", assetOid 0x08), ("USDT", assetOid 0x0a), ("DAI", assetOid 0x0b),
      ("BTCB", assetOid 0x0c), ("WBTC", assetOid 0x0d), ("CBBTC", assetOid 0x0e),
      ("JPYC", assetOid 0x0f)]

/-- `FixedBytes::<32>::from(price)`. -/
def priceBytes (price : U256) : B256 := ⟨beBytes 32 price.toNat, length_beBytes 32 _⟩

/-! ### Replies of an exchange -/

/-- A text without the occurrences of a pattern, from left to right; `skip` characters of the
occurrence at hand are still to be left out. -/
def removeFrom (pattern : List Char) : ℕ → List Char → List Char
  | _, [] => []
  | skip + 1, _ :: text => removeFrom pattern skip text
  | 0, c :: text =>
      if pattern.isPrefixOf (c :: text) then removeFrom pattern (pattern.length - 1) text
      else c :: removeFrom pattern 0 text

/-- `text.replace(pattern, "")` for a pattern that is not empty. -/
def removeText (pattern text : String) : String :=
  String.ofList (removeFrom pattern.toList 0 text.toList)

/-- `BinanceResponse`. -/
structure BinanceResponse where
  symbol : String
  lastPrice : String
  volume : String

/-- One ticker of a Binance reply, read with `parse_ether`. -/
def BinancePriceFetcher.insertTicker (parseEther : String → Except Report U256) (ret : Tickers)
    (ticker : BinanceResponse) : Except Report Tickers := do
  let price ← parseEther ticker.lastPrice
  let volume ← parseEther ticker.volume
  if ticker.symbol = "BTCUSDT" then
    return (ret.insert "BTCB" ⟨price, volume⟩).insert "BTC" ⟨price, volume⟩
  else
    return ret.insert (removeText "USDT" ticker.symbol) ⟨price, volume⟩

/-- `BinancePriceFetcher::get_tickers`, from the reply to its request. -/
def BinancePriceFetcher.getTickers (parseEther : String → Except Report U256)
    (reply : Except Report (List BinanceResponse)) : Except Report Tickers := do
  let response ← reply
  response.foldlM (insertTicker parseEther) ∅

/-! ### The feeder -/

/-- The fields of `OraclePriceFeeder` that a feeding reads, with what the sources return. -/
structure OraclePriceFeeder where
  dedicatedSource : Option MarketSource
  marketSources : List MarketSource

/-- The transaction `oracle_aggregate_feeding` and its metadata. -/
structure PriceFeed where
  oidBytesList : List B256
  priceBytesList : List B256
  prices : Tickers

/-- A map extended by the prices of a call that returned some. -/
def extendOk {ε : Type} (allPrices : Tickers) : Except ε Tickers → Tickers
  | .ok prices => allPrices ∪ prices
  | .error _ => allPrices

/-- A map extended by the dedicated source, or by what stands in for it when it fails. -/
def extendDedicated (fallback : Option (Except FmtError Tickers)) (allPrices : Tickers) :
    Except Report Tickers → Option Tickers
  | .ok tickers => some (allPrices ∪ tickers)
  | .error _ => fallback.map (extendOk allPrices)

/-- The collecting part of `fetch_and_feed`. -/
def OraclePriceFeeder.collectPrices (feeder : OraclePriceFeeder) : Option Tickers := do
  let standard ← fetchVwapPrices feeder.marketSources .standard
  let allPrices := extendOk ∅ standard
  match feeder.dedicatedSource with
  | none => some allPrices
  | some source =>
      extendDedicated (fetchVwapPrices feeder.marketSources source.mode) allPrices source.tickers

/-- One price pushed to the two lists; an unknown symbol is a panic. -/
def pushPrice (lists : List B256 × List B256) (entry : String × PriceResponse) :
    Option (List B256 × List B256) :=
  if entry.2.price = 0 then some lists
  else
    match getAssetOids[entry.1]? with
    | some oid => some (lists.1 ++ [oid], lists.2 ++ [priceBytes entry.2.price])
    | none => none

/-- `build_and_send_transaction`. -/
def buildAndSendTransaction (priceResponses : Tickers) : Option PriceFeed :=
  (priceResponses.toList.foldlM pushPrice ([], [])).map fun lists =>
    ⟨lists.1, lists.2, priceResponses⟩

/-- `OraclePriceFeeder::fetch_and_feed`: the transaction that is sent, if any. -/
def OraclePriceFeeder.fetchAndFeed (feeder : OraclePriceFeeder) : Option (Option PriceFeed) := do
  let allPrices ← feeder.collectPrices
  if allPrices.isEmpty then return none
  else return some (← buildAndSendTransaction allPrices)

/-! ### What a feeding should do -/

/-- The oracle id and the price of an entry that has an oracle id and a price. -/
def registeredPrice (entry : String × PriceResponse) : Option (B256 × B256) :=
  if entry.2.price = 0 then none
  else getAssetOids[entry.1]?.map fun oid => (oid, priceBytes entry.2.price)

/-- A feeding does not panic, and a transaction that it sends pairs the oracle ids and the prices of
the collected symbols that have both. -/
def FeedsRegistered (feeder : OraclePriceFeeder) : Prop :=
  ∃ (collected : Tickers) (sent : Option PriceFeed),
    feeder.collectPrices = some collected ∧ feeder.fetchAndFeed = some sent ∧
    ∀ feed ∈ sent,
      feed.oidBytesList.length = feed.priceBytesList.length ∧
      feed.oidBytesList.zip feed.priceBytesList = collected.toList.filterMap registeredPrice

/-- The average of the tickers that sources of a mode have for a symbol is rounded to zero. -/
def RoundsToZero (sources : List MarketSource) (mode : FetchMode) (symbol : String) : Prop :=
  weightedSum (liveTickers sources mode symbol) % 2 ^ 256 <
    volumeSum (liveTickers sources mode symbol) % 2 ^ 256

/-- The standard sources have no price for a symbol but zero. -/
def StandardWorthless (feeder : OraclePriceFeeder) (symbol : String) : Prop :=
  liveTickers feeder.marketSources .standard symbol = [] ∨
    RoundsToZero feeder.marketSources .standard symbol

/-- No price but zero reaches the feeder for a symbol: the dedicated source decides when it has the
symbol, then the market sources of its mode when it failed, then the standard sources. -/
def Worthless (feeder : OraclePriceFeeder) (symbol : String) : Prop :=
  match feeder.dedicatedSource with
  | none => StandardWorthless feeder symbol
  | some source =>
      match source.tickers with
      | .ok tickers =>
          match tickers[symbol]? with
          | some response => response.price = 0
          | none => StandardWorthless feeder symbol
      | .error _ =>
          if liveTickers feeder.marketSources source.mode symbol = [] then
            StandardWorthless feeder symbol
          else RoundsToZero feeder.marketSources source.mode symbol

/-- The replies whose volumes the feeder can divide by: those of the standard sources, and those of
the sources that stand in for a dedicated source that failed. -/
def VolumesHarmless (feeder : OraclePriceFeeder) : Prop :=
  VolumesNonzero feeder.marketSources .standard ∧
    ∀ source ∈ feeder.dedicatedSource, ∀ report, source.tickers = .error report →
      VolumesNonzero feeder.marketSources source.mode

/-- The replies that the feeder survives. -/
structure RepliesHarmless (feeder : OraclePriceFeeder) : Prop where
  volumes : VolumesHarmless feeder
  unknown_worthless : ∀ symbol : String, symbol ∉ getAssetOids → Worthless feeder symbol

/-! ### The lists -/

/-- An entry with a price has an oracle id. -/
def EntryKnown (entry : String × PriceResponse) : Prop :=
  entry.2.price ≠ 0 → entry.1 ∈ getAssetOids

lemma pushPrice_of_known {entry : String × PriceResponse} (hknown : EntryKnown entry)
    (lists : List B256 × List B256) :
    pushPrice lists entry =
      some (lists.1 ++ (registeredPrice entry).toList.map Prod.fst,
        lists.2 ++ (registeredPrice entry).toList.map Prod.snd) := by
  unfold pushPrice registeredPrice
  by_cases hprice : entry.2.price = 0
  · simp only [if_pos hprice, Option.toList_none, List.map_nil, List.append_nil]
  · have hoid := ExtTreeMap.getElem?_eq_some_getElem (hknown hprice)
    simp only [if_neg hprice, hoid, Option.map_some, Option.toList_some, List.map_cons, List.map_nil]

lemma pushPrice_of_not_known {entry : String × PriceResponse} (hknown : ¬ EntryKnown entry)
    (lists : List B256 × List B256) : pushPrice lists entry = none := by
  obtain ⟨hprice, hoid⟩ := Classical.not_imp.mp hknown
  rw [pushPrice, if_neg hprice, ExtTreeMap.getElem?_eq_none hoid]

/-- The loop pushes the oracle ids and the prices side by side. -/
lemma foldlM_pushPrice {entries : List (String × PriceResponse)}
    (hknown : ∀ entry ∈ entries, EntryKnown entry) (lists : List B256 × List B256) :
    entries.foldlM pushPrice lists =
      some (lists.1 ++ (entries.filterMap registeredPrice).map Prod.fst,
        lists.2 ++ (entries.filterMap registeredPrice).map Prod.snd) := by
  induction entries generalizing lists with
  | nil => simp
  | cons entry entries ih =>
    obtain ⟨hentry, hentries⟩ := List.forall_mem_cons.mp hknown
    rw [List.foldlM_cons, pushPrice_of_known hentry, Option.bind_eq_bind, Option.bind_some,
      ih hentries]
    cases hregistered : registeredPrice entry <;> simp [hregistered]

/-- The loop panics at an entry that has a price and no oracle id. -/
lemma foldlM_pushPrice_eq_none {entries : List (String × PriceResponse)}
    {entry : String × PriceResponse} (hmem : entry ∈ entries) (hknown : ¬ EntryKnown entry)
    (lists : List B256 × List B256) : entries.foldlM pushPrice lists = none := by
  induction entries generalizing lists with
  | nil => cases hmem
  | cons first entries ih =>
    rw [List.foldlM_cons, Option.bind_eq_bind, Option.bind_eq_none_iff]
    intro lists' hlists'
    obtain rfl | hmem := List.mem_cons.mp hmem
    · rw [pushPrice_of_not_known hknown] at hlists'
      cases hlists'
    · exact ih hmem lists'

/-- Every collected price that is not zero has an oracle id. -/
def AllKnown (collected : Tickers) : Prop :=
  ∀ symbol : String, symbol ∉ getAssetOids →
    ∀ response : PriceResponse, collected[symbol]? = some response → response.price = 0

lemma AllKnown.entryKnown {collected : Tickers} (hknown : AllKnown collected) :
    ∀ entry ∈ collected.toList, EntryKnown entry := by
  rintro ⟨symbol, response⟩ hentry hprice
  by_contra hoid
  exact hprice (hknown symbol hoid response (ExtTreeMap.mem_toList_iff_getElem?_eq_some.mp hentry))

lemma buildAndSendTransaction_of_allKnown {collected : Tickers} (hknown : AllKnown collected) :
    ∃ feed, buildAndSendTransaction collected = some feed ∧
      feed.oidBytesList.length = feed.priceBytesList.length ∧
      feed.oidBytesList.zip feed.priceBytesList = collected.toList.filterMap registeredPrice := by
  have hlists := foldlM_pushPrice hknown.entryKnown ([], [])
  refine ⟨_, by rw [buildAndSendTransaction, hlists, Option.map_some], ?_, ?_⟩
  · simp
  · rw [List.nil_append, List.nil_append]
    exact (List.zip_of_prod rfl rfl).symm

lemma buildAndSendTransaction_eq_none {collected : Tickers} (hknown : ¬ AllKnown collected) :
    buildAndSendTransaction collected = none := by
  unfold AllKnown at hknown
  push Not at hknown
  obtain ⟨symbol, hoid, response, hresponse, hprice⟩ := hknown
  have hmem : (symbol, response) ∈ collected.toList :=
    ExtTreeMap.mem_toList_iff_getElem?_eq_some.mpr hresponse
  rw [buildAndSendTransaction,
    foldlM_pushPrice_eq_none hmem (fun hentry => hoid (hentry hprice)), Option.map_none]

/-- A feeding of collected prices goes right exactly when every price has an oracle id. -/
lemma feedsRegistered_iff_allKnown {feeder : OraclePriceFeeder} {collected : Tickers}
    (hcollected : feeder.collectPrices = some collected) :
    FeedsRegistered feeder ↔ AllKnown collected := by
  have hfeed : feeder.fetchAndFeed =
      if collected.isEmpty then some none else (buildAndSendTransaction collected).map some := by
    rw [OraclePriceFeeder.fetchAndFeed, hcollected, Option.map_eq_bind]
    rfl
  constructor
  · rintro ⟨-, sent, -, hsent, -⟩
    by_contra hknown
    have hempty : collected.isEmpty = false := by
      by_contra hempty
      refine hknown fun symbol _ response hresponse => ?_
      rw [(isEmpty_iff_getElem? collected).mp (by simpa using hempty)] at hresponse
      cases hresponse
    rw [hfeed, hempty, buildAndSendTransaction_eq_none hknown] at hsent
    cases hsent
  · intro hknown
    obtain ⟨feed, hbuild, hlength, hzip⟩ := buildAndSendTransaction_of_allKnown hknown
    rw [hbuild] at hfeed
    refine ⟨collected, if collected.isEmpty then none else some feed, hcollected, ?_, ?_⟩
    · rw [hfeed]
      split_ifs <;> rfl
    · intro sent hsent
      rw [Option.mem_def, Option.ite_none_left_eq_some, Option.some.injEq] at hsent
      rw [← hsent.2]
      exact ⟨hlength, hzip⟩

/-! ### The collected prices -/

/-- The average that sources of a mode have for a symbol. -/
def averageOf (sources : List MarketSource) (mode : FetchMode) (symbol : String) :
    Option PriceResponse :=
  (totalOf none ((liveTickers sources mode symbol).map weighed)).map average

lemma averageOf_eq_none {sources : List MarketSource} {mode : FetchMode} {symbol : String}
    (hnil : liveTickers sources mode symbol = []) : averageOf sources mode symbol = none := by
  rw [averageOf, hnil]
  rfl

lemma averageOf_eq_some {sources : List MarketSource} {mode : FetchMode} {symbol : String}
    (hne : liveTickers sources mode symbol ≠ []) :
    averageOf sources mode symbol =
      some (average ((liveTickers sources mode symbol).map weighed).sum) := by
  rw [averageOf, totalOf_none (by simpa using hne), Option.map_some]

/-- Which averages are rounded to zero. -/
lemma average_price_eq_zero_iff {sources : List MarketSource} {mode : FetchMode} {symbol : String}
    (hvolumes : VolumesNonzero sources mode) (hne : liveTickers sources mode symbol ≠ []) :
    (average ((liveTickers sources mode symbol).map weighed).sum).price = 0 ↔
      RoundsToZero sources mode symbol := by
  have hzero := hvolumes symbol hne
  rw [average, RoundsToZero, ← BitVec.toNat_inj, BitVec.toNat_udiv, toNat_sum_weighed_fst,
    toNat_sum_weighed_snd]
  exact Nat.div_eq_zero_iff.trans (or_iff_right hzero)

/-- A symbol without an oracle id is not a stable coin. -/
lemma not_mem_stables {symbol : String} (hoid : symbol ∉ getAssetOids) (mode : FetchMode) :
    symbol ∉ stables mode := by
  intro hstable
  obtain ⟨-, rfl | rfl | rfl⟩ := mem_stables_iff.mp hstable
  · exact hoid (by decide +kernel)
  · exact hoid (by decide +kernel)
  · exact hoid (by decide +kernel)

/-- What the market sources of a mode add for a symbol without an oracle id. -/
lemma exists_fetchVwapPrices {sources : List MarketSource} {mode : FetchMode}
    (hvolumes : VolumesNonzero sources mode) :
    ∃ result, OraclePriceFeeder.fetchVwapPrices sources mode = some result ∧
      ∀ (allPrices : Tickers) (symbol : String), symbol ∉ getAssetOids →
        (extendOk allPrices result)[symbol]? =
          (averageOf sources mode symbol).or allPrices[symbol]? := by
  by_cases hlive : ∃ symbol, liveTickers sources mode symbol ≠ []
  · obtain ⟨fed, hfetch, hfed⟩ := feeder_fetchVwapPrices_eq hvolumes hlive
    refine ⟨.ok fed, hfetch, fun allPrices symbol hoid => ?_⟩
    rw [extendOk, ExtTreeMap.getElem?_union, hfed, if_neg (not_mem_stables hoid mode),
      Option.or_none, averageOf]
  · push Not at hlive
    have herror : OraclePriceFeeder.fetchVwapPrices sources mode = some (.error ⟨⟩) :=
      fetched_eq_error_iff.mpr hlive
    refine ⟨_, herror, fun allPrices symbol _ => ?_⟩
    rw [extendOk, averageOf_eq_none (hlive symbol), Option.none_or]

/-- What the feeder collects for a symbol without an oracle id. -/
def collectedFor (feeder : OraclePriceFeeder) (symbol : String) : Option PriceResponse :=
  let standard := averageOf feeder.marketSources .standard symbol
  match feeder.dedicatedSource with
  | none => standard
  | some source =>
      match source.tickers with
      | .ok tickers => tickers[symbol]?.or standard
      | .error _ => (averageOf feeder.marketSources source.mode symbol).or standard

section Collected

variable {feeder : OraclePriceFeeder}

lemma exists_collectPrices (hvolumes : VolumesHarmless feeder) :
    ∃ collected, feeder.collectPrices = some collected ∧
      ∀ symbol : String, symbol ∉ getAssetOids → collected[symbol]? = collectedFor feeder symbol := by
  obtain ⟨hstandard, hfallback⟩ := hvolumes
  obtain ⟨result, hfetch, hresult⟩ := exists_fetchVwapPrices hstandard
  have hlookup (symbol : String) (hoid : symbol ∉ getAssetOids) :
      (extendOk ∅ result)[symbol]? = averageOf feeder.marketSources .standard symbol := by
    rw [hresult ∅ symbol hoid, ExtTreeMap.getElem?_empty, Option.or_none]
  unfold OraclePriceFeeder.collectPrices collectedFor
  rw [hfetch]
  cases hdedicated : feeder.dedicatedSource with
  | none => exact ⟨_, rfl, hlookup⟩
  | some source =>
    cases htickers : source.tickers with
    | ok tickers =>
      refine ⟨extendOk ∅ result ∪ tickers, by simp [extendDedicated, htickers], ?_⟩
      intro symbol hoid
      simp only [ExtTreeMap.getElem?_union, hlookup symbol hoid, htickers]
    | error report =>
      obtain ⟨fallback, hfetched, hadded⟩ :=
        exists_fetchVwapPrices (hfallback source hdedicated report htickers)
      refine ⟨extendOk (extendOk ∅ result) fallback, by simp [extendDedicated, htickers, hfetched],
        fun symbol hoid => ?_⟩
      simp only [hadded _ symbol hoid, hlookup symbol hoid, htickers]

lemma collectPrices_eq_none (hvolumes : ¬ VolumesHarmless feeder) : feeder.collectPrices = none := by
  unfold OraclePriceFeeder.collectPrices
  by_cases hstandard : VolumesNonzero feeder.marketSources .standard
  · -- The standard prices are there, so it is the fallback that fails.
    have hfallback : ¬ ∀ source ∈ feeder.dedicatedSource, ∀ report,
        source.tickers = .error report → VolumesNonzero feeder.marketSources source.mode :=
      fun hfallback => hvolumes ⟨hstandard, hfallback⟩
    push Not at hfallback
    obtain ⟨source, hdedicated, report, htickers, hzero⟩ := hfallback
    obtain ⟨result, hfetch, -⟩ := exists_fetchVwapPrices hstandard
    have hnone := feeder_fetchVwapPrices_eq_none_iff.mpr hzero
    rw [hfetch, Option.mem_def.mp hdedicated]
    simp [extendDedicated, htickers, hnone]
  · rw [feeder_fetchVwapPrices_eq_none_iff.mpr hstandard]
    rfl

/-- A symbol that only gets the price zero, in terms of the averages. -/
lemma averageOf_worthless_iff (hvolumes : VolumesNonzero feeder.marketSources .standard)
    (symbol : String) :
    (∀ response, averageOf feeder.marketSources .standard symbol = some response →
        response.price = 0) ↔ StandardWorthless feeder symbol := by
  unfold StandardWorthless
  by_cases hnil : liveTickers feeder.marketSources .standard symbol = []
  · simp [averageOf_eq_none hnil, hnil]
  · rw [averageOf_eq_some hnil, or_iff_right hnil, ← average_price_eq_zero_iff hvolumes hnil]
    simp

lemma collectedFor_worthless_iff (hvolumes : VolumesHarmless feeder) (symbol : String) :
    (∀ response, collectedFor feeder symbol = some response → response.price = 0) ↔
      Worthless feeder symbol := by
  obtain ⟨hstandard, hfallback⟩ := hvolumes
  have hworthless := averageOf_worthless_iff hstandard symbol
  unfold collectedFor Worthless
  cases hdedicated : feeder.dedicatedSource with
  | none => exact hworthless
  | some source =>
    cases htickers : source.tickers with
    | ok tickers =>
      cases hticker : tickers[symbol]? with
      | none => simpa [htickers, hticker] using hworthless
      | some response => simp [htickers, hticker]
    | error report =>
      have hnonzero := hfallback source hdedicated report htickers
      by_cases hnil : liveTickers feeder.marketSources source.mode symbol = []
      · simpa [htickers, averageOf_eq_none hnil, hnil] using hworthless
      · have hzero := average_price_eq_zero_iff hnonzero hnil
        simpa [htickers, averageOf_eq_some hnil, hnil] using hzero

end Collected

/-- A feeding does not panic and feeds the registered symbols with their prices exactly when the
total volumes do not wrap around to zero and no symbol without an oracle id gets a price. -/
theorem fetch_and_feed_pairs_iff (feeder : OraclePriceFeeder) :
    FeedsRegistered feeder ↔ RepliesHarmless feeder := by
  by_cases hvolumes : VolumesHarmless feeder
  · obtain ⟨collected, hcollected, hlookup⟩ := exists_collectPrices hvolumes
    have hknown : AllKnown collected ↔
        ∀ symbol : String, symbol ∉ getAssetOids → Worthless feeder symbol := by
      refine forall₂_congr fun symbol hoid => ?_
      rw [hlookup symbol hoid]
      exact collectedFor_worthless_iff hvolumes symbol
    rw [feedsRegistered_iff_allKnown hcollected, hknown]
    exact ⟨fun hworthless => ⟨hvolumes, hworthless⟩, fun hharmless => hharmless.unknown_worthless⟩
  · refine iff_of_false ?_ fun hharmless => hvolumes hharmless.volumes
    rintro ⟨collected, -, hcollected, -⟩
    rw [collectPrices_eq_none hvolumes] at hcollected
    cases hcollected

/-- `parse_ether` on the texts of the sample reply. -/
def sampleParseEther (text : String) : Except Report U256 :=
  if text = "0.5" then .ok (.ofNat 256 (5 * 10 ^ 17))
  else if text = "1000" then .ok (.ofNat 256 (10 ^ 21))
  else .error ⟨"invalid number"⟩

/-- A feeder whose Binance source gets a ticker that nobody asked for. -/
def xrpFeeder : OraclePriceFeeder where
  dedicatedSource := none
  marketSources :=
    [⟨.standard, BinancePriceFetcher.getTickers sampleParseEther (.ok [⟨"XRPUSDT", "0.5", "1000"⟩])⟩]

theorem xrpFeeder_not_feedsRegistered : ¬ FeedsRegistered xrpFeeder := by
  rintro ⟨-, sent, -, hsent, -⟩
  have hpanic : xrpFeeder.fetchAndFeed.isNone = true := by decide +kernel
  rw [hsent] at hpanic
  cases hpanic

end Prices

end BifrostRelayer
