import BifrostRelayer.Prices.Chainlink
import BifrostRelayer.Prices.DeviationChecker

/-!
# The sources of the price workers

The oracle price feeder and the price deviation checker push their market sources when they start:
six exchanges, and for each chain up to two sources that read Chainlink contracts.

The lists are not the same.  The checker asks Chainlink on every chain, the feeder only where it has
a feed.  A source without a feed returns no tickers, so both average the same tickers:
`liveTickers_initializeSources`.
-/

namespace BifrostRelayer

namespace Prices

open Fallible SolidityAbi Std

/-! ### The sources -/

/-- Which of the `chainlink_*` contracts a client has. -/
structure ChainlinkFeeds where
  usdcUsd : Bool
  usdtUsd : Bool
  daiUsd : Bool
  btcUsd : Bool
  wbtcUsd : Bool
  cbbtcUsd : Bool
  jpyUsd : Bool
deriving DecidableEq

/-- `has_any_chainlink_feeds`. -/
def hasAnyChainlinkFeeds (contracts : ChainlinkFeeds) : Bool :=
  [contracts.usdcUsd, contracts.usdtUsd, contracts.daiUsd, contracts.btcUsd, contracts.wbtcUsd,
    contracts.cbbtcUsd].any id

/-- `has_chainlink_feed`. -/
def hasChainlinkFeed (contracts : ChainlinkFeeds) : String → Bool
  | "USDC" => contracts.usdcUsd
  | "USDT" => contracts.usdtUsd
  | "DAI" => contracts.daiUsd
  | "BTC" => contracts.btcUsd
  | "WBTC" => contracts.wbtcUsd
  | "CBBTC" => contracts.cbbtcUsd
  | "JPYC" => contracts.jpyUsd
  | _ => false

/-- An `EthClient`, as far as the sources read it. -/
structure PriceClient where
  chainId : ChainId
  feeds : ChainlinkFeeds
deriving DecidableEq

/-- `PriceFetchers`. -/
inductive PriceFetchers where
  | binance
  | bithumb
  | gateio
  | kucoin
  | upbit
  | coinbase
  | chainlink (client : PriceClient) (mode : FetchMode)
  | exchangeRate (mode : FetchMode)
deriving DecidableEq

/-- `PriceFetchers::mode`. -/
def PriceFetchers.mode : PriceFetchers → FetchMode
  | chainlink _ mode => mode
  | exchangeRate mode => mode
  | _ => .standard

/-- `FetchMode::Dedicated("JPYC")`. -/
def jpycMode : FetchMode := .dedicated "JPYC"

/-- The exchanges, in the order in which both workers push them. -/
def exchanges : List PriceFetchers := [.binance, .bithumb, .gateio, .kucoin, .upbit, .coinbase]

/-- The market sources that `OraclePriceFeeder::initialize_fetchers` pushes. -/
def OraclePriceFeeder.initializeFetchers (clients : List PriceClient) : List PriceFetchers :=
  exchanges ++ clients.flatMap fun client =>
    (if hasAnyChainlinkFeeds client.feeds then [.chainlink client .standard] else []) ++
      if hasChainlinkFeed client.feeds "JPYC" then [.chainlink client jpycMode] else []

/-- The market sources that `PriceDeviationChecker::initialize` pushes. -/
def PriceDeviationChecker.initializeSources (clients : List PriceClient) : List PriceFetchers :=
  exchanges ++ clients.flatMap fun client =>
    .chainlink client .standard ::
      if client.feeds.jpyUsd then [.chainlink client jpycMode] else []

/-! ### What the sources return -/

/-- The replies that the calls of one feeding or check get.  Two copies of a source that ask at the
same time are told the same. -/
structure PriceReplies where
  /-- `get_tickers` of the sources that are not Chainlink's. -/
  getTickers : PriceFetchers → Except Report Tickers
  /-- The replies of the aggregator contract for a symbol on a chain. -/
  aggregator : ChainId → String → Aggregator
  /-- The clock, for a symbol on a chain. -/
  now : ChainId → String → Except Report UInt64
  lastOracleData : B256 → Except Report B256

/-- The contract of a feed, if the client has it. -/
def contractIf (present : Bool) (replies : Aggregator) : Option Aggregator :=
  if present then some replies else none

/-- `aggregator_contracts` of a client. -/
def PriceReplies.contracts (r : PriceReplies) (client : PriceClient) : AggregatorContracts where
  chainlinkUsdcUsd := contractIf client.feeds.usdcUsd (r.aggregator client.chainId "USDC")
  chainlinkUsdtUsd := contractIf client.feeds.usdtUsd (r.aggregator client.chainId "USDT")
  chainlinkDaiUsd := contractIf client.feeds.daiUsd (r.aggregator client.chainId "DAI")
  chainlinkBtcUsd := contractIf client.feeds.btcUsd (r.aggregator client.chainId "BTC")
  chainlinkWbtcUsd := contractIf client.feeds.wbtcUsd (r.aggregator client.chainId "WBTC")
  chainlinkCbbtcUsd := contractIf client.feeds.cbbtcUsd (r.aggregator client.chainId "CBBTC")
  chainlinkJpyUsd := contractIf client.feeds.jpyUsd (r.aggregator client.chainId "JPYC")

namespace ChainlinkPriceFetcher

/-- The symbols of the standard mode. -/
def standardSymbols : List String := ["USDC", "USDT", "DAI", "BTC", "WBTC", "CBBTC"]

section

variable (client : Option AggregatorContracts) (now : String → Except Report UInt64)

/-- One round of the loop in `get_tickers`: a symbol without a ticker is passed over. -/
def insertTicker (ret : Tickers) (symbol : String) : Tickers :=
  match getTickerWithSymbol wrappingScale client (now symbol) symbol with
  | some (.ok ticker) => ret.insert symbol ticker
  | _ => ret

/-- The map that `get_tickers` fills. -/
def collectTickers : FetchMode → Except Report Tickers
  | .standard => .ok (standardSymbols.foldl (insertTicker client now) ∅)
  | .dedicated symbol =>
      match getTickerWithSymbol wrappingScale client (now symbol) symbol with
      | some (.ok ticker) => .ok ((∅ : Tickers).insert symbol ticker)
      | _ => .error ⟨"Failed to fetch ticker for symbol: " ++ symbol⟩

/-- `ChainlinkPriceFetcher::get_tickers`. -/
def getTickers (mode : FetchMode) : Except Report Tickers := do
  let ret ← collectTickers client now mode
  if ret.isEmpty then .error ⟨"No tickers found"⟩ else return ret

end

end ChainlinkPriceFetcher

/-- `PriceFetchers::get_tickers`. -/
def PriceReplies.tickersOf (r : PriceReplies) : PriceFetchers → Except Report Tickers
  | .chainlink client mode =>
      ChainlinkPriceFetcher.getTickers (some (r.contracts client)) (r.now client.chainId) mode
  | fetcher => r.getTickers fetcher

/-- A source with what it returns. -/
def PriceReplies.source (r : PriceReplies) (fetcher : PriceFetchers) : MarketSource :=
  ⟨fetcher.mode, r.tickersOf fetcher⟩

/-! ### The sources of both workers -/

section Sources

variable {clients : List PriceClient} {r : PriceReplies}

/-- Rounds that leave a value alone. -/
lemma foldl_of_fixed {α β : Type} {f : β → α → β} {l : List α} {b : β} (h : ∀ a ∈ l, f b a = b) :
    l.foldl f b = b := by
  induction l with
  | nil => rfl
  | cons a l ih =>
    rw [List.foldl_cons, h a List.mem_cons_self]
    exact ih fun a' ha' => h a' (List.mem_cons_of_mem a ha')

/-- A client without a standard feed has no standard ticker. -/
lemma tickersOf_of_no_feeds {client : PriceClient}
    (hnone : hasAnyChainlinkFeeds client.feeds = false) :
    ∃ report, r.tickersOf (.chainlink client .standard) = .error report := by
  have hfeeds : client.feeds.usdcUsd = false ∧ client.feeds.usdtUsd = false ∧
      client.feeds.daiUsd = false ∧ client.feeds.btcUsd = false ∧ client.feeds.wbtcUsd = false ∧
      client.feeds.cbbtcUsd = false := by
    simpa [hasAnyChainlinkFeeds] using hnone
  obtain ⟨husdc, husdt, hdai, hbtc, hwbtc, hcbbtc⟩ := hfeeds
  have hskip (now : Except Report UInt64) (symbol : String)
      (hsymbol : symbol ∈ ChainlinkPriceFetcher.standardSymbols) :
      getTickerWithSymbol wrappingScale (some (r.contracts client)) now symbol =
        some (.error ⟨"Invalid symbol"⟩) := by
    have hcontract : (r.contracts client).ofSymbol symbol = none := by
      simp only [ChainlinkPriceFetcher.standardSymbols, List.mem_cons, List.not_mem_nil,
        or_false] at hsymbol
      rcases hsymbol with rfl | rfl | rfl | rfl | rfl | rfl <;>
        simp [AggregatorContracts.ofSymbol, PriceReplies.contracts, contractIf, *]
    simp [getTickerWithSymbol, readAnswer, hcontract]
  have hempty : ChainlinkPriceFetcher.collectTickers (some (r.contracts client))
      (r.now client.chainId) .standard = .ok ∅ := by
    rw [ChainlinkPriceFetcher.collectTickers]
    refine congrArg Except.ok (foldl_of_fixed fun symbol hsymbol => ?_)
    rw [ChainlinkPriceFetcher.insertTicker, hskip _ _ hsymbol]
  refine ⟨⟨"No tickers found"⟩, ?_⟩
  rw [PriceReplies.tickersOf, ChainlinkPriceFetcher.getTickers, hempty]
  rfl

/-- The ticker with volume that a source of a mode has for a symbol. -/
def liveTickerOf (r : PriceReplies) (mode : FetchMode) (symbol : String) (fetcher : PriceFetchers) :
    Option PriceResponse :=
  if fetcher.mode = mode then liveTicker symbol (r.tickersOf fetcher) else none

lemma liveTickers_map_source (fetchers : List PriceFetchers) (mode : FetchMode) (symbol : String) :
    liveTickers (fetchers.map r.source) mode symbol =
      fetchers.filterMap (liveTickerOf r mode symbol) := by
  rw [liveTickers, resultsOf, List.filter_map, List.map_map, List.filterMap_map,
    List.filterMap_filter]
  refine List.filterMap_congr fun fetcher _ => ?_
  by_cases hmode : fetcher.mode = mode <;> simp [liveTickerOf, PriceReplies.source, hmode]

/-- The sources that only the checker has return no tickers. -/
lemma liveTickers_initializeSources (mode : FetchMode) (symbol : String) :
    liveTickers ((PriceDeviationChecker.initializeSources clients).map r.source) mode symbol =
      liveTickers ((OraclePriceFeeder.initializeFetchers clients).map r.source) mode symbol := by
  rw [liveTickers_map_source, liveTickers_map_source, PriceDeviationChecker.initializeSources,
    OraclePriceFeeder.initializeFetchers, List.filterMap_append, List.filterMap_append,
    List.filterMap_flatMap, List.filterMap_flatMap]
  refine congrArg _ (List.flatMap_congr fun client _ => ?_)
  have hjpyc : hasChainlinkFeed client.feeds "JPYC" = client.feeds.jpyUsd := rfl
  cases hany : hasAnyChainlinkFeeds client.feeds with
  | true => simp [hjpyc]
  | false =>
    obtain ⟨report, hreport⟩ := @tickersOf_of_no_feeds r client hany
    have hnone : liveTickerOf r mode symbol (.chainlink client .standard) = none := by
      simp [liveTickerOf, hreport, liveTicker]
    simp [hjpyc, hnone]

end Sources

end Prices

end BifrostRelayer
