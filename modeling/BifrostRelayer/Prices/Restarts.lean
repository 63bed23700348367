import BifrostRelayer.Foundation.Runs
import BifrostRelayer.Prices.Sources

/-!
# The price workers over restarts

`run` of the oracle price feeder and of the price deviation checker begins by pushing the market
sources to the list of the worker.  It returns when it cannot ask whether the relayer is selected,
and is then called again on the same worker.  So the list holds every source once for each start,
every source is asked once for each start, and the volumes are multiplied by the number of starts.

A weighted mean does not change when every ticker is counted equally often.  While the sums fit, a
worker feeds the prices that it would feed after its first start: `restarted_feeder_feeds_same` and
`restarted_checker_feeds_same`.

The prices of the two workers agree as well, however often each of them was started:
`market_prices_agree`.
-/

namespace BifrostRelayer

namespace Prices

open Fallible SolidityAbi Std Tally

/-! ### The workers -/

/-- Where a worker stands. -/
inductive WorkerStatus where
  /-- `run` has to be called. -/
  | stopped
  | running
  /-- The task has panicked. -/
  | dead
deriving DecidableEq

/-- The fields of a worker that change. -/
structure PriceWorker where
  marketSources : List PriceFetchers
  dedicatedSource : Option PriceFetchers
  /-- `oracle_manager` of the checker was resolved. -/
  oracleManager : Bool
  status : WorkerStatus

/-- `new`. -/
def PriceWorker.new : PriceWorker := ⟨[], none, false, .stopped⟩

/-- What happens to a worker. -/
inductive WorkerInput where
  /-- `run` is called; for the checker, whether `orc_manager` has replied. -/
  | start (resolved : Bool)
  /-- The next time of the schedule. -/
  | tick (isSelectedRelayer : Except Report Bool) (replies : PriceReplies)

/-- A step of a worker that pushes `fetchers` when it starts and does `work` when it is selected.
The output is what the work has sent, or `none` for a panic. -/
def workerStep {ω : Type} (fetchers : List PriceFetchers)
    (work : PriceWorker → PriceReplies → Option ω) (s : PriceWorker) :
    WorkerInput → Option (PriceWorker × Option (Option ω))
  | .start resolved =>
      if s.status = .stopped then
        some (⟨s.marketSources ++ fetchers, some (.exchangeRate jpycMode),
          s.oracleManager || resolved, .running⟩, none)
      else none
  | .tick isSelectedRelayer replies =>
      if s.status = .running then
        match isSelectedRelayer with
        | .error _ => some ({ s with status := .stopped }, none)
        | .ok false => some (s, none)
        | .ok true =>
            some (if (work s replies).isSome then s else { s with status := .dead },
              some (work s replies))
      else none

/-- The runs of a worker. -/
def workerSystem {ω : Type} (fetchers : List PriceFetchers)
    (work : PriceWorker → PriceReplies → Option ω) :
    LabelledSystem PriceWorker (WorkerInput × Option (Option ω)) where
  init s := s = .new
  step s a s' := workerStep fetchers work s a.1 = some (s', a.2)

/-- The feeder that a worker is. -/
def PriceWorker.feeder (s : PriceWorker) (r : PriceReplies) : OraclePriceFeeder :=
  ⟨s.dedicatedSource.map r.source, s.marketSources.map r.source⟩

/-- The checker that a worker is. -/
def PriceWorker.checker (s : PriceWorker) (r : PriceReplies) : PriceDeviationChecker :=
  ⟨if s.oracleManager then some r.lastOracleData else none, s.dedicatedSource.map r.source,
    s.marketSources.map r.source⟩

/-- What `OraclePriceFeeder::run` does when it is selected. -/
def PriceWorker.feed (s : PriceWorker) (r : PriceReplies) : Option (Option PriceFeed) :=
  if s.marketSources.isEmpty then none else (s.feeder r).fetchAndFeed

/-- What `PriceDeviationChecker::run` does when it is selected. -/
def PriceWorker.check (s : PriceWorker) (r : PriceReplies) : Option (Option DeviationFeed) :=
  (s.checker r).checkAndFeed getDeviationThresholdBps

/-- The runs of the oracle price feeder. -/
def feederSystem (clients : List PriceClient) :
    LabelledSystem PriceWorker (WorkerInput × Option (Option (Option PriceFeed))) :=
  workerSystem (OraclePriceFeeder.initializeFetchers clients) PriceWorker.feed

/-- The runs of the price deviation checker. -/
def checkerSystem (clients : List PriceClient) :
    LabelledSystem PriceWorker (WorkerInput × Option (Option (Option DeviationFeed))) :=
  workerSystem (PriceDeviationChecker.initializeSources clients) PriceWorker.check

/-- How often `run` was called. -/
def startsIn {ω : Type} (tr : List (WorkerInput × ω)) : ℕ :=
  tr.countP fun a => match a.1 with
    | .start _ => true
    | .tick .. => false

/-- A worker right after its first start. -/
def PriceWorker.fresh (fetchers : List PriceFetchers) (oracleManager : Bool) : PriceWorker :=
  ⟨fetchers, some (.exchangeRate jpycMode), oracleManager, .running⟩

/-- What a feeding sends, but for the metadata. -/
def PriceFeed.pairs (feed : PriceFeed) : List B256 × List B256 :=
  (feed.oidBytesList, feed.priceBytesList)

/-- What a check sends, but for the metadata. -/
def DeviationFeed.sent (check : DeviationFeed) : (List B256 × List B256) × List B256 :=
  (check.feed.pairs, check.finalized)

/-- The sums of every symbol fit in a word even if every ticker is counted `k` times. -/
def SumsFitTimes (k : ℕ) (sources : List MarketSource) : Prop :=
  ∀ mode symbol, k * weightedSum (liveTickers sources mode symbol) < 2 ^ 256 ∧
    k * volumeSum (liveTickers sources mode symbol) < 2 ^ 256

/-! ### Copies of a list -/

section Copies

variable {α β : Type} (k : ℕ) (l : List α)

/-- A list `k` times, one after the other. -/
def copies : List α := (List.replicate k l).flatten

lemma copies_succ : copies (k + 1) l = copies k l ++ l := by
  rw [copies, copies, List.replicate_succ', List.flatten_append, List.flatten_singleton]

lemma copies_one : copies 1 l = l := by
  simp [copies]

lemma copies_eq_nil_iff (hk : 1 ≤ k) : copies k l = [] ↔ l = [] := by
  rw [copies, List.flatten_eq_nil_iff]
  constructor
  · intro hall
    exact hall l (List.mem_replicate.mpr ⟨by omega, rfl⟩)
  · rintro rfl l' hl'
    exact (List.mem_replicate.mp hl').2

lemma map_copies (f : α → β) : (copies k l).map f = copies k (l.map f) := by
  rw [copies, copies, List.map_flatten, List.map_replicate]

lemma filter_copies (p : α → Bool) : (copies k l).filter p = copies k (l.filter p) := by
  rw [copies, copies, List.filter_flatten, List.map_replicate]

lemma filterMap_copies (f : α → Option β) :
    (copies k l).filterMap f = copies k (l.filterMap f) := by
  rw [copies, copies, List.filterMap_flatten, List.map_replicate]

lemma sum_copies (l : List ℕ) : (copies k l).sum = k * l.sum := by
  rw [copies, List.sum_flatten, List.map_replicate, List.sum_replicate, smul_eq_mul]

end Copies

/-! ### The means -/

section Means

variable {k : ℕ} {sources sources' : List MarketSource} {mode : FetchMode} {symbol : String}

lemma liveTickers_copies (k : ℕ) (sources : List MarketSource) (mode : FetchMode)
    (symbol : String) :
    liveTickers (copies k sources) mode symbol = copies k (liveTickers sources mode symbol) := by
  rw [liveTickers, resultsOf, filter_copies, map_copies, filterMap_copies]
  rfl

lemma weightedSum_copies (k : ℕ) (tickers : List PriceResponse) :
    weightedSum (copies k tickers) = k * weightedSum tickers := by
  rw [weightedSum, map_copies, sum_copies]
  rfl

lemma volumeSum_copies (k : ℕ) (tickers : List PriceResponse) :
    volumeSum (copies k tickers) = k * volumeSum tickers := by
  rw [volumeSum, map_copies, sum_copies]
  rfl

lemma SumsFitTimes.copies (hfit : SumsFitTimes k sources) (mode : FetchMode) :
    SumsFit (copies k sources) mode := by
  intro symbol
  rw [liveTickers_copies, weightedSum_copies, volumeSum_copies]
  exact hfit mode symbol

lemma SumsFitTimes.once (hfit : SumsFitTimes k sources) (hk : 1 ≤ k) (mode : FetchMode) :
    SumsFit sources mode := by
  intro symbol
  obtain ⟨hweighted, hvolume⟩ := hfit mode symbol
  exact ⟨(Nat.le_mul_of_pos_left _ hk).trans_lt hweighted,
    (Nat.le_mul_of_pos_left _ hk).trans_lt hvolume⟩

/-- The sources have the same average price for every symbol. -/
def SameMeans (sources sources' : List MarketSource) (mode : FetchMode) : Prop :=
  ∀ symbol, (averageOf sources mode symbol).map PriceResponse.price =
    (averageOf sources' mode symbol).map PriceResponse.price

/-- Counting every ticker equally often does not change a mean. -/
theorem sameMeans_copies (hfit : SumsFitTimes k sources) (hk : 1 ≤ k) (mode : FetchMode) :
    SameMeans (copies k sources) sources mode := by
  intro symbol
  by_cases hnil : liveTickers sources mode symbol = []
  · have hcopies : liveTickers (copies k sources) mode symbol = [] := by
      rw [liveTickers_copies, copies_eq_nil_iff _ _ hk, hnil]
    rw [averageOf_eq_none hnil, averageOf_eq_none hcopies]
  · have hcopies : liveTickers (copies k sources) mode symbol ≠ [] := by
      rwa [Ne, liveTickers_copies, copies_eq_nil_iff _ _ hk]
    rw [averageOf_eq_some hnil, averageOf_eq_some hcopies, Option.map_some, Option.map_some]
    have hmean := (isMean_average (hfit.copies mode) hcopies).price_eq
    have hmean' := (isMean_average (hfit.once hk mode) hnil).price_eq
    rw [liveTickers_copies, weightedSum_copies, volumeSum_copies, Nat.mul_div_mul_left _ _ hk,
      ← hmean', BitVec.toNat_inj] at hmean
    rw [liveTickers_copies, hmean]

lemma averageOf_eq_none_iff :
    averageOf sources mode symbol = none ↔ liveTickers sources mode symbol = [] := by
  constructor
  · intro hnone
    by_contra hne
    rw [averageOf_eq_some hne] at hnone
    cases hnone
  · exact averageOf_eq_none

lemma SameMeans.nil_iff (h : SameMeans sources sources' mode) (symbol : String) :
    liveTickers sources mode symbol = [] ↔ liveTickers sources' mode symbol = [] := by
  rw [← averageOf_eq_none_iff, ← averageOf_eq_none_iff, ← Option.map_eq_none_iff, h symbol,
    Option.map_eq_none_iff]

lemma SameMeans.live (h : SameMeans sources sources' mode)
    (hlive : ∃ symbol, liveTickers sources mode symbol ≠ []) :
    ∃ symbol, liveTickers sources' mode symbol ≠ [] := by
  obtain ⟨symbol, hne⟩ := hlive
  exact ⟨symbol, (h.nil_iff symbol).not.mp hne⟩

end Means

/-! ### Maps with the same prices -/

/-- An entry without its volume. -/
def stripEntry (entry : String × PriceResponse) : String × PriceResponse :=
  (entry.1, ⟨entry.2.price, 0⟩)

/-- A map without its volumes. -/
def stripVolumes (prices : Tickers) : Tickers := prices.map fun _ response => ⟨response.price, 0⟩

lemma toList_stripVolumes (prices : Tickers) :
    (stripVolumes prices).toList = prices.toList.map stripEntry :=
  ExtTreeMap.toList_map

/-- Two maps have the same symbols with the same prices. -/
def SamePrices (prices prices' : Tickers) : Prop := stripVolumes prices = stripVolumes prices'

section SamePrices

variable {prices prices' : Tickers}

lemma samePrices_iff : SamePrices prices prices' ↔ ∀ symbol : String,
    prices[symbol]?.map PriceResponse.price = prices'[symbol]?.map PriceResponse.price := by
  have hstrip (prices : Tickers) (symbol : String) : (stripVolumes prices)[symbol]? =
      (prices[symbol]?.map PriceResponse.price).map fun price => ⟨price, 0⟩ := by
    rw [stripVolumes, ExtTreeMap.getElem?_map, Option.map_map]
    rfl
  have hinj : Function.Injective fun price : U256 => (⟨price, 0⟩ : PriceResponse) :=
    fun price price' heq => congrArg PriceResponse.price heq
  constructor
  · intro h symbol
    have hsymbol := hstrip prices symbol
    rw [h, hstrip prices' symbol] at hsymbol
    exact (Option.map_injective hinj hsymbol).symm
  · intro h
    apply ExtTreeMap.ext_getElem?
    intro symbol
    rw [hstrip, hstrip, h symbol]

lemma SamePrices.refl (prices : Tickers) : SamePrices prices prices := rfl

lemma SamePrices.union {more more' : Tickers} (h : SamePrices prices prices')
    (hmore : SamePrices more more') : SamePrices (prices ∪ more) (prices' ∪ more') := by
  rw [samePrices_iff] at h hmore ⊢
  intro symbol
  rw [ExtTreeMap.getElem?_union, ExtTreeMap.getElem?_union, Option.map_or, Option.map_or, h symbol,
    hmore symbol]

lemma SamePrices.isEmpty_eq (h : SamePrices prices prices') :
    prices.isEmpty = prices'.isEmpty := by
  rw [Bool.eq_iff_iff, isEmpty_iff_getElem?, isEmpty_iff_getElem?]
  refine forall_congr' fun symbol => ?_
  rw [← Option.map_eq_none_iff, samePrices_iff.mp h symbol, Option.map_eq_none_iff]

lemma SamePrices.map_stripEntry (h : SamePrices prices prices') :
    prices.toList.map stripEntry = prices'.toList.map stripEntry := by
  rw [← toList_stripVolumes, ← toList_stripVolumes, h]

/-- A feeding sends the prices without the volumes. -/
lemma SamePrices.pairs_eq (h : SamePrices prices prices') :
    (buildAndSendTransaction prices).map PriceFeed.pairs =
      (buildAndSendTransaction prices').map PriceFeed.pairs := by
  have hpairs (prices : Tickers) : (buildAndSendTransaction prices).map PriceFeed.pairs =
      (prices.toList.map stripEntry).foldlM pushPrice ([], []) := by
    rw [List.foldlM_map, buildAndSendTransaction, Option.map_map]
    exact Option.map_id'
  rw [hpairs, hpairs, h.map_stripEntry]

/-- A check reads the prices without the volumes. -/
lemma SamePrices.sent_eq (h : SamePrices prices prices') (threshold : String → UInt64)
    (lastOracleData : B256 → Except Report B256) :
    (feedDeviated threshold lastOracleData prices).map DeviationFeed.sent =
      (feedDeviated threshold lastOracleData prices').map DeviationFeed.sent := by
  have hseen (prices : Tickers) : prices.toList.filterMap (seenPrice threshold lastOracleData) =
      (prices.toList.map stripEntry).filterMap (seenPrice threshold lastOracleData) := by
    rw [List.filterMap_map]
    rfl
  obtain ⟨responses, hfeed⟩ := feedDeviated_eq threshold lastOracleData prices
  obtain ⟨responses', hfeed'⟩ := feedDeviated_eq threshold lastOracleData prices'
  rw [hfeed, hfeed', hseen, hseen, h.map_stripEntry]
  dsimp only
  split_ifs <;> rfl

end SamePrices

/-! ### The fetches -/

/-- Two fetches return the same prices, or both fail. -/
def SameResults {ε : Type} : Except ε Tickers → Except ε Tickers → Prop
  | .ok prices, .ok prices' => SamePrices prices prices'
  | .error _, .error _ => True
  | _, _ => False

lemma SamePrices.extendOk {ε : Type} {prices prices' : Tickers} (h : SamePrices prices prices')
    {result result' : Except ε Tickers} (hresult : SameResults result result') :
    SamePrices (extendOk prices result) (extendOk prices' result') := by
  cases result with
  | ok more =>
    cases result' with
    | ok more' => exact h.union hresult
    | error _ => exact hresult.elim
  | error _ =>
    cases result' with
    | ok _ => exact hresult.elim
    | error _ => exact h

section Fetches

variable {sources sources' : List MarketSource} {mode : FetchMode}

/-- The feeder gets the same prices from sources with the same means. -/
lemma feeder_sameResults (hfit : SumsFit sources mode) (hfit' : SumsFit sources' mode)
    (h : SameMeans sources sources' mode) :
    ∃ result result', OraclePriceFeeder.fetchVwapPrices sources mode = some result ∧
      OraclePriceFeeder.fetchVwapPrices sources' mode = some result' ∧
      SameResults result result' := by
  by_cases hlive : ∃ symbol, liveTickers sources mode symbol ≠ []
  · obtain ⟨fed, hfetch, hfed⟩ := feeder_fetchVwapPrices_eq hfit.volumesNonzero hlive
    obtain ⟨fed', hfetch', hfed'⟩ := feeder_fetchVwapPrices_eq hfit'.volumesNonzero (h.live hlive)
    refine ⟨.ok fed, .ok fed', hfetch, hfetch', samePrices_iff.mpr fun symbol => ?_⟩
    rw [hfed, hfed', Option.map_or, Option.map_or]
    exact congrArg (Option.or · _) (h symbol)
  · push Not at hlive
    have hnone : ∀ symbol, liveTickers sources' mode symbol = [] :=
      fun symbol => (h.nil_iff symbol).mp (hlive symbol)
    exact ⟨_, _, fetched_eq_error_iff.mpr hlive, fetched_eq_error_iff.mpr hnone, trivial⟩

/-- The checker gets the same prices from sources with the same means. -/
lemma checker_sameResults (hfit : SumsFit sources mode) (hfit' : SumsFit sources' mode)
    (h : SameMeans sources sources' mode) :
    ∃ result result', PriceDeviationChecker.fetchVwapPrices sources mode = some result ∧
      PriceDeviationChecker.fetchVwapPrices sources' mode = some result' ∧
      SameResults result result' := by
  by_cases hlive : ∃ symbol, liveTickers sources mode symbol ≠ []
  · obtain ⟨checked, hfetch, hchecked⟩ := checker_fetchVwapPrices_eq hfit.volumesNonzero hlive
    obtain ⟨checked', hfetch', hchecked'⟩ :=
      checker_fetchVwapPrices_eq hfit'.volumesNonzero (h.live hlive)
    refine ⟨.ok checked, .ok checked', hfetch, hfetch', samePrices_iff.mpr fun symbol => ?_⟩
    rw [hchecked, hchecked']
    exact h symbol
  · push Not at hlive
    have hnone : ∀ symbol, liveTickers sources' mode symbol = [] :=
      fun symbol => (h.nil_iff symbol).mp (hlive symbol)
    exact ⟨_, _, fetched_eq_error_iff.mpr hlive, fetched_eq_error_iff.mpr hnone, trivial⟩

/-- What is collected with the dedicated source, from prices and a fallback that agree. -/
lemma extendDedicated_samePrices {prices prices' : Tickers} (h : SamePrices prices prices')
    {fallback fallback' : Except FmtError Tickers} (hfallback : SameResults fallback fallback')
    (tickers : Except Report Tickers) :
    ∃ collected collected', extendDedicated (some fallback) prices tickers = some collected ∧
      extendDedicated (some fallback') prices' tickers = some collected' ∧
      SamePrices collected collected' := by
  cases tickers with
  | ok tickers => exact ⟨_, _, rfl, rfl, h.union (.refl tickers)⟩
  | error report => exact ⟨_, _, rfl, rfl, h.extendOk hfallback⟩

/-- A feeding sends the same with sources that have the same means. -/
theorem fetchAndFeed_pairs_eq (hfit : ∀ mode, SumsFit sources mode)
    (hfit' : ∀ mode, SumsFit sources' mode) (h : ∀ mode, SameMeans sources sources' mode)
    (dedicatedSource : Option MarketSource) :
    ((OraclePriceFeeder.mk dedicatedSource sources).fetchAndFeed).map (Option.map PriceFeed.pairs) =
      ((OraclePriceFeeder.mk dedicatedSource sources').fetchAndFeed).map
        (Option.map PriceFeed.pairs) := by
  have hcollected : ∃ collected collected',
      (OraclePriceFeeder.mk dedicatedSource sources).collectPrices = some collected ∧
      (OraclePriceFeeder.mk dedicatedSource sources').collectPrices = some collected' ∧
      SamePrices collected collected' := by
    obtain ⟨result, result', hfetch, hfetch', hresult⟩ :=
      feeder_sameResults (hfit .standard) (hfit' .standard) (h .standard)
    have hstandard := (SamePrices.refl ∅).extendOk hresult
    simp only [OraclePriceFeeder.collectPrices, hfetch, hfetch', Option.bind_eq_bind,
      Option.bind_some]
    cases dedicatedSource with
    | none => exact ⟨_, _, rfl, rfl, hstandard⟩
    | some source =>
      obtain ⟨fallback, fallback', hfallback, hfallback', hsame⟩ :=
        feeder_sameResults (hfit source.mode) (hfit' source.mode) (h source.mode)
      simp only [hfallback, hfallback']
      exact extendDedicated_samePrices hstandard hsame source.tickers
  obtain ⟨collected, collected', hcollect, hcollect', hsame⟩ := hcollected
  simp only [OraclePriceFeeder.fetchAndFeed, hcollect, hcollect', Option.bind_eq_bind,
    Option.bind_some, hsame.isEmpty_eq]
  split_ifs
  · rfl
  · have hpairs := hsame.pairs_eq
    cases hbuild : buildAndSendTransaction collected <;>
      cases hbuild' : buildAndSendTransaction collected' <;> simp_all

/-- A check sends the same with sources that have the same means. -/
theorem checkAndFeed_sent_eq (hfit : ∀ mode, SumsFit sources mode)
    (hfit' : ∀ mode, SumsFit sources' mode) (h : ∀ mode, SameMeans sources sources' mode)
    (oracleManager : Option (B256 → Except Report B256)) (dedicatedSource : Option MarketSource)
    (threshold : String → UInt64) :
    ((PriceDeviationChecker.mk oracleManager dedicatedSource sources).checkAndFeed threshold).map
        (Option.map DeviationFeed.sent) =
      ((PriceDeviationChecker.mk oracleManager dedicatedSource sources').checkAndFeed
        threshold).map (Option.map DeviationFeed.sent) := by
  cases oracleManager with
  | none => rfl
  | some lastOracleData =>
    obtain ⟨result, result', hfetch, hfetch', hresult⟩ :=
      checker_sameResults (hfit .standard) (hfit' .standard) (h .standard)
    obtain ⟨fallback, fallback', hfallback, hfallback', hsame⟩ :=
      checker_sameResults (hfit jpycMode) (hfit' jpycMode) (h jpycMode)
    rw [jpycMode] at hfallback hfallback'
    simp only [PriceDeviationChecker.checkAndFeed, PriceDeviationChecker.fetchMarketPrices, hfetch,
      hfetch', hfallback, hfallback', Option.bind_eq_bind, Option.bind_some]
    cases result with
    | error _ =>
      cases result' with
      | error _ => rfl
      | ok _ => exact hresult.elim
    | ok prices =>
      cases result' with
      | error _ => exact hresult.elim
      | ok prices' =>
        cases dedicatedSource with
        | none =>
          simp only [Option.bind_some, Option.pure_def, Option.map_some]
          rw [SamePrices.sent_eq hresult]
        | some source =>
          obtain ⟨collected, collected', hcollect, hcollect', hcollected⟩ :=
            extendDedicated_samePrices hresult hsame source.tickers
          simp only [hcollect, hcollect', Option.bind_some, Option.pure_def, Option.map_some]
          rw [hcollected.sent_eq]

end Fetches

/-! ### The runs -/

section Runs

variable {ω : Type} {fetchers : List PriceFetchers} {work : PriceWorker → PriceReplies → Option ω}
  {tr : List (WorkerInput × Option (Option ω))} {s : PriceWorker}

/-- Some call of `run` has resolved the oracle manager. -/
def resolvedIn (tr : List (WorkerInput × Option (Option ω))) : Bool :=
  tr.any fun a => match a.1 with
    | .start resolved => resolved
    | .tick .. => false

/-- A worker after a run. -/
structure WorkerHistory (fetchers : List PriceFetchers)
    (tr : List (WorkerInput × Option (Option ω))) (s : PriceWorker) : Prop where
  marketSources : s.marketSources = copies (startsIn tr) fetchers
  oracleManager : s.oracleManager = resolvedIn tr
  running : s.status = .running →
    1 ≤ startsIn tr ∧ s.dedicatedSource = some (.exchangeRate jpycMode)

/-- A worker is started over and over, and nothing is taken back. -/
lemma workerHistory_of_run (h : (workerSystem fetchers work).Run tr s) :
    WorkerHistory fetchers tr s := by
  refine h.induction (P := WorkerHistory fetchers) ?_ ?_
  · rintro s rfl
    exact ⟨rfl, rfl, fun hrunning => by cases hrunning⟩
  · rintro tr s ⟨i, o⟩ s' - hist hstep
    have hmore : startsIn (tr ++ [(i, o)]) = startsIn tr + startsIn [(i, o)] :=
      List.countP_append
    have hresolved : resolvedIn (tr ++ [(i, o)]) = (resolvedIn tr || resolvedIn [(i, o)]) :=
      List.any_append
    change workerStep fetchers work s i = some (s', o) at hstep
    cases i with
    | start resolved =>
      simp only [workerStep, Option.ite_none_right_eq_some, Option.some.injEq,
        Prod.mk.injEq] at hstep
      obtain ⟨-, rfl, rfl⟩ := hstep
      have hone : startsIn [(WorkerInput.start resolved, (none : Option (Option ω)))] = 1 := rfl
      refine ⟨?_, ?_, fun _ => ⟨by omega, rfl⟩⟩
      · rw [hmore, hone, copies_succ, hist.marketSources]
      · rw [hresolved, hist.oracleManager]
        simp [resolvedIn]
    | tick isSelectedRelayer replies =>
      have hzero : startsIn [(WorkerInput.tick isSelectedRelayer replies, o)] = 0 := rfl
      have hfalse : resolvedIn [(WorkerInput.tick isSelectedRelayer replies, o)] = false := rfl
      rw [hzero, Nat.add_zero] at hmore
      rw [hfalse, Bool.or_false] at hresolved
      simp only [workerStep] at hstep
      split at hstep
      case isFalse => cases hstep
      case isTrue hrunning =>
        have hstays : s'.marketSources = s.marketSources ∧ s'.oracleManager = s.oracleManager ∧
            s'.dedicatedSource = s.dedicatedSource := by
          cases isSelectedRelayer with
          | error report =>
            obtain ⟨rfl, -⟩ := Prod.mk.inj (Option.some.inj hstep)
            exact ⟨rfl, rfl, rfl⟩
          | ok selected =>
            cases selected with
            | false =>
              obtain ⟨rfl, -⟩ := Prod.mk.inj (Option.some.inj hstep)
              exact ⟨rfl, rfl, rfl⟩
            | true =>
              obtain ⟨rfl, -⟩ := Prod.mk.inj (Option.some.inj hstep)
              split_ifs <;> exact ⟨rfl, rfl, rfl⟩
        obtain ⟨hmarket, hmanager, hdedicated⟩ := hstays
        refine ⟨?_, ?_, fun _ => ?_⟩
        · rw [hmarket, hmore, hist.marketSources]
        · rw [hmanager, hresolved, hist.oracleManager]
        · rw [hmore, hdedicated]
          exact hist.running hrunning

/-- What a worker does when it is selected: its work, as a worker that was started once for each
call of `run` before. -/
lemma work_of_run {before after : List (WorkerInput × Option (Option ω))} {r : PriceReplies}
    {o : Option (Option ω)}
    (h : (workerSystem fetchers work).Run (before ++ (.tick (.ok true) r, o) :: after) s) :
    1 ≤ startsIn before ∧
      o = some (work (.fresh (copies (startsIn before) fetchers) (resolvedIn before)) r) := by
  obtain ⟨s₁, s₂, hrun, hstep⟩ := h.split
  have hist := workerHistory_of_run hrun
  change workerStep fetchers work s₁ (.tick (.ok true) r) = some (s₂, o) at hstep
  simp only [workerStep, Option.ite_none_right_eq_some, Option.some.injEq, Prod.mk.injEq] at hstep
  obtain ⟨hrunning, -, rfl⟩ := hstep
  obtain ⟨hstarts, hdedicated⟩ := hist.running hrunning
  refine ⟨hstarts, ?_⟩
  have hworker : s₁ = .fresh (copies (startsIn before) fetchers) (resolvedIn before) := by
    obtain ⟨marketSources, dedicatedSource, oracleManager, status⟩ := s₁
    obtain rfl := hist.marketSources
    obtain rfl := hist.oracleManager
    obtain rfl : status = .running := hrunning
    obtain rfl : dedicatedSource = some (.exchangeRate jpycMode) := hdedicated
    rfl
  rw [hworker]

end Runs

/-! ### The feeder and the checker -/

section Workers

variable (clients : List PriceClient) (r : PriceReplies)

lemma map_source_copies (k : ℕ) (fetchers : List PriceFetchers) :
    (copies k fetchers).map r.source = copies k (fetchers.map r.source) :=
  map_copies k fetchers r.source

lemma initializeFetchers_ne_nil : OraclePriceFeeder.initializeFetchers clients ≠ [] := by
  simp [OraclePriceFeeder.initializeFetchers, exchanges]

/-- The feeder never runs out of market sources. -/
lemma feed_fresh {k : ℕ} (hk : 1 ≤ k) (oracleManager : Bool) :
    (PriceWorker.fresh (copies k (OraclePriceFeeder.initializeFetchers clients)) oracleManager).feed
        r =
      (OraclePriceFeeder.mk (some (r.source (.exchangeRate jpycMode)))
        (copies k ((OraclePriceFeeder.initializeFetchers clients).map r.source))).fetchAndFeed := by
  have hsome : (copies k (OraclePriceFeeder.initializeFetchers clients)).isEmpty = false := by
    rw [List.isEmpty_eq_false_iff, Ne, copies_eq_nil_iff _ _ hk]
    exact initializeFetchers_ne_nil clients
  rw [PriceWorker.feed, PriceWorker.fresh, if_neg (by simp [hsome]), PriceWorker.feeder,
    map_source_copies]
  rfl

lemma check_fresh (k : ℕ) (oracleManager : Bool) :
    (PriceWorker.fresh (copies k (PriceDeviationChecker.initializeSources clients)) oracleManager).check
        r =
      (PriceDeviationChecker.mk (if oracleManager then some r.lastOracleData else none)
        (some (r.source (.exchangeRate jpycMode)))
        (copies k ((PriceDeviationChecker.initializeSources clients).map r.source))).checkAndFeed
          getDeviationThresholdBps := by
  rw [PriceWorker.check, PriceWorker.fresh, PriceWorker.checker, map_source_copies]
  rfl

variable {clients r}

/-- Whenever the feeder is selected, however often it was started before, it has market sources, and
it feeds the prices that it would feed after its first start, while the sums of as many copies of
the tickers fit in a word. -/
theorem restarted_feeder_feeds_same
    {before after : List (WorkerInput × Option (Option (Option PriceFeed)))}
    {o : Option (Option (Option PriceFeed))} {s : PriceWorker}
    (h : (feederSystem clients).Run (before ++ (.tick (.ok true) r, o) :: after) s)
    (hfit : SumsFitTimes (startsIn before)
      ((OraclePriceFeeder.initializeFetchers clients).map r.source)) :
    1 ≤ startsIn before ∧
    (∀ s₁, (feederSystem clients).Run before s₁ → s₁.marketSources ≠ []) ∧ ∃ sent, o = some sent ∧
      sent.map (Option.map PriceFeed.pairs) =
        ((PriceWorker.fresh (OraclePriceFeeder.initializeFetchers clients) false).feed r).map
          (Option.map PriceFeed.pairs) := by
  obtain ⟨hstarts, rfl⟩ := work_of_run h
  refine ⟨hstarts, fun s₁ hrun => ?_, _, rfl, ?_⟩
  · rw [(workerHistory_of_run hrun).marketSources, Ne, copies_eq_nil_iff _ _ hstarts]
    exact initializeFetchers_ne_nil clients
  have hone := feed_fresh clients r le_rfl false
  rw [copies_one, copies_one] at hone
  rw [feed_fresh clients r hstarts, hone]
  exact fetchAndFeed_pairs_eq hfit.copies (hfit.once hstarts) (sameMeans_copies hfit hstarts) _

/-- Whenever the checker is selected, however often it was started before, it feeds and finalizes
the assets that it would feed and finalize after its first start with the same oracle manager, while
the sums of as many copies of the tickers fit in a word. -/
theorem restarted_checker_feeds_same
    {before after : List (WorkerInput × Option (Option (Option DeviationFeed)))}
    {o : Option (Option (Option DeviationFeed))} {s : PriceWorker}
    (h : (checkerSystem clients).Run (before ++ (.tick (.ok true) r, o) :: after) s)
    (hfit : SumsFitTimes (startsIn before)
      ((PriceDeviationChecker.initializeSources clients).map r.source)) :
    1 ≤ startsIn before ∧ ∃ sent, o = some sent ∧
      sent.map (Option.map DeviationFeed.sent) =
        ((PriceWorker.fresh (PriceDeviationChecker.initializeSources clients)
          (resolvedIn before)).check r).map (Option.map DeviationFeed.sent) := by
  obtain ⟨hstarts, rfl⟩ := work_of_run h
  refine ⟨hstarts, _, rfl, ?_⟩
  have hone := check_fresh clients r 1 (resolvedIn before)
  rw [copies_one, copies_one] at hone
  rw [check_fresh, hone]
  exact checkAndFeed_sent_eq hfit.copies (hfit.once hstarts) (sameMeans_copies hfit hstarts) _ _ _

/-- The market prices of the feeder and of the checker agree, however often each of them was
started: both fetches fail, or the feeder has the prices of the checker, and one dollar for the
stable coins that are missing there. -/
theorem market_prices_agree {tr : List (WorkerInput × Option (Option (Option PriceFeed)))}
    {tr' : List (WorkerInput × Option (Option (Option DeviationFeed)))} {s s' : PriceWorker}
    (h : (feederSystem clients).Run tr s) (h' : (checkerSystem clients).Run tr' s')
    (hrunning : s.status = .running) (hrunning' : s'.status = .running)
    (hfit : SumsFitTimes (max (startsIn tr) (startsIn tr'))
      ((PriceDeviationChecker.initializeSources clients).map r.source)) (mode : FetchMode) :
    OraclePriceFeeder.fetchVwapPrices (s.marketSources.map r.source) mode = some (.error ⟨⟩) ∧
        PriceDeviationChecker.fetchVwapPrices (s'.marketSources.map r.source) mode =
          some (.error ⟨⟩) ∨
      ∃ fed checked,
        OraclePriceFeeder.fetchVwapPrices (s.marketSources.map r.source) mode = some (.ok fed) ∧
        PriceDeviationChecker.fetchVwapPrices (s'.marketSources.map r.source) mode =
          some (.ok checked) ∧
        ∀ symbol : String, fed[symbol]?.map PriceResponse.price =
          (checked[symbol]?.map PriceResponse.price).or
            (if symbol ∈ stables mode then some oneEther else none) := by
  have hist := workerHistory_of_run h
  have hist' := workerHistory_of_run h'
  have hstarts := (hist.running hrunning).1
  have hstarts' := (hist'.running hrunning').1
  have hsums (k : ℕ) (hk : k ≤ max (startsIn tr) (startsIn tr')) :
      SumsFitTimes k ((PriceDeviationChecker.initializeSources clients).map r.source) := by
    intro mode symbol
    obtain ⟨hweighted, hvolume⟩ := hfit mode symbol
    exact ⟨(Nat.mul_le_mul_right _ hk).trans_lt hweighted,
      (Nat.mul_le_mul_right _ hk).trans_lt hvolume⟩
  have hfed : SumsFitTimes (startsIn tr)
      ((OraclePriceFeeder.initializeFetchers clients).map r.source) := by
    intro mode symbol
    rw [← liveTickers_initializeSources]
    exact hsums _ (le_max_left _ _) mode symbol
  have hchecked := hsums _ (le_max_right (startsIn tr) (startsIn tr'))
  -- Both workers have the means of one copy of the sources of the checker.
  have hsame : SameMeans
      (copies (startsIn tr) ((OraclePriceFeeder.initializeFetchers clients).map r.source))
      (copies (startsIn tr') ((PriceDeviationChecker.initializeSources clients).map r.source))
      mode := by
    intro symbol
    rw [sameMeans_copies hfed hstarts mode symbol, sameMeans_copies hchecked hstarts' mode symbol,
      averageOf, averageOf, liveTickers_initializeSources]
  rw [hist.marketSources, hist'.marketSources, map_source_copies, map_source_copies]
  by_cases hlive : ∃ symbol, liveTickers (copies (startsIn tr)
      ((OraclePriceFeeder.initializeFetchers clients).map r.source)) mode symbol ≠ []
  · obtain ⟨fed, hfetch, hlookup⟩ :=
      feeder_fetchVwapPrices_eq (hfed.copies mode).volumesNonzero hlive
    obtain ⟨checked, hfetch', hlookup'⟩ :=
      checker_fetchVwapPrices_eq (hchecked.copies mode).volumesNonzero (hsame.live hlive)
    refine .inr ⟨fed, checked, hfetch, hfetch', fun symbol => ?_⟩
    rw [hlookup, hlookup', Option.map_or, apply_ite (Option.map PriceResponse.price)]
    exact congrArg (Option.or · _) (hsame symbol)
  · push Not at hlive
    refine .inl ⟨fetched_eq_error_iff.mpr hlive, fetched_eq_error_iff.mpr fun symbol => ?_⟩
    exact (hsame.nil_iff symbol).mp (hlive symbol)

end Workers

/-! ### A sample -/

/-- A chain with a feed for one symbol. -/
def sampleClient : PriceClient := ⟨1, ⟨false, false, false, true, false, false, false⟩⟩

/-- That chain, and a chain without feeds, which only the checker asks. -/
def sampleClients : List PriceClient :=
  [sampleClient, ⟨10, ⟨false, false, false, false, false, false, false⟩⟩]

/-- Binance and Chainlink have a price for the symbol, and nobody else replies. -/
def sampleReplies : PriceReplies where
  getTickers
    | .binance => .ok ((∅ : Tickers).insert "BTC" ⟨100, 3⟩)
    | _ => .error ⟨"timeout"⟩
  aggregator _ _ := ⟨.ok ⟨11000, 1000⟩, .ok 8⟩
  now _ _ := .ok 1060
  lastOracleData _ := .ok (priceBytes 50)

/-- The ticker of the feed. -/
def sampleTicker : PriceResponse := ⟨.ofNat 256 (11 * 10 ^ 13), .ofNat 256 (10 ^ 22)⟩

lemma tickersOf_sampleClient : sampleReplies.tickersOf (.chainlink sampleClient .standard) =
    .ok ((∅ : Tickers).insert "BTC" sampleTicker) := by
  rfl

/-- The ticker of a source that has one. -/
lemma liveTicker_insert {ticker : PriceResponse} (hvolume : ticker.volume ≠ 0)
    (name symbol : String) :
    liveTicker symbol (.ok ((∅ : Tickers).insert name ticker)) =
      if symbol = name then some ticker else none := by
  by_cases hname : symbol = name
  · subst hname
    simpa [liveTicker] using hvolume
  · have hnone : ((∅ : Tickers).insert name ticker)[symbol]? = none := by simp [Ne.symm hname]
    rw [liveTicker, hnone, if_neg hname]
    rfl

/-- The tickers that the feeder sees. -/
lemma liveTickers_sampleReplies (mode : FetchMode) (symbol : String) :
    liveTickers ((OraclePriceFeeder.initializeFetchers sampleClients).map sampleReplies.source) mode
        symbol =
      if mode = .standard ∧ symbol = "BTC" then [⟨100, 3⟩, sampleTicker] else [] := by
  rw [liveTickers_map_source]
  have hfetchers : OraclePriceFeeder.initializeFetchers sampleClients =
      exchanges ++ [.chainlink sampleClient .standard] := rfl
  rw [hfetchers]
  split
  next hboth =>
    obtain ⟨rfl, rfl⟩ := hboth
    decide +kernel
  next hnot =>
    refine List.filterMap_eq_nil_iff.mpr fun fetcher hfetcher => ?_
    by_cases hmode : mode = .standard
    · have hbtc : symbol ≠ "BTC" := fun hbtc => hnot ⟨hmode, hbtc⟩
      simp only [exchanges, List.cons_append, List.nil_append, List.mem_cons, List.not_mem_nil,
        or_false] at hfetcher
      have hbinance : liveTicker symbol (sampleReplies.tickersOf .binance) = none :=
        (liveTicker_insert (by decide) "BTC" symbol).trans (if_neg hbtc)
      rcases hfetcher with rfl | rfl | rfl | rfl | rfl | rfl | rfl
      · rw [liveTickerOf, hbinance, ite_self]
      · exact ite_self _
      · exact ite_self _
      · exact ite_self _
      · exact ite_self _
      · exact ite_self _
      · rw [liveTickerOf, tickersOf_sampleClient, liveTicker_insert (by decide), if_neg hbtc,
          ite_self]
    · have hstandard : ∀ fetcher ∈ exchanges ++ [.chainlink sampleClient .standard],
          fetcher.mode = .standard := by
        decide
      exact if_neg fun heq => hmode (heq.symm.trans (hstandard fetcher hfetcher))

lemma sumsFitTimes_sampleReplies :
    SumsFitTimes 2
      ((OraclePriceFeeder.initializeFetchers sampleClients).map sampleReplies.source) := by
  intro mode symbol
  rw [liveTickers_sampleReplies]
  split_ifs <;> decide

lemma sumsFitTimes_sampleReplies' :
    SumsFitTimes 2
      ((PriceDeviationChecker.initializeSources sampleClients).map sampleReplies.source) := by
  intro mode symbol
  rw [liveTickers_initializeSources]
  exact sumsFitTimes_sampleReplies mode symbol

/-- A worker is started, cannot ask whether it is selected, and is started again. -/
def restartedTrace {ω : Type} : List (WorkerInput × Option (Option ω)) :=
  [(.start true, none), (.tick (.error ⟨"timeout"⟩) sampleReplies, none), (.start true, none)]

/-- The worker behind that. -/
def restarted (fetchers : List PriceFetchers) : PriceWorker :=
  ⟨fetchers ++ fetchers, some (.exchangeRate jpycMode), true, .running⟩

lemma run_restartedTrace {ω : Type} (fetchers : List PriceFetchers)
    (work : PriceWorker → PriceReplies → Option ω) :
    (workerSystem fetchers work).Run restartedTrace (restarted fetchers) := by
  have hnew : (workerSystem fetchers work).Run [] .new := .start rfl
  have hstart : (workerSystem fetchers work).Run [(.start true, none)]
      ⟨[] ++ fetchers, some (.exchangeRate jpycMode), true, .running⟩ :=
    hnew.snoc rfl
  have hfail : (workerSystem fetchers work).Run
      [(.start true, none), (.tick (.error ⟨"timeout"⟩) sampleReplies, none)]
      ⟨[] ++ fetchers, some (.exchangeRate jpycMode), true, .stopped⟩ := hstart.snoc rfl
  exact hfail.snoc rfl

lemma run_selected {ω : Type} (fetchers : List PriceFetchers)
    (work : PriceWorker → PriceReplies → Option ω) :
    ∃ s, (workerSystem fetchers work).Run (restartedTrace ++
      (.tick (.ok true) sampleReplies, some (work (restarted fetchers) sampleReplies)) :: []) s :=
  ⟨_, (run_restartedTrace fetchers work).snoc rfl⟩

/-- The next feeding is that of a fresh feeder. -/
theorem restarted_feeder_sample : ∃ sent,
    (restarted (OraclePriceFeeder.initializeFetchers sampleClients)).feed sampleReplies = sent ∧
      sent.map (Option.map PriceFeed.pairs) =
        ((PriceWorker.fresh (OraclePriceFeeder.initializeFetchers sampleClients) false).feed
          sampleReplies).map (Option.map PriceFeed.pairs) := by
  obtain ⟨s, hrun⟩ := run_selected (OraclePriceFeeder.initializeFetchers sampleClients)
    PriceWorker.feed
  obtain ⟨-, -, sent, hsent, hpairs⟩ := @restarted_feeder_feeds_same sampleClients sampleReplies
    _ _ _ _ hrun sumsFitTimes_sampleReplies
  exact ⟨sent, Option.some.inj hsent, hpairs⟩

/-- The next check is that of a fresh checker. -/
theorem restarted_checker_sample : ∃ sent,
    (restarted (PriceDeviationChecker.initializeSources sampleClients)).check sampleReplies = sent ∧
      sent.map (Option.map DeviationFeed.sent) =
        ((PriceWorker.fresh (PriceDeviationChecker.initializeSources sampleClients) true).check
          sampleReplies).map (Option.map DeviationFeed.sent) := by
  obtain ⟨s, hrun⟩ := run_selected (PriceDeviationChecker.initializeSources sampleClients)
    PriceWorker.check
  obtain ⟨-, sent, hsent, hpairs⟩ := @restarted_checker_feeds_same sampleClients sampleReplies
    _ _ _ _ hrun sumsFitTimes_sampleReplies'
  exact ⟨sent, Option.some.inj hsent, hpairs⟩

/-- The feeder and the checker were restarted with different lists of sources, and agree on the mean
of the exchange and of the feed. -/
theorem market_prices_agree_sample :
    OraclePriceFeeder.initializeFetchers sampleClients ≠
        PriceDeviationChecker.initializeSources sampleClients ∧
      ∃ fed checked,
        OraclePriceFeeder.fetchVwapPrices
          ((restarted (OraclePriceFeeder.initializeFetchers sampleClients)).marketSources.map
            sampleReplies.source) .standard = some (.ok fed) ∧
        PriceDeviationChecker.fetchVwapPrices
          ((restarted (PriceDeviationChecker.initializeSources sampleClients)).marketSources.map
            sampleReplies.source) .standard = some (.ok checked) ∧
        fed["BTC"]?.map PriceResponse.price = checked["BTC"]?.map PriceResponse.price := by
  refine ⟨by decide, ?_⟩
  rcases @market_prices_agree sampleClients sampleReplies _ _ _ _
      (run_restartedTrace _ PriceWorker.feed) (run_restartedTrace _ PriceWorker.check) rfl rfl
      sumsFitTimes_sampleReplies' .standard with ⟨herror, -⟩ | ⟨fed, checked, hfed, hchecked, hagree⟩
  · unfold OraclePriceFeeder.fetchVwapPrices at herror
    have hbtc := fetched_eq_error_iff.mp herror "BTC"
    exact absurd hbtc (by decide +kernel)
  · refine ⟨fed, checked, hfed, hchecked, ?_⟩
    rw [hagree "BTC", if_neg (by decide), Option.or_none]

end Prices

end BifrostRelayer
