import BifrostRelayer.Evm.BootstrapRange
import BifrostRelayer.Foundation.Fallible
import BifrostRelayer.Foundation.Loops

/-!
# Fetching the logs of a range of blocks in chunks

Nodes limit the range of a query for logs.  The bootstrap therefore fetches its range in chunks,
with a loop that stands four times in the source: in `get_historical_logs`, and in
`get_bootstrap_events` of the socket relay handler, of the socket queue poller and of the round-up
emitter.  Both bounds of a query are inclusive, and block numbers are `u64`.

The loop is a step function on the next block, the queries made and the logs collected, where an
error of a query leaves the loop.  While the numbers do not overflow, the queries tile the blocks
before the next one, and the logs collected are those of the queries: `ChunkLoop.Inv`.  So a source
that answers with the logs of its blocks in order returns in chunks what it returns to one query.
-/

namespace BifrostRelayer

namespace Evm

open Fallible Loops SolidityAbi

/-! ### The loop -/

/-- `Filter`, with its bounds. -/
structure Filter where
  addresses : List Address
  eventSignature : B256
  fromBlock : UInt64
  toBlock : UInt64
deriving DecidableEq

/-- The bounds of a filter. -/
def Filter.range (filter : Filter) : ℕ × ℕ := (filter.fromBlock.toNat, filter.toBlock.toNat)

/-- What the loop reads. -/
structure ChunkLoop where
  getLogs : Filter → Except Report (List Log)
  addresses : List Address
  eventSignature : B256
  chunkSize : UInt64
  fromBlock : UInt64
  toBlock : UInt64

/-- What the loop changes. -/
structure ChunkState where
  fromBlock : UInt64
  /-- The queries made. -/
  queries : List Filter
  /-- The logs collected, or the error that is returned. -/
  logs : Except Report (List Log)

/-- The queries of a call, and what it returns. -/
structure Fetch (ρ : Type) where
  queries : List Filter
  result : ρ

namespace ChunkLoop

variable (loop : ChunkLoop)

/-- The filter for a range. -/
def filter (fromBlock toBlock : UInt64) : Filter :=
  ⟨loop.addresses, loop.eventSignature, fromBlock, toBlock⟩

/-- The state in front of the loop. -/
def start : ChunkState := ⟨loop.fromBlock, [], .ok []⟩

/-- The last block of a chunk; the arithmetic wraps around. -/
def chunkToBlock (fromBlock : UInt64) : UInt64 :=
  min (fromBlock + loop.chunkSize - 1) loop.toBlock

/-- One iteration, if there is one. -/
def step (s : ChunkState) : Option ChunkState :=
  match s.logs with
  | .error _ => none
  | .ok logs =>
      if s.fromBlock ≤ loop.toBlock then
        let filter := loop.filter s.fromBlock (loop.chunkToBlock s.fromBlock)
        -- Behind a query that fails, the next block is not looked at any more.
        some {
          fromBlock := loop.chunkToBlock s.fromBlock + 1
          queries := s.queries ++ [filter]
          logs := (loop.getLogs filter).map fun chunkLogs => logs ++ chunkLogs }
      else none

/-- The loop with a bound on its iterations, if it is left within the bound. -/
def fetch (fuel : ℕ) : Option (Fetch (Except Report (List Log))) :=
  let s := run loop.step fuel loop.start
  if (loop.step s).isSome then none else some ⟨s.queries, s.logs⟩

end ChunkLoop

/-! ### The four functions -/

/-- `round_meta_data`, as far as it is read. -/
structure RoundMetaData where
  roundLength : BitVec 256
deriving DecidableEq

/-- An `EthClient`, with the replies to its calls. -/
structure BootstrapClient where
  chainId : ChainId
  isNative : Bool
  /-- The addresses of the socket contract and of the one for Bitcoin. -/
  socket : Address
  bitcoinSocket : Option Address
  /-- `round_info` of the authority contract. -/
  roundInfo : Except Report RoundMetaData
  /-- `get_bootstrap_offset_height_based_on_block_time`. -/
  bootstrapOffsetHeight : UInt64 → RoundMetaData → Except Report UInt64
  blockNumber : Except Report UInt64
  getLogs : Filter → Except Report (List Log)

namespace BootstrapClient

variable (client : BootstrapClient)

/-- The range of the bootstrap, up to the latest block; `saturating_sub`. -/
def bootstrapRange (roundInfo : Except Report RoundMetaData) (roundOffset : UInt64) :
    Except Report (UInt64 × UInt64) := do
  let roundInfo ← roundInfo
  let bootstrapOffsetHeight ← client.bootstrapOffsetHeight roundOffset roundInfo
  let latestBlockNumber ← client.blockNumber
  return (.ofNat (latestBlockNumber.toNat - bootstrapOffsetHeight.toNat), latestBlockNumber)

/-- The loop over a range. -/
def chunkLoop (addresses : List Address) (eventSignature : B256)
    (chunkSize fromBlock toBlock : UInt64) : ChunkLoop :=
  ⟨client.getLogs, addresses, eventSignature, chunkSize, fromBlock, toBlock⟩

/-- The loop over the range of the bootstrap. -/
def fetchRange (roundInfo : Except Report RoundMetaData) (roundOffset : UInt64)
    (addresses : List Address) (eventSignature : B256) (chunkSize : UInt64) (fuel : ℕ) :
    Option (Fetch (Except Report (List Log))) :=
  match client.bootstrapRange roundInfo roundOffset with
  | .error report => some ⟨[], .error report⟩
  | .ok (fromBlock, toBlock) =>
      (client.chunkLoop addresses eventSignature chunkSize fromBlock toBlock).fetch fuel

/-- `get_historical_logs`. -/
def getHistoricalLogs (roundOffset : UInt64) (addresses : List Address) (eventSignature : B256)
    (chunkSize : UInt64) (fuel : ℕ) : Option (Fetch (Except Report (List Log))) :=
  client.fetchRange client.roundInfo roundOffset addresses eventSignature chunkSize fuel

/-- The addresses that socket events are fetched from. -/
def socketAddresses : List Address :=
  match client.bitcoinSocket with
  | some bitcoinSocket => [client.socket, bitcoinSocket]
  | none => [client.socket]

end BootstrapClient

/-- `BootstrapSharedData`, as far as it is read. -/
structure BootstrapSharedData where
  /-- `bootstrap_config`, with its `round_offset`. -/
  bootstrapConfig : Option (Option UInt64)
  bootstrapSocketLogs : ChainId → Option (List Log)
  bootstrapRoundupLogs : Option (List Log)

namespace BootstrapSharedData

/-- `set_bootstrap_socket_logs`. -/
def setBootstrapSocketLogs (shared : BootstrapSharedData) (chainId : ChainId) (logs : List Log) :
    BootstrapSharedData :=
  { shared with bootstrapSocketLogs := Function.update shared.bootstrapSocketLogs chainId logs }

/-- `take_bootstrap_socket_logs`: what is left. -/
def takeBootstrapSocketLogs (shared : BootstrapSharedData) (chainId : ChainId) :
    BootstrapSharedData :=
  { shared with bootstrapSocketLogs := Function.update shared.bootstrapSocketLogs chainId none }

/-- `set_bootstrap_roundup_logs`. -/
def setBootstrapRoundupLogs (shared : BootstrapSharedData) (logs : List Log) :
    BootstrapSharedData :=
  { shared with bootstrapRoundupLogs := some logs }

end BootstrapSharedData

/-- `DEFAULT_BOOTSTRAP_ROUND_OFFSET`. -/
def defaultBootstrapRoundOffset : UInt64 := 3

/-- `BOOTSTRAP_BLOCK_CHUNK_SIZE`. -/
def bootstrapChunkSize : UInt64 := .ofNat bootstrapBlockChunkSize

/-- What the handlers of socket events have in common. -/
structure SocketBootstrap where
  client : BootstrapClient
  bifrostClient : BootstrapClient
  /-- `Socket::SIGNATURE_HASH`. -/
  signatureHash : B256

/-- `round_info` of Bifrost. -/
def SocketBootstrap.roundInfo (handler : SocketBootstrap) : Except Report RoundMetaData :=
  if handler.client.isNative then handler.client.roundInfo else handler.bifrostClient.roundInfo

/-- The loop of both handlers. -/
def SocketBootstrap.fetchSocketLogs (handler : SocketBootstrap) (roundOffset : Option UInt64)
    (fuel : ℕ) : Option (Fetch (Except Report (List Log))) :=
  handler.client.fetchRange handler.roundInfo (roundOffset.getD defaultBootstrapRoundOffset)
    handler.client.socketAddresses handler.signatureHash bootstrapChunkSize fuel

structure SocketQueuePoller extends SocketBootstrap

/-- `SocketQueuePoller::get_bootstrap_events`: the logs are cached for the relay handler. -/
def SocketQueuePoller.getBootstrapEvents (poller : SocketQueuePoller)
    (shared : BootstrapSharedData) (fuel : ℕ) :
    Option (Fetch (Except Report (List Log)) × BootstrapSharedData) :=
  match shared.bootstrapConfig with
  | none => some (⟨[], .ok []⟩, shared)
  | some roundOffset =>
      (poller.fetchSocketLogs roundOffset fuel).map fun fetch =>
        (fetch,
          match fetch.result with
          | .ok logs => shared.setBootstrapSocketLogs poller.client.chainId logs
          | .error _ => shared)

structure SocketRelayHandler extends SocketBootstrap

/-- `SocketRelayHandler::get_bootstrap_events`: logs that the poller has cached are taken. -/
def SocketRelayHandler.getBootstrapEvents (handler : SocketRelayHandler)
    (shared : BootstrapSharedData) (fuel : ℕ) :
    Option (Fetch (Except Report (List Log)) × BootstrapSharedData) :=
  match shared.bootstrapSocketLogs handler.client.chainId with
  | some cached => some (⟨[], .ok cached⟩, shared.takeBootstrapSocketLogs handler.client.chainId)
  | none =>
      match shared.bootstrapConfig with
      | none => some (⟨[], .ok []⟩, shared)
      | some roundOffset =>
          (handler.fetchSocketLogs roundOffset fuel).map fun fetch => (fetch, shared)

/-- The round-up emitter, as far as its bootstrap reads it. -/
structure RoundupEmitter where
  client : BootstrapClient
  /-- `RoundUp::SIGNATURE_HASH`. -/
  signatureHash : B256

/-- The loop of the emitter. -/
def RoundupEmitter.fetchRoundupLogs (emitter : RoundupEmitter) (roundOffset : Option UInt64)
    (fuel : ℕ) : Option (Fetch (Except Report (List Log))) :=
  emitter.client.fetchRange emitter.client.roundInfo
    (roundOffset.getD defaultBootstrapRoundOffset) [emitter.client.socket] emitter.signatureHash
    bootstrapChunkSize fuel

/-- `RoundupEmitter::get_bootstrap_events`.  Behind the loop, no logs are a panic, which is the
inner `none`, and the logs are cached for the relay handler. -/
def RoundupEmitter.getBootstrapEvents (emitter : RoundupEmitter) (shared : BootstrapSharedData)
    (fuel : ℕ) : Option (Fetch (Except Report (Option (List Log))) × BootstrapSharedData) :=
  match shared.bootstrapConfig with
  | none => some (⟨[], .ok (some [])⟩, shared)
  | some roundOffset =>
      (emitter.fetchRoundupLogs roundOffset fuel).map fun fetch =>
        match fetch.result with
        | .error report => (⟨fetch.queries, .error report⟩, shared)
        | .ok [] => (⟨fetch.queries, .ok none⟩, shared)
        | .ok logs => (⟨fetch.queries, .ok (some logs)⟩, shared.setBootstrapRoundupLogs logs)

/-! ### What the loop has done -/

namespace ChunkLoop

variable {loop : ChunkLoop} {s s' : ChunkState}

/-- The invariant of the loop. -/
structure Inv (loop : ChunkLoop) (s : ChunkState) : Prop where
  filters : ∀ q ∈ s.queries, q = loop.filter q.fromBlock q.toBlock
  logs : (s.queries.mapM loop.getLogs).map List.flatten = s.logs
  tiles : Tiles loop.chunkSize.toNat loop.fromBlock.toNat s.fromBlock.toNat
    (s.queries.map Filter.range)
  le : s.fromBlock.toNat ≤ loop.toBlock.toNat + 1
  /-- A chunk begins a number of full chunks after the first block. -/
  aligned : s.fromBlock ≤ loop.toBlock →
    ∃ k, s.fromBlock.toNat = loop.fromBlock.toNat + k * loop.chunkSize.toNat

/-- How many iterations are at most to come. -/
def blocksLeft (loop : ChunkLoop) (s : ChunkState) : ℕ := loop.toBlock.toNat + 1 - s.fromBlock.toNat

/-- The end of the last full chunk does not overflow. -/
def Fits (loop : ChunkLoop) : Prop :=
  loop.fromBlock.toNat + ((loop.toBlock.toNat - loop.fromBlock.toNat) / loop.chunkSize.toNat + 1) *
    loop.chunkSize.toNat < 2 ^ 64

instance (loop : ChunkLoop) : Decidable loop.Fits := inferInstanceAs (Decidable (_ < _))

/-- The range of the loop is a range, and its arithmetic does not overflow. -/
structure InBounds (loop : ChunkLoop) : Prop where
  le : loop.fromBlock ≤ loop.toBlock
  chunkSize_pos : 1 ≤ loop.chunkSize
  fits : loop.Fits

/-- It is enough that a chunk after the last block would fit. -/
lemma fits_of_lt (hle : loop.fromBlock ≤ loop.toBlock)
    (hlt : loop.toBlock.toNat + loop.chunkSize.toNat < 2 ^ 64) : loop.Fits := by
  have hdiv := Nat.div_mul_le_self (loop.toBlock.toNat - loop.fromBlock.toNat) loop.chunkSize.toNat
  rw [UInt64.le_iff_toNat_le] at hle
  rw [Fits, Nat.add_mul, Nat.one_mul]
  omega

lemma InBounds.one_le_chunkSize (h : loop.InBounds) : 1 ≤ loop.chunkSize.toNat :=
  UInt64.le_iff_toNat_le.mp h.chunkSize_pos

/-- No chunk of the loop overflows. -/
lemma InBounds.add_lt (h : loop.InBounds) (hinv : loop.Inv s) (hle : s.fromBlock ≤ loop.toBlock) :
    s.fromBlock.toNat + loop.chunkSize.toNat < 2 ^ 64 := by
  obtain ⟨k, hk⟩ := hinv.aligned hle
  have hpos := h.one_le_chunkSize
  have hfits := h.fits
  rw [UInt64.le_iff_toNat_le] at hle
  have hkdiv : k ≤ (loop.toBlock.toNat - loop.fromBlock.toNat) / loop.chunkSize.toNat :=
    (Nat.le_div_iff_mul_le hpos).2 (by omega)
  have hmul := Nat.mul_le_mul_right loop.chunkSize.toNat (Nat.add_le_add_right hkdiv 1)
  rw [Nat.add_mul k, Nat.one_mul] at hmul
  rw [Fits] at hfits
  omega

lemma inv_start (h : loop.InBounds) : loop.Inv loop.start where
  filters := by simp [start]
  logs := rfl
  tiles := .nil
  le := Nat.le_succ_of_le (UInt64.le_iff_toNat_le.mp h.le)
  aligned _ := ⟨0, by simp [start]⟩

/-- The last block of a chunk, without overflow. -/
lemma toNat_chunkToBlock (hpos : 1 ≤ loop.chunkSize.toNat) {fromBlock : UInt64}
    (hlt : fromBlock.toNat + loop.chunkSize.toNat < 2 ^ 64) :
    (loop.chunkToBlock fromBlock).toNat =
      min (fromBlock.toNat + loop.chunkSize.toNat - 1) loop.toBlock.toNat := by
  have hadd : (fromBlock + loop.chunkSize).toNat = fromBlock.toNat + loop.chunkSize.toNat := by
    rw [UInt64.toNat_add]
    exact Nat.mod_eq_of_lt (by omega)
  have hone : (1 : UInt64) ≤ fromBlock + loop.chunkSize := by
    rw [UInt64.le_iff_toNat_le, hadd, UInt64.toNat_one]
    omega
  rw [chunkToBlock, UInt64.toNat_min, UInt64.toNat_sub_of_le _ _ hone, hadd, UInt64.toNat_one]

/-- The next block, without overflow. -/
lemma toNat_chunkToBlock_add_one (hpos : 1 ≤ loop.chunkSize.toNat) {fromBlock : UInt64}
    (hlt : fromBlock.toNat + loop.chunkSize.toNat < 2 ^ 64) :
    (loop.chunkToBlock fromBlock + 1).toNat = (loop.chunkToBlock fromBlock).toNat + 1 := by
  have hto := toNat_chunkToBlock hpos hlt
  rw [UInt64.toNat_add, UInt64.toNat_one]
  exact Nat.mod_eq_of_lt (by omega)

/-- What an iteration does. -/
lemma step_cases (h : loop.step s = some s') :
    ∃ logs, s.logs = .ok logs ∧ s.fromBlock ≤ loop.toBlock ∧
      s' = {
        fromBlock := loop.chunkToBlock s.fromBlock + 1
        queries := s.queries ++ [loop.filter s.fromBlock (loop.chunkToBlock s.fromBlock)]
        logs := (loop.getLogs (loop.filter s.fromBlock (loop.chunkToBlock s.fromBlock))).map
          fun chunkLogs => logs ++ chunkLogs } := by
  cases hlogs : s.logs with
  | error report => simp [step, hlogs] at h
  | ok logs =>
    simp only [step, hlogs] at h
    split_ifs at h with hle
    exact ⟨logs, rfl, hle, (Option.some.inj h).symm⟩

lemma inv_step (h : loop.InBounds) (hinv : loop.Inv s) (hstep : loop.step s = some s') :
    loop.Inv s' ∧ loop.blocksLeft s' < loop.blocksLeft s := by
  obtain ⟨logs, hlogs, hle, rfl⟩ := step_cases hstep
  have hpos := h.one_le_chunkSize
  have hto := toNat_chunkToBlock hpos (h.add_lt hinv hle)
  have hnext := toNat_chunkToBlock_add_one hpos (h.add_lt hinv hle)
  obtain ⟨k, hk⟩ := hinv.aligned hle
  rw [UInt64.le_iff_toNat_le] at hle
  refine ⟨⟨?_, ?_, ?_, ?_, ?_⟩, ?_⟩
  · intro q hq
    obtain hq | hq := List.mem_append.mp hq
    · exact hinv.filters q hq
    · rw [List.mem_singleton.mp hq]
      rfl
  · exact map_flatten_mapM_concat (hinv.logs.trans hlogs) _
  · rw [List.map_append, hnext]
    exact hinv.tiles.snoc (by omega) (by omega)
  · rw [hnext]
    omega
  · -- Only the last chunk is shorter than the others, and behind it the loop is left.
    intro hmore
    rw [UInt64.le_iff_toNat_le, hnext] at hmore
    refine ⟨k + 1, ?_⟩
    rw [hnext, hto, Nat.add_mul, Nat.one_mul]
    omega
  · simp only [blocksLeft, hnext]
    omega

/-- The source answers with the logs of the blocks in a range, in their order. -/
def OrderedUnion (loop : ChunkLoop) (blockLogs : ℕ → List Log) : Prop :=
  ∀ fromBlock toBlock, fromBlock ≤ toBlock → loop.getLogs (loop.filter fromBlock toBlock) =
    .ok ((rangeInclusive fromBlock.toNat toBlock.toNat).flatMap blockLogs)

/-- What the loop does on its range. -/
structure Fetches (loop : ChunkLoop) (fetch : Fetch (Except Report (List Log))) : Prop where
  filters : ∀ q ∈ fetch.queries, q = loop.filter q.fromBlock q.toBlock
  /-- The first query that fails is the last one. -/
  result : fetch.result = (fetch.queries.mapM loop.getLogs).map List.flatten
  /-- If no query fails, the queries tile the range, and their logs are concatenated. -/
  tiles : ∀ logsOf : Filter → List Log,
    (∀ q ∈ fetch.queries, loop.getLogs q = .ok (logsOf q)) →
    Tiles loop.chunkSize.toNat loop.fromBlock.toNat (loop.toBlock.toNat + 1)
      (fetch.queries.map Filter.range) ∧
    (fetch.queries.map Filter.range).flatMap (fun r => rangeInclusive r.1 r.2) =
      rangeInclusive loop.fromBlock.toNat loop.toBlock.toNat ∧
    fetch.result = .ok (fetch.queries.flatMap logsOf)
  /-- Chunks make no difference. -/
  single : ∀ blockLogs, loop.OrderedUnion blockLogs →
    fetch.result = loop.getLogs (loop.filter loop.fromBlock loop.toBlock)

/-- A loop that is left without an error has passed the end of its range. -/
lemma Inv.fromBlock_eq (hinv : loop.Inv s) (hleft : loop.step s = none) {logs : List Log}
    (hlogs : s.logs = .ok logs) : s.fromBlock.toNat = loop.toBlock.toNat + 1 := by
  have hle := hinv.le
  simp only [step, hlogs] at hleft
  split_ifs at hleft with hlt
  rw [UInt64.le_iff_toNat_le] at hlt
  omega

lemma Inv.result_eq (hinv : loop.Inv s) {logsOf : Filter → List Log}
    (h : ∀ q ∈ s.queries, loop.getLogs q = .ok (logsOf q)) :
    s.logs = .ok (s.queries.flatMap logsOf) := by
  rw [← hinv.logs, mapM_eq_ok_map h, List.flatMap_def]
  rfl

lemma Inv.tiles_of_left (hinv : loop.Inv s) (hleft : loop.step s = none)
    {logsOf : Filter → List Log} (h : ∀ q ∈ s.queries, loop.getLogs q = .ok (logsOf q)) :
    Tiles loop.chunkSize.toNat loop.fromBlock.toNat (loop.toBlock.toNat + 1)
        (s.queries.map Filter.range) ∧
      (s.queries.map Filter.range).flatMap (fun r => rangeInclusive r.1 r.2) =
        rangeInclusive loop.fromBlock.toNat loop.toBlock.toNat := by
  have htiles := hinv.tiles
  rw [hinv.fromBlock_eq hleft (hinv.result_eq h)] at htiles
  exact ⟨htiles, htiles.flatMap_rangeInclusive⟩

/-- A loop that is left with logs has asked for each block of its range, and has the answer. -/
lemma Inv.exists_query (hinv : loop.Inv s) (hleft : loop.step s = none) {logs : List Log}
    (hlogs : s.logs = .ok logs) {n : ℕ} (hfrom : loop.fromBlock.toNat ≤ n)
    (hto : n ≤ loop.toBlock.toNat) :
    ∃ q ∈ s.queries, ∃ part, q.fromBlock.toNat ≤ n ∧ n ≤ q.toBlock.toNat ∧
      loop.getLogs q = .ok part ∧ part ⊆ logs := by
  have htiles := hinv.tiles
  rw [hinv.fromBlock_eq hleft hlogs] at htiles
  have hn : n ∈ rangeInclusive loop.fromBlock.toNat loop.toBlock.toNat :=
    mem_rangeInclusive.2 ⟨hfrom, hto⟩
  rw [rangeInclusive, ← htiles.flatMap_rangeInclusive] at hn
  obtain ⟨r, hr, hn⟩ := List.mem_flatMap.1 hn
  obtain ⟨q, hq, rfl⟩ := List.mem_map.1 hr
  obtain ⟨hfirst, hlast⟩ := mem_rangeInclusive.1 hn
  have hparts := hinv.logs.trans hlogs
  cases hmap : s.queries.mapM loop.getLogs with
  | error report =>
    rw [hmap] at hparts
    cases hparts
  | ok parts =>
    rw [hmap] at hparts
    obtain rfl : parts.flatten = logs := Except.ok.inj hparts
    obtain ⟨part, hpart, hget⟩ := mem_of_mapM_ok hmap q hq
    exact ⟨q, hq, part, hfirst, hlast, hget, fun log hlog =>
      List.mem_flatten.2 ⟨part, hpart, hlog⟩⟩

lemma fetches_of_left (hbounds : loop.InBounds) (hinv : loop.Inv s) (hleft : loop.step s = none) :
    loop.Fetches ⟨s.queries, s.logs⟩ where
  filters := hinv.filters
  result := hinv.logs.symm
  tiles := by
    intro logsOf h
    obtain ⟨htiles, hblocks⟩ := hinv.tiles_of_left hleft h
    exact ⟨htiles, hblocks, hinv.result_eq h⟩
  single := by
    intro blockLogs hunion
    have h : ∀ q ∈ s.queries, loop.getLogs q =
        .ok ((rangeInclusive q.fromBlock.toNat q.toBlock.toNat).flatMap blockLogs) := by
      intro q hq
      have hle := (hinv.tiles.of_mem (List.mem_map_of_mem hq)).1
      rw [hinv.filters q hq]
      exact hunion _ _ (UInt64.le_iff_toNat_le.mpr hle)
    have hblocks := (hinv.tiles_of_left hleft h).2
    rw [List.flatMap_map] at hblocks
    dsimp only
    rw [hinv.result_eq h, hunion _ _ hbounds.le, ← hblocks, List.flatMap_assoc]
    rfl

/-- The loop makes the queries of `bootstrapChunks`, one after the other. -/
lemma chunks_step (h : loop.InBounds) (hsize : loop.chunkSize = bootstrapChunkSize)
    (hinv : loop.Inv s) (hstep : loop.step s = some s') :
    s'.queries.map Filter.range ++ bootstrapChunks s'.fromBlock.toNat loop.toBlock.toNat =
      s.queries.map Filter.range ++ bootstrapChunks s.fromBlock.toNat loop.toBlock.toNat := by
  obtain ⟨logs, -, hle, rfl⟩ := step_cases hstep
  have hsize' : loop.chunkSize.toNat = bootstrapBlockChunkSize := by rw [hsize]; rfl
  have hto := toNat_chunkToBlock h.one_le_chunkSize (h.add_lt hinv hle)
  rw [hsize'] at hto
  rw [toNat_chunkToBlock_add_one h.one_le_chunkSize (h.add_lt hinv hle),
    bootstrapChunks.eq_1 s.fromBlock.toNat, if_pos (UInt64.le_iff_toNat_le.mp hle),
    List.map_append, List.append_assoc, ← hto]
  rfl

/-- A loop that is left has the result of all chunks, with the first error if there is one. -/
lemma logs_eq_of_left (hinv : loop.Inv s) (hleft : loop.step s = none)
    (hchunks : s.queries.map Filter.range ++
      bootstrapChunks s.fromBlock.toNat loop.toBlock.toNat =
        bootstrapChunks loop.fromBlock.toNat loop.toBlock.toNat) :
    s.logs = ((bootstrapChunks loop.fromBlock.toNat loop.toBlock.toNat).mapM fun chunk =>
      loop.getLogs (loop.filter (.ofNat chunk.1) (.ofNat chunk.2))).map List.flatten := by
  have hfilters : (s.queries.map Filter.range).map (fun chunk =>
      loop.filter (.ofNat chunk.1) (.ofNat chunk.2)) = s.queries := by
    rw [List.map_map]
    refine (List.map_congr_left fun q hq => ?_).trans (List.map_id _)
    simp only [Function.comp_apply, Filter.range, UInt64.ofNat_toNat, id_eq]
    exact (hinv.filters q hq).symm
  have hqueries : (s.queries.map Filter.range).mapM (fun chunk =>
      loop.getLogs (loop.filter (.ofNat chunk.1) (.ofNat chunk.2))) =
        s.queries.mapM loop.getLogs :=
    List.mapM_map.symm.trans (congrArg (List.mapM loop.getLogs) hfilters)
  rw [← hchunks, List.mapM_append, hqueries, ← hinv.logs]
  cases hreplies : s.queries.mapM loop.getLogs with
  | error report => rfl
  | ok parts =>
    have hend := hinv.fromBlock_eq hleft (by rw [← hinv.logs, hreplies]; rfl)
    rw [hend, bootstrapChunks, if_neg (by omega)]
    simp [Except.map, bind, Except.bind, pure, Except.pure]

/-- The state in which the loop is left. -/
def final (loop : ChunkLoop) : ChunkState := run loop.step (loop.blocksLeft loop.start) loop.start

lemma inv_final (h : loop.InBounds) : loop.Inv loop.final :=
  run_invariant (fun _ _ hinv hstep => (inv_step h hinv hstep).1) (inv_start h) _

lemma step_final (h : loop.InBounds) : loop.step loop.final = none :=
  step_run_eq_none (fun _ _ => inv_step h) (inv_start h) le_rfl

lemma fetch_eq_final (h : loop.InBounds) {fuel : ℕ}
    (hfuel : loop.toBlock.toNat + 1 - loop.fromBlock.toNat ≤ fuel) :
    loop.fetch fuel = some ⟨loop.final.queries, loop.final.logs⟩ := by
  obtain ⟨more, rfl⟩ := Nat.exists_eq_add_of_le hfuel
  have hrun : run loop.step (loop.toBlock.toNat + 1 - loop.fromBlock.toNat + more) loop.start =
      loop.final := by
    rw [run_add]
    exact run_of_left (step_final h) more
  simp only [fetch, hrun, step_final h]
  rfl

/-- The loop is left, and has then done its work. -/
theorem exists_fetch (h : loop.InBounds) :
    ∃ fetch, (∀ fuel, loop.toBlock.toNat + 1 - loop.fromBlock.toNat ≤ fuel →
      loop.fetch fuel = some fetch) ∧ loop.Fetches fetch :=
  ⟨_, fun _ => fetch_eq_final h, fetches_of_left h (inv_final h) (step_final h)⟩

/-- With the chunk size of the bootstrap, the result of the loop is that of `bootstrapChunks`. -/
theorem logs_final (h : loop.InBounds) (hsize : loop.chunkSize = bootstrapChunkSize) :
    loop.final.logs =
      ((bootstrapChunks loop.fromBlock.toNat loop.toBlock.toNat).mapM fun chunk =>
        loop.getLogs (loop.filter (.ofNat chunk.1) (.ofNat chunk.2))).map List.flatten := by
  have hchunks : loop.Inv loop.final ∧ loop.final.queries.map Filter.range ++
      bootstrapChunks loop.final.fromBlock.toNat loop.toBlock.toNat =
        bootstrapChunks loop.fromBlock.toNat loop.toBlock.toNat := by
    refine run_invariant (P := fun s => loop.Inv s ∧ s.queries.map Filter.range ++
      bootstrapChunks s.fromBlock.toNat loop.toBlock.toNat =
        bootstrapChunks loop.fromBlock.toNat loop.toBlock.toNat) ?_ ⟨inv_start h, rfl⟩ _
    rintro s s' ⟨hinv, hs⟩ hstep
    exact ⟨(inv_step h hinv hstep).1, (chunks_step h hsize hinv hstep).trans hs⟩
  exact logs_eq_of_left hchunks.1 (step_final h) hchunks.2

/-- A loop that is left within a bound is left within any greater bound. -/
lemma fetch_of_le {fuel fuel' : ℕ} {fetch : Fetch (Except Report (List Log))}
    (h : loop.fetch fuel = some fetch) (hle : fuel ≤ fuel') : loop.fetch fuel' = some fetch := by
  have hleft : loop.step (run loop.step fuel loop.start) = none := by
    cases hstep : loop.step (run loop.step fuel loop.start) with
    | none => rfl
    | some s => simp [ChunkLoop.fetch, hstep] at h
  obtain ⟨more, rfl⟩ := Nat.exists_eq_add_of_le hle
  rw [← h, ChunkLoop.fetch, run_add, run_of_left hleft]
  rfl

/-- A loop that is left within a bound is left in its final state. -/
lemma eq_final_of_fetch (h : loop.InBounds) {fuel : ℕ} {fetch : Fetch (Except Report (List Log))}
    (hfetch : loop.fetch fuel = some fetch) : fetch = ⟨loop.final.queries, loop.final.logs⟩ := by
  have hlong := fetch_eq_final h (Nat.le_add_left (loop.toBlock.toNat + 1 - loop.fromBlock.toNat)
    fuel)
  exact Option.some.inj ((fetch_of_le hfetch (Nat.le_add_right fuel _)).symm.trans hlong)

/-- A first query that fails ends the loop. -/
lemma fetch_of_step_error {queries : List Filter} {report : Report} {fromBlock : UInt64}
    (h : loop.step loop.start = some ⟨fromBlock, queries, .error report⟩) (fuel : ℕ) :
    loop.fetch (fuel + 1) = some ⟨queries, .error report⟩ := by
  have hleft : loop.step ⟨fromBlock, queries, .error report⟩ = none := rfl
  have hrun : run loop.step (fuel + 1) loop.start = ⟨fromBlock, queries, .error report⟩ := by
    rw [run_succ_of_step h, run_of_left hleft]
  rw [ChunkLoop.fetch, hrun, hleft]
  rfl

end ChunkLoop

/-! ### The four functions fetch their ranges -/

/-- `saturating_sub` does not leave `u64`. -/
lemma toNat_saturatingSub (a b : UInt64) :
    (UInt64.ofNat (a.toNat - b.toNat)).toNat = a.toNat - b.toNat := by
  have hlt := a.toNat_lt
  rw [UInt64.toNat_ofNat', Nat.mod_eq_of_lt (by omega)]

/-- The range of the bootstrap is a range. -/
lemma BootstrapClient.le_of_bootstrapRange {client : BootstrapClient}
    {roundInfo : Except Report RoundMetaData} {roundOffset fromBlock toBlock : UInt64}
    (h : client.bootstrapRange roundInfo roundOffset = .ok (fromBlock, toBlock)) :
    fromBlock ≤ toBlock := by
  simp only [bootstrapRange, bind_eq_ok] at h
  obtain ⟨_, -, height, -, latest, -, h⟩ := h
  obtain ⟨rfl, rfl⟩ := Prod.mk.inj (Except.ok.inj h)
  rw [UInt64.le_iff_toNat_le, toNat_saturatingSub]
  exact Nat.sub_le _ _

lemma BootstrapClient.exists_fetchRange {client : BootstrapClient}
    {roundInfo : Except Report RoundMetaData} {roundOffset fromBlock toBlock : UInt64}
    (h : client.bootstrapRange roundInfo roundOffset = .ok (fromBlock, toBlock))
    {chunkSize : UInt64} (hpos : 1 ≤ chunkSize) (hlt : toBlock.toNat + chunkSize.toNat < 2 ^ 64)
    (addresses : List Address) (eventSignature : B256) :
    ∃ fetch, (∀ fuel, toBlock.toNat + 1 - fromBlock.toNat ≤ fuel →
      client.fetchRange roundInfo roundOffset addresses eventSignature chunkSize fuel =
        some fetch) ∧
      (client.chunkLoop addresses eventSignature chunkSize fromBlock toBlock).Fetches fetch := by
  have hbounds : (client.chunkLoop addresses eventSignature chunkSize fromBlock toBlock).InBounds :=
    ⟨le_of_bootstrapRange h, hpos, ChunkLoop.fits_of_lt (le_of_bootstrapRange h) hlt⟩
  obtain ⟨fetch, hfetch, hspec⟩ := ChunkLoop.exists_fetch hbounds
  refine ⟨fetch, fun fuel hfuel => ?_, hspec⟩
  rw [fetchRange, h]
  exact hfetch fuel hfuel

lemma bootstrapChunkSize_pos : 1 ≤ bootstrapChunkSize := by decide

/-- In each of the four places, the loop over a range that is not at the end of the block numbers is
left, has tiled the range with its queries if none of them fails, and collects what a single query
of the range returns.  The relay handler runs its loop if no logs are cached.  The emitter panics
behind its loop if there are no logs. -/
theorem chunk_loops_tile :
    (∀ loop : ChunkLoop, loop.InBounds →
      ∃ fetch, (∀ fuel, loop.toBlock.toNat + 1 - loop.fromBlock.toNat ≤ fuel →
        loop.fetch fuel = some fetch) ∧ loop.Fetches fetch) ∧
    (∀ (client : BootstrapClient) (roundOffset : UInt64) (addresses : List Address)
      (eventSignature : B256) (chunkSize fromBlock toBlock : UInt64),
      client.bootstrapRange client.roundInfo roundOffset = .ok (fromBlock, toBlock) →
      1 ≤ chunkSize → toBlock.toNat + chunkSize.toNat < 2 ^ 64 →
      ∃ fetch, (∀ fuel, toBlock.toNat + 1 - fromBlock.toNat ≤ fuel →
        client.getHistoricalLogs roundOffset addresses eventSignature chunkSize fuel =
          some fetch) ∧
        (client.chunkLoop addresses eventSignature chunkSize fromBlock toBlock).Fetches fetch) ∧
    (∀ (handler : SocketRelayHandler) (shared : BootstrapSharedData) (roundOffset : Option UInt64)
      (fromBlock toBlock : UInt64), shared.bootstrapSocketLogs handler.client.chainId = none →
      shared.bootstrapConfig = some roundOffset →
      handler.client.bootstrapRange handler.roundInfo
        (roundOffset.getD defaultBootstrapRoundOffset) = .ok (fromBlock, toBlock) →
      toBlock.toNat + bootstrapChunkSize.toNat < 2 ^ 64 →
      ∃ fetch, (∀ fuel, toBlock.toNat + 1 - fromBlock.toNat ≤ fuel →
        handler.getBootstrapEvents shared fuel = some (fetch, shared)) ∧
        (handler.client.chunkLoop handler.client.socketAddresses handler.signatureHash
          bootstrapChunkSize fromBlock toBlock).Fetches fetch) ∧
    (∀ (poller : SocketQueuePoller) (shared : BootstrapSharedData) (roundOffset : Option UInt64)
      (fromBlock toBlock : UInt64), shared.bootstrapConfig = some roundOffset →
      poller.client.bootstrapRange poller.roundInfo
        (roundOffset.getD defaultBootstrapRoundOffset) = .ok (fromBlock, toBlock) →
      toBlock.toNat + bootstrapChunkSize.toNat < 2 ^ 64 →
      ∃ fetch, (∀ fuel, toBlock.toNat + 1 - fromBlock.toNat ≤ fuel →
        (poller.getBootstrapEvents shared fuel).map Prod.fst = some fetch) ∧
        (poller.client.chunkLoop poller.client.socketAddresses poller.signatureHash
          bootstrapChunkSize fromBlock toBlock).Fetches fetch) ∧
    ∀ (emitter : RoundupEmitter) (shared : BootstrapSharedData) (roundOffset : Option UInt64)
      (fromBlock toBlock : UInt64), shared.bootstrapConfig = some roundOffset →
      emitter.client.bootstrapRange emitter.client.roundInfo
        (roundOffset.getD defaultBootstrapRoundOffset) = .ok (fromBlock, toBlock) →
      toBlock.toNat + bootstrapChunkSize.toNat < 2 ^ 64 →
      ∃ fetch, (∀ fuel, toBlock.toNat + 1 - fromBlock.toNat ≤ fuel →
        emitter.fetchRoundupLogs roundOffset fuel = some fetch ∧
        (emitter.getBootstrapEvents shared fuel).map Prod.fst = some ⟨fetch.queries,
          fetch.result.map fun logs => if logs.isEmpty then none else some logs⟩) ∧
        (emitter.client.chunkLoop [emitter.client.socket] emitter.signatureHash
          bootstrapChunkSize fromBlock toBlock).Fetches fetch := by
  refine ⟨fun loop => ChunkLoop.exists_fetch, ?_, ?_, ?_, ?_⟩
  · intro client roundOffset addresses eventSignature chunkSize fromBlock toBlock hrange hpos hlt
    exact BootstrapClient.exists_fetchRange hrange hpos hlt addresses eventSignature
  · intro handler shared roundOffset fromBlock toBlock hcache hconfig hrange hlt
    obtain ⟨fetch, hfetch, hspec⟩ := BootstrapClient.exists_fetchRange hrange
      bootstrapChunkSize_pos hlt handler.client.socketAddresses handler.signatureHash
    refine ⟨fetch, fun fuel hfuel => ?_, hspec⟩
    simp only [SocketRelayHandler.getBootstrapEvents, hcache, hconfig,
      SocketBootstrap.fetchSocketLogs, hfetch fuel hfuel, Option.map_some]
  · intro poller shared roundOffset fromBlock toBlock hconfig hrange hlt
    obtain ⟨fetch, hfetch, hspec⟩ := BootstrapClient.exists_fetchRange hrange
      bootstrapChunkSize_pos hlt poller.client.socketAddresses poller.signatureHash
    refine ⟨fetch, fun fuel hfuel => ?_, hspec⟩
    simp only [SocketQueuePoller.getBootstrapEvents, hconfig, SocketBootstrap.fetchSocketLogs,
      hfetch fuel hfuel, Option.map_some]
  · intro emitter shared roundOffset fromBlock toBlock hconfig hrange hlt
    obtain ⟨fetch, hfetch, hspec⟩ := BootstrapClient.exists_fetchRange hrange
      bootstrapChunkSize_pos hlt [emitter.client.socket] emitter.signatureHash
    refine ⟨fetch, fun fuel hfuel => ?_, hspec⟩
    have hloop : emitter.fetchRoundupLogs roundOffset fuel = some fetch := hfetch fuel hfuel
    refine ⟨hloop, ?_⟩
    simp only [RoundupEmitter.getBootstrapEvents, hconfig, hloop, Option.map_some]
    obtain ⟨queries, result⟩ := fetch
    match result with
    | .error report => rfl
    | .ok [] => rfl
    | .ok (log :: logs) => rfl

/-! ### The handlers together -/

/-- The replies of the bootstrap of a handler, as natural numbers. -/
def SocketBootstrap.replies (handler : SocketBootstrap) (roundOffset : Option UInt64) :
    BootstrapReplies where
  offsetHeight := do
    let roundInfo ← handler.roundInfo
    (handler.client.bootstrapOffsetHeight (roundOffset.getD defaultBootstrapRoundOffset)
      roundInfo).map UInt64.toNat
  blockNumber := handler.client.blockNumber.map UInt64.toNat
  getLogs fromBlock toBlock := handler.client.getLogs
    ⟨handler.client.socketAddresses, handler.signatureHash, .ofNat fromBlock, .ofNat toBlock⟩

/-- The loop of the socket handlers on `u64` computes what `getBootstrapEvents` says on natural
numbers, unless the latest block is at the end of the block numbers. -/
theorem SocketBootstrap.fetchSocketLogs_eq_getBootstrapEvents (handler : SocketBootstrap)
    (roundOffset : Option UInt64)
    (hlt : ∀ latest, handler.client.blockNumber = .ok latest →
      latest.toNat + bootstrapChunkSize.toNat < 2 ^ 64) :
    ∃ bound, ∀ fuel, bound ≤ fuel →
      (handler.fetchSocketLogs roundOffset fuel).map Fetch.result =
        some (getBootstrapEvents (handler.replies roundOffset)) := by
  simp only [fetchSocketLogs, BootstrapClient.fetchRange, BootstrapClient.bootstrapRange,
    getBootstrapEvents, replies]
  cases handler.roundInfo with
  | error report => exact ⟨0, fun _ _ => rfl⟩
  | ok roundInfo =>
    cases hheight : handler.client.bootstrapOffsetHeight
        (roundOffset.getD defaultBootstrapRoundOffset) roundInfo with
    | error report =>
      refine ⟨0, fun _ _ => ?_⟩
      simp [hheight, bind, Except.bind, Except.map]
    | ok height =>
      cases hlatest : handler.client.blockNumber with
      | error report =>
        refine ⟨0, fun _ _ => ?_⟩
        simp [hheight, bind, Except.bind, Except.map]
      | ok latest =>
        have hfrom := toNat_saturatingSub latest height
        simp only [hheight, bind, Except.bind, Except.map, pure, Except.pure]
        generalize UInt64.ofNat (latest.toNat - height.toNat) = fromBlock at hfrom ⊢
        have hbounds : (handler.client.chunkLoop handler.client.socketAddresses
            handler.signatureHash bootstrapChunkSize fromBlock latest).InBounds := by
          have hle : fromBlock ≤ latest := by
            rw [UInt64.le_iff_toNat_le, hfrom]
            exact Nat.sub_le _ _
          exact ⟨hle, bootstrapChunkSize_pos, ChunkLoop.fits_of_lt hle (hlt latest hlatest)⟩
        refine ⟨latest.toNat + 1, fun fuel hfuel => ?_⟩
        rw [ChunkLoop.fetch_eq_final hbounds ((Nat.sub_le _ _).trans hfuel), Option.map_some,
          ChunkLoop.logs_final hbounds rfl, ← hfrom]
        rfl

/-- So it does whenever it returns. -/
theorem SocketBootstrap.result_eq_getBootstrapEvents {handler : SocketBootstrap}
    {roundOffset : Option UInt64}
    (hlt : ∀ latest, handler.client.blockNumber = .ok latest →
      latest.toNat + bootstrapChunkSize.toNat < 2 ^ 64)
    {fuel : ℕ} {fetch : Fetch (Except Report (List Log))}
    (h : handler.fetchSocketLogs roundOffset fuel = some fetch) :
    fetch.result = getBootstrapEvents (handler.replies roundOffset) := by
  obtain ⟨bound, hbound⟩ := handler.fetchSocketLogs_eq_getBootstrapEvents roundOffset hlt
  have hlong : handler.fetchSocketLogs roundOffset (fuel + bound) = some fetch := by
    simp only [fetchSocketLogs, BootstrapClient.fetchRange] at h ⊢
    split at h
    next => exact h
    next => exact ChunkLoop.fetch_of_le h (Nat.le_add_right fuel bound)
  have hresult := hbound (fuel + bound) (Nat.le_add_left bound fuel)
  rw [hlong] at hresult
  exact Option.some.inj hresult

namespace SocketBootstrap

variable (handler : SocketBootstrap) (roundOffset : Option UInt64)

/-- The range of the loop of the socket handlers. -/
def bootstrapRange : Except Report (UInt64 × UInt64) :=
  handler.client.bootstrapRange handler.roundInfo (roundOffset.getD defaultBootstrapRoundOffset)

/-- The filter of a query of that loop. -/
def filter (fromBlock toBlock : UInt64) : Filter :=
  ⟨handler.client.socketAddresses, handler.signatureHash, fromBlock, toBlock⟩

/-- That loop, over a range. -/
def chunkLoop (fromBlock toBlock : UInt64) : ChunkLoop :=
  handler.client.chunkLoop handler.client.socketAddresses handler.signatureHash bootstrapChunkSize
    fromBlock toBlock

/-- `chunk_to_block` does not overflow on the range of the bootstrap. -/
def Fits : Prop :=
  ∀ fromBlock toBlock, handler.bootstrapRange roundOffset = .ok (fromBlock, toBlock) →
    (handler.chunkLoop fromBlock toBlock).Fits

variable {handler : SocketBootstrap} {roundOffset : Option UInt64} {fromBlock toBlock : UInt64}

/-- The range ends with the latest block. -/
lemma blockNumber_of_bootstrapRange
    (h : handler.bootstrapRange roundOffset = .ok (fromBlock, toBlock)) :
    handler.client.blockNumber = .ok toBlock := by
  simp only [bootstrapRange, BootstrapClient.bootstrapRange, bind_eq_ok] at h
  obtain ⟨_, -, _, -, latest, hlatest, h⟩ := h
  obtain ⟨-, rfl⟩ := Prod.mk.inj (Except.ok.inj h)
  exact hlatest

lemma fetchSocketLogs_of_bootstrapRange
    (h : handler.bootstrapRange roundOffset = .ok (fromBlock, toBlock)) (fuel : ℕ) :
    handler.fetchSocketLogs roundOffset fuel = (handler.chunkLoop fromBlock toBlock).fetch fuel := by
  rw [bootstrapRange] at h
  rw [fetchSocketLogs, BootstrapClient.fetchRange, h]
  rfl

lemma inBounds (hfits : handler.Fits roundOffset)
    (h : handler.bootstrapRange roundOffset = .ok (fromBlock, toBlock)) :
    (handler.chunkLoop fromBlock toBlock).InBounds :=
  ⟨BootstrapClient.le_of_bootstrapRange h, bootstrapChunkSize_pos, hfits _ _ h⟩

/-- The loop returns logs if the node answers for every range of existing blocks. -/
theorem fetchSocketLogs_returns (hfits : handler.Fits roundOffset)
    (h : handler.bootstrapRange roundOffset = .ok (fromBlock, toBlock))
    (hanswers : ∀ first last, first ≤ last → last ≤ toBlock →
      ∃ logs, handler.client.getLogs (handler.filter first last) = .ok logs) :
    ∃ bound queries logs, ∀ fuel, bound ≤ fuel →
      handler.fetchSocketLogs roundOffset fuel = some ⟨queries, .ok logs⟩ := by
  have hbounds := inBounds hfits h
  have hinv := ChunkLoop.inv_final hbounds
  -- a query of the loop begins before it ends, and ends before the next block of the loop
  have hqueries : ∀ q ∈ (handler.chunkLoop fromBlock toBlock).final.queries,
      ∃ logs, handler.client.getLogs q = .ok logs := by
    intro q hq
    have hrange := List.mem_map_of_mem (f := Filter.range) hq
    have hle := (hinv.tiles.of_mem hrange).1
    have hlt := hinv.tiles.lt_of_mem hrange
    have hend : q.toBlock ≤ toBlock := by
      have hto := hinv.le
      simp only [chunkLoop, BootstrapClient.chunkLoop, Filter.range] at hlt hto
      rw [UInt64.le_iff_toNat_le]
      omega
    rw [hinv.filters q hq]
    exact hanswers _ _ (UInt64.le_iff_toNat_le.mpr hle) hend
  obtain ⟨logs, hlogs⟩ : ∃ logs, (handler.chunkLoop fromBlock toBlock).final.logs = .ok logs := by
    choose! logsOf hlogsOf using hqueries
    exact ⟨_, hinv.result_eq hlogsOf⟩
  refine ⟨toBlock.toNat + 1 - fromBlock.toNat, (handler.chunkLoop fromBlock toBlock).final.queries,
    logs, fun fuel hfuel => ?_⟩
  rw [fetchSocketLogs_of_bootstrapRange h, ChunkLoop.fetch_eq_final hbounds hfuel, hlogs]

/-- A loop that returns logs has asked for every block of its range, and returns the answers. -/
theorem fetchSocketLogs_covers (hfits : handler.Fits roundOffset) {fuel : ℕ}
    {queries : List Filter} {logs : List Log}
    (h : handler.fetchSocketLogs roundOffset fuel = some ⟨queries, .ok logs⟩) :
    ∃ fromBlock toBlock, handler.bootstrapRange roundOffset = .ok (fromBlock, toBlock) ∧
      ∀ n, fromBlock.toNat ≤ n → n ≤ toBlock.toNat → ∃ q ∈ queries, ∃ part,
        q.fromBlock.toNat ≤ n ∧ n ≤ q.toBlock.toNat ∧ handler.client.getLogs q = .ok part ∧
          part ⊆ logs := by
  cases hrange : handler.bootstrapRange roundOffset with
  | error report =>
    rw [bootstrapRange] at hrange
    simp [fetchSocketLogs, BootstrapClient.fetchRange, hrange] at h
  | ok range =>
    obtain ⟨fromBlock, toBlock⟩ := range
    have hbounds := inBounds hfits hrange
    rw [fetchSocketLogs_of_bootstrapRange hrange] at h
    obtain ⟨rfl, hlogs⟩ := (Fetch.mk.injEq ..).mp (ChunkLoop.eq_final_of_fetch hbounds h)
    exact ⟨fromBlock, toBlock, rfl, fun n hfrom hto =>
      (ChunkLoop.inv_final hbounds).exists_query (ChunkLoop.step_final hbounds) hlogs.symm hfrom hto⟩

end SocketBootstrap

/-- The relay handler of a chain takes the logs that the poller of the chain has fetched, without a
query of its own. -/
theorem relayHandler_takes_poller_logs {handler : SocketBootstrap}
    {shared shared' : BootstrapSharedData} {fuel : ℕ} {queries : List Filter} {logs : List Log}
    {roundOffset : Option UInt64}
    (hconfig : shared.bootstrapConfig = some roundOffset)
    (h : (SocketQueuePoller.mk handler).getBootstrapEvents shared fuel =
      some (⟨queries, .ok logs⟩, shared')) (fuel' : ℕ) :
    ∃ shared'', (SocketRelayHandler.mk handler).getBootstrapEvents shared' fuel' =
      some (⟨[], .ok logs⟩, shared'') ∧
      shared''.bootstrapSocketLogs handler.client.chainId = none := by
  simp only [SocketQueuePoller.getBootstrapEvents, hconfig, Option.map_eq_some_iff,
    Prod.mk.injEq] at h
  obtain ⟨fetch, -, rfl, rfl⟩ := h
  refine ⟨(shared.setBootstrapSocketLogs handler.client.chainId logs).takeBootstrapSocketLogs
    handler.client.chainId, ?_, ?_⟩
  · simp [SocketRelayHandler.getBootstrapEvents, BootstrapSharedData.setBootstrapSocketLogs]
  · simp [BootstrapSharedData.takeBootstrapSocketLogs]

/-- A chain with one log in each block, fetched from block 5 to block 12 in chunks of four. -/
def sampleLoop : ChunkLoop where
  getLogs filter := .ok ((rangeInclusive filter.fromBlock.toNat filter.toBlock.toNat).map fun n =>
    ⟨⟨FixedBytes.repeatByte 20 1⟩, [], beBytes 32 n, none, none, some n⟩)
  addresses := [⟨FixedBytes.repeatByte 20 1⟩]
  eventSignature := FixedBytes.repeatByte 32 2
  chunkSize := 4
  fromBlock := 5
  toBlock := 12

theorem sampleLoop_tiles :
    (∃ fetch, (∀ fuel, 8 ≤ fuel → sampleLoop.fetch fuel = some fetch) ∧
      sampleLoop.Fetches fetch) ∧
    (sampleLoop.fetch 8).map (fun fetch => fetch.queries.map Filter.range) =
      some [(5, 8), (9, 12)] :=
  ⟨chunk_loops_tile.1 sampleLoop ⟨by decide, by decide, by decide⟩, by decide⟩

end Evm

end BifrostRelayer
