import BifrostRelayer.Evm.ChunkLoops
import BifrostRelayer.Foundation.Runs

/-!
# The event manager of an EVM chain

The event manager fetches the logs of a chain in batches of `get_logs_batch_size` blocks, beginning
with the block after the head that it has seen at initialization, and broadcasts them.  Each tick
reads the head and then fetches as many full batches as fit below it.  The blocks before are
fetched once, in chunks, by the bootstrap of the socket handlers, whose loop can overflow.

A step of the model is one call to the node, so an error can come between any two of them.  `run`
then returns and is called again on the same instance, which puts it back to the start of a tick.
-/

namespace BifrostRelayer

namespace Evm

open SolidityAbi

/-! ### The manager -/

/-- `EventMessage`. -/
structure EventMessage where
  blockNumber : ℕ
  eventLogs : List Log
deriving DecidableEq

/-- The parameters of the manager. -/
structure EventConfig where
  getLogsBatchSize : ℕ
  isBalanceSyncEnabled : Bool

/-- Where the loop of `run` stands. -/
inductive TickPc where
  /-- Before `get_block_number`. -/
  | idle
  /-- In the inner loop, before `get_logs`, with the head that was read. -/
  | batch (latestBlock : ℕ)
  /-- In the inner loop, before `sync_balance`, with the head that was read. -/
  | syncing (latestBlock : ℕ)
deriving DecidableEq, Repr

/-- `EventManager`. -/
structure EventManager where
  waitingBlock : ℕ
  pc : TickPc
deriving DecidableEq

namespace EventManager

variable (cfg : EventConfig) (m : EventManager)

/-- `initialize`, when the head is `latestBlock`. -/
def afterInitialize (latestBlock : ℕ) : EventManager := ⟨saturatingAdd latestBlock 1, .idle⟩

/-- The last block of the batch that starts with `waiting_block`. -/
def batchEnd : ℕ := saturatingAdd m.waitingBlock (cfg.getLogsBatchSize - 1)

/-- `is_batch_ready`. -/
def isBatchReady (latestBlock : ℕ) : Bool :=
  if m.waitingBlock > latestBlock then false else decide (latestBlock ≥ m.batchEnd cfg)

/-- The condition of the inner loop. -/
def continueBatches (latestBlock : ℕ) : EventManager :=
  { m with pc := if m.isBatchReady cfg latestBlock then .batch latestBlock else .idle }

/-- `run` returns with an error and is called again. -/
def restarted : EventManager := { m with pc := .idle }

/-- `increment_waiting_block`. -/
def incrementWaitingBlock (toBlock : ℕ) : EventManager :=
  { m with waitingBlock := saturatingAdd toBlock 1 }

end EventManager

/-! ### Runs -/

/-- A call to the node, with its reply. -/
inductive EventInput where
  /-- `get_block_number` at the start of a tick. -/
  | getBlockNumber (reply : Except Report ℕ)
  /-- `get_logs` in `process_new_block`. -/
  | getLogs (reply : Except Report (List Log))
  /-- `sync_balance`. -/
  | syncBalance (reply : Except Report Unit)
  /-- A fetch of the bootstrap events by a socket handler of the chain. -/
  | bootstrap (handler : SocketBootstrap) (roundOffset : Option UInt64)

/-- A range that was fetched, with the head that the tick has read. -/
structure Fetched where
  fromBlock : ℕ
  toBlock : ℕ
  latestBlock : ℕ
deriving DecidableEq

/-- What a step fetches and broadcasts. -/
structure EventOutput where
  fetched : List Fetched
  messages : List EventMessage
deriving DecidableEq

/-- Nothing is fetched. -/
def EventOutput.empty : EventOutput := ⟨[], []⟩

namespace EventManager

/-- `process_new_block` after `get_logs` has returned logs, and what the loop does next. -/
def processNewBlock (cfg : EventConfig) (m : EventManager) (latestBlock : ℕ)
    (targetLogs : List Log) : EventManager × EventOutput :=
  let toBlock := m.batchEnd cfg
  let next := m.incrementWaitingBlock toBlock
  (if cfg.isBalanceSyncEnabled then { next with pc := .syncing latestBlock }
    else next.continueBatches cfg latestBlock,
    ⟨[⟨m.waitingBlock, toBlock, latestBlock⟩],
      if targetLogs.isEmpty then [] else [⟨m.waitingBlock, targetLogs⟩]⟩)

/-- A step. -/
def step (cfg : EventConfig) (m : EventManager) (i : EventInput) :
    Option (EventManager × EventOutput) :=
  match i, m.pc with
  | .getBlockNumber (.ok latestBlock), .idle => some (m.continueBatches cfg latestBlock, .empty)
  | .getBlockNumber (.error _), .idle => some (m.restarted, .empty)
  | .getLogs (.ok targetLogs), .batch latestBlock =>
      some (m.processNewBlock cfg latestBlock targetLogs)
  | .getLogs (.error _), .batch _ => some (m.restarted, .empty)
  | .syncBalance (.ok _), .syncing latestBlock => some (m.continueBatches cfg latestBlock, .empty)
  | .syncBalance (.error _), .syncing _ => some (m.restarted, .empty)
  | .bootstrap _ _, _ => some (m, .empty)
  | _, _ => none

end EventManager

/-- The runs of the manager after it was initialized at the head `L`. -/
def eventSystem (cfg : EventConfig) (L : ℕ) :
    LabelledSystem EventManager (EventInput × EventOutput) where
  init m := m = .afterInitialize L
  step m a m' := m.step cfg a.1 = some (m', a.2)

/-- The head that a step has read. -/
def EventInput.head : EventInput → Option ℕ
  | .getBlockNumber (.ok latestBlock) => some latestBlock
  | .bootstrap handler _ => handler.client.blockNumber.toOption.map UInt64.toNat
  | _ => none

/-- The heads that were read in a trace. -/
def headsOf (tr : List (EventInput × EventOutput)) : List ℕ := tr.filterMap fun a => a.1.head

/-- The head that a step has read at the start of a tick. -/
def EventInput.tickHead : EventInput → Option ℕ
  | .getBlockNumber (.ok latestBlock) => some latestBlock
  | _ => none

/-- The head that the last tick has read. -/
def tickHead (tr : List (EventInput × EventOutput)) : Option ℕ :=
  (tr.filterMap fun a => a.1.tickHead).getLast?

/-- The ranges that were fetched in a trace. -/
def fetchedOf (tr : List (EventInput × EventOutput)) : List Fetched :=
  tr.flatMap fun a => a.2.fetched

/-- The blocks of a list of ranges. -/
def blocksOf (ranges : List Fetched) : List ℕ :=
  ranges.flatMap fun r => rangeInclusive r.fromBlock r.toBlock

/-! ### Steps -/

variable {cfg : EventConfig} {m m' : EventManager} {L l : ℕ}

/-- A batch is ready if all of its blocks exist. -/
lemma le_of_isBatchReady (h : m.isBatchReady cfg l = true) :
    m.waitingBlock ≤ l ∧ m.batchEnd cfg ≤ l := by
  rw [EventManager.isBatchReady] at h
  split at h
  next => exact absurd h (by simp)
  next hle => exact ⟨not_lt.1 hle, of_decide_eq_true h⟩

/-- A batch that is ready below the largest number starts with `waiting_block` and has a block
after it. -/
lemma batchEnd_of_isBatchReady (h : m.isBatchReady cfg l = true) (hl : l < u64Max) :
    m.waitingBlock ≤ m.batchEnd cfg ∧
      saturatingAdd (m.batchEnd cfg) 1 = m.batchEnd cfg + 1 := by
  obtain ⟨hwaiting, hend⟩ := le_of_isBatchReady h
  refine ⟨le_min (Nat.le_add_right _ _) (by omega), saturatingAdd_of_le (by omega)⟩

/-- What a step does. -/
lemma EventManager.step_cases {i : EventInput} {o : EventOutput}
    (h : m.step cfg i = some (m', o)) :
    (∃ l, i = .getBlockNumber (.ok l) ∧ m' = m.continueBatches cfg l ∧ o = .empty) ∨
    (∃ l u, i = .syncBalance (.ok u) ∧ m.pc = .syncing l ∧ m' = m.continueBatches cfg l ∧
      o = .empty) ∨
    (∃ e, (i = .getBlockNumber (.error e) ∨ i = .getLogs (.error e) ∨
      i = .syncBalance (.error e)) ∧ m' = m.restarted ∧ o = .empty) ∨
    (∃ handler roundOffset, i = .bootstrap handler roundOffset ∧ m' = m ∧ o = .empty) ∨
    ∃ l logs, i = .getLogs (.ok logs) ∧ m.pc = .batch l ∧
      (m', o) = m.processNewBlock cfg l logs := by
  unfold EventManager.step at h
  split at h
  next l hpc =>
    obtain ⟨rfl, rfl⟩ : _ = m' ∧ _ = o := by simpa using h
    exact .inl ⟨l, rfl, rfl, rfl⟩
  next e hpc =>
    obtain ⟨rfl, rfl⟩ : _ = m' ∧ _ = o := by simpa using h
    exact .inr (.inr (.inl ⟨e, .inl rfl, rfl, rfl⟩))
  next logs l hpc =>
    obtain hmo : m.processNewBlock cfg l logs = (m', o) := by simpa using h
    exact .inr (.inr (.inr (.inr ⟨l, logs, rfl, hpc, hmo.symm⟩)))
  next e l hpc =>
    obtain ⟨rfl, rfl⟩ : _ = m' ∧ _ = o := by simpa using h
    exact .inr (.inr (.inl ⟨e, .inr (.inl rfl), rfl, rfl⟩))
  next u l hpc =>
    obtain ⟨rfl, rfl⟩ : _ = m' ∧ _ = o := by simpa using h
    exact .inr (.inl ⟨l, u, rfl, hpc, rfl, rfl⟩)
  next e l hpc =>
    obtain ⟨rfl, rfl⟩ : _ = m' ∧ _ = o := by simpa using h
    exact .inr (.inr (.inl ⟨e, .inr (.inr rfl), rfl, rfl⟩))
  next handler roundOffset =>
    obtain ⟨rfl, rfl⟩ : _ = m' ∧ _ = o := by simpa using h
    exact .inr (.inr (.inr (.inl ⟨handler, roundOffset, rfl, rfl, rfl⟩)))
  next => simp at h

/-! ### History -/

/-- The history of a run: the fetched ranges cover everything up to `waiting_block`, and a tick
works with the head that it has read. -/
structure EventHistory (cfg : EventConfig) (L : ℕ) (tr : List (EventInput × EventOutput))
    (m : EventManager) : Prop where
  start_le : L + 1 ≤ m.waitingBlock
  covered : blocksOf (fetchedOf tr) = rangeInclusive (L + 1) (m.waitingBlock - 1)
  ready : ∀ l, m.pc = .batch l → m.isBatchReady cfg l = true
  head : ∀ l, m.pc = .batch l ∨ m.pc = .syncing l → tickHead tr = some l

namespace EventHistory

variable {tr : List (EventInput × EventOutput)} {a : EventInput × EventOutput}

/-- A step that starts a tick sets its head. -/
lemma tickHead_concat_some (h : a.1.tickHead = some l) : tickHead (tr ++ [a]) = some l := by
  simp [tickHead, h]

/-- The other steps keep the head of the tick. -/
lemma tickHead_concat_none (h : a.1.tickHead = none) : tickHead (tr ++ [a]) = tickHead tr := by
  simp [tickHead, h]

/-- Fetched ranges are collected. -/
lemma fetchedOf_concat : fetchedOf (tr ++ [a]) = fetchedOf tr ++ a.2.fetched := by
  simp [fetchedOf]

/-- Steps that fetch nothing keep the coverage. -/
lemma covered_of_empty (h : EventHistory cfg L tr m) (ha : a.2 = .empty)
    (hw : m'.waitingBlock = m.waitingBlock) :
    blocksOf (fetchedOf (tr ++ [a])) = rangeInclusive (L + 1) (m'.waitingBlock - 1) := by
  rw [fetchedOf_concat, ha, hw, ← h.covered]
  simp [EventOutput.empty]

/-- The next batch is started only if it is ready, with the head of the tick. -/
lemma continueBatches (hstart : L + 1 ≤ m.waitingBlock)
    (hcovered : blocksOf (fetchedOf tr) = rangeInclusive (L + 1) (m.waitingBlock - 1))
    (hl : tickHead tr = some l) : EventHistory cfg L tr (m.continueBatches cfg l) where
  start_le := hstart
  covered := hcovered
  ready := by
    intro l' hpc
    simp only [EventManager.continueBatches] at hpc
    split at hpc
    next hready =>
      obtain rfl : l = l' := by simpa using hpc
      exact hready
    next => simp at hpc
  head := by
    intro l' hpc
    simp only [EventManager.continueBatches] at hpc
    split at hpc <;> simp at hpc
    rw [hl, hpc]

/-- A restart forgets the tick. -/
lemma restarted (h : EventHistory cfg L tr m) (ha : a.2 = .empty) :
    EventHistory cfg L (tr ++ [a]) m.restarted where
  start_le := h.start_le
  covered := h.covered_of_empty ha rfl
  ready := by simp [EventManager.restarted]
  head := by simp [EventManager.restarted]

/-- A batch extends the coverage to its end. -/
lemma covered_processNewBlock (h : EventHistory cfg L tr m) (hpc : m.pc = .batch l)
    (hl : l < u64Max) (logs : List Log) (hout : a.2 = (m.processNewBlock cfg l logs).2) :
    blocksOf (fetchedOf (tr ++ [a])) =
      rangeInclusive (L + 1) (saturatingAdd (m.batchEnd cfg) 1 - 1) := by
  obtain ⟨hle, hsat⟩ := batchEnd_of_isBatchReady (h.ready l hpc) hl
  have hstart := h.start_le
  have hpos : m.waitingBlock - 1 + 1 = m.waitingBlock := by omega
  have happend := rangeInclusive_append (a := L + 1) (m := m.waitingBlock - 1)
    (b := m.batchEnd cfg) (by omega) (by omega)
  rw [hpos] at happend
  rw [fetchedOf_concat, hout, hsat, Nat.add_sub_cancel, ← happend, ← h.covered]
  simp [blocksOf, EventManager.processNewBlock]

/-- A batch that was fetched. -/
lemma processNewBlock (h : EventHistory cfg L tr m) (hpc : m.pc = .batch l) (hl : l < u64Max)
    (logs : List Log) (ha : a.1.tickHead = none)
    (hout : a.2 = (m.processNewBlock cfg l logs).2) :
    EventHistory cfg L (tr ++ [a]) (m.processNewBlock cfg l logs).1 := by
  have hcovered := h.covered_processNewBlock hpc hl logs hout
  have hhead : tickHead (tr ++ [a]) = some l := by
    rw [tickHead_concat_none ha]
    exact h.head l (.inl hpc)
  have hstart : L + 1 ≤ saturatingAdd (m.batchEnd cfg) 1 := by
    obtain ⟨hle, hsat⟩ := batchEnd_of_isBatchReady (h.ready l hpc) hl
    have := h.start_le
    omega
  simp only [EventManager.processNewBlock]
  split
  next =>
    refine ⟨hstart, hcovered, by simp, ?_⟩
    rintro l' (hpc' | hpc')
    · simp at hpc'
    · rw [hhead]
      simpa using hpc'
  next => exact continueBatches hstart hcovered hhead

end EventHistory

/-- A head that a tick has read is one of the heads of the trace. -/
lemma mem_headsOf_of_tickHead {tr : List (EventInput × EventOutput)} (h : tickHead tr = some l) :
    l ∈ headsOf tr := by
  obtain ⟨a, ha, hl⟩ := List.mem_filterMap.1 (List.mem_of_getLast? h)
  refine List.mem_filterMap.2 ⟨a, ha, ?_⟩
  cases hi : a.1 with
  | getBlockNumber reply => cases reply <;> simp_all [EventInput.tickHead, EventInput.head]
  | _ => simp [hi, EventInput.tickHead] at hl

/-- The history of every run whose heads are far enough below the largest number. -/
theorem eventHistory_of_run {tr : List (EventInput × EventOutput)}
    (h : (eventSystem cfg L).Run tr m)
    (hheads : ∀ head ∈ L :: headsOf tr, head + 100 + cfg.getLogsBatchSize < 2 ^ 64) :
    EventHistory cfg L tr m := by
  induction h with
  | start h₀ =>
    have hL : saturatingAdd L 1 = L + 1 := by
      have := hheads L List.mem_cons_self
      exact saturatingAdd_of_le (by rw [u64Max]; omega)
    subst h₀
    refine ⟨by simp [EventManager.afterInitialize, hL], ?_, ?_, ?_⟩
    · simp [EventManager.afterInitialize, hL, blocksOf, fetchedOf,
        rangeInclusive_of_lt (Nat.lt_succ_self L)]
    · simp [EventManager.afterInitialize]
    · simp [EventManager.afterInitialize]
  | @snoc tr m m' a _ hstep ih =>
    have hbefore : ∀ head ∈ L :: headsOf tr, head + 100 + cfg.getLogsBatchSize < 2 ^ 64 := by
      intro head hh
      apply hheads
      rw [headsOf, List.filterMap_append, ← List.cons_append]
      exact List.mem_append_left _ hh
    have hist : EventHistory cfg L tr m := ih hbefore
    obtain ⟨i, o⟩ := a
    rcases EventManager.step_cases hstep with ⟨l, rfl, rfl, rfl⟩ | ⟨l, u, rfl, hpc, rfl, rfl⟩ |
      ⟨e, -, rfl, rfl⟩ | ⟨_, _, rfl, rfl, rfl⟩ | ⟨l, logs, rfl, hpc, hmo⟩
    · exact .continueBatches hist.start_le (hist.covered_of_empty rfl rfl)
        (EventHistory.tickHead_concat_some rfl)
    · refine .continueBatches hist.start_le (hist.covered_of_empty rfl rfl) ?_
      rw [EventHistory.tickHead_concat_none rfl]
      exact hist.head l (.inr hpc)
    · exact hist.restarted rfl
    · refine ⟨hist.start_le, hist.covered_of_empty rfl rfl, hist.ready, fun l hpc => ?_⟩
      rw [EventHistory.tickHead_concat_none rfl]
      exact hist.head l hpc
    · obtain ⟨rfl, rfl⟩ := Prod.mk.inj hmo
      have hmem : l ∈ headsOf tr := mem_headsOf_of_tickHead (hist.head l (.inl hpc))
      have hl : l < u64Max := by
        have := hbefore l (List.mem_cons_of_mem _ hmem)
        rw [u64Max]
        omega
      exact hist.processNewBlock hpc hl logs rfl rfl

/-! ### Coverage -/

/-- What a step fetches lies below the head of its tick, and what it fetches it broadcasts. -/
lemma EventHistory.step {tr : List (EventInput × EventOutput)} {a : EventInput × EventOutput}
    (hist : EventHistory cfg L tr m) (hl : ∀ l, tickHead tr = some l → l < u64Max)
    (h : m.step cfg a.1 = some (m', a.2)) :
    (∀ r ∈ a.2.fetched, r.fromBlock ≤ r.toBlock ∧ tickHead tr = some r.latestBlock ∧
      r.toBlock ≤ r.latestBlock) ∧
    a.2.messages.flatMap (fun msg => msg.eventLogs) =
      match a.1 with
      | .getLogs (.ok logs) => logs
      | _ => [] := by
  obtain ⟨i, o⟩ := a
  have hempty : o = .empty → ∀ r ∈ o.fetched, r.fromBlock ≤ r.toBlock ∧
      tickHead tr = some r.latestBlock ∧ r.toBlock ≤ r.latestBlock := by
    rintro rfl
    simp [EventOutput.empty]
  rcases EventManager.step_cases h with ⟨l, rfl, rfl, rfl⟩ | ⟨l, u, rfl, hpc, rfl, rfl⟩ |
    ⟨e, he, rfl, rfl⟩ | ⟨_, _, rfl, rfl, rfl⟩ | ⟨l, logs, rfl, hpc, hmo⟩
  · exact ⟨hempty rfl, rfl⟩
  · exact ⟨hempty rfl, rfl⟩
  · refine ⟨hempty rfl, ?_⟩
    rcases he with rfl | rfl | rfl <;> rfl
  · exact ⟨hempty rfl, rfl⟩
  · obtain ⟨rfl, rfl⟩ := Prod.mk.inj hmo
    have hhead := hist.head l (.inl hpc)
    have hready := hist.ready l hpc
    refine ⟨?_, ?_⟩
    · intro r hr
      obtain rfl : r = ⟨m.waitingBlock, m.batchEnd cfg, l⟩ := by
        simpa [EventManager.processNewBlock] using hr
      exact ⟨(batchEnd_of_isBatchReady hready (hl l hhead)).1, hhead,
        (le_of_isBatchReady hready).2⟩
    · cases logs <;> simp

/-- A bootstrap covers everything from its first block on that the event manager does not.  If the
node answers for every range of existing blocks, it returns; and when it returns logs, every block
from its first one up to the one before `waiting_block` is in a batch of the event manager or in a
query of the bootstrap, whose logs it returns. -/
structure BootstrapCovers (tr : List (EventInput × EventOutput)) (m : EventManager)
    (handler : SocketBootstrap) (roundOffset : Option UInt64) : Prop where
  returns : ∀ fromBlock head, handler.bootstrapRange roundOffset = .ok (fromBlock, head) →
    (∀ first last, first ≤ last → last ≤ head → ∃ logs,
      handler.client.getLogs (handler.filter first last) = .ok logs) →
    ∃ bound queries logs, ∀ fuel, bound ≤ fuel →
      handler.fetchSocketLogs roundOffset fuel = some ⟨queries, .ok logs⟩
  covers : ∀ fuel queries logs,
    handler.fetchSocketLogs roundOffset fuel = some ⟨queries, .ok logs⟩ →
    ∃ fromBlock head, handler.bootstrapRange roundOffset = .ok (fromBlock, head) ∧
      ∀ n, fromBlock.toNat ≤ n → n ≤ m.waitingBlock - 1 → n ∈ blocksOf (fetchedOf tr) ∨
        ∃ q ∈ queries, ∃ part, q.fromBlock.toNat ≤ n ∧ n ≤ q.toBlock.toNat ∧
          handler.client.getLogs q = .ok part ∧ part ⊆ logs

/-- The logs of an EVM chain are covered without gaps or duplicates.  The fetched ranges are
consecutive and partition the blocks from the head at initialization up to `waiting_block`; each of
them lies below the head that its tick has read, and its logs are broadcast once.  A fetch that
fails leaves `waiting_block` as it is.  If the heads do not decrease, a bootstrap covers, together
with these ranges, everything from its first block on, unless `from_block` plus the size of a chunk
overflows. -/
theorem evm_log_coverage (cfg : EventConfig) (L : ℕ) {tr : List (EventInput × EventOutput)}
    {m : EventManager} (h : (eventSystem cfg L).Run tr m)
    (hheads : ∀ head ∈ L :: headsOf tr, head + 100 + cfg.getLogsBatchSize < 2 ^ 64) :
    blocksOf (fetchedOf tr) = rangeInclusive (L + 1) (m.waitingBlock - 1) ∧
    (∀ (before : List (EventInput × EventOutput)) (a : EventInput × EventOutput) after,
      tr = before ++ a :: after →
      (∀ r ∈ a.2.fetched, r.fromBlock ≤ r.toBlock ∧ tickHead before = some r.latestBlock ∧
        r.toBlock ≤ r.latestBlock) ∧
      a.2.messages.flatMap (fun msg => msg.eventLogs) =
        match a.1 with
        | .getLogs (.ok logs) => logs
        | _ => []) ∧
    (∀ e m' o, m.step cfg (.getLogs (.error e)) = some (m', o) →
      m'.waitingBlock = m.waitingBlock ∧ o = .empty) ∧
    ((L :: headsOf tr).Pairwise (· ≤ ·) → ∀ handler roundOffset o,
      (.bootstrap handler roundOffset, o) ∈ tr → handler.Fits roundOffset →
      BootstrapCovers tr m handler roundOffset) := by
  have hist := eventHistory_of_run h hheads
  refine ⟨hist.covered, ?_, ?_, ?_⟩
  · rintro before a after rfl
    obtain ⟨m₁, m₂, hrun, hstep⟩ := h.split
    have hbefore : ∀ head ∈ L :: headsOf before, head + 100 + cfg.getLogsBatchSize < 2 ^ 64 := by
      intro head hh
      apply hheads
      rw [headsOf, List.filterMap_append, ← List.cons_append]
      exact List.mem_append_left _ hh
    refine (eventHistory_of_run hrun hbefore).step (fun l hl => ?_) hstep
    have := hbefore l (List.mem_cons_of_mem _ (mem_headsOf_of_tickHead hl))
    rw [u64Max]
    omega
  · intro e m' o hstep
    rcases EventManager.step_cases hstep with ⟨l, hi, -⟩ | ⟨l, u, hi, -⟩ | ⟨e, -, rfl, rfl⟩ |
      ⟨_, _, hi, -⟩ | ⟨l, logs, hi, -⟩
    · exact absurd hi (by simp)
    · exact absurd hi (by simp)
    · exact ⟨rfl, rfl⟩
    · exact absurd hi (by simp)
    · exact absurd hi (by simp)
  · intro hmono handler roundOffset o hmem hfits
    refine ⟨fun fromBlock head hrange hanswers => ?_, fun fuel queries logs hfetch => ?_⟩
    · exact SocketBootstrap.fetchSocketLogs_returns hfits hrange hanswers
    · obtain ⟨fromBlock, head, hrange, hcover⟩ :=
        SocketBootstrap.fetchSocketLogs_covers hfits hfetch
      refine ⟨fromBlock, head, hrange, fun n hfrom hto => ?_⟩
      have hLhead : L ≤ head.toNat := by
        apply (List.pairwise_cons.1 hmono).1
        refine List.mem_filterMap.2 ⟨_, hmem, ?_⟩
        simp [EventInput.head, SocketBootstrap.blockNumber_of_bootstrapRange hrange, Except.toOption]
      by_cases hn : n ≤ head.toNat
      · exact .inr (hcover n hfrom hn)
      · left
        rw [hist.covered]
        exact mem_rangeInclusive.2 ⟨by omega, hto⟩

/-! ### A tick and a bootstrap -/

/-- Batches of two blocks. -/
def sampleEventConfig : EventConfig := ⟨2, false⟩

/-- A socket handler whose bootstrap goes back by an offset from a head.  The node has no logs, and
rejects ranges that end before they begin. -/
def sampleHandler (offset head : UInt64) : SocketBootstrap where
  client := ⟨1, true, ⟨FixedBytes.repeatByte 20 1⟩, none, .ok ⟨0⟩, fun _ _ => .ok offset, .ok head,
    fun filter => if filter.fromBlock ≤ filter.toBlock then .ok []
      else .error ⟨"invalid block range"⟩⟩
  bifrostClient := ⟨1, true, ⟨FixedBytes.repeatByte 20 1⟩, none, .ok ⟨0⟩, fun _ _ => .ok offset,
    .ok head, fun _ => .ok []⟩
  signatureHash := FixedBytes.repeatByte 32 6

lemma bootstrapRange_sampleHandler (offset head : UInt64) :
    (sampleHandler offset head).bootstrapRange none =
      .ok (.ofNat (head.toNat - offset.toNat), head) :=
  rfl

/-- A log of the chain. -/
def sampleLog : Log :=
  ⟨⟨FixedBytes.repeatByte 20 1⟩, [FixedBytes.repeatByte 32 6], [], none, none, some 0⟩

/-- The bootstrap goes back from 102 to 82, and a tick at the head 105 fetches two batches; block 105
is left for the next tick. -/
theorem evm_log_coverage_ticked :
    ∃ tr m, (eventSystem sampleEventConfig 100).Run tr m ∧ m.waitingBlock = 105 ∧
      blocksOf (fetchedOf tr) = [101, 102, 103, 104] ∧
      tr.flatMap (fun a => a.2.messages) = [⟨103, [sampleLog]⟩] ∧
      (sampleHandler 20 102).bootstrapRange none = .ok (82, 102) ∧
      BootstrapCovers tr m (sampleHandler 20 102) none := by
  have hinit : (eventSystem sampleEventConfig 100).Run [] ⟨101, .idle⟩ := .start rfl
  have hbootstrap : (eventSystem sampleEventConfig 100).Run
      [(.bootstrap (sampleHandler 20 102) none, .empty)] ⟨101, .idle⟩ := hinit.snoc rfl
  have htick : (eventSystem sampleEventConfig 100).Run
      [(.bootstrap (sampleHandler 20 102) none, .empty), (.getBlockNumber (.ok 105), .empty)]
      ⟨101, .batch 105⟩ := hbootstrap.snoc rfl
  have hbatch : (eventSystem sampleEventConfig 100).Run
      [(.bootstrap (sampleHandler 20 102) none, .empty), (.getBlockNumber (.ok 105), .empty),
        (.getLogs (.ok []), ⟨[⟨101, 102, 105⟩], []⟩)] ⟨103, .batch 105⟩ := htick.snoc rfl
  have hrun : (eventSystem sampleEventConfig 100).Run
      [(.bootstrap (sampleHandler 20 102) none, .empty), (.getBlockNumber (.ok 105), .empty),
        (.getLogs (.ok []), ⟨[⟨101, 102, 105⟩], []⟩),
        (.getLogs (.ok [sampleLog]), ⟨[⟨103, 104, 105⟩], [⟨103, [sampleLog]⟩]⟩)]
      ⟨105, .idle⟩ :=
    hbatch.snoc rfl
  have hcoverage := (evm_log_coverage _ _ hrun (by decide)).2.2.2 (by decide)
    (sampleHandler 20 102) none .empty (by simp)
  refine ⟨_, _, hrun, rfl, rfl, rfl, rfl, hcoverage fun fromBlock head hrange => ?_⟩
  obtain ⟨rfl, rfl⟩ : (82 : UInt64) = fromBlock ∧ (102 : UInt64) = head := by
    simpa using Except.ok.inj hrange
  decide

/-- The head is 300 blocks below the largest number, and `from_block` is another 500 below it. -/
def overflowingHandler : SocketBootstrap := sampleHandler 500 (.ofNat (2 ^ 64 - 300))

/-- The first query of such a bootstrap ends before it begins. -/
theorem bootstrap_overflows :
    ∃ tr m, (eventSystem sampleEventConfig (2 ^ 64 - 400)).Run tr m ∧
      (∀ head ∈ (2 ^ 64 - 400) :: headsOf tr,
        head + 100 + sampleEventConfig.getLogsBatchSize < 2 ^ 64) ∧
      ((2 ^ 64 - 400) :: headsOf tr).Pairwise (· ≤ ·) ∧
      ∃ handler, (.bootstrap handler none, .empty) ∈ tr ∧ ¬BootstrapCovers tr m handler none := by
  have hinit : (eventSystem sampleEventConfig (2 ^ 64 - 400)).Run [] ⟨2 ^ 64 - 399, .idle⟩ :=
    .start rfl
  have hrun : (eventSystem sampleEventConfig (2 ^ 64 - 400)).Run
      [(.bootstrap overflowingHandler none, .empty)]
      ⟨2 ^ 64 - 399, .idle⟩ := hinit.snoc rfl
  refine ⟨_, _, hrun, by decide +kernel, by decide +kernel, _, List.mem_singleton.2 rfl,
    fun hcovers => ?_⟩
  have hrange : overflowingHandler.bootstrapRange none =
      .ok (.ofNat (2 ^ 64 - 800), .ofNat (2 ^ 64 - 300)) :=
    bootstrapRange_sampleHandler 500 (.ofNat (2 ^ 64 - 300))
  obtain ⟨bound, queries, logs, hfetch⟩ := hcovers.returns _ _ hrange
    fun first last hle _ => ⟨[], if_pos hle⟩
  -- the first query fails, and that ends the loop
  have hstep : ∀ loop, loop = overflowingHandler.chunkLoop (.ofNat (2 ^ 64 - 800))
      (.ofNat (2 ^ 64 - 300)) → loop.step loop.start = some ⟨200,
        [overflowingHandler.filter (.ofNat (2 ^ 64 - 800)) 199],
        .error ⟨"invalid block range"⟩⟩ := by
    rintro _ rfl
    rfl
  have hok := hfetch (bound + 1) (Nat.le_succ bound)
  rw [SocketBootstrap.fetchSocketLogs_of_bootstrapRange hrange,
    ChunkLoop.fetch_of_step_error (hstep _ rfl)] at hok
  cases congrArg (Option.map Fetch.result) hok

end Evm

end BifrostRelayer
