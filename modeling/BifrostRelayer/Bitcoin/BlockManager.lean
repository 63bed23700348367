import BifrostRelayer.Foundation.Ranges
import BifrostRelayer.Foundation.Runs
import BifrostRelayer.Primitives.Bitcoin

/-!
# The Bitcoin block manager

The block manager scans the blocks of Bitcoin in order and broadcasts the outputs that pay to a
vault or to a refund address.  `waiting_block` is the next block to scan.  In normal operation a
block is scanned once it has `block_confirmations` blocks on top of it; with bootstrap enabled the
blocks up to the head at initialization are scanned first.

A step of the model is the initialization, a `bootstrap`, or one tick of the loop of `run`.  A call
that fails makes `run` return, and `service.rs` calls it again on the same instance: the state stays
as it is, and a bootstrap that did not get to its end starts anew.
-/

namespace BifrostRelayer

namespace Bitcoin

open SolidityAbi

/-! ### Scanning -/

/-- An output of a transaction. -/
structure Vout where
  value : UInt64
  n : UInt32
  /-- The address of `script_pub_key`, if it has one. -/
  address : Option BtcAddress
deriving DecidableEq

/-- A transaction of a block. -/
structure Transaction where
  txid : B256
  vout : List Vout
deriving DecidableEq

/-- The vault and refund addresses that are registered. -/
structure RegistrationSets where
  vault : List BtcAddress
  refund : List BtcAddress
deriving DecidableEq

/-- The transactions of the blocks, by height. -/
abbrev Blocks : Type := ℕ → List Transaction

/-- `inbound.events` and `outbound.events` while they are filled. -/
abbrev EventLists : Type := List Event × List Event

/-- `filter`: an address in both sets counts as a vault. -/
def filter (sets : RegistrationSets) (txid : B256) : List Vout → EventLists → EventLists
  | [], acc => acc
  | v :: rest, acc =>
    match v.address with
    | none => filter sets txid rest acc
    | some address =>
      if sets.vault.contains address then
        filter sets txid rest (acc.1 ++ [⟨txid, v.n, address, v.value⟩], acc.2)
      else if sets.refund.contains address then
        filter sets txid rest (acc.1, acc.2 ++ [⟨txid, v.n, address, v.value⟩])
      else filter sets txid rest acc

/-- The loop over the transactions of a block. -/
def filterBlock (sets : RegistrationSets) (txs : List Transaction) (acc : EventLists) :
    EventLists :=
  txs.foldl (fun acc tx => filter sets tx.txid tx.vout acc) acc

/-- The messages of one confirmed block. -/
def blockMessages (sets : RegistrationSets) (blocks : Blocks) (num : ℕ) : List EventMessage :=
  let events := filterBlock sets (blocks num) ([], [])
  [.newBlock num, { EventMessage.inbound num with events := events.1 },
    { EventMessage.outbound num with events := events.2 }]

/-- The messages that `get_bootstrap_events` returns for a range of blocks. -/
def bootstrapMessages (sets : RegistrationSets) (blocks : Blocks) (fromBlock toBlock : ℕ) :
    List EventMessage :=
  let events := (rangeInclusive fromBlock toBlock).foldl
    (fun acc i => filterBlock sets (blocks i) acc) ([], [])
  [{ EventMessage.inbound toBlock with events := events.1 },
    { EventMessage.outbound toBlock with events := events.2 }]

/-! ### The manager -/

/-- The parameters of the manager. -/
structure BlockConfig where
  blockConfirmations : ℕ
  bootstrapOffset : ℕ
  /-- The chain starts before `NormalStart`. -/
  bootstrapEnabled : Bool

/-- Where the manager stands. -/
inductive Phase where
  /-- Before `initialize`. -/
  | created
  /-- In `bootstrap`, or about to be called for it. -/
  | bootstrap
  /-- In the loop of `run`, or about to be called for it. -/
  | normal
deriving DecidableEq, Repr

/-- `BlockManager`. -/
structure BlockManager where
  waitingBlock : ℕ
  phase : Phase
deriving DecidableEq

/-- What happens in a step, with the replies that its calls get. -/
inductive BlockInput where
  /-- `initialize`. -/
  | initialized (latestBlock : ℕ)
  /-- A call of `bootstrap`, made while the head of the chain is `blockCount`. -/
  | bootstrap (blockCount : ℕ) (sets : Except Report RegistrationSets) (blocks : Blocks)
  /-- A tick of the loop. -/
  | tick (blockCount : Except Report ℕ) (sets : Except Report RegistrationSets) (blocks : Blocks)

/-- The blocks that a step scans and the messages that it broadcasts. -/
structure BlockOutput where
  scanned : List ℕ
  messages : List EventMessage
deriving DecidableEq

/-- Nothing was scanned. -/
def BlockOutput.empty : BlockOutput := ⟨[], []⟩

namespace BlockManager

variable (cfg : BlockConfig) (m : BlockManager)

/-- `is_block_confirmed`. -/
def isBlockConfirmed (latestBlockNum : ℕ) : Bool :=
  if m.waitingBlock > latestBlockNum then false
  else decide (latestBlockNum - m.waitingBlock ≥ cfg.blockConfirmations)

/-- `increment_waiting_block`. -/
def incrementWaitingBlock (toBlock : ℕ) : BlockManager :=
  { m with waitingBlock := saturatingAdd toBlock 1 }

/-- `process_confirmed_block`. -/
def processConfirmedBlock (toBlock : ℕ) (sets : RegistrationSets) (blocks : Blocks) :
    BlockManager × BlockOutput :=
  let scanned := rangeInclusive m.waitingBlock toBlock
  (m.incrementWaitingBlock toBlock, ⟨scanned, scanned.flatMap (blockMessages sets blocks)⟩)

/-- `bootstrap`. -/
def bootstrap (sets : RegistrationSets) (blocks : Blocks) : BlockManager × BlockOutput :=
  let toBlock := m.waitingBlock - 1
  let fromBlock := toBlock - cfg.bootstrapOffset
  ({ m with phase := .normal },
    ⟨rangeInclusive fromBlock toBlock, bootstrapMessages sets blocks fromBlock toBlock⟩)

/-- A tick of the loop of `run`. -/
def tick (blockCount : Except Report ℕ) (sets : Except Report RegistrationSets)
    (blocks : Blocks) : BlockManager × BlockOutput :=
  match blockCount with
  | .error _ => (m, .empty)
  | .ok latestBlockNum =>
    if m.isBlockConfirmed cfg latestBlockNum then
      match sets with
      | .error _ => (m, .empty)
      | .ok sets => m.processConfirmedBlock (latestBlockNum - cfg.blockConfirmations) sets blocks
    else (m, .empty)

/-- A step of the manager. -/
def step : BlockInput → Option (BlockManager × BlockOutput)
  | .initialized latestBlock =>
    if m.phase = .created then
      some (⟨saturatingAdd latestBlock 1,
        if cfg.bootstrapEnabled then .bootstrap else .normal⟩, .empty)
    else none
  | .bootstrap _ sets blocks =>
    if m.phase = .bootstrap then
      match sets with
      | .error _ => some (m, .empty)
      | .ok sets => some (m.bootstrap cfg sets blocks)
    else none
  | .tick blockCount sets blocks =>
    if m.phase = .normal then some (m.tick cfg blockCount sets blocks) else none

end BlockManager

/-- The block counts of a step. -/
def BlockInput.blockCounts : BlockInput → List ℕ
  | .initialized latestBlock => [latestBlock]
  | .bootstrap blockCount _ _ => [blockCount]
  | .tick (.ok blockCount) _ _ => [blockCount]
  | .tick (.error _) _ _ => []

/-- The runs of the manager.  Block counts are 64-bit numbers. -/
def blockSystem (cfg : BlockConfig) : LabelledSystem BlockManager (BlockInput × BlockOutput) where
  init m := m = ⟨0, .created⟩
  step m a m' := (∀ n ∈ a.1.blockCounts, n ≤ u64Max) ∧ m.step cfg a.1 = some (m', a.2)

/-- What a step does. -/
lemma BlockManager.step_cases {cfg : BlockConfig} {m m' : BlockManager} {i : BlockInput}
    {o : BlockOutput} (h : m.step cfg i = some (m', o)) :
    (∃ latestBlock, i = .initialized latestBlock ∧ m.phase = .created ∧ o = .empty ∧
      m' = ⟨saturatingAdd latestBlock 1,
        if cfg.bootstrapEnabled then .bootstrap else .normal⟩) ∨
    (m' = m ∧ o = .empty ∧ m.phase ≠ .created) ∨
    (∃ blockCount sets blocks, i = .bootstrap blockCount (.ok sets) blocks ∧
      m.phase = .bootstrap ∧ (m', o) = m.bootstrap cfg sets blocks) ∨
    (∃ blockCount sets blocks, i = .tick (.ok blockCount) (.ok sets) blocks ∧
      m.phase = .normal ∧ m.isBlockConfirmed cfg blockCount = true ∧
      (m', o) = m.processConfirmedBlock (blockCount - cfg.blockConfirmations) sets blocks) := by
  cases i with
  | initialized latestBlock =>
    simp only [step, Option.ite_none_right_eq_some, Option.some.injEq, Prod.mk.injEq] at h
    obtain ⟨hphase, rfl, rfl⟩ := h
    exact .inl ⟨latestBlock, rfl, hphase, rfl, rfl⟩
  | bootstrap blockCount sets blocks =>
    simp only [step, Option.ite_none_right_eq_some] at h
    obtain ⟨hphase, h⟩ := h
    cases sets with
    | error e =>
      simp only [Option.some.injEq, Prod.mk.injEq] at h
      exact .inr (.inl ⟨h.1.symm, h.2.symm, by simp [hphase]⟩)
    | ok sets =>
      simp only [Option.some.injEq] at h
      exact .inr (.inr (.inl ⟨blockCount, sets, blocks, rfl, hphase, h.symm⟩))
  | tick blockCount sets blocks =>
    simp only [step, Option.ite_none_right_eq_some, Option.some.injEq] at h
    obtain ⟨hphase, h⟩ := h
    have hstay (hm : (m, BlockOutput.empty) = (m', o)) :
        m' = m ∧ o = .empty ∧ m.phase ≠ .created := by
      obtain ⟨rfl, rfl⟩ := Prod.mk.inj hm
      exact ⟨rfl, rfl, by simp [hphase]⟩
    simp only [tick] at h
    cases blockCount with
    | error e => exact .inr (.inl (hstay h))
    | ok latestBlockNum =>
      simp only at h
      by_cases hconf : m.isBlockConfirmed cfg latestBlockNum = true
      · rw [if_pos hconf] at h
        cases sets with
        | error e => exact .inr (.inl (hstay h))
        | ok sets =>
          exact .inr (.inr (.inr ⟨latestBlockNum, sets, blocks, rfl, hphase, hconf, h.symm⟩))
      · rw [if_neg hconf] at h
        exact .inr (.inl (hstay h))

/-! ### What a scan reports -/

/-- The outputs of the transactions of a block. -/
def outputs (txs : List Transaction) : List (B256 × Vout) :=
  txs.flatMap fun tx => tx.vout.map fun v => (tx.txid, v)

/-- The inbound event of an output: it pays to a vault. -/
def inboundEvent (sets : RegistrationSets) (x : B256 × Vout) : Option Event :=
  x.2.address.bind fun address =>
    if sets.vault.contains address then some ⟨x.1, x.2.n, address, x.2.value⟩ else none

/-- The outbound event of an output: it pays to a refund address that is not a vault. -/
def outboundEvent (sets : RegistrationSets) (x : B256 × Vout) : Option Event :=
  x.2.address.bind fun address =>
    if sets.vault.contains address then none
    else if sets.refund.contains address then some ⟨x.1, x.2.n, address, x.2.value⟩ else none

/-- The inbound events of a block, one for each output that has one. -/
def inboundEvents (sets : RegistrationSets) (txs : List Transaction) : List Event :=
  (outputs txs).filterMap (inboundEvent sets)

/-- The outbound events of a block, one for each output that has one. -/
def outboundEvents (sets : RegistrationSets) (txs : List Transaction) : List Event :=
  (outputs txs).filterMap (outboundEvent sets)

section Scan

variable (sets : RegistrationSets)

/-- The filter appends the events of the outputs in order. -/
lemma filter_eq (txid : B256) (vouts : List Vout) (acc : EventLists) :
    filter sets txid vouts acc =
      (acc.1 ++ (vouts.map fun v => (txid, v)).filterMap (inboundEvent sets),
        acc.2 ++ (vouts.map fun v => (txid, v)).filterMap (outboundEvent sets)) := by
  induction vouts generalizing acc with
  | nil => simp [filter]
  | cons v rest ih =>
    cases hv : v.address with
    | none => simp [filter, hv, ih, inboundEvent, outboundEvent]
    | some address =>
      by_cases hvault : address ∈ sets.vault
      · simp [filter, hv, hvault, ih, inboundEvent, outboundEvent]
      · by_cases hrefund : address ∈ sets.refund
        · simp [filter, hv, hvault, hrefund, ih, inboundEvent, outboundEvent]
        · simp [filter, hv, hvault, hrefund, ih, inboundEvent, outboundEvent]

/-- The events of a block are appended in order. -/
lemma filterBlock_eq (txs : List Transaction) (acc : EventLists) :
    filterBlock sets txs acc =
      (acc.1 ++ inboundEvents sets txs, acc.2 ++ outboundEvents sets txs) := by
  induction txs generalizing acc with
  | nil => simp [filterBlock, inboundEvents, outboundEvents, outputs]
  | cons tx rest ih =>
    have hstep : filterBlock sets (tx :: rest) acc =
        filterBlock sets rest (filter sets tx.txid tx.vout acc) := rfl
    rw [hstep, ih, filter_eq]
    simp [inboundEvents, outboundEvents, outputs]

/-- The messages of a confirmed block. -/
lemma blockMessages_eq (blocks : Blocks) (num : ℕ) :
    blockMessages sets blocks num =
      [⟨num, .newBlock, []⟩, ⟨num, .inbound, inboundEvents sets (blocks num)⟩,
        ⟨num, .outbound, outboundEvents sets (blocks num)⟩] := by
  simp [blockMessages, filterBlock_eq, EventMessage.newBlock, EventMessage.inbound,
    EventMessage.outbound]

/-- The messages of the bootstrap. -/
lemma bootstrapMessages_eq (blocks : Blocks) (fromBlock toBlock : ℕ) :
    bootstrapMessages sets blocks fromBlock toBlock =
      [⟨toBlock, .inbound, (rangeInclusive fromBlock toBlock).flatMap fun n =>
          inboundEvents sets (blocks n)⟩,
        ⟨toBlock, .outbound, (rangeInclusive fromBlock toBlock).flatMap fun n =>
          outboundEvents sets (blocks n)⟩] := by
  have hfold : ∀ (l : List ℕ) (acc : EventLists),
      l.foldl (fun acc i => filterBlock sets (blocks i) acc) acc =
        (acc.1 ++ l.flatMap (fun n => inboundEvents sets (blocks n)),
          acc.2 ++ l.flatMap fun n => outboundEvents sets (blocks n)) := by
    intro l
    induction l with
    | nil => simp
    | cons n rest ih =>
      intro acc
      rw [List.foldl_cons, ih, filterBlock_eq]
      simp
  simp [bootstrapMessages, hfold, EventMessage.inbound, EventMessage.outbound]

end Scan

end Bitcoin

end BifrostRelayer
