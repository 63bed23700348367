import BifrostRelayer.Bitcoin.BlockManager

/-!
# Runs of the block manager

The blocks that the bootstrap and the ticks scan follow each other without a gap or an overlap, and
every output of a scanned block is reported once, in the direction that the registered addresses
give it.  The one exception is the last block number of all: `waiting_block` saturates there, so
without confirmations the block `u64::MAX` would be scanned again and again.

In normal operation the blocks scanned are confirmed.  The bootstrap scans up to the head that was
seen at initialization, so it needs the chain to have grown in the meantime.
-/

namespace BifrostRelayer

namespace Bitcoin

open SolidityAbi

/-! ### Coverage -/

/-- All blocks scanned in a trace, in order. -/
def scannedOf (tr : List (BlockInput × BlockOutput)) : List ℕ := tr.flatMap fun a => a.2.scanned

/-- The first block to scan when `initialize` has seen the head `latestBlock`: the bootstrap start,
or the block after the head. -/
def scanStart (cfg : BlockConfig) (latestBlock : ℕ) : ℕ :=
  if cfg.bootstrapEnabled then saturatingAdd latestBlock 1 - 1 - cfg.bootstrapOffset
  else latestBlock + 1

/-- The blocks scanned so far and the manager fit together: nothing is scanned before the bootstrap,
and then everything from the start up to the block before `waiting_block`. -/
def Covered (cfg : BlockConfig) (latestBlock : ℕ) (scanned : List ℕ) (m : BlockManager) : Prop :=
  match m.phase with
  | .created => False
  | .bootstrap => scanned = [] ∧ m.waitingBlock = saturatingAdd latestBlock 1 ∧
      cfg.bootstrapEnabled = true
  | .normal => scanned = rangeInclusive (scanStart cfg latestBlock) (m.waitingBlock - 1) ∧
      saturatingAdd latestBlock 1 ≤ m.waitingBlock

/-- Block counts that `waiting_block` can get past: there are confirmations to wait for, or the
count is not the largest number. -/
def Passable (cfg : BlockConfig) (i : BlockInput) : Prop :=
  0 < cfg.blockConfirmations ∨ ∀ n ∈ i.blockCounts, n < u64Max

variable {cfg : BlockConfig} {m m' : BlockManager} {L : ℕ}

/-- A block is confirmed if it is `block_confirmations` below the head. -/
lemma le_of_isBlockConfirmed {latestBlockNum : ℕ}
    (h : m.isBlockConfirmed cfg latestBlockNum = true) :
    m.waitingBlock + cfg.blockConfirmations ≤ latestBlockNum := by
  rw [BlockManager.isBlockConfirmed] at h
  split at h
  next => exact absurd h (by simp)
  next hle =>
    have := of_decide_eq_true h
    omega

/-- After `initialize` nothing is scanned. -/
lemma covered_initialized (cfg : BlockConfig) (L : ℕ) :
    Covered cfg L [] ⟨saturatingAdd L 1, if cfg.bootstrapEnabled then .bootstrap else .normal⟩ := by
  by_cases hb : cfg.bootstrapEnabled = true
  · simp [Covered, hb]
  · have hle : saturatingAdd L 1 ≤ L + 1 := min_le_left _ _
    have hempty : rangeInclusive (L + 1) (saturatingAdd L 1 - 1) = [] :=
      rangeInclusive_of_lt (by omega)
    simp [Covered, hb, scanStart, hempty]

/-- A bootstrap scans from its start to the head at initialization. -/
lemma Covered.bootstrap {scanned : List ℕ} (h : Covered cfg L scanned m)
    (hphase : m.phase = .bootstrap) (sets : RegistrationSets) (blocks : Blocks) :
    Covered cfg L (scanned ++ (m.bootstrap cfg sets blocks).2.scanned)
      (m.bootstrap cfg sets blocks).1 := by
  simp only [Covered, hphase] at h
  obtain ⟨rfl, hwaiting, henabled⟩ := h
  simp [Covered, BlockManager.bootstrap, scanStart, henabled, hwaiting]

/-- A pass over confirmed blocks scans from `waiting_block` on and goes on behind them. -/
lemma Covered.processConfirmedBlock {scanned : List ℕ} {latestBlockNum : ℕ}
    (h : Covered cfg L scanned m) (hphase : m.phase = .normal)
    (hlatest : 0 < cfg.blockConfirmations ∨ latestBlockNum < u64Max)
    (hle : latestBlockNum ≤ u64Max) (hconf : m.isBlockConfirmed cfg latestBlockNum = true)
    (sets : RegistrationSets) (blocks : Blocks) :
    Covered cfg L (scanned ++ (m.processConfirmedBlock
        (latestBlockNum - cfg.blockConfirmations) sets blocks).2.scanned)
      (m.processConfirmedBlock (latestBlockNum - cfg.blockConfirmations) sets blocks).1 := by
  simp only [Covered, hphase] at h
  obtain ⟨rfl, hwaiting⟩ := h
  have hdeep := le_of_isBlockConfirmed hconf
  have hsat : saturatingAdd (latestBlockNum - cfg.blockConfirmations) 1 =
      latestBlockNum - cfg.blockConfirmations + 1 := by
    refine saturatingAdd_of_le ?_
    omega
  -- `waiting_block` did not saturate at initialization, or no block would be confirmed now
  have hbelow : L < u64Max := by
    by_contra hmax
    have hsatL : saturatingAdd L 1 = u64Max := min_eq_right (by omega)
    omega
  have hsatL : saturatingAdd L 1 = L + 1 := saturatingAdd_of_le hbelow
  have hscan : scanStart cfg L ≤ m.waitingBlock := by
    rw [scanStart]
    split <;> omega
  have hpos : m.waitingBlock - 1 + 1 = m.waitingBlock := by omega
  have happend := rangeInclusive_append (a := scanStart cfg L) (m := m.waitingBlock - 1)
    (b := latestBlockNum - cfg.blockConfirmations) (by omega) (by omega)
  rw [hpos] at happend
  simp only [Covered, BlockManager.processConfirmedBlock, BlockManager.incrementWaitingBlock,
    hphase, hsat, Nat.add_sub_cancel]
  exact ⟨happend, by omega⟩

/-- Before `initialize` the trace is empty; afterwards it starts with it, and the blocks scanned fit
together with the manager. -/
lemma covered_of_run {tr : List (BlockInput × BlockOutput)} (h : (blockSystem cfg).Run tr m)
    (hpass : ∀ a ∈ tr, Passable cfg a.1) :
    tr = [] ∧ m.phase = .created ∨
      ∃ L rest, tr = (.initialized L, .empty) :: rest ∧ Covered cfg L (scannedOf tr) m := by
  induction h with
  | start h₀ => exact .inl ⟨rfl, by rw [h₀]⟩
  | @snoc tr m m' a _ hstep ih =>
    obtain ⟨i, o⟩ := a
    obtain ⟨hcounts, hstep⟩ := hstep
    have hpassed := hpass (i, o) (by simp)
    have hscanned : scannedOf (tr ++ [(i, o)]) = scannedOf tr ++ o.scanned := by simp [scannedOf]
    specialize ih fun a ha => hpass a (List.mem_append_left _ ha)
    rcases ih with ⟨rfl, hcreated⟩ | ⟨L, rest, rfl, hcov⟩
    · rcases BlockManager.step_cases hstep with ⟨L, rfl, -, rfl, rfl⟩ | ⟨-, -, hne⟩ |
        ⟨_, _, _, -, hphase, -⟩ | ⟨_, _, _, -, hphase, -⟩
      · refine .inr ⟨L, [], rfl, ?_⟩
        simpa [scannedOf, BlockOutput.empty] using covered_initialized cfg L
      · exact absurd hcreated hne
      · simp [hcreated] at hphase
      · simp [hcreated] at hphase
    · refine .inr ⟨L, rest ++ [(i, o)], rfl, ?_⟩
      rw [hscanned]
      rcases BlockManager.step_cases hstep with ⟨_, -, hcreated, -, -⟩ | ⟨rfl, rfl, -⟩ |
        ⟨_, sets, blocks, -, hphase, hmo⟩ | ⟨n, sets, blocks, rfl, hphase, hconf, hmo⟩
      · simp [Covered, hcreated] at hcov
      · simpa [BlockOutput.empty] using hcov
      · obtain ⟨rfl, rfl⟩ := Prod.mk.inj hmo
        exact hcov.bootstrap hphase sets blocks
      · obtain ⟨rfl, rfl⟩ := Prod.mk.inj hmo
        refine hcov.processConfirmedBlock hphase ?_ ?_ hconf sets blocks
        · exact hpassed.imp id fun hall => hall n (by simp [BlockInput.blockCounts])
        · exact hcounts n (by simp [BlockInput.blockCounts])

/-! ### Reports -/

/-- A pass over blocks reports each output of the scanned blocks once: as an inbound event if it
pays to a vault, as an outbound event if it pays to a refund address that is not a vault.  A step
that makes no pass broadcasts nothing. -/
def Reported (a : BlockInput × BlockOutput) : Prop :=
  match a.1 with
  | .tick (.ok _) (.ok sets) blocks =>
      a.2.messages = a.2.scanned.flatMap fun n =>
        [⟨n, .newBlock, []⟩, ⟨n, .inbound, inboundEvents sets (blocks n)⟩,
          ⟨n, .outbound, outboundEvents sets (blocks n)⟩]
  | .bootstrap _ (.ok sets) blocks =>
      ∃ toBlock, a.2.messages =
        [⟨toBlock, .inbound, a.2.scanned.flatMap fun n => inboundEvents sets (blocks n)⟩,
          ⟨toBlock, .outbound, a.2.scanned.flatMap fun n => outboundEvents sets (blocks n)⟩]
  | _ => a.2 = .empty

/-- Every step reports what it scans. -/
lemma reported_of_step {a : BlockInput × BlockOutput}
    (h : m.step cfg a.1 = some (m', a.2)) : Reported a := by
  obtain ⟨i, o⟩ := a
  cases i with
  | initialized L =>
    simp only [BlockManager.step, Option.ite_none_right_eq_some, Option.some.injEq,
      Prod.mk.injEq] at h
    exact h.2.2.symm
  | bootstrap n sets blocks =>
    simp only [BlockManager.step, Option.ite_none_right_eq_some] at h
    obtain ⟨-, h⟩ := h
    cases sets with
    | error e =>
      simp only [Option.some.injEq, Prod.mk.injEq] at h
      exact h.2.symm
    | ok sets =>
      simp only [Option.some.injEq, BlockManager.bootstrap, Prod.mk.injEq] at h
      obtain ⟨-, rfl⟩ := h
      exact ⟨_, bootstrapMessages_eq sets blocks _ _⟩
  | tick n sets blocks =>
    simp only [BlockManager.step, Option.ite_none_right_eq_some, Option.some.injEq,
      BlockManager.tick] at h
    obtain ⟨-, h⟩ := h
    cases n with
    | error e => exact (Prod.mk.inj h).2.symm
    | ok n =>
      by_cases hconf : m.isBlockConfirmed cfg n = true
      · simp only [hconf, if_true] at h
        cases sets with
        | error e => exact (Prod.mk.inj h).2.symm
        | ok sets =>
          obtain ⟨-, rfl⟩ := Prod.mk.inj h
          have hmessages := funext fun n => blockMessages_eq sets blocks n
          exact congrArg (fun f => (rangeInclusive _ _).flatMap f) hmessages
      · simp only [hconf] at h
        obtain rfl := (Prod.mk.inj h).2
        cases sets <;> simp [Reported, BlockOutput.empty]

/-- Every step of a run reports what it scans. -/
lemma reported_of_run {tr : List (BlockInput × BlockOutput)} (h : (blockSystem cfg).Run tr m) :
    ∀ a ∈ tr, Reported a := by
  refine h.forall_mem ?_
  rintro m a m' ⟨-, hstep⟩
  exact reported_of_step hstep

/-- Bitcoin outputs are reported exactly once, unless the largest block number is reached without
confirmations to wait for: the blocks scanned are all blocks from the start of the scan up to the
one before `waiting_block`, in order, and every output of a scanned block is reported once in the
direction that its address gives it. -/
theorem outputs_reported_once (cfg : BlockConfig) {tr : List (BlockInput × BlockOutput)}
    {m : BlockManager} (h : (blockSystem cfg).Run tr m)
    (hpass : 0 < cfg.blockConfirmations ∨ ∀ a ∈ tr, ∀ n ∈ a.1.blockCounts, n < u64Max) :
    (tr = [] ∨ ∃ latestBlock rest, tr = (.initialized latestBlock, .empty) :: rest ∧
      (m.phase = .bootstrap → scannedOf tr = []) ∧
      (m.phase = .normal →
        scannedOf tr = rangeInclusive (scanStart cfg latestBlock) (m.waitingBlock - 1))) ∧
    ∀ a ∈ tr, Reported a := by
  refine ⟨?_, reported_of_run h⟩
  have hpass' : ∀ a ∈ tr, Passable cfg a.1 := fun a ha => hpass.imp id fun hall => hall a ha
  rcases covered_of_run h hpass' with ⟨rfl, -⟩ | ⟨L, rest, htr, hcov⟩
  · exact .inl rfl
  · refine .inr ⟨L, rest, htr, fun hphase => ?_, fun hphase => ?_⟩
    · simp only [Covered, hphase] at hcov
      exact hcov.1
    · simp only [Covered, hphase] at hcov
      exact hcov.1

/-- A manager that goes back three blocks and waits for one confirmation. -/
def patientConfig : BlockConfig := ⟨1, 3, true⟩

/-- A vault and a refund address. -/
def bothSets : RegistrationSets := ⟨[⟨"vault"⟩], [⟨"refund"⟩]⟩

/-- A deposit and a refund in block 99, and in block 101 a deposit with outputs that are nobody's. -/
def bothBlocks : Blocks
  | 99 => [⟨FixedBytes.repeatByte 32 9, [⟨700, 0, some ⟨"vault"⟩⟩, ⟨300, 1, some ⟨"refund"⟩⟩]⟩]
  | 101 => [⟨FixedBytes.repeatByte 32 8,
      [⟨500, 0, some ⟨"vault"⟩⟩, ⟨20, 1, some ⟨"other"⟩⟩, ⟨0, 2, none⟩]⟩]
  | _ => []

/-- A bootstrap that fails at first, a tick that is too early, and one that scans a block: both
deposits and the refund are reported. -/
theorem outputs_reported_once_ticked :
    ∃ tr m, (blockSystem patientConfig).Run tr m ∧ m = ⟨102, .normal⟩ ∧
      scannedOf tr = rangeInclusive 97 101 ∧ (∀ a ∈ tr, Reported a) ∧
      (tr.flatMap fun a => a.2.messages.flatMap EventMessage.events) =
        [⟨FixedBytes.repeatByte 32 9, 0, ⟨"vault"⟩, 700⟩,
          ⟨FixedBytes.repeatByte 32 9, 1, ⟨"refund"⟩, 300⟩,
          ⟨FixedBytes.repeatByte 32 8, 0, ⟨"vault"⟩, 500⟩] := by
  have hinit : (blockSystem patientConfig).Run [] ⟨0, .created⟩ := .start rfl
  have hstart : (blockSystem patientConfig).Run [(.initialized 100, .empty)] ⟨101, .bootstrap⟩ :=
    hinit.snoc ⟨by decide, rfl⟩
  -- The steps behind the first one, each with what the channel carries.
  let failed : BlockInput × BlockOutput := (.bootstrap 100 (.error ⟨"timeout"⟩) bothBlocks, .empty)
  let bootstrapped : BlockInput × BlockOutput := (.bootstrap 101 (.ok bothSets) bothBlocks,
    ⟨rangeInclusive 97 100, bootstrapMessages bothSets bothBlocks 97 100⟩)
  let early : BlockInput × BlockOutput := (.tick (.ok 101) (.ok bothSets) bothBlocks, .empty)
  let scanned : BlockInput × BlockOutput := (.tick (.ok 102) (.ok bothSets) bothBlocks,
    ⟨rangeInclusive 101 101, (rangeInclusive 101 101).flatMap (blockMessages bothSets bothBlocks)⟩)
  have hfail : (blockSystem patientConfig).Run _ ⟨101, .bootstrap⟩ :=
    hstart.snoc (a := failed) ⟨by decide, rfl⟩
  have hbootstrap : (blockSystem patientConfig).Run _ ⟨101, .normal⟩ :=
    hfail.snoc (a := bootstrapped) ⟨by decide, rfl⟩
  have hearly : (blockSystem patientConfig).Run _ ⟨101, .normal⟩ :=
    hbootstrap.snoc (a := early) ⟨by decide, rfl⟩
  have htick : (blockSystem patientConfig).Run _ ⟨102, .normal⟩ :=
    hearly.snoc (a := scanned) ⟨by decide, rfl⟩
  obtain ⟨hscanned, hreported⟩ := outputs_reported_once patientConfig htick (.inl (by decide))
  refine ⟨_, _, htick, rfl, ?_, hreported, by decide +kernel⟩
  rcases hscanned with hnil | ⟨latestBlock, rest, hcons, -, hnormal⟩
  · simp at hnil
  · obtain ⟨hlatest, -⟩ := List.cons.inj hcons
    obtain rfl : 100 = latestBlock := by simpa using hlatest
    exact hnormal rfl

/-- A manager that does not wait for confirmations and does not bootstrap. -/
def eagerConfig : BlockConfig := ⟨0, 3, false⟩

/-- Sets without any address. -/
def noAddresses : RegistrationSets := ⟨[], []⟩

/-- A tick at the head `n` over empty blocks. -/
def emptyTick (n : ℕ) : BlockInput := .tick (.ok n) (.ok noAddresses) fun _ => []

/-- Without confirmations the last block number is scanned at every tick that sees it. -/
theorem last_block_scanned_twice :
    ∃ tr m, (blockSystem eagerConfig).Run tr m ∧ m.phase = .normal ∧
      scannedOf tr = [u64Max, u64Max] ∧ ¬(scannedOf tr).Nodup := by
  have hinit : (blockSystem eagerConfig).Run [] ⟨0, .created⟩ := .start rfl
  have hone : (blockSystem eagerConfig).Run [(.initialized (u64Max - 1), .empty)]
      ⟨u64Max, .normal⟩ := hinit.snoc ⟨by decide, by decide⟩
  have hagain : (blockSystem eagerConfig).step ⟨u64Max, .normal⟩
      (emptyTick u64Max, ⟨[u64Max], blockMessages noAddresses (fun _ => []) u64Max⟩)
      ⟨u64Max, .normal⟩ := ⟨by decide, by decide⟩
  exact ⟨_, _, (hone.snoc hagain).snoc hagain, rfl, rfl, by decide⟩

/-! ### Confirmations -/

/-- The events that a block contributes to the messages. -/
def blockEvents (sets : RegistrationSets) (txs : List Transaction) : List Event :=
  inboundEvents sets txs ++ outboundEvents sets txs

/-- The pass over blocks that a step makes if its calls succeed: the head at that time, the
registered addresses and the blocks. -/
def BlockInput.pass : BlockInput → Option (ℕ × RegistrationSets × Blocks)
  | .bootstrap blockCount (.ok sets) blocks => some (blockCount, sets, blocks)
  | .tick (.ok blockCount) (.ok sets) blocks => some (blockCount, sets, blocks)
  | _ => none

/-- All events of a step come from blocks that are confirmed when they are broadcast: they are
events of scanned blocks, and a scanned block that contributes one is deep enough. -/
def FromConfirmedBlocks (cfg : BlockConfig) (a : BlockInput × BlockOutput) : Prop :=
  match a.1.pass with
  | none => a.2.messages = []
  | some (blockCount, sets, blocks) =>
      (∀ msg ∈ a.2.messages, ∀ e ∈ msg.events,
        ∃ n ∈ a.2.scanned, e ∈ blockEvents sets (blocks n)) ∧
      ∀ n ∈ a.2.scanned, blockEvents sets (blocks n) ≠ [] →
        n + cfg.blockConfirmations ≤ blockCount

/-- The condition on a step: a bootstrap is made when the chain has grown by `block_confirmations`
blocks since initialization. -/
def Grown (cfg : BlockConfig) (m : BlockManager) (a : BlockInput × BlockOutput) : Prop :=
  match a.1 with
  | .bootstrap blockCount _ _ => m.waitingBlock - 1 + cfg.blockConfirmations ≤ blockCount
  | _ => True

/-- What a step broadcasts are events of the blocks that it scans. -/
lemma Reported.mem_blockEvents {a : BlockInput × BlockOutput} (h : Reported a)
    {blockCount : ℕ} {sets : RegistrationSets} {blocks : Blocks}
    (hpass : a.1.pass = some (blockCount, sets, blocks)) :
    ∀ msg ∈ a.2.messages, ∀ e ∈ msg.events,
      ∃ n ∈ a.2.scanned, e ∈ blockEvents sets (blocks n) := by
  obtain ⟨i, o⟩ := a
  intro msg hmsg e he
  cases i with
  | initialized L => simp [BlockInput.pass] at hpass
  | bootstrap n s b =>
    cases s with
    | error _ => simp [BlockInput.pass] at hpass
    | ok s =>
      obtain ⟨rfl, rfl, rfl⟩ : n = blockCount ∧ s = sets ∧ b = blocks := by
        simpa [BlockInput.pass] using hpass
      obtain ⟨toBlock, hmessages⟩ := h
      rw [hmessages] at hmsg
      simp only [List.mem_cons, List.not_mem_nil, or_false] at hmsg
      rcases hmsg with rfl | rfl
      · obtain ⟨n, hn, he⟩ := List.mem_flatMap.1 he
        exact ⟨n, hn, List.mem_append_left _ he⟩
      · obtain ⟨n, hn, he⟩ := List.mem_flatMap.1 he
        exact ⟨n, hn, List.mem_append_right _ he⟩
  | tick n s b =>
    cases n with
    | error _ => simp [BlockInput.pass] at hpass
    | ok n =>
      cases s with
      | error _ => simp [BlockInput.pass] at hpass
      | ok s =>
        obtain ⟨rfl, rfl, rfl⟩ : n = blockCount ∧ s = sets ∧ b = blocks := by
          simpa [BlockInput.pass] using hpass
        rw [h] at hmsg
        obtain ⟨k, hk, hmsg⟩ := List.mem_flatMap.1 hmsg
        simp only [List.mem_cons, List.not_mem_nil, or_false] at hmsg
        rcases hmsg with rfl | rfl | rfl
        · simp at he
        · exact ⟨k, hk, List.mem_append_left _ he⟩
        · exact ⟨k, hk, List.mem_append_right _ he⟩

/-- A step under the condition broadcasts only events of confirmed blocks. -/
lemma fromConfirmedBlocks_of_step {a : BlockInput × BlockOutput}
    (h : m.step cfg a.1 = some (m', a.2)) (hgrown : Grown cfg m a) :
    FromConfirmedBlocks cfg a := by
  have hreported := reported_of_step h
  rw [FromConfirmedBlocks]
  split
  next hnone =>
    obtain ⟨i, o⟩ := a
    have hempty : o = .empty := by
      cases i with
      | initialized L => exact hreported
      | bootstrap n sets blocks => cases sets <;> simp_all [BlockInput.pass, Reported]
      | tick n sets blocks => cases n <;> cases sets <;> simp_all [BlockInput.pass, Reported]
    rw [hempty]
    rfl
  next blockCount sets blocks hpass =>
    refine ⟨hreported.mem_blockEvents hpass, fun n hn _ => ?_⟩
    obtain ⟨i, o⟩ := a
    rcases BlockManager.step_cases h with ⟨L, rfl, -⟩ | ⟨-, rfl, -⟩ | ⟨k, s, b, rfl, -, hmo⟩ |
      ⟨k, s, b, rfl, -, hconf, hmo⟩
    · simp [BlockInput.pass] at hpass
    · simp [BlockOutput.empty] at hn
    · obtain ⟨rfl, -⟩ : k = blockCount ∧ _ := by simpa [BlockInput.pass] using hpass
      obtain ⟨-, rfl⟩ := Prod.mk.inj hmo
      have hle := (mem_rangeInclusive.1 hn).2
      have hdeep : m.waitingBlock - 1 + cfg.blockConfirmations ≤ k := hgrown
      omega
    · obtain ⟨rfl, -⟩ : k = blockCount ∧ _ := by simpa [BlockInput.pass] using hpass
      obtain ⟨-, rfl⟩ := Prod.mk.inj hmo
      have hle := (mem_rangeInclusive.1 hn).2
      have hdeep := le_of_isBlockConfirmed hconf
      omega

/-- In every run in which the bootstrap is made only after the chain has grown by
`block_confirmations` blocks, all events come from blocks that are confirmed when they are
broadcast. -/
theorem events_from_confirmed_blocks (cfg : BlockConfig) {tr : List (BlockInput × BlockOutput)}
    {m : BlockManager} (h : ((blockSystem cfg).restrict (Grown cfg)).Run tr m) :
    ∀ a ∈ tr, FromConfirmedBlocks cfg a := by
  refine h.forall_mem ?_
  rintro m a m' ⟨⟨-, hstep⟩, hgrown⟩
  exact fromConfirmedBlocks_of_step hstep hgrown

/-- The condition is exact: a bootstrap made too early broadcasts the events of the head at
initialization, if it has any, without the confirmations. -/
theorem unconfirmed_of_not_grown {a : BlockInput × BlockOutput} {blockCount : ℕ}
    {sets : RegistrationSets} {blocks : Blocks} (h : m.step cfg a.1 = some (m', a.2))
    (ha : a.1 = .bootstrap blockCount (.ok sets) blocks) (hgrown : ¬Grown cfg m a)
    (hevents : blockEvents sets (blocks (m.waitingBlock - 1)) ≠ []) :
    ¬FromConfirmedBlocks cfg a := by
  obtain ⟨i, o⟩ := a
  obtain rfl : i = .bootstrap blockCount (.ok sets) blocks := ha
  simp only [BlockManager.step, Option.ite_none_right_eq_some, Option.some.injEq] at h
  obtain ⟨-, hmo⟩ := h
  obtain ⟨-, rfl⟩ := Prod.mk.inj hmo
  rintro ⟨-, hall⟩
  refine hgrown (hall _ ?_ hevents)
  simp

/-- A manager that waits for six confirmations and bootstraps. -/
def sampleBlockConfig : BlockConfig := ⟨6, 3, true⟩

/-- One vault. -/
def sampleSets : RegistrationSets := ⟨[⟨"vault"⟩], []⟩

/-- A deposit to the vault in block 100. -/
def depositBlocks : Blocks := fun n =>
  if n = 100 then [⟨FixedBytes.repeatByte 32 1, [⟨5000, 0, some ⟨"vault"⟩⟩]⟩] else []

/-- The output of a bootstrap from the head 100. -/
def sampleBootstrap : BlockOutput :=
  (BlockManager.bootstrap sampleBlockConfig ⟨101, .bootstrap⟩ sampleSets depositBlocks).2

/-- The bootstrap is made at the head 106 and reports a confirmed deposit. -/
theorem events_from_confirmed_blocks_grown :
    ∃ tr m, ((blockSystem sampleBlockConfig).restrict (Grown sampleBlockConfig)).Run tr m ∧
      scannedOf tr = [97, 98, 99, 100] ∧ ∀ a ∈ tr, FromConfirmedBlocks sampleBlockConfig a := by
  have hinit : ((blockSystem sampleBlockConfig).restrict (Grown sampleBlockConfig)).Run []
      ⟨0, .created⟩ := .start rfl
  have hone : ((blockSystem sampleBlockConfig).restrict (Grown sampleBlockConfig)).Run
      [(.initialized 100, .empty)] ⟨101, .bootstrap⟩ :=
    hinit.snoc ⟨⟨by decide, rfl⟩, trivial⟩
  have hrun : ((blockSystem sampleBlockConfig).restrict (Grown sampleBlockConfig)).Run
      [(.initialized 100, .empty),
        (.bootstrap 106 (.ok sampleSets) depositBlocks, sampleBootstrap)] ⟨101, .normal⟩ :=
    hone.snoc ⟨⟨by decide, rfl⟩, by simp [Grown, sampleBlockConfig]⟩
  exact ⟨_, _, hrun, by decide, events_from_confirmed_blocks _ hrun⟩

/-- The bootstrap is made at the head that was seen at initialization and reports a deposit in this
very block. -/
theorem deposit_without_confirmations :
    ∃ tr m, (blockSystem sampleBlockConfig).Run tr m ∧
      ∃ a ∈ tr, ¬FromConfirmedBlocks sampleBlockConfig a := by
  have hinit : (blockSystem sampleBlockConfig).Run [] ⟨0, .created⟩ := .start rfl
  have hone : (blockSystem sampleBlockConfig).Run [(.initialized 100, .empty)]
      ⟨101, .bootstrap⟩ := hinit.snoc ⟨by decide, rfl⟩
  have hstep : BlockManager.step sampleBlockConfig ⟨101, .bootstrap⟩
      (.bootstrap 100 (.ok sampleSets) depositBlocks) =
        some (⟨101, .normal⟩, sampleBootstrap) := rfl
  have hearly : ¬Grown sampleBlockConfig ⟨101, .bootstrap⟩
      (.bootstrap 100 (.ok sampleSets) depositBlocks, sampleBootstrap) := by
    simp [Grown, sampleBlockConfig]
  have hrun : (blockSystem sampleBlockConfig).Run
      [(.initialized 100, .empty),
        (.bootstrap 100 (.ok sampleSets) depositBlocks, sampleBootstrap)] ⟨101, .normal⟩ :=
    hone.snoc ⟨by decide, hstep⟩
  refine ⟨_, _, hrun, _, List.mem_cons_of_mem _ List.mem_cons_self, ?_⟩
  exact unconfirmed_of_not_grown hstep rfl hearly (by decide)

end Bitcoin

end BifrostRelayer
