import BifrostRelayer.SocketRelay.Handler

/-!
# What the relay handler verifies after a reorganisation

Before a queued log is relayed, `verify_event_on_chain` looks for it on the chain.  Here the chain
is modelled: a canonical chain is a list of blocks with the transactions mined in them, the two
calls of a verification may see two different canonical chains, and the chains of different
verifications are unrelated, so that every sequence of reorganisations is covered.

The verification finds the transaction and some log of the same contract; it does not compare what
the log says.  `handovers_onChain_iff` states exactly when the log handed over is on the chain that
was verified.
-/

namespace BifrostRelayer

namespace SocketRelay

open SolidityAbi

/-! ### The chain -/

/-- A mined transaction with the logs it emitted. -/
structure MinedTransaction where
  hash : B256
  logs : List Log
  /-- The logs carry the hash of their transaction. -/
  logs_hash : ∀ log ∈ logs, log.transactionHash = some hash

/-- The transactions of one block. -/
abbrev Block : Type := List MinedTransaction

/-- A canonical chain, with the transactions that wait to be mined. -/
structure CanonicalChain where
  /-- The blocks by height. -/
  blocks : List Block
  mempool : List B256

namespace CanonicalChain

/-- `get_transaction_by_hash`: unknown, waiting, or mined at a height. -/
def getTransactionByHash (chain : CanonicalChain) (hash : B256) : Option (Option ℕ) :=
  let mined := chain.blocks.findIdx? fun block => block.any fun tx => decide (tx.hash = hash)
  (mined.map some).or (if chain.mempool.contains hash then some none else none)

/-- The logs of the block at a height. -/
def logsAt (chain : CanonicalChain) (height : ℕ) : List Log :=
  (chain.blocks[height]?.getD []).flatMap MinedTransaction.logs

/-- `get_logs` with a filter for an address and one block. -/
def getLogs (chain : CanonicalChain) (address : Address) (height : ℕ) : List Log :=
  (chain.logsAt height).filter fun log => decide (log.address = address)

end CanonicalChain

/-- What the node answers from during one verification: the canonical chain at the time of each
call, or the error of the call. -/
structure Sighting where
  transaction : Except Report CanonicalChain
  logs : Except Report CanonicalChain

/-- `verify_event_on_chain`. -/
def verifyEventOnChain (sight : Sighting) (log : Log) : VerifyReply :=
  match log.transactionHash with
  | none => .ok none
  | some txHash =>
      match sight.transaction with
      | .error report => .error report
      | .ok chain =>
          match chain.getTransactionByHash txHash with
          | some (some currentBlock) =>
              match sight.logs with
              | .error report => .error report
              | .ok chain' =>
                  if (chain'.getLogs log.address currentBlock).any
                      fun l => decide (l.transactionHash = some txHash) then
                    .ok (some currentBlock)
                  else .ok none
          | _ => .ok none

/-! ### The handler over a changing chain -/

/-- A message of the handler's loop; a check brings the chains its verifications see. -/
inductive ChainInput where
  | event (blockNumber : ℕ) (eventLogs : List Log)
  /-- `sight k` is what the verification of the entry `k` sees. -/
  | check (latest : Except Report ℕ) (sight : ℕ → Sighting)
  | other

/-- The reply of `verify_event_on_chain` for the entry at an index of the pending list. -/
def replyAt (sight : ℕ → Sighting) (pending : List (PendingEvent StampedLog)) (idx : ℕ) :
    VerifyReply :=
  match pending[idx]? with
  | some e => verifyEventOnChain (sight e.stamp) e.log.2
  | none => .ok none

/-- The message with the replies that the chains give. -/
def ChainInput.toRelayInput (s : StampedState) : ChainInput → RelayInput Log
  | .event blockNumber eventLogs => .event blockNumber eventLogs
  | .check latest sight => .check latest (replyAt sight s.relay.pending)
  | .other => .other

/-- One turn of the loop. -/
def chainHandle (c : RelayClient) (s : StampedState) (i : ChainInput) :
    StampedState × RelayOutput StampedLog :=
  stampedHandle c s (i.toRelayInput s)

/-- The runs of the handler over a changing chain. -/
def chainSystem (c : RelayClient) :
    LabelledSystem StampedState (ChainInput × RelayOutput StampedLog) :=
  .ofHandler ⟨.new, 0⟩ (chainHandle c)

/-- Every run over a changing chain is a run of the handler on the replies it gets. -/
theorem stampedSystem_run_of_chainSystem {c : RelayClient}
    {tr : List (ChainInput × RelayOutput StampedLog)} {s : StampedState}
    (h : (chainSystem c).Run tr s) :
    ∃ tr' : RelayTrace, (stampedSystem c).Run tr' s ∧ tr'.map Prod.snd = tr.map Prod.snd := by
  refine h.induction (P := fun tr s => ∃ tr' : RelayTrace, (stampedSystem c).Run tr' s ∧
    tr'.map Prod.snd = tr.map Prod.snd) ?_ ?_
  · intro s hs
    exact ⟨[], .start hs, rfl⟩
  · rintro tr s ⟨i, o⟩ s' - ⟨tr', hrun, houts⟩ hstep
    have hstep' : (stampedSystem c).step s (i.toRelayInput s, o) s' := hstep
    exact ⟨tr' ++ [(i.toRelayInput s, o)], .snoc hrun hstep', by simp [houts]⟩

/-! ### The same event -/

/-- A log says the same as another: the same contract, transaction, topics and data.  Its place in
the block may differ. -/
def SameEvent (log l : Log) : Prop :=
  l.transactionHash = log.transactionHash ∧ l.address = log.address ∧ l.topics = log.topics ∧
    l.data = log.data

/-- The logs handed over in a turn are on the chain that was verified, at the verified height. -/
def HandoversOnChain (a : ChainInput × RelayOutput StampedLog) : Prop :=
  ∀ e ∈ a.2.handed, ∃ latest sight chain, a.1 = .check latest sight ∧
    (sight e.stamp).logs = .ok chain ∧ ∃ l ∈ chain.logsAt e.blockNumber, SameEvent e.log.2 l

/-- The chain has a log of the transaction and contract of `log` at the height, but none that says
the same: the transaction was executed again with another outcome. -/
def ReExecuted (chain : CanonicalChain) (height : ℕ) (log : Log) : Prop :=
  (∃ l ∈ chain.logsAt height, l.transactionHash = log.transactionHash ∧ l.address = log.address) ∧
    ∀ l ∈ chain.logsAt height, ¬ SameEvent log l

/-- No check meets a confirmed log whose transaction is at the stored height again but was executed
with another outcome. -/
def NoReExecution (c : RelayClient) (s : StampedState)
    (a : ChainInput × RelayOutput StampedLog) : Prop :=
  ∀ latest sight, a.1 = .check (.ok latest) sight → s.relay.panicked = false →
    ∀ e ∈ s.relay.pending, e.isConfirmed c.blockConfirmations latest = true →
      ∀ txHash chain chain', e.log.2.transactionHash = some txHash →
        (sight e.stamp).transaction = .ok chain → (sight e.stamp).logs = .ok chain' →
        chain.getTransactionByHash txHash = some (some e.blockNumber) →
          ¬ ReExecuted chain' e.blockNumber e.log.2

/-! ### What a successful verification means -/

/-- A verification reports a height exactly if the transaction is mined there and the block has
some log of the transaction from the same contract. -/
lemma verifyEventOnChain_eq_some {sight : Sighting} {log : Log} {height : ℕ} :
    verifyEventOnChain sight log = .ok (some height) ↔
      ∃ txHash chain chain', log.transactionHash = some txHash ∧ sight.transaction = .ok chain ∧
        sight.logs = .ok chain' ∧ chain.getTransactionByHash txHash = some (some height) ∧
        ∃ l ∈ chain'.logsAt height, l.transactionHash = some txHash ∧ l.address = log.address := by
  constructor
  · intro h
    unfold verifyEventOnChain at h
    cases hhash : log.transactionHash with
    | none => simp [hhash] at h
    | some txHash =>
      cases htx : sight.transaction with
      | error report => simp [hhash, htx] at h
      | ok chain =>
        rcases hmined : chain.getTransactionByHash txHash with _ | _ | currentBlock
        · simp [hhash, htx, hmined] at h
        · simp [hhash, htx, hmined] at h
        · cases hlogs : sight.logs with
          | error report => simp [hhash, htx, hmined, hlogs] at h
          | ok chain' =>
            simp only [hhash, htx, hmined, hlogs] at h
            split at h
            · rename_i hany
              obtain rfl : currentBlock = height := by simpa using h
              obtain ⟨l, hl, hltx⟩ := List.any_eq_true.mp hany
              obtain ⟨hmem, haddr⟩ := List.mem_filter.mp hl
              exact ⟨txHash, chain, chain', rfl, rfl, rfl, hmined, l, hmem,
                of_decide_eq_true hltx, of_decide_eq_true haddr⟩
            · simp at h
  · rintro ⟨txHash, chain, chain', hhash, htx, hlogs, hmined, l, hmem, hltx, haddr⟩
    have hany : (chain'.getLogs log.address height).any
        (fun l => decide (l.transactionHash = some txHash)) = true :=
      List.any_eq_true.mpr
        ⟨l, List.mem_filter.mpr ⟨hmem, decide_eq_true haddr⟩, decide_eq_true hltx⟩
    simp [verifyEventOnChain, hhash, htx, hlogs, hmined, hany]

/-- The entries that a turn hands over. -/
lemma mem_handed_chainHandle {c : RelayClient} {s : StampedState} {i : ChainInput}
    {e : PendingEvent StampedLog} :
    e ∈ (chainHandle c s i).2.handed ↔
      ∃ latest sight, i = .check (.ok latest) sight ∧ s.relay.panicked = false ∧
        e ∈ s.relay.pending ∧ e.isConfirmed c.blockConfirmations latest = true ∧
        verifyEventOnChain (sight e.stamp) e.log.2 = .ok (some e.blockNumber) := by
  have hreply : ∀ {sight : ℕ → Sighting} {idx : ℕ}, s.relay.pending[idx]? = some e →
      replyAt sight s.relay.pending idx = verifyEventOnChain (sight e.stamp) e.log.2 := by
    intro sight idx hget
    simp [replyAt, hget]
  by_cases hp : s.relay.panicked = true
  · simp [chainHandle, stampedHandle, handle, hp]
  · have hp' : s.relay.panicked = false := by simpa using hp
    rcases i with ⟨blockNumber, eventLogs⟩ | ⟨report | latest, sight⟩ | _
    · simp [chainHandle, stampedHandle, handle, hp, ChainInput.toRelayInput, RelayInput.stamped]
    · simp [chainHandle, stampedHandle, handle, hp, ChainInput.toRelayInput, RelayInput.stamped,
        checkPending_error]
    · have hout : (chainHandle c s (.check (.ok latest) sight)).2.handed =
          (checkPending c.blockConfirmations (.ok latest) (replyAt sight s.relay.pending)
            s.relay.pending).handed := by
        simp [chainHandle, stampedHandle, handle, hp, ChainInput.toRelayInput, RelayInput.stamped]
      rw [hout, mem_handed]
      constructor
      · rintro ⟨idx, hget, hconf, hr⟩
        rw [hreply hget] at hr
        exact ⟨latest, sight, rfl, hp', List.mem_of_getElem? hget, hconf, hr⟩
      · rintro ⟨latest', sight', heq, -, hmem, hconf, hr⟩
        obtain ⟨rfl, rfl⟩ : latest = latest' ∧ sight = sight' := by simpa using heq
        obtain ⟨idx, hget⟩ := List.mem_iff_getElem?.mp hmem
        exact ⟨idx, hget, hconf, (hreply hget).trans hr⟩
    · simp [chainHandle, stampedHandle, handle, hp, ChainInput.toRelayInput, RelayInput.stamped]

/-- In one turn, the logs handed over are on the verified chain exactly if no re-execution is
met. -/
lemma handoversOnChain_step_iff {c : RelayClient} {s s' : StampedState}
    {a : ChainInput × RelayOutput StampedLog} (hstep : (chainSystem c).step s a s') :
    HandoversOnChain a ↔ NoReExecution c s a := by
  obtain ⟨i, o⟩ := a
  obtain rfl : (chainHandle c s i).2 = o := congrArg Prod.snd hstep
  constructor
  · intro h latest sight hi hp e hmem hconf txHash chain chain' hhash htx hlogs hmined hre
    obtain ⟨⟨l, hl, hltx, haddr⟩, hnone⟩ := hre
    have hverified : verifyEventOnChain (sight e.stamp) e.log.2 = .ok (some e.blockNumber) :=
      verifyEventOnChain_eq_some.mpr
        ⟨txHash, chain, chain', hhash, htx, hlogs, hmined, l, hl, hltx.trans hhash, haddr⟩
    have hhanded := mem_handed_chainHandle.mpr ⟨latest, sight, hi, hp, hmem, hconf, hverified⟩
    obtain ⟨latest₁, sight₁, chain₁, hi₁, hlogs₁, l₁, hl₁, hsame⟩ := h e hhanded
    obtain ⟨-, rfl⟩ : Except.ok latest = latest₁ ∧ sight = sight₁ := by
      simpa using hi.symm.trans hi₁
    obtain rfl : chain' = chain₁ := Except.ok.inj (hlogs.symm.trans hlogs₁)
    exact hnone l₁ hl₁ hsame
  · intro h e he
    obtain ⟨latest, sight, hi, hp, hmem, hconf, hverified⟩ := mem_handed_chainHandle.mp he
    obtain ⟨txHash, chain, chain', hhash, htx, hlogs, hmined, l, hl, hltx, haddr⟩ :=
      verifyEventOnChain_eq_some.mp hverified
    refine ⟨.ok latest, sight, chain', hi, hlogs, ?_⟩
    by_contra hnone
    refine h latest sight hi hp e hmem hconf txHash chain chain' hhash htx hlogs hmined
      ⟨⟨l, hl, hltx.trans hhash.symm, haddr⟩, fun l' hl' hsame => hnone ⟨l', hl', hsame⟩⟩

/-- In every run, a turn hands over only logs that are on the verified chain exactly if it meets no
re-execution; so a run without re-executions relays only logs that the canonical chain has. -/
theorem handovers_onChain_iff (c : RelayClient) :
    (∀ tr s a s', (chainSystem c).Run tr s → (chainSystem c).step s a s' →
      (HandoversOnChain a ↔ NoReExecution c s a)) ∧
    (∀ tr s, ((chainSystem c).restrict (NoReExecution c)).Run tr s →
      ∀ a ∈ tr, HandoversOnChain a) := by
  refine ⟨fun tr s a s' _ hstep => handoversOnChain_step_iff hstep, ?_⟩
  intro tr s h
  refine h.induction (P := fun tr _ => ∀ a ∈ tr, HandoversOnChain a) (by simp) ?_
  rintro tr s a s' - ih ⟨hstep, hcond⟩ b hb
  rcases List.mem_append.mp hb with hb | hb
  · exact ih b hb
  · obtain rfl := List.mem_singleton.mp hb
    exact (handoversOnChain_step_iff hstep).mpr hcond

/-! ### A re-executed request -/

/-- A chain whose block 1 has the transaction, with the request made under `sequence`. -/
def requestChain (sequence : BitVec 128) : CanonicalChain where
  blocks := [[], [⟨sampleHash, [requestLog sequence], by simp [requestLog]⟩]]
  mempool := []

/-- What a verification sees on that chain. -/
def requestSight (sequence : BitVec 128) : Sighting :=
  ⟨.ok (requestChain sequence), .ok (requestChain sequence)⟩

/-- The handler after the request was delivered in block 1. -/
def requestPending (sequence : BitVec 128) : StampedState :=
  ⟨⟨[⟨(0, requestLog sequence), 1, 0⟩], false⟩, 1⟩

/-- Delivering the request. -/
lemma chainHandle_requestLog (sequence : BitVec 128) :
    chainHandle sampleClient ⟨.new, 0⟩ (.event 1 [requestLog sequence]) =
      (requestPending sequence, ⟨[], [], []⟩) := by
  simp [chainHandle, ChainInput.toRelayInput, stampedHandle, RelayInput.stamped,
    RelayInput.delivered, handle, deliver, RelayState.new, route_requestLog, requestPending]

/-- The only log of block 1. -/
lemma logsAt_requestChain (sequence : BitVec 128) :
    (requestChain sequence).logsAt 1 = [requestLog sequence] := rfl

/-- A check with the chain of `seen` hands the request over, whatever `seen` is. -/
lemma handed_requestPending (sequence seen : BitVec 128) :
    (⟨(0, requestLog sequence), 1, 0⟩ : PendingEvent StampedLog) ∈
      (chainHandle sampleClient (requestPending sequence)
        (.check (.ok 3) fun _ => requestSight seen)).2.handed := by
  refine mem_handed_chainHandle.mpr ⟨3, _, rfl, rfl, List.mem_singleton.mpr rfl, rfl, ?_⟩
  refine verifyEventOnChain_eq_some.mpr
    ⟨sampleHash, requestChain seen, requestChain seen, rfl, rfl, rfl, ?_, requestLog seen, ?_⟩
  · simp [CanonicalChain.getTransactionByHash, requestChain, List.findIdx?_cons]
  · exact ⟨List.mem_singleton.mpr rfl, rfl, rfl⟩

/-- The log of sequence 7 is delivered from block 1; a reorganisation executes its transaction
again at the same height with sequence 8; the log of sequence 7 is handed over. -/
theorem handover_after_reExecution :
    requestLog 7 ∈ (requestChain 7).logsAt 1 ∧
    ∃ tr s a s', (chainSystem sampleClient).Run tr s ∧ (chainSystem sampleClient).step s a s' ∧
      ¬ HandoversOnChain a := by
  refine ⟨by rw [logsAt_requestChain]; exact List.mem_singleton_self _, ?_⟩
  have hevent : (chainSystem sampleClient).step ⟨.new, 0⟩
      (.event 1 [requestLog 7], ⟨[], [], []⟩) (requestPending 7) := chainHandle_requestLog 7
  refine ⟨_, _, (.check (.ok 3) fun _ => requestSight 8, _), _, .snoc (.start rfl) hevent, rfl, ?_⟩
  intro h
  obtain ⟨latest, sight, chain, hi, hlogs, l, hl, -, -, -, hdata⟩ := h _ (handed_requestPending 7 8)
  obtain ⟨-, rfl⟩ : Except.ok 3 = latest ∧ (fun _ => requestSight 8) = sight := by simpa using hi
  obtain rfl : requestChain 8 = chain := Except.ok.inj hlogs
  rw [logsAt_requestChain, List.mem_singleton] at hl
  subst hl
  have hseq := congrArg (fun m : SocketMessage => m.reqId.sequence) (toVec_injective hdata)
  exact absurd hseq (by decide)

/-- Without a reorganisation the delivered log is handed over, and is on the chain. -/
theorem handovers_onChain_iff_unchanged :
    ∃ tr s a, ((chainSystem sampleClient).restrict (NoReExecution sampleClient)).Run tr s ∧
      a ∈ tr ∧ a.2.handed ≠ [] ∧ HandoversOnChain a := by
  have hevent : ((chainSystem sampleClient).restrict (NoReExecution sampleClient)).step
      ⟨.new, 0⟩ (.event 1 [requestLog 7], ⟨[], [], []⟩) (requestPending 7) :=
    ⟨chainHandle_requestLog 7, fun latest sight hi => by simp at hi⟩
  have hcheck : ((chainSystem sampleClient).restrict (NoReExecution sampleClient)).step
      (requestPending 7)
      (.check (.ok 3) fun _ => requestSight 7, (chainHandle sampleClient (requestPending 7)
        (.check (.ok 3) fun _ => requestSight 7)).2)
      (chainHandle sampleClient (requestPending 7) (.check (.ok 3) fun _ => requestSight 7)).1 := by
    refine ⟨rfl, ?_⟩
    intro latest sight hi hp e he hconf txHash chain chain' hhash htx hlogs hmined hre
    obtain ⟨-, rfl⟩ : 3 = latest ∧ (fun _ => requestSight 7) = sight := by simpa using hi
    obtain rfl : requestChain 7 = chain' := Except.ok.inj hlogs
    obtain rfl := List.mem_singleton.mp he
    refine hre.2 (requestLog 7) ?_ ⟨rfl, rfl, rfl, rfl⟩
    rw [logsAt_requestChain]
    exact List.mem_singleton_self _
  have hrun := LabelledSystem.Run.snoc (.snoc (.start rfl) hevent) hcheck
  exact ⟨_, _, _, hrun, List.mem_append_right _ (List.mem_singleton_self _),
    List.ne_nil_of_mem (handed_requestPending 7 7),
    (handovers_onChain_iff sampleClient).2 _ _ hrun _
      (List.mem_append_right _ (List.mem_singleton_self _))⟩

end SocketRelay

end BifrostRelayer
