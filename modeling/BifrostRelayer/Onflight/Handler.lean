import BifrostRelayer.Foundation.IndexEdits
import BifrostRelayer.Foundation.Runs
import BifrostRelayer.Primitives.Socket

/-!
# The on-flight handler

`SocketOnflightHandler` watches the `OnFlightTransfers` storage of the Bifrost chain.  A Fast
transfer is sent to its `SocketRelayHandler` at once; a Standard transfer waits in
`pending_standard_transfers` for the confirmations of its source chain.  `processed_transfers` holds
the hashes of the messages that are taken care of.

Four operations change the two collections: the pass over the pending transfers, the scan of a
storage snapshot, the cleanup of the marks that left the storage, and the recovery when `run` is
called.  The replies of the node are inputs; every one of them may be an error.
-/

namespace BifrostRelayer

namespace Onflight

/-! ### Data -/

/-- `TransferOption`. -/
inductive TransferOption where
  | standard
  | fast
deriving DecidableEq, Repr

/-- What the handler reads of an entry of `OnFlightTransfers`. -/
structure TransferInfo where
  socketMessage : List UInt8
  srcChainId : ChainId
  srcTxId : B256
  option : TransferOption

/-- `PendingStandardTransfer`. -/
structure PendingStandardTransfer where
  socketMessage : SocketMessage
  assetIndexHash : B256
  sequenceId : BitVec 128
  srcChainId : ChainId
  dstChainId : ChainId
  srcTxId : B256
  /-- The block of the source transaction, for the reorg check. -/
  srcBlockNumber : ℕ
  /-- The hash of the encoded message. -/
  msgHash : B256
deriving DecidableEq

/-- A call of `send_to_socket_relay_handler`, with the hash of its message. -/
structure SendCall where
  srcChainId : ChainId
  dstChainId : ChainId
  socketMessage : SocketMessage
  assetIndexHash : B256
  sequenceId : BitVec 128
  msgHash : B256
deriving DecidableEq

/-- What the handler reads of its clients. -/
structure OnflightConfig where
  /-- `bifrost_client.get_bitcoin_chain_id()`. -/
  bitcoinChainId : Option ChainId
  /-- `block_confirmations` of the Bifrost client. -/
  bifrostConfirmations : ℕ
  /-- `block_confirmations` of the configured client of a chain. -/
  systemClients : ChainId → Option ℕ
  /-- `keccak256`. -/
  keccak256 : List UInt8 → B256

/-- The reply of `get_transaction_receipt`: the block number of the receipt, if there is one. -/
abbrev ReceiptReply : Type := Except Report (Option (Option ℕ))

/-- `TxVerificationResult`. -/
inductive TxVerificationResult where
  | valid (blockNumber : Option ℕ)
  | notFound
deriving DecidableEq

namespace OnflightConfig

/-- `get_block_confirmations`. -/
def getBlockConfirmations (cfg : OnflightConfig) (chainId : ChainId) : ℕ :=
  (cfg.systemClients chainId).getD cfg.bifrostConfirmations

/-- The choice of a client for a source chain: the Bifrost client for Bitcoin, else the configured
one. -/
def withSrcClient {α : Type} (cfg : OnflightConfig) (srcChainId : ChainId)
    (reply : Except Report α) : Except Report α :=
  if cfg.bitcoinChainId = some srcChainId then reply
  else
    match cfg.systemClients srcChainId with
    | some _ => reply
    | none => .error ⟨"Source chain client not found: " ++ toString srcChainId⟩

/-- `get_src_chain_block_number`. -/
def getSrcChainBlockNumber (cfg : OnflightConfig) (srcChainId : ChainId)
    (head : Except Report ℕ) : Except Report ℕ :=
  cfg.withSrcClient srcChainId head

/-- `verify_src_transaction`. -/
def verifySrcTransaction (cfg : OnflightConfig) (srcChainId : ChainId) (receipt : ReceiptReply) :
    Except Report TxVerificationResult :=
  match cfg.withSrcClient srcChainId receipt with
  | .ok (some blockNumber) => .ok (.valid blockNumber)
  | .ok none => .ok .notFound
  | .error report => .error report

/-- `get_tx_block_number`. -/
def getTxBlockNumber (cfg : OnflightConfig) (srcChainId : ChainId) (receipt : ReceiptReply) :
    Except Report (Option ℕ) :=
  match cfg.withSrcClient srcChainId receipt with
  | .ok (some blockNumber) => .ok blockNumber
  | .ok none => .ok none
  | .error report => .error report

end OnflightConfig

/-- The two collections of the handler. -/
structure OnflightState where
  pending : List PendingStandardTransfer
  processed : Finset B256

/-! ### The pass over the pending transfers -/

/-- The arguments of the send call for a confirmed transfer. -/
def PendingStandardTransfer.sendCall (t : PendingStandardTransfer) : SendCall :=
  ⟨t.srcChainId, t.dstChainId, t.socketMessage, t.assetIndexHash, t.sequenceId, t.msgHash⟩

/-- What the loop of a pass records. -/
structure PassNotes where
  transfersToRemove : List ℕ
  transfersToProcess : List PendingStandardTransfer
  transfersToUpdate : List (ℕ × ℕ)
  hashesToUnmark : List B256

/-- The replies a pass gets: for the entry at each index, the head of its source chain and the
receipt of its transaction. -/
structure PassReplies where
  head : ℕ → Except Report ℕ
  receipt : ℕ → ReceiptReply

/-- One turn of the loop. -/
def passOne (cfg : OnflightConfig) (head : Except Report ℕ) (receipt : ReceiptReply)
    (notes : PassNotes) (idx : ℕ) (transfer : PendingStandardTransfer) : PassNotes :=
  match cfg.getSrcChainBlockNumber transfer.srcChainId head with
  | .error _ => notes
  | .ok currentSrcBlock =>
      if currentSrcBlock - transfer.srcBlockNumber ≥
          cfg.getBlockConfirmations transfer.srcChainId then
        match cfg.verifySrcTransaction transfer.srcChainId receipt with
        | .ok (.valid (some txBlock)) =>
            if txBlock = transfer.srcBlockNumber then
              { notes with
                transfersToProcess := notes.transfersToProcess ++ [transfer]
                transfersToRemove := notes.transfersToRemove ++ [idx] }
            else { notes with transfersToUpdate := notes.transfersToUpdate ++ [(idx, txBlock)] }
        | .ok (.valid none) => notes
        | .ok .notFound =>
            { notes with
              transfersToRemove := notes.transfersToRemove ++ [idx]
              hashesToUnmark := notes.hashesToUnmark ++ [transfer.msgHash] }
        | .error _ => notes
      else notes

/-- The update of a transfer that was mined again in another block. -/
def PendingStandardTransfer.remine (newBlock : ℕ) (t : PendingStandardTransfer) :
    PendingStandardTransfer :=
  { t with srcBlockNumber := newBlock }

/-- `process_pending_standard_transfers`: the new state and the send calls. -/
def processPendingStandardTransfers (cfg : OnflightConfig) (replies : PassReplies)
    (s : OnflightState) : OnflightState × List SendCall :=
  if s.pending.isEmpty then (s, [])
  else
    let notes := s.pending.zipIdx.foldl
      (fun notes p => passOne cfg (replies.head p.2) (replies.receipt p.2) notes p.2 p.1)
      ⟨[], [], [], []⟩
    let updated := modifyAll s.pending
      (notes.transfersToUpdate.map fun u => (u.1, PendingStandardTransfer.remine u.2))
    let kept := eraseAll updated notes.transfersToRemove.reverse
    (⟨kept, notes.hashesToUnmark.foldl (fun processed hash => processed.erase hash) s.processed⟩,
      notes.transfersToProcess.map PendingStandardTransfer.sendCall)

/-! ### The scan of a snapshot -/

/-- A snapshot of `OnFlightTransfers`, as its iterator yields it: an entry or an error. -/
abbrev Snapshot : Type := List (Except Report TransferInfo)

/-- What a scan or a recovery did. -/
structure ScanResult where
  state : OnflightState
  /-- The send calls for Fast transfers. -/
  sent : List SendCall
  /-- The hashes inserted in `processed_transfers`. -/
  inserted : List B256
  /-- The transfers pushed on `pending_standard_transfers`. -/
  pushed : List PendingStandardTransfer
  /-- The iterator was read to its end. -/
  completed : Bool

/-- The send call for a Fast transfer. -/
def TransferInfo.sendCall (info : TransferInfo) (msgHash : B256) (msg : SocketMessage) : SendCall :=
  ⟨info.srcChainId, msg.dstChainId, msg, msg.params.tokenIdx0, msg.reqId.sequence, msgHash⟩

/-- The entry pushed for a Standard transfer. -/
def TransferInfo.pendingTransfer (info : TransferInfo) (msgHash : B256) (msg : SocketMessage)
    (srcBlockNumber : ℕ) : PendingStandardTransfer :=
  ⟨msg, msg.params.tokenIdx0, msg.reqId.sequence, info.srcChainId, msg.dstChainId, info.srcTxId,
    srcBlockNumber, msgHash⟩

/-- The loop of `process_substrate_block` over the snapshot.  `receipt idx` is the receipt reply
for the item at position `idx`. -/
def scan (cfg : OnflightConfig) (receipt : ℕ → ReceiptReply) :
    OnflightState → ℕ → Snapshot → ScanResult
  | s, _, [] => ⟨s, [], [], [], true⟩
  | s, _, .error _ :: _ => ⟨s, [], [], [], false⟩
  | s, idx, .ok info :: rest =>
      let msgHash := cfg.keccak256 info.socketMessage
      if msgHash ∈ s.processed then scan cfg receipt s (idx + 1) rest
      else
        match decodeSocketMessage info.socketMessage with
        | .error _ => scan cfg receipt s (idx + 1) rest
        | .ok msg =>
            match info.option with
            | .fast =>
                let r := scan cfg receipt { s with processed := insert msgHash s.processed }
                  (idx + 1) rest
                { r with
                  sent := info.sendCall msgHash msg :: r.sent
                  inserted := msgHash :: r.inserted }
            | .standard =>
                match cfg.getTxBlockNumber info.srcChainId (receipt idx) with
                | .ok (some block) =>
                    let transfer := info.pendingTransfer msgHash msg block
                    let r := scan cfg receipt
                      ⟨s.pending ++ [transfer], insert msgHash s.processed⟩ (idx + 1) rest
                    { r with inserted := msgHash :: r.inserted, pushed := transfer :: r.pushed }
                | .ok none => scan cfg receipt s (idx + 1) rest
                | .error _ => scan cfg receipt s (idx + 1) rest

/-- `current_storage_keys` after a complete scan. -/
def currentStorageKeys (cfg : OnflightConfig) (snapshot : Snapshot) : List B256 :=
  snapshot.filterMap fun item =>
    match item with
    | .ok info => some (cfg.keccak256 info.socketMessage)
    | .error _ => none

/-- `process_substrate_block`: the pass, the scan, and the cleanup if the scan was complete. -/
def processSubstrateBlock (cfg : OnflightConfig) (replies : PassReplies)
    (snapshot : Except Report Snapshot) (receipt : ℕ → ReceiptReply) (s : OnflightState) :
    ScanResult :=
  let pass := processPendingStandardTransfers cfg replies s
  match snapshot with
  | .error _ => ⟨pass.1, pass.2, [], [], false⟩
  | .ok items =>
      let r := scan cfg receipt pass.1 0 items
      let keys := currentStorageKeys cfg items
      { r with
        state := if r.completed then
            { r.state with processed := r.state.processed.filter fun key => key ∈ keys }
          else r.state
        sent := pass.2 ++ r.sent }

/-! ### The recovery -/

/-- The loop of `recover_pending_standard_transfers`. -/
def recover (cfg : OnflightConfig) (receipt : ℕ → ReceiptReply) :
    OnflightState → ℕ → Snapshot → ScanResult
  | s, _, [] => ⟨s, [], [], [], true⟩
  | s, _, .error _ :: _ => ⟨s, [], [], [], false⟩
  | s, idx, .ok info :: rest =>
      let msgHash := cfg.keccak256 info.socketMessage
      match info.option with
      | .fast => recover cfg receipt s (idx + 1) rest
      | .standard =>
          match decodeSocketMessage info.socketMessage with
          | .error _ => recover cfg receipt s (idx + 1) rest
          | .ok msg =>
              match cfg.getTxBlockNumber info.srcChainId (receipt idx) with
              | .ok (some block) =>
                  let transfer := info.pendingTransfer msgHash msg block
                  let r := recover cfg receipt
                    ⟨s.pending ++ [transfer], insert msgHash s.processed⟩ (idx + 1) rest
                  { r with inserted := msgHash :: r.inserted, pushed := transfer :: r.pushed }
              | .ok none => recover cfg receipt s (idx + 1) rest
              | .error _ => recover cfg receipt s (idx + 1) rest

/-- `recover_pending_standard_transfers`; its error is only logged. -/
def recoverPendingStandardTransfers (cfg : OnflightConfig) (snapshot : Except Report Snapshot)
    (receipt : ℕ → ReceiptReply) (s : OnflightState) : ScanResult :=
  match snapshot with
  | .error _ => ⟨s, [], [], [], false⟩
  | .ok items => recover cfg receipt s 0 items

/-! ### The handler -/

/-- One step of the handler. -/
inductive OnflightInput where
  /-- `run` is called, for the first time or again: the recovery. -/
  | run (snapshot : Except Report Snapshot) (receipt : ℕ → ReceiptReply)
  /-- A block of the stream. -/
  | block (replies : PassReplies) (snapshot : Except Report Snapshot) (receipt : ℕ → ReceiptReply)

/-- The calls of one step. -/
structure OnflightOutput where
  /-- The calls of `send_to_socket_relay_handler`. -/
  sent : List SendCall
  /-- The hashes inserted in `processed_transfers`. -/
  inserted : List B256

/-- One step of `SocketOnflightHandler`. -/
def onflightHandle (cfg : OnflightConfig) (s : OnflightState) (i : OnflightInput) :
    OnflightState × OnflightOutput :=
  let r := match i with
    | .run snapshot receipt => recoverPendingStandardTransfers cfg snapshot receipt s
    | .block replies snapshot receipt => processSubstrateBlock cfg replies snapshot receipt s
  (r.state, ⟨r.sent, r.inserted⟩)

/-- A trace of the handler. -/
abbrev OnflightTrace : Type := List (OnflightInput × OnflightOutput)

/-- The runs of the handler, over all its restarts. -/
def onflightSystem (cfg : OnflightConfig) :
    LabelledSystem OnflightState (OnflightInput × OnflightOutput) :=
  .ofHandler ⟨[], ∅⟩ (onflightHandle cfg)

/-! ### What a pass decides about one transfer -/

/-- The outcome of one turn of the loop of a pass. -/
inductive PassVerdict where
  /-- Confirmed and still in its block: send and remove. -/
  | forward
  /-- Mined again in another block: wait again. -/
  | moved (newBlock : ℕ)
  /-- Not on the source chain any more: remove and unmark. -/
  | vanished
  /-- Not confirmed yet, or the replies say nothing. -/
  | keep
deriving DecidableEq

/-- The verdict on a transfer. -/
def PendingStandardTransfer.verdict (cfg : OnflightConfig) (head : Except Report ℕ)
    (receipt : ReceiptReply) (t : PendingStandardTransfer) : PassVerdict :=
  match cfg.getSrcChainBlockNumber t.srcChainId head with
  | .error _ => .keep
  | .ok currentSrcBlock =>
      if currentSrcBlock - t.srcBlockNumber ≥ cfg.getBlockConfirmations t.srcChainId then
        match cfg.verifySrcTransaction t.srcChainId receipt with
        | .ok (.valid (some txBlock)) =>
            if txBlock = t.srcBlockNumber then .forward else .moved txBlock
        | .ok .notFound => .vanished
        | _ => .keep
      else .keep

/-- What a pass makes of a transfer: `none` if it leaves the list. -/
def PendingStandardTransfer.fate (cfg : OnflightConfig) (head : Except Report ℕ)
    (receipt : ReceiptReply) (t : PendingStandardTransfer) : Option PendingStandardTransfer :=
  match t.verdict cfg head receipt with
  | .forward => none
  | .moved newBlock => some (t.remine newBlock)
  | .vanished => none
  | .keep => some t

/-- The turn of the loop by its verdict. -/
lemma passOne_eq (cfg : OnflightConfig) (head : Except Report ℕ) (receipt : ReceiptReply)
    (notes : PassNotes) (idx : ℕ) (t : PendingStandardTransfer) :
    passOne cfg head receipt notes idx t =
      match t.verdict cfg head receipt with
      | .forward =>
          { notes with
            transfersToProcess := notes.transfersToProcess ++ [t]
            transfersToRemove := notes.transfersToRemove ++ [idx] }
      | .moved newBlock =>
          { notes with transfersToUpdate := notes.transfersToUpdate ++ [(idx, newBlock)] }
      | .vanished =>
          { notes with
            transfersToRemove := notes.transfersToRemove ++ [idx]
            hashesToUnmark := notes.hashesToUnmark ++ [t.msgHash] }
      | .keep => notes := by
  unfold passOne PendingStandardTransfer.verdict
  rcases cfg.getSrcChainBlockNumber t.srcChainId head with report | currentSrcBlock
  · rfl
  · by_cases hconf : currentSrcBlock - t.srcBlockNumber ≥ cfg.getBlockConfirmations t.srcChainId
    · simp only [if_pos hconf]
      rcases cfg.verifySrcTransaction t.srcChainId receipt with report | (_ | txBlock) | _
      · rfl
      · rfl
      · by_cases hb : txBlock = t.srcBlockNumber
        · simp only [if_pos hb]
        · simp only [if_neg hb]
      · rfl
    · simp only [if_neg hconf]

section Pass

variable (cfg : OnflightConfig) (replies : PassReplies)

/-- The verdict on the entry of a snapshot. -/
def PassReplies.verdictAt (p : PendingStandardTransfer × ℕ) : PassVerdict :=
  p.1.verdict cfg (replies.head p.2) (replies.receipt p.2)

/-- The new block of an entry of a snapshot, if it moved. -/
def PassReplies.moveAt (p : PendingStandardTransfer × ℕ) : Option (ℕ × ℕ) :=
  match replies.verdictAt cfg p with
  | .moved newBlock => some (p.2, newBlock)
  | _ => none

/-- The four lists after the loop. -/
lemma foldl_passOne (ps : List (PendingStandardTransfer × ℕ)) (notes : PassNotes) :
    ps.foldl (fun notes p =>
        passOne cfg (replies.head p.2) (replies.receipt p.2) notes p.2 p.1) notes =
      { transfersToRemove := notes.transfersToRemove ++
          (ps.filter fun p => decide (replies.verdictAt cfg p = .forward) ||
            decide (replies.verdictAt cfg p = .vanished)).map Prod.snd
        transfersToProcess := notes.transfersToProcess ++
          (ps.filter fun p => decide (replies.verdictAt cfg p = .forward)).map Prod.fst
        transfersToUpdate := notes.transfersToUpdate ++ ps.filterMap (replies.moveAt cfg)
        hashesToUnmark := notes.hashesToUnmark ++
          (ps.filter fun p => decide (replies.verdictAt cfg p = .vanished)).map
            fun p => p.1.msgHash } := by
  induction ps generalizing notes with
  | nil => simp
  | cons p ps ih =>
    obtain ⟨t, idx⟩ := p
    rw [List.foldl_cons, ih, passOne_eq]
    have hv : replies.verdictAt cfg (t, idx) =
        t.verdict cfg (replies.head idx) (replies.receipt idx) := rfl
    cases h : t.verdict cfg (replies.head idx) (replies.receipt idx) with
    | forward => simp [hv, h, PassReplies.moveAt]
    | moved newBlock => simp [hv, h, PassReplies.moveAt]
    | vanished => simp [hv, h, PassReplies.moveAt]
    | keep => simp [hv, h, PassReplies.moveAt]

/-- The updates and the removals of a pass decide about every transfer by its own replies. -/
lemma eraseAll_pass (pending : List PendingStandardTransfer) :
    eraseAll
        (modifyAll pending ((pending.zipIdx.filterMap (replies.moveAt cfg)).map
          fun u => (u.1, PendingStandardTransfer.remine u.2)))
        ((pending.zipIdx.filter fun p => decide (replies.verdictAt cfg p = .forward) ||
          decide (replies.verdictAt cfg p = .vanished)).map Prod.snd).reverse =
      (pending.mapIdx fun i t => t.fate cfg (replies.head i) (replies.receipt i)).reduceOption := by
  have hidx : ∀ {t : PendingStandardTransfer} {i : ℕ}, (t, i) ∈ pending.zipIdx ↔
      pending[i]? = some t := List.mk_mem_zipIdx_iff_getElem?
  have hmove : ∀ c u, replies.moveAt cfg c = some u → u.1 = c.2 := by
    intro c u h
    unfold PassReplies.moveAt at h
    split at h
    · rw [← Option.some.inj h]
    · simp at h
  have hrange : (pending.zipIdx.map Prod.snd).Pairwise (· < ·) := by
    rw [List.zipIdx_map_snd]
    exact List.pairwise_lt_range'
  have hus : (((pending.zipIdx.filterMap (replies.moveAt cfg)).map
      fun u => (u.1, PendingStandardTransfer.remine u.2)).map Prod.fst).Nodup := by
    rw [List.map_map]
    exact (hrange.sublist (map_filterMap_sublist hmove pending.zipIdx)).imp Nat.ne_of_lt
  have his : ((pending.zipIdx.filter fun p => decide (replies.verdictAt cfg p = .forward) ||
      decide (replies.verdictAt cfg p = .vanished)).map Prod.snd).reverse.Pairwise (· > ·) := by
    rw [List.pairwise_reverse]
    exact hrange.sublist (List.filter_sublist.map _)
  refine eraseAll_modifyAll_eq_decision hus his
    (fun i t => t.fate cfg (replies.head i) (replies.receipt i)) ?_ ?_
  · intro i t hget hi
    obtain ⟨⟨t', j⟩, hmem, rfl⟩ := List.mem_map.mp (List.mem_reverse.mp hi)
    obtain ⟨hz, hv⟩ := List.mem_filter.mp hmem
    obtain rfl : t' = t := Option.some.inj ((hidx.mp hz).symm.trans hget)
    rw [Bool.or_eq_true, decide_eq_true_eq, decide_eq_true_eq] at hv
    rcases hv with hv | hv
    · simp only [PassReplies.verdictAt] at hv
      simp [PendingStandardTransfer.fate, hv]
    · simp only [PassReplies.verdictAt] at hv
      simp [PendingStandardTransfer.fate, hv]
  · intro i t hget hi
    have hstay : ¬ (replies.verdictAt cfg (t, i) = .forward ∨
        replies.verdictAt cfg (t, i) = .vanished) := by
      intro hv
      refine hi (List.mem_reverse.mpr (List.mem_map.mpr ⟨(t, i), ?_, rfl⟩))
      exact List.mem_filter.mpr ⟨hidx.mpr hget, by simpa using hv⟩
    cases hv : replies.verdictAt cfg (t, i) with
    | forward => exact absurd (.inl hv) hstay
    | vanished => exact absurd (.inr hv) hstay
    | moved newBlock =>
      have hup : (i, PendingStandardTransfer.remine newBlock) ∈
          (pending.zipIdx.filterMap (replies.moveAt cfg)).map
            fun u => (u.1, PendingStandardTransfer.remine u.2) := by
        refine List.mem_map.mpr ⟨(i, newBlock), List.mem_filterMap.mpr ⟨(t, i), ?_, ?_⟩, rfl⟩
        · exact hidx.mpr hget
        · simp [PassReplies.moveAt, hv]
      rw [updateAt_of_mem hus hup]
      simp only [PassReplies.verdictAt] at hv
      simp [PendingStandardTransfer.fate, hv]
    | keep =>
      have hnot : i ∉ ((pending.zipIdx.filterMap (replies.moveAt cfg)).map
          fun u => (u.1, PendingStandardTransfer.remine u.2)).map Prod.fst := by
        intro hin
        obtain ⟨u, hu, rfl⟩ := List.mem_map.mp hin
        obtain ⟨w, hw, rfl⟩ := List.mem_map.mp hu
        obtain ⟨⟨t', j⟩, hz, hm⟩ := List.mem_filterMap.mp hw
        obtain rfl : w.1 = j := hmove _ _ hm
        obtain rfl : t' = t := Option.some.inj ((hidx.mp hz).symm.trans hget)
        simp [PassReplies.moveAt, hv] at hm
      rw [updateAt_of_notMem hnot]
      simp only [PassReplies.verdictAt] at hv
      simp [PendingStandardTransfer.fate, hv]

/-! ### The specification of a pass -/

/-- A pass applies to every transfer its own fate, in order. -/
theorem pending_processPending (s : OnflightState) :
    (processPendingStandardTransfers cfg replies s).1.pending =
      (s.pending.mapIdx fun i t =>
        t.fate cfg (replies.head i) (replies.receipt i)).reduceOption := by
  rw [← eraseAll_pass]
  unfold processPendingStandardTransfers
  by_cases hempty : s.pending.isEmpty = true
  · have hnil : s.pending = [] := List.isEmpty_iff.mp hempty
    simp [hnil, eraseAll]
  · simp only [hempty, foldl_passOne, List.nil_append]
    rfl

/-- A pass sends exactly the transfers with the verdict `forward`, in order. -/
theorem sent_processPending (s : OnflightState) :
    (processPendingStandardTransfers cfg replies s).2 =
      (s.pending.zipIdx.filter fun p => decide (replies.verdictAt cfg p = .forward)).map
        fun p => p.1.sendCall := by
  unfold processPendingStandardTransfers
  by_cases hempty : s.pending.isEmpty = true
  · have hnil : s.pending = [] := List.isEmpty_iff.mp hempty
    simp [hnil]
  · simp only [hempty, foldl_passOne, List.nil_append]
    rw [if_neg Bool.false_ne_true, List.map_map]
    rfl

/-- Erasing a list of hashes. -/
lemma mem_foldl_erase {hashes : List B256} {processed : Finset B256} {h : B256} :
    h ∈ hashes.foldl (fun processed hash => processed.erase hash) processed ↔
      h ∈ processed ∧ h ∉ hashes := by
  induction hashes generalizing processed with
  | nil => simp
  | cons hash hashes ih =>
    rw [List.foldl_cons, ih, Finset.mem_erase, List.mem_cons]
    tauto

/-- What is computed from the entries of a list that pass a test on the entry and its index. -/
lemma mem_map_filter_zipIdx {α β : Type} {l : List α} {P : α × ℕ → Prop} [DecidablePred P]
    {f : α → β} {b : β} :
    b ∈ (l.zipIdx.filter fun p => decide (P p)).map (fun p => f p.1) ↔
      ∃ (i : ℕ) (t : α), l[i]? = some t ∧ P (t, i) ∧ f t = b := by
  rw [List.mem_map]
  constructor
  · rintro ⟨⟨t, i⟩, hp, rfl⟩
    obtain ⟨hz, hv⟩ := List.mem_filter.mp hp
    exact ⟨i, t, List.mk_mem_zipIdx_iff_getElem?.mp hz, of_decide_eq_true hv, rfl⟩
  · rintro ⟨i, t, hget, hv, rfl⟩
    refine ⟨(t, i), List.mem_filter.mpr ⟨?_, decide_eq_true hv⟩, rfl⟩
    exact List.mk_mem_zipIdx_iff_getElem?.mpr hget

/-- A pass unmarks exactly the hashes of the vanished transfers. -/
theorem mem_processed_processPending {s : OnflightState} {h : B256} :
    h ∈ (processPendingStandardTransfers cfg replies s).1.processed ↔
      h ∈ s.processed ∧ ¬ ∃ (i : ℕ) (t : PendingStandardTransfer), s.pending[i]? = some t ∧
        t.verdict cfg (replies.head i) (replies.receipt i) = .vanished ∧ t.msgHash = h := by
  have hunmark : h ∈ (s.pending.zipIdx.filter
      fun p => decide (replies.verdictAt cfg p = .vanished)).map (fun p => p.1.msgHash) ↔
      ∃ (i : ℕ) (t : PendingStandardTransfer), s.pending[i]? = some t ∧
        t.verdict cfg (replies.head i) (replies.receipt i) = .vanished ∧ t.msgHash = h :=
    mem_map_filter_zipIdx
  rw [← hunmark]
  unfold processPendingStandardTransfers
  by_cases hempty : s.pending.isEmpty = true
  · have hnil : s.pending = [] := List.isEmpty_iff.mp hempty
    simp [hnil]
  · simp only [hempty, foldl_passOne, List.nil_append]
    exact mem_foldl_erase

/-- The send calls of a pass. -/
lemma mem_sent_processPending {s : OnflightState} {c : SendCall} :
    c ∈ (processPendingStandardTransfers cfg replies s).2 ↔
      ∃ (i : ℕ) (t : PendingStandardTransfer), s.pending[i]? = some t ∧
        t.verdict cfg (replies.head i) (replies.receipt i) = .forward ∧ t.sendCall = c := by
  rw [sent_processPending]
  exact mem_map_filter_zipIdx

end Pass

/-! ### Verdicts and replies -/

/-- The fate of a transfer keeps its hash. -/
lemma msgHash_of_fate {cfg : OnflightConfig} {head : Except Report ℕ} {receipt : ReceiptReply}
    {t t' : PendingStandardTransfer} (h : t.fate cfg head receipt = some t') :
    t'.msgHash = t.msgHash := by
  unfold PendingStandardTransfer.fate at h
  split at h
  · simp at h
  · rw [← Option.some.inj h]
    rfl
  · simp at h
  · rw [Option.some.inj h]

/-- A transfer is forwarded only with enough confirmations and a receipt from its own block. -/
lemma verdict_eq_forward {cfg : OnflightConfig} {head : Except Report ℕ} {receipt : ReceiptReply}
    {t : PendingStandardTransfer} (h : t.verdict cfg head receipt = .forward) :
    (∃ current, head = .ok current ∧
      current - t.srcBlockNumber ≥ cfg.getBlockConfirmations t.srcChainId) ∧
      receipt = .ok (some (some t.srcBlockNumber)) := by
  have hclient : ∀ {α : Type} {reply : Except Report α} {x : α},
      cfg.withSrcClient t.srcChainId reply = .ok x → reply = .ok x := by
    intro α reply x hx
    unfold OnflightConfig.withSrcClient at hx
    split at hx
    · exact hx
    · split at hx
      · exact hx
      · simp at hx
  unfold PendingStandardTransfer.verdict at h
  split at h
  · simp at h
  · rename_i current hcur
    split at h
    · rename_i hconf
      refine ⟨⟨current, hclient hcur, hconf⟩, ?_⟩
      split at h
      · rename_i txBlock hver
        split at h
        · rename_i hblock
          subst hblock
          unfold OnflightConfig.verifySrcTransaction at hver
          split at hver
          · rename_i blockNumber hrec
            rw [hclient hrec]
            simpa using hver
          · simp at hver
          · simp at hver
        · simp at h
      · simp at h
      · simp at h
    · simp at h

end Onflight

end BifrostRelayer
