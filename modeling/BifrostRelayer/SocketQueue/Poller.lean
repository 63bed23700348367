import BifrostRelayer.Primitives.Socket

/-!
# The socket queue poller

`SocketQueuePoller` turns the socket events of one chain into votes for the `cccp_relay_queue`
pallet: a `Requested` event is reported by an on-flight poll, the event that ends the transfer by a
finalize poll.  The pallet keys its storage by the hash of the message with the status `Requested`,
so before a finalize poll the status is reset to look the transfer up.

`keccak256` is the hash function of the chain; nothing here depends on which function it is.
-/

namespace BifrostRelayer

namespace SocketQueue

open SolidityAbi

/-- The storage of the relay queue pallet at the best block.  Every query may fail, and so may
decoding the value found. -/
structure QueueView where
  /-- The two calls that pin the best block. -/
  bestBlock : Except Report Unit
  /-- `OnFlightTransfers`, by message hash: the accounts that voted for finalization. -/
  onFlightTransfers : B256 → Except Report (Option (Except Report (List Address)))
  /-- `FinalizedTransfers`, by message hash. -/
  finalizedTransfers : B256 → Except Report (Option Unit)
  /-- `PendingTransfers`, by message hash and source transaction: the accounts that voted. -/
  pendingTransfers : B256 → B256 → Except Report (Option (Except Report (List Address)))

/-- The metadata that both polls carry; `isCommitted` belongs to finalize polls only. -/
structure PollMetadata where
  isInbound : Bool
  sequence : BitVec 128
  srcChainId : ChainId
  dstChainId : ChainId
  isCommitted : Option Bool
deriving DecidableEq

/-- A submission to the pallet. -/
inductive PollSubmission where
  /-- `on_flight_poll`. -/
  | onFlight (msg : List UInt8) (msgHash srcTxId : B256) (metadata : PollMetadata)
  /-- `finalize_poll`. -/
  | finalize (msg : List UInt8) (metadata : PollMetadata)
deriving DecidableEq

/-- The configuration of one poller. -/
structure Poller where
  keccak256 : List UInt8 → B256
  /-- `Socket::SIGNATURE_HASH`. -/
  signatureHash : B256
  bifrostChainId : ChainId
  bitcoinChainId : Option ChainId
  /-- The account this relayer votes with. -/
  voter : Address

namespace Poller

variable (p : Poller)

/-- `is_inbound`. -/
def isInbound (dstChainId : ChainId) : Bool := dstChainId == p.bifrostChainId

/-- `should_skip_on_flight_poll`: the transfer is known already, or this relayer voted for it. -/
def shouldSkipOnFlightPoll (view : QueueView) (msgHash srcTxId : B256) : Except Report Bool := do
  view.bestBlock
  let onFlight ← view.onFlightTransfers msgHash
  if onFlight.isSome then return true
  let finalized ← view.finalizedTransfers msgHash
  if finalized.isSome then return true
  match ← view.pendingTransfers msgHash srcTxId with
  | some sv =>
      let onFlightVoters ← sv
      return onFlightVoters.contains p.voter
  | none => return false

/-- `should_skip_finalize_poll`. -/
def shouldSkipFinalizePoll (view : QueueView) (msgHash : B256) : Except Report Bool := do
  view.bestBlock
  let finalized ← view.finalizedTransfers msgHash
  if finalized.isSome then return true
  match ← view.onFlightTransfers msgHash with
  | some sv =>
      let finalizationVoters ← sv
      return finalizationVoters.contains p.voter
  | none => return false

/-- The storage key that `process_requested` computes for a message. -/
def requestedMsgHash (msg : SocketMessage) : B256 := p.keccak256 msg.toVec

/-- The storage key that `process_finalized` looks up for a message: its status is reset to
`Requested` first. -/
def finalizedMsgHash (msg : SocketMessage) : B256 :=
  let requestedMsg := { msg with status := 1 }
  p.keccak256 requestedMsg.toVec

/-- `process_requested`: report the transfer unless the pallet knows it. -/
def processRequested (view : QueueView) (msg : SocketMessage) (srcTxId : B256) :
    Except Report (Option PollSubmission) := do
  let encodedMsg := msg.toVec
  let msgHash := p.requestedMsgHash msg
  if ← p.shouldSkipOnFlightPoll view msgHash srcTxId then return none
  return some (.onFlight encodedMsg msgHash srcTxId
    ⟨p.isInbound msg.dstChainId, msg.reqId.sequence, msg.srcChainId, msg.dstChainId, none⟩)

/-- `process_finalized`: the submitted bytes keep the status of the event. -/
def processFinalized (view : QueueView) (msg : SocketMessage) (status : SocketEventStatus) :
    Except Report (Option PollSubmission) := do
  let isCommitted := status == .committed || status == .accepted
  let encodedMsg := msg.toVec
  if ← p.shouldSkipFinalizePoll view (p.finalizedMsgHash msg) then return none
  return some (.finalize encodedMsg
    ⟨p.isInbound msg.dstChainId, msg.reqId.sequence, msg.srcChainId, msg.dstChainId,
      some isCommitted⟩)

end Poller

/-! ### The key of a transfer -/

/-- The two views store the same under a key. -/
structure QueueView.AgreesAt (key : B256) (view view' : QueueView) : Prop where
  bestBlock : view.bestBlock = view'.bestBlock
  onFlightTransfers : view.onFlightTransfers key = view'.onFlightTransfers key
  finalizedTransfers : view.finalizedTransfers key = view'.finalizedTransfers key
  pendingTransfers : view.pendingTransfers key = view'.pendingTransfers key

/-- A readable view with a finalized transfer under the keys in `keys`, and nothing else. -/
def QueueView.finalizedAt (keys : B256 → Bool) : QueueView where
  bestBlock := .ok ()
  onFlightTransfers := fun _ => .ok none
  finalizedTransfers := fun key => .ok (if keys key then some () else none)
  pendingTransfers := fun _ _ => .ok none

/-- What is reported depends on what the pallet stores under the key, and on nothing else that it
stores: a transfer that is finalized there is skipped, a transfer that is not stored is reported. -/
structure LooksUp (key : B256) (report : QueueView → Except Report (Option PollSubmission)) :
    Prop where
  congr : ∀ view view', view.AgreesAt key view' → report view = report view'
  skips : report (.finalizedAt fun _ => true) = .ok none
  reports : ∃ submission, report (.finalizedAt fun _ => false) = .ok (some submission)

/-- There is only one such key. -/
lemma LooksUp.unique {key key' : B256}
    {report : QueueView → Except Report (Option PollSubmission)} (h : LooksUp key report)
    (h' : LooksUp key' report) : key = key' := by
  by_contra hne
  -- with a transfer under the first key only, the second one asks for a report
  have hskip : report (.finalizedAt fun k => k == key) = .ok none := by
    rw [← h.skips]
    exact h.congr _ _ ⟨rfl, rfl, by simp [QueueView.finalizedAt], rfl⟩
  obtain ⟨submission, hreport⟩ := h'.reports
  have hreported : report (.finalizedAt fun k => k == key) = .ok (some submission) := by
    rw [← hreport]
    refine h'.congr _ _ ⟨rfl, rfl, ?_, rfl⟩
    have hbeq : (key' == key) = false := beq_eq_false_iff_ne.2 (Ne.symm hne)
    simp only [QueueView.finalizedAt, hbeq]
  rw [hskip] at hreported
  cases hreported

variable (p : Poller)

/-- `process_requested` looks the transfer up under the hash of the message. -/
lemma looksUp_processRequested (msg : SocketMessage) (srcTxId : B256) :
    LooksUp (p.requestedMsgHash msg) fun view => p.processRequested view msg srcTxId := by
  refine ⟨fun view view' h => ?_, rfl, _, rfl⟩
  obtain ⟨hbest, honFlight, hfinalized, hpending⟩ := h
  simp only [Poller.processRequested, Poller.shouldSkipOnFlightPoll, hbest, honFlight, hfinalized,
    hpending]

/-- `process_finalized` looks the transfer up under the hash of the request. -/
lemma looksUp_processFinalized (msg : SocketMessage) (status : SocketEventStatus) :
    LooksUp (p.finalizedMsgHash msg) fun view => p.processFinalized view msg status := by
  refine ⟨fun view view' h => ?_, rfl, _, rfl⟩
  obtain ⟨hbest, honFlight, hfinalized, hpending⟩ := h
  simp only [Poller.processFinalized, Poller.shouldSkipFinalizePoll, hbest, honFlight, hfinalized]

/-- All encoders and decoders of a socket message agree: the hand-built bytes, which are signed and
hashed, are the typed encoding against which signers are recovered; both decoders undo them, so
that the encoding is injective; and the key under which `process_finalized` looks up a message with
any status is the one under which `process_requested` looks up the same message as a request, the
hash of the bytes of the latter. -/
theorem socketMessage_codecs_agree (p : Poller) :
    (∀ msg : SocketMessage, msg.toVec = msg.abiEncode ∧
      decodeSocketMessage msg.toVec = .ok msg ∧ socketAbiDecodeData msg.toVec = .ok msg) ∧
    Function.Injective SocketMessage.toVec ∧
    ∀ (msg : SocketMessage) (status : BitVec 8) (event : SocketEventStatus) (srcTxId key : B256),
      let request := { msg with status := SocketEventStatus.requested.toU8 }
      (LooksUp key (fun view => p.processRequested view request srcTxId) ↔
        key = p.keccak256 request.toVec) ∧
      (LooksUp key (fun view => p.processFinalized view { msg with status := status } event) ↔
        key = p.keccak256 request.toVec) := by
  refine ⟨fun msg => ⟨?_, ?_, ?_⟩, toVec_injective, fun msg status event srcTxId key => ⟨?_, ?_⟩⟩
  · exact toVec_eq_abiEncode msg
  · exact decodeSocketMessage_toVec msg
  · exact socketAbiDecodeData_toVec msg
  · have hlooks := looksUp_processRequested p
      { msg with status := SocketEventStatus.requested.toU8 } srcTxId
    refine ⟨fun h => h.unique hlooks, ?_⟩
    rintro rfl
    exact hlooks
  · have hlooks := looksUp_processFinalized p { msg with status := status } event
    refine ⟨fun h => h.unique hlooks, ?_⟩
    rintro rfl
    exact hlooks

end SocketQueue

end BifrostRelayer
