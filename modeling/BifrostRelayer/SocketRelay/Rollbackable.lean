import BifrostRelayer.Foundation.Hex
import BifrostRelayer.Rollback.Runs
import BifrostRelayer.SocketRelay.Direction

/-!
# The messages that reach the rollback emitters

A relay handler that requests a relay transaction for a message in a rollbackable state also sends
the message to the rollback emitter of the chain of that transaction.  Three places have to fit
together for this: the guard reads the status in the metadata, which is copied from a confirmed log
and fixed to `Requested` for a message of the on-flight handler; the channel is chosen from the
status of the message itself; and the emitter decides on that status alone what it polls for.

`RelayerState` has the channels and the emitters of one relayer, and a step of `relayerSystem` is a
message processed by one of the relay handlers or a pass of one of the emitters.
-/

namespace BifrostRelayer

namespace SocketRelay

open SolidityAbi Rollback

/-! ### What ends a call -/

/-- A result that may be an error. -/
def outcomeOfExcept {α : Type} : Except Report α → Outcome α
  | .ok a => .ok a
  | .error report => .failed report

/-- A result that may be a panic. -/
def outcomeOfOption {α : Type} : Option α → Outcome α
  | some a => .ok a
  | none => .panicked

/-- Go on after a call that returned. -/
def andThen {α β : Type} (x : Outcome α) (f : α → Outcome β) : Outcome β :=
  match x with
  | .ok a => f a
  | .failed report => .failed report
  | .panicked => .panicked

@[simp] lemma andThen_eq_ok {α β : Type} {x : Outcome α} {f : α → Outcome β} {y : β} :
    andThen x f = .ok y ↔ ∃ a, x = .ok a ∧ f a = .ok y := by
  cases x <;> simp [andThen]

@[simp] lemma outcomeOfOption_eq_ok {α : Type} {x : Option α} {a : α} :
    outcomeOfOption x = .ok a ↔ x = some a := by
  cases x <;> simp [outcomeOfOption]

/-! ### The relay handler -/

/-- `SocketRelayMetadata`. -/
structure SocketRelayMetadata where
  isInbound : Bool
  status : SocketEventStatus
  sequence : BitVec 128
  srcChainId : ChainId
  dstChainId : ChainId
  receiver : Address
  isBootstrap : Bool

/-- What a relay handler is made with. -/
structure RelayHandler where
  client : RelayClient
  /-- `client.get_bitcoin_chain_id()`. -/
  bitcoinChainId : Option ChainId
  systemClients : ClientMap
  /-- The chains that `rollback_senders` has a sender for. -/
  rollbackSenders : ChainId → Bool
  /-- `cccp_relay_queue_enabled`. -/
  relayQueueEnabled : Bool

/-- The replies that the calls for one message get. -/
structure RelayReplies where
  /-- `fetch_max_socket_message_bytes`. -/
  maxSocketMessageBytes : Except Report ℕ
  /-- `is_selected_relayer`. -/
  isSelectedRelayer : Except Report Bool
  /-- `should_execute_hook`; what the hook does then is not waited for. -/
  shouldExecuteHook : Except Report Bool
  /-- `should_rollback_hook`. -/
  shouldRollbackHook : Except Report Bool
  /-- `get_request` on the source chain. -/
  getRequest : Except Report RequestInfo
  signing : SigningReplies

/-- What the processing of a message sends. -/
structure RelaySent where
  /-- The message sent to the rollback emitter of a chain. -/
  rollbackable : Option (ChainId × SocketMessage)
  /-- The relay transaction: its chain, and the message and the signatures of the poll. -/
  relay : Option (ChainId × SocketMessage × Signatures)

/-- Nothing is sent. -/
def RelaySent.nothing : RelaySent := ⟨none, none⟩

/-- `is_executable`. -/
def isExecutable (isInbound : Bool) (status : SocketEventStatus) : Bool :=
  match isInbound, status with
  | true, .requested => true
  | false, .accepted => true
  | _, _ => false

/-- The only token that may leave Bifrost for Bitcoin on the mainnet. -/
def mainnetBrpToken : B256 :=
  ⟨[0x00, 0x00, 0x00, 0x03, 0x00, 0x00, 0x00, 0x03, 0x00, 0x00, 0x0b, 0xfc, 0xcb, 0x4e, 0x4f, 0x67,
    0xb3, 0x3e, 0xeb, 0xfc, 0x17, 0xc8, 0x2c, 0xf6, 0xe8, 0xc0, 0xb5, 0x6d, 0x26, 0x9a, 0xeb, 0x79],
    rfl⟩

/-- The only token that may leave Bifrost for Bitcoin on the testnet. -/
def testnetBrpToken : B256 :=
  ⟨[0x00, 0x00, 0x00, 0x03, 0x00, 0x00, 0x00, 0x03, 0x00, 0x00, 0xbf, 0xc0, 0xe0, 0x02, 0x30, 0x6b,
    0x8f, 0xdf, 0x96, 0x04, 0x4e, 0xef, 0x87, 0x0c, 0xc5, 0x00, 0xf1, 0x5e, 0x11, 0xef, 0x4e, 0xaa],
    rfl⟩

namespace RelayHandler

variable (h : RelayHandler)

/-- `is_sequence_ended`. -/
def isSequenceEnded (r : RelayReplies) (msg : SocketMessage) (status : SocketEventStatus) :
    Outcome Bool :=
  if h.bitcoinChainId = some msg.srcChainId ∧ h.client.isInboundSequence msg.dstChainId = true then
    .ok (decide (status = .accepted))
  else
    match h.systemClients msg.srcChainId with
    | some _ =>
        andThen (outcomeOfExcept r.getRequest) fun request =>
        andThen (outcomeOfOption (SocketEventStatus.ofU8 request.status)) fun status =>
        .ok (decide (status = .committed) || decide (status = .rollbacked))
    | none => .ok false

/-- `submit_brp_outbound_request`: the encoded message of the unsigned transaction, if there is
one. -/
def submitBrpOutboundRequest (r : RelayReplies) (msg : SocketMessage)
    (status : SocketEventStatus) : Except Report (Option (List UInt8)) :=
  match h.bitcoinChainId with
  | none => .ok none
  | some bitcoinChainId =>
      if h.client.isInboundSequence msg.dstChainId || msg.dstChainId ≠ bitcoinChainId then .ok none
      else if h.client.chainId = 3068 ∧ msg.params.tokenIdx0 ≠ mainnetBrpToken then .ok none
      else if h.client.chainId = 49088 ∧ msg.params.tokenIdx0 ≠ testnetBrpToken then .ok none
      else if status ≠ .accepted then .ok none
      else
        let encodedMsg := msg.toVec
        (r.signing.signMessage (Hex.encodePrefixed encodedMsg)).map fun _ => some encodedMsg

/-- `send_rollbackable_request`. -/
def sendRollbackableRequest (chainId : ChainId) (msg : SocketMessage) :
    Option (ChainId × SocketMessage) :=
  if h.rollbackSenders chainId then some (chainId, msg) else none

/-- `request_send_transaction`. -/
def requestSendTransaction (chainId : ChainId) (metadata : SocketRelayMetadata)
    (msg : SocketMessage) (signatures : Signatures) : RelaySent :=
  match h.systemClients chainId with
  | some _ =>
      ⟨if isExecutable metadata.isInbound metadata.status then
          h.sendRollbackableRequest chainId msg
        else none, some (chainId, msg, signatures)⟩
  | none => .nothing

/-- `send_socket_message`, with `build_transaction`. -/
def sendSocketMessage (r : RelayReplies) (msg : SocketMessage) (metadata : SocketRelayMetadata)
    (isInbound : Bool) : Outcome RelaySent :=
  andThen (outcomeOfOption (relayTxChainId isInbound msg)) fun chainId =>
  match h.systemClients chainId with
  | some _ =>
      andThen (outcomeOfOption (buildSignatures r.signing isInbound msg)) fun built =>
      andThen (outcomeOfExcept built) fun signatures =>
      .ok (h.requestSendTransaction chainId metadata msg signatures.1)
  | none => .ok .nothing

/-- `process_onflight_message`. -/
def processOnflightMessage (r : RelayReplies) (msg : SocketMessage) : Outcome RelaySent :=
  let isInbound := h.client.isInboundSequence msg.dstChainId
  let metadata : SocketRelayMetadata := ⟨isInbound, .requested, msg.reqId.sequence, msg.srcChainId,
    msg.dstChainId, msg.params.toAddress, false⟩
  andThen (outcomeOfExcept r.isSelectedRelayer) fun selected =>
  if selected = false then .ok .nothing
  else
    andThen (h.isSequenceEnded r msg metadata.status) fun ended =>
    if ended then .ok .nothing
    else h.sendSocketMessage r msg metadata isInbound

/-- The hooks of `process_confirmed_log`: only their checks can end it. -/
def checkHooks (r : RelayReplies) : Outcome Unit :=
  if h.relayQueueEnabled then
    andThen (outcomeOfExcept r.shouldExecuteHook) fun _ =>
    andThen (outcomeOfExcept r.shouldRollbackHook) fun _ => .ok ()
  else .ok ()

/-- `process_confirmed_log` on the message of a log, from the status on. -/
def processConfirmedMessage (r : RelayReplies) (msg : SocketMessage) (status : SocketEventStatus)
    (isBootstrap : Bool) : Outcome RelaySent :=
  andThen (outcomeOfExcept r.maxSocketMessageBytes) fun maxBytes =>
  if maxBytes < msg.toVec.length then .ok .nothing
  else if status = .requested ∧ h.relayQueueEnabled = true then .ok .nothing
  else
    let isInbound := h.client.isInboundSequence msg.dstChainId
    let metadata : SocketRelayMetadata := ⟨isInbound, status, msg.reqId.sequence, msg.srcChainId,
      msg.dstChainId, msg.params.toAddress, isBootstrap⟩
    andThen (outcomeOfExcept r.isSelectedRelayer) fun selected =>
    if selected = false then .ok .nothing
    else
      andThen (h.checkHooks r) fun _ =>
      andThen (h.isSequenceEnded r msg metadata.status) fun ended =>
      if ended then .ok .nothing
      else
        andThen (outcomeOfExcept (h.submitBrpOutboundRequest r msg status)) fun _ =>
        h.sendSocketMessage r msg metadata metadata.isInbound

/-- `process_confirmed_log`. -/
def processConfirmedLog (r : RelayReplies) (log : Log) (isBootstrap : Bool) : Outcome RelaySent :=
  match log.decodeSocket h.client.signatureHash with
  | .ok msg =>
      andThen (outcomeOfOption (SocketEventStatus.ofU8 msg.status)) fun status =>
      h.processConfirmedMessage r msg status isBootstrap
  | .error _ => .panicked

end RelayHandler

/-! ### The poll of the emitter -/

/-- `get_client` of the emitter: the first native client in the order of the chain ids. -/
def nativeClient (evmProviders : List EvmProvider) : Option ProviderMetadata :=
  (((evmProviders.map EvmProvider.id).dedup.insertionSort (· ≤ ·)).filterMap
    (newClients evmProviders)).find? ProviderMetadata.isNative

/-- The transaction that `try_rollback` requests. -/
structure RollbackPoll where
  /-- The chain whose socket contract the poll is addressed to. -/
  socket : ChainId
  /-- The chain of the client that sends it. -/
  sender : ChainId
  msg : SocketMessage
  sigs : Signatures
deriving DecidableEq

/-- `try_rollback` of the emitter of the chain `own`, with the transaction that it requests. -/
def rollbackPoll (evmProviders : List EvmProvider) (own : ChainId) (signing : SigningReplies)
    (msg : SocketMessage) : Outcome RollbackPoll :=
  match SocketEventStatus.ofU8 msg.status with
  | some .requested =>
      andThen (outcomeOfOption (nativeClient evmProviders)) fun native =>
      .ok ⟨native.id, own, { msg with status := SocketEventStatus.failed.toU8 }, .empty⟩
  | some .accepted =>
      andThen (outcomeOfOption (nativeClient evmProviders)) fun _ =>
      andThen (outcomeOfOption (signing.getSortedSignatures msg)) fun reply =>
      andThen (outcomeOfExcept reply) fun sigs =>
      .ok ⟨own, own, { msg with status := SocketEventStatus.rejected.toU8 }, sigs⟩
  | _ => .panicked

/-! ### One relayer -/

/-- The relay handlers of a relayer, with what they share. -/
structure Relayer (evmProviders : List EvmProvider) where
  /-- The client of the relay handler of a chain, for the chains in the watch list. -/
  handlers : ChainId → Option RelayClient
  /-- The id of the Bitcoin provider; `none` without one. -/
  bitcoinChainId : Option ChainId
  relayQueueEnabled : Bool
  /-- A relay handler takes the client of its chain from the map. -/
  handler_client : ∀ id c, handlers id = some c → c.chainId = id ∧
    ∃ client, newClients evmProviders id = some client ∧
      c.ifDestinationChain = client.ifDestinationChain

namespace Relayer

variable {evmProviders : List EvmProvider}

/-- `get_bitcoin_chain_id` of the client of a chain: only the native client is given the id. -/
def getBitcoinChainId (R : Relayer evmProviders) (own : ChainId) : Option ChainId :=
  if (newClients evmProviders own).any ProviderMetadata.isNative then R.bitcoinChainId else none

/-- A relay handler as the start of the relayer makes it: every client has a rollback sender. -/
def handler (R : Relayer evmProviders) (c : RelayClient) : RelayHandler :=
  ⟨c, R.getBitcoinChainId c.chainId, newClients evmProviders,
    fun id => (newClients evmProviders id).isSome, R.relayQueueEnabled⟩

/-- What the rollback emitter of the chain `own` reads of its clients. -/
def emitter (R : Relayer evmProviders) (own : ChainId) : EmitterConfig :=
  ⟨R.getBitcoinChainId own,
    fun id => (newClients evmProviders id).map ProviderMetadata.ifDestinationChain,
    (nativeClient evmProviders).isSome⟩

/-- `send_to_socket_relay_handler`: the chain whose relay handler gets a message that was registered
with the source chain `srcChainId`. -/
def onflightTarget (bifrostChainId srcChainId : ChainId) (msg : SocketMessage) : ChainId :=
  if srcChainId = bifrostChainId then srcChainId else msg.dstChainId

end Relayer

/-- The channels to the rollback emitters, and the emitters. -/
structure RelayerState where
  channels : ChainId → List SocketMessage
  emitters : ChainId → EmitterState

/-- What happens next. -/
inductive RelayerInput where
  /-- The relay handler of the chain `own` processes a confirmed log. -/
  | confirmedLog (own : ChainId) (log : Log) (isBootstrap : Bool) (r : RelayReplies)
  /-- The on-flight handler sends a message, and a relay handler processes it. -/
  | onflight (srcChainId : ChainId) (msg : SocketMessage) (r : RelayReplies)
  /-- The emitter of a chain makes a pass over its channel. -/
  | pass (c : ChainId) (latestBlock : Except Report (Option ℕ))
      (replies : RawRequestId → EntryReplies)

/-- What it does. -/
inductive RelayerOutput where
  | processed (outcome : Outcome RelaySent)
  | passed (c : ChainId) (o : PassOutput)

/-- Append what was sent to the channel it was sent to. -/
def RelayerState.deliver (s : RelayerState) : Outcome RelaySent → RelayerState
  | .ok ⟨some (c, msg), _⟩ =>
      { s with channels := Function.update s.channels c (s.channels c ++ [msg]) }
  | _ => s

/-- The messages left in a channel: `receive` takes all of them once the latest block is known. -/
def leftInChannel (s : EmitterState) (latestBlock : Except Report (Option ℕ))
    (inbox : List SocketMessage) : List SocketMessage :=
  match s.panicked, latestBlock with
  | false, .ok (some _) => []
  | _, _ => inbox

/-- One step of the relayer with the Bifrost chain `b`. -/
def relayerStep {evmProviders : List EvmProvider} (R : Relayer evmProviders) (b : ChainId)
    (s : RelayerState) : RelayerInput → Option (RelayerState × RelayerOutput)
  | .confirmedLog own log isBootstrap r =>
      (R.handlers own).map fun c =>
        let outcome := (R.handler c).processConfirmedLog r log isBootstrap
        (s.deliver outcome, .processed outcome)
  | .onflight srcChainId msg r =>
      if R.relayQueueEnabled then
        (R.handlers (Relayer.onflightTarget b srcChainId msg)).map fun c =>
          let outcome := (R.handler c).processOnflightMessage r msg
          (s.deliver outcome, .processed outcome)
      else none
  | .pass c latestBlock replies =>
      (newClients evmProviders c).map fun _ =>
        let e := s.emitters c
        let r := Rollback.pass (R.emitter c) e ⟨latestBlock, s.channels c, replies⟩
        (⟨Function.update s.channels c (leftInChannel e latestBlock (s.channels c)),
          Function.update s.emitters c r.1⟩, .passed c r.2)

/-- The runs of a relayer from its start. -/
def relayerSystem {evmProviders : List EvmProvider} (R : Relayer evmProviders) (b : ChainId) :
    LabelledSystem RelayerState (RelayerInput × RelayerOutput) where
  init s := s = ⟨fun _ => [], fun _ => ⟨.empty, false⟩⟩
  step s a s' := relayerStep R b s a.1 = some (s', a.2)

/-! ### What a channel should carry -/

/-- One side of the request is Bifrost, the other is not. -/
def BetweenBifrost (b : ChainId) (msg : SocketMessage) : Prop :=
  msg.srcChainId = b ∧ msg.dstChainId ≠ b ∨ msg.srcChainId ≠ b ∧ msg.dstChainId = b

/-- A message that belongs on the channel of the emitter of the chain `c`. -/
def Rollbackable (b c : ChainId) (msg : SocketMessage) : Prop :=
  msg.dstChainId = c ∧
    (msg.dstChainId = b ∧ SocketEventStatus.ofU8 msg.status = some .requested ∨
      msg.dstChainId ≠ b ∧ SocketEventStatus.ofU8 msg.status = some .accepted)

/-- Messages are between Bifrost and another chain, and the on-flight transfers are `Requested`. -/
def Assumed {evmProviders : List EvmProvider} (R : Relayer evmProviders) (b : ChainId)
    (_ : RelayerState) (a : RelayerInput × RelayerOutput) : Prop :=
  match a.1 with
  | .confirmedLog own log _ _ => ∀ c msg, R.handlers own = some c →
      log.decodeSocket c.signatureHash = .ok msg → BetweenBifrost b msg
  | .onflight _ msg _ => BetweenBifrost b msg ∧
      SocketEventStatus.ofU8 msg.status = some .requested
  | .pass .. => True

/-- Without the relay queue, a relay handler only gets logs of requests of its own chain. -/
def OwnRequests {evmProviders : List EvmProvider} (R : Relayer evmProviders)
    (a : RelayerInput × RelayerOutput) : Prop :=
  match a.1 with
  | .confirmedLog own log _ _ => ∀ c msg, R.handlers own = some c →
      log.decodeSocket c.signatureHash = .ok msg →
        R.relayQueueEnabled = true ∨ own = msg.srcChainId ∨ own = msg.dstChainId
  | _ => True

/-- What a step may send to the emitters, and what these may do with it: `try_rollback` does not
panic, and its poll is addressed to the destination of the message and sent by the client there. -/
def RollbacksAddressed {evmProviders : List EvmProvider} (R : Relayer evmProviders) (b : ChainId) :
    RelayerOutput → Prop
  | .processed outcome => ∀ sent c msg, outcome = .ok sent → sent.rollbackable = some (c, msg) →
      Rollbackable b c msg
  | .passed c o => ∀ x ∈ o.tried, Rollbackable b c x.2.socketMsg ∧
      (∀ replies, (R.emitter c).tryRollback replies x.2.socketMsg ≠ .panicked) ∧
      ∀ signing poll, rollbackPoll evmProviders c signing x.2.socketMsg = .ok poll →
        poll.socket = x.2.socketMsg.dstChainId ∧ poll.sender = x.2.socketMsg.dstChainId ∧
        poll.msg = { x.2.socketMsg with status :=
          (if x.2.socketMsg.dstChainId = b then SocketEventStatus.failed else .rejected).toU8 }

/-! ### What a relay handler sends -/

variable {h : RelayHandler} {r : RelayReplies} {msg msg' : SocketMessage} {sent : RelaySent}
  {c : ChainId}

/-- A rollbackable message is sent for the chain of the relay transaction, if the metadata say so. -/
lemma rollbackable_sendSocketMessage {metadata : SocketRelayMetadata} {isInbound : Bool}
    (hsend : h.sendSocketMessage r msg metadata isInbound = .ok sent)
    (hroll : sent.rollbackable = some (c, msg')) :
    msg' = msg ∧ relayTxChainId isInbound msg = some c ∧
      isExecutable metadata.isInbound metadata.status = true := by
  unfold RelayHandler.sendSocketMessage at hsend
  obtain ⟨chainId, hchain, hsend⟩ := andThen_eq_ok.1 hsend
  cases hclient : h.systemClients chainId with
  | none =>
    rw [hclient] at hsend
    obtain rfl := Outcome.ok.inj hsend
    cases hroll
  | some client =>
    simp only [hclient, andThen_eq_ok] at hsend
    obtain ⟨built, -, signatures, -, hsent⟩ := hsend
    obtain rfl := Outcome.ok.inj hsent
    unfold RelayHandler.requestSendTransaction at hroll
    rw [hclient] at hroll
    simp only [RelayHandler.sendRollbackableRequest] at hroll
    split_ifs at hroll with hexec
    obtain ⟨rfl, rfl⟩ := Prod.mk.inj (Option.some.inj hroll)
    exact ⟨rfl, outcomeOfOption_eq_ok.1 hchain, hexec⟩

/-- What the processing of a message of the on-flight handler sends. -/
lemma rollbackable_processOnflightMessage (hproc : h.processOnflightMessage r msg = .ok sent)
    (hroll : sent.rollbackable = some (c, msg')) :
    msg' = msg ∧ relayTxChainId (h.client.isInboundSequence msg.dstChainId) msg = some c ∧
      isExecutable (h.client.isInboundSequence msg.dstChainId) .requested = true := by
  unfold RelayHandler.processOnflightMessage at hproc
  obtain ⟨selected, -, hproc⟩ := andThen_eq_ok.1 hproc
  split_ifs at hproc with hsel
  · obtain rfl := Outcome.ok.inj hproc
    cases hroll
  · obtain ⟨ended, -, hproc⟩ := andThen_eq_ok.1 hproc
    split_ifs at hproc with hend
    · obtain rfl := Outcome.ok.inj hproc
      cases hroll
    · exact rollbackable_sendSocketMessage hproc hroll

/-- What the processing of a confirmed log sends. -/
lemma rollbackable_processConfirmedLog {log : Log} {isBootstrap : Bool}
    (hproc : h.processConfirmedLog r log isBootstrap = .ok sent)
    (hroll : sent.rollbackable = some (c, msg')) :
    log.decodeSocket h.client.signatureHash = .ok msg' ∧
      relayTxChainId (h.client.isInboundSequence msg'.dstChainId) msg' = some c ∧
      ∃ status, SocketEventStatus.ofU8 msg'.status = some status ∧
        (status = .requested → h.relayQueueEnabled = false) ∧
        isExecutable (h.client.isInboundSequence msg'.dstChainId) status = true := by
  unfold RelayHandler.processConfirmedLog at hproc
  cases hdecode : log.decodeSocket h.client.signatureHash with
  | error e =>
    rw [hdecode] at hproc
    cases hproc
  | ok msg =>
    rw [hdecode] at hproc
    obtain ⟨status, hstatus, hproc⟩ := andThen_eq_ok.1 hproc
    unfold RelayHandler.processConfirmedMessage at hproc
    obtain ⟨maxBytes, -, hproc⟩ := andThen_eq_ok.1 hproc
    split_ifs at hproc with hsize hqueue
    · obtain rfl := Outcome.ok.inj hproc
      cases hroll
    · obtain rfl := Outcome.ok.inj hproc
      cases hroll
    · obtain ⟨selected, -, hproc⟩ := andThen_eq_ok.1 hproc
      split_ifs at hproc with hsel
      · obtain rfl := Outcome.ok.inj hproc
        cases hroll
      · obtain ⟨u, -, hproc⟩ := andThen_eq_ok.1 hproc
        obtain ⟨ended, -, hproc⟩ := andThen_eq_ok.1 hproc
        split_ifs at hproc with hend
        · obtain rfl := Outcome.ok.inj hproc
          cases hroll
        · obtain ⟨brp, -, hproc⟩ := andThen_eq_ok.1 hproc
          obtain ⟨rfl, hchain, hexec⟩ := rollbackable_sendSocketMessage hproc hroll
          refine ⟨rfl, hchain, status, outcomeOfOption_eq_ok.1 hstatus, ?_, hexec⟩
          intro hreq
          simpa [hreq] using hqueue

/-- Where a rollbackable message is sent. -/
lemma eq_dstChainId_of_isExecutable {isInbound : Bool} {status : SocketEventStatus}
    (hstatus : SocketEventStatus.ofU8 msg.status = some status)
    (hexec : isExecutable isInbound status = true) (hchain : relayTxChainId isInbound msg = some c) :
    c = msg.dstChainId ∧
      (isInbound = true ∧ status = .requested ∨ isInbound = false ∧ status = .accepted) := by
  cases isInbound <;> cases status <;> simp [isExecutable] at hexec
  all_goals
    simp [relayTxChainId, hstatus, getInboundRelayTxChainId, getOutboundRelayTxChainId] at hchain
    simp [hchain]

/-! ### The direction that a relay handler sees -/

variable {evmProviders : List EvmProvider} {R : Relayer evmProviders} {b own : ChainId}
  {client : RelayClient}

/-- The relay handler of Bifrost takes what goes to Bifrost as inbound, that of another chain takes
everything as inbound that does not go to its own chain. -/
lemma OneNative.isInboundSequence_of_handlers (hb : OneNative evmProviders b)
    (hown : R.handlers own = some client) (dst : ChainId) :
    client.isInboundSequence dst =
      if own = b then decide (dst = b) else decide (dst ≠ own) := by
  obtain ⟨rfl, metadata, hclient, hdir⟩ := R.handler_client own client hown
  rw [(hb.client_eq hclient).2] at hdir
  unfold RelayClient.isInboundSequence
  by_cases hnative : client.chainId = b
  · rw [if_pos hnative] at hdir ⊢
    rw [hdir, hnative]
    by_cases hdst : dst = b
    · simp [hdst]
    · simp [hdst, Ne.symm hdst]
  · rw [if_neg hnative] at hdir ⊢
    rw [hdir]
    by_cases hdst : dst = client.chainId
    · simp [hdst]
    · simp [hdst, Ne.symm hdst]

/-- A confirmed log leads to nothing but rollbackable messages on the channels. -/
lemma OneNative.rollbackable_of_confirmedLog (hb : OneNative evmProviders b)
    (hown : R.handlers own = some client) {log : Log} {isBootstrap : Bool}
    (hassumed : ∀ msg, log.decodeSocket client.signatureHash = .ok msg → BetweenBifrost b msg)
    (hrequests : ∀ msg, log.decodeSocket client.signatureHash = .ok msg →
      R.relayQueueEnabled = true ∨ own = msg.srcChainId ∨ own = msg.dstChainId)
    (hproc : (R.handler client).processConfirmedLog r log isBootstrap = .ok sent)
    (hroll : sent.rollbackable = some (c, msg)) : Rollbackable b c msg := by
  obtain ⟨hdecode, hchain, status, hstatus, hqueue, hexec⟩ :=
    rollbackable_processConfirmedLog hproc hroll
  obtain ⟨rfl, hdir⟩ := eq_dstChainId_of_isExecutable hstatus hexec hchain
  have hbetween := hassumed msg hdecode
  refine ⟨rfl, ?_⟩
  have hseen : (R.handler client).client.isInboundSequence msg.dstChainId =
      if own = b then decide (msg.dstChainId = b) else decide (msg.dstChainId ≠ own) :=
    hb.isInboundSequence_of_handlers hown msg.dstChainId
  rw [hseen] at hdir
  by_cases hnative : own = b
  · rw [if_pos hnative] at hdir
    rcases hdir with ⟨hin, rfl⟩ | ⟨hout, rfl⟩
    · exact .inl ⟨of_decide_eq_true hin, hstatus⟩
    · exact .inr ⟨of_decide_eq_false hout, hstatus⟩
  · rw [if_neg hnative] at hdir
    rcases hdir with ⟨hin, rfl⟩ | ⟨hout, rfl⟩
    · -- a request of its own chain that does not go there comes from there, and so goes to Bifrost
      have hne : msg.dstChainId ≠ own := of_decide_eq_true hin
      have hoff : R.relayQueueEnabled = false := hqueue rfl
      rcases hrequests msg hdecode with hon | hsrc | hdst
      · rw [hoff] at hon
        cases hon
      · rcases hbetween with ⟨hsrcb, -⟩ | ⟨-, hdstb⟩
        · exact absurd (hsrc.trans hsrcb) hnative
        · exact .inl ⟨hdstb, hstatus⟩
      · exact absurd hdst.symm hne
    · have heq : msg.dstChainId = own := by simpa using hout
      exact .inr ⟨heq ▸ hnative, hstatus⟩

/-- A message of the on-flight handler reaches the relay handler of Bifrost or of its
destination. -/
lemma onflightTarget_eq (b srcChainId : ChainId) (msg : SocketMessage) :
    Relayer.onflightTarget b srcChainId msg = b ∨
      Relayer.onflightTarget b srcChainId msg = msg.dstChainId := by
  unfold Relayer.onflightTarget
  split_ifs with hsrc
  · exact .inl hsrc
  · exact .inr rfl

/-- An on-flight transfer leads to nothing but rollbackable messages on the channels. -/
lemma OneNative.rollbackable_of_onflight (hb : OneNative evmProviders b) {srcChainId : ChainId}
    (hown : R.handlers (Relayer.onflightTarget b srcChainId msg) = some client)
    (hstatus : SocketEventStatus.ofU8 msg.status = some .requested)
    (hproc : (R.handler client).processOnflightMessage r msg = .ok sent)
    (hroll : sent.rollbackable = some (c, msg')) : Rollbackable b c msg' := by
  obtain ⟨rfl, hchain, hexec⟩ := rollbackable_processOnflightMessage hproc hroll
  obtain ⟨rfl, hdir⟩ := eq_dstChainId_of_isExecutable hstatus hexec hchain
  have hseen := hb.isInboundSequence_of_handlers hown msg'.dstChainId
  obtain ⟨hin, -⟩ | ⟨-, habsurd⟩ := hdir
  · have hin' : client.isInboundSequence msg'.dstChainId = true := hin
    rw [hseen] at hin'
    refine ⟨rfl, .inl ⟨?_, hstatus⟩⟩
    split_ifs at hin' with hnative
    · exact of_decide_eq_true hin'
    · rcases onflightTarget_eq b srcChainId msg' with htarget | htarget
      · exact absurd htarget hnative
      · exact absurd htarget.symm (of_decide_eq_true hin')
  · cases habsurd

/-! ### What the emitters do with it -/

/-- The emitter finds the client of Bifrost. -/
lemma OneNative.nativeClient_eq (hb : OneNative evmProviders b) :
    ∃ native, nativeClient evmProviders = some native ∧ native.id = b := by
  have hnative : ∀ id metadata, newClients evmProviders id = some metadata →
      (metadata.isNative = true ↔ id = b) := by
    intro id metadata hid
    obtain ⟨p, hp, rfl, rfl⟩ := exists_provider_of_newClients hid
    exact hb.2 p hp
  cases hfind : nativeClient evmProviders with
  | none =>
    exfalso
    obtain ⟨metadata, hmetadata⟩ := exists_newClients hb.1
    obtain ⟨p, hp, hpid⟩ := hb.1
    unfold nativeClient at hfind
    rw [List.find?_eq_none] at hfind
    refine hfind metadata (List.mem_filterMap.2 ⟨b, ?_, hmetadata⟩) ((hnative b _ hmetadata).2 rfl)
    rw [List.mem_insertionSort, List.mem_dedup]
    exact List.mem_map.2 ⟨p, hp, hpid⟩
  | some native =>
    refine ⟨native, rfl, ?_⟩
    have hmem := List.mem_of_find?_eq_some hfind
    obtain ⟨id, -, hid⟩ := List.mem_filterMap.1 hmem
    rw [(hb.client_eq hid).1]
    exact (hnative id native hid).1 (List.find?_some hfind)

/-- The two models of `try_rollback` agree: one says whether a transaction is requested, the other
which one. -/
lemma tryRollback_eq_rollbackPoll (hb : OneNative evmProviders b) {signing : SigningReplies}
    {replies : EntryReplies} {reply : Except Report Signatures}
    (hreply : signing.getSortedSignatures msg = some reply)
    (hsigs : replies.signatures = reply.map fun _ => ()) :
    (R.emitter own).tryRollback replies msg =
      andThen (rollbackPoll evmProviders own signing msg) fun _ => .ok () := by
  obtain ⟨native, hnative, -⟩ := hb.nativeClient_eq
  unfold EmitterConfig.tryRollback rollbackPoll Relayer.emitter
  rw [hnative, hreply, hsigs]
  cases SocketEventStatus.ofU8 msg.status with
  | none => rfl
  | some status => cases status <;> cases reply <;> rfl

/-- A message that belongs on the channel is rolled back without a panic, by a poll to its
destination. -/
lemma OneNative.rollbackPoll_of_rollbackable (hb : OneNative evmProviders b)
    (hroll : Rollbackable b c msg) :
    (∀ replies, (R.emitter c).tryRollback replies msg ≠ .panicked) ∧
      ∀ signing poll, rollbackPoll evmProviders c signing msg = .ok poll →
        poll.socket = msg.dstChainId ∧ poll.sender = msg.dstChainId ∧
        poll.msg = { msg with status :=
          (if msg.dstChainId = b then SocketEventStatus.failed else .rejected).toU8 } := by
  obtain ⟨native, hnative, hid⟩ := hb.nativeClient_eq
  obtain ⟨rfl, ⟨hdst, hstatus⟩ | ⟨hdst, hstatus⟩⟩ := hroll
  · refine ⟨fun replies => ?_, fun signing poll hpoll => ?_⟩
    · simp [EmitterConfig.tryRollback, hstatus, Relayer.emitter, hnative]
    · simp only [rollbackPoll, hstatus, hnative] at hpoll
      obtain rfl := Outcome.ok.inj hpoll
      exact ⟨hid.trans hdst.symm, rfl, by rw [if_pos hdst]⟩
  · refine ⟨fun replies => ?_, fun signing poll hpoll => ?_⟩
    · cases hsigs : replies.signatures <;>
        simp [EmitterConfig.tryRollback, hstatus, Relayer.emitter, hnative, hsigs]
    · simp only [rollbackPoll, hstatus, andThen_eq_ok] at hpoll
      obtain ⟨-, -, -, -, sigs, -, hpoll⟩ := hpoll
      obtain rfl := Outcome.ok.inj hpoll
      exact ⟨rfl, rfl, by rw [if_neg hdst]⟩

/-- What is tracked when the loop of a pass starts was tracked before or came from the channel. -/
lemma tracked_of_receive {cfg : EmitterConfig} {timestamp : ℕ} {msgs : RollbackMsgs}
    {inbox : List SocketMessage} {k : RawRequestId} {e : RollbackableMessage}
    (hget : (receive cfg timestamp msgs inbox).1.get? k = some e) :
    msgs.get? k = some e ∨ e.socketMsg ∈ inbox := by
  rw [get?_receive, Option.or_eq_some_iff] at hget
  rcases hget with hget | ⟨-, hget⟩
  · exact .inl hget
  · obtain ⟨msg, hfirst, rfl⟩ := Option.map_eq_some_iff.1 hget
    exact .inr (firstReceived_eq_some hfirst).1

/-- A pass tracks and tries nothing but what was tracked before or came from the channel. -/
lemma tracked_of_pass {cfg : EmitterConfig} {s : EmitterState} {i : PassInput} {k : RawRequestId}
    {e : RollbackableMessage}
    (h : (Rollback.pass cfg s i).1.msgs.get? k = some e ∨ (k, e) ∈ (Rollback.pass cfg s i).2.tried) :
    s.msgs.get? k = some e ∨ e.socketMsg ∈ i.inbox := by
  rcases pass_cases cfg s i with ⟨hnop, -⟩ | ⟨timestamp, -, -, htried, -, hmsgs, -⟩
  · rw [hnop] at h
    exact .inl (by simpa using h)
  · rcases h with hget | htry
    · rw [hmsgs, RollbackMsgs.get?_foldl_erase] at hget
      split at hget
      · cases hget
      · exact tracked_of_receive hget
    · rw [htried, (checkEntries_eq cfg timestamp i.replies _).1] at htry
      have hreached := List.mem_of_mem_filter htry
      have hentry : (k, e) ∈ (receivedMsgs cfg timestamp s i).entries := by
        rcases List.mem_append.1 hreached with hdone | hlast
        · exact (List.takeWhile_sublist _).subset hdone
        · exact (List.dropWhile_sublist _).subset (List.mem_of_mem_take hlast)
      exact tracked_of_receive (RollbackMsgs.mem_entries.1 hentry)

/-! ### Runs -/

/-- Everything in a channel, and everything that an emitter tracks, belongs there. -/
structure ChannelsRollbackable (b : ChainId) (s : RelayerState) : Prop where
  channel : ∀ c, ∀ msg ∈ s.channels c, Rollbackable b c msg
  tracked : ∀ c k e, (s.emitters c).msgs.get? k = some e → Rollbackable b c e.socketMsg

/-- Delivering rollbackable messages keeps the channels. -/
lemma ChannelsRollbackable.deliver {s : RelayerState} (hs : ChannelsRollbackable b s)
    {outcome : Outcome RelaySent}
    (hsent : ∀ sent c msg, outcome = .ok sent → sent.rollbackable = some (c, msg) →
      Rollbackable b c msg) : ChannelsRollbackable b (s.deliver outcome) := by
  match outcome, hsent with
  | .ok ⟨some (c, msg), relay⟩, hsent =>
    refine ⟨fun c' msg' hmem => ?_, hs.tracked⟩
    by_cases hc : c' = c
    · subst hc
      simp only [RelayerState.deliver, Function.update_self] at hmem
      rcases List.mem_append.1 hmem with hmem | hmem
      · exact hs.channel c' msg' hmem
      · rw [List.mem_singleton.1 hmem]
        exact hsent _ c' msg rfl rfl
    · simp only [RelayerState.deliver, Function.update_of_ne hc] at hmem
      exact hs.channel c' msg' hmem
  | .ok ⟨none, relay⟩, _ => exact hs
  | .failed report, _ => exact hs
  | .panicked, _ => exact hs

/-- A pass leaves a part of the channel. -/
lemma mem_of_mem_leftInChannel {s : EmitterState} {latestBlock : Except Report (Option ℕ)}
    {inbox : List SocketMessage} (hmem : msg ∈ leftInChannel s latestBlock inbox) : msg ∈ inbox := by
  unfold leftInChannel at hmem
  split at hmem
  · cases hmem
  · exact hmem

/-- A pass keeps the channels, and tries only what belongs to its chain. -/
lemma ChannelsRollbackable.pass {s : RelayerState} (hs : ChannelsRollbackable b s) (c : ChainId)
    (latestBlock : Except Report (Option ℕ)) (replies : RawRequestId → EntryReplies) :
    let p := Rollback.pass (R.emitter c) (s.emitters c) ⟨latestBlock, s.channels c, replies⟩
    ChannelsRollbackable b
        ⟨Function.update s.channels c (leftInChannel (s.emitters c) latestBlock (s.channels c)),
          Function.update s.emitters c p.1⟩ ∧
      ∀ x ∈ p.2.tried, Rollbackable b c x.2.socketMsg := by
  intro p
  have hbelongs : ∀ k e, p.1.msgs.get? k = some e ∨ (k, e) ∈ p.2.tried →
      Rollbackable b c e.socketMsg := by
    intro k e h
    rcases tracked_of_pass h with hold | hinbox
    · exact hs.tracked c k e hold
    · exact hs.channel c _ hinbox
  refine ⟨⟨fun c' msg hmem => ?_, fun c' k e hget => ?_⟩, fun x hx => hbelongs x.1 x.2 (.inr hx)⟩
  · by_cases hc : c' = c
    · subst hc
      simp only [Function.update_self] at hmem
      exact hs.channel c' msg (mem_of_mem_leftInChannel hmem)
    · simp only [Function.update_of_ne hc] at hmem
      exact hs.channel c' msg hmem
  · by_cases hc : c' = c
    · subst hc
      simp only [Function.update_self] at hget
      exact hbelongs k e (.inl hget)
    · simp only [Function.update_of_ne hc] at hget
      exact hs.tracked c' k e hget

/-- One step keeps the channels and sends and polls only what it should. -/
lemma ChannelsRollbackable.step (hb : OneNative evmProviders b) {s s' : RelayerState}
    {a : RelayerInput × RelayerOutput} (hs : ChannelsRollbackable b s)
    (hstep : ((relayerSystem R b).restrict fun s a => Assumed R b s a ∧ OwnRequests R a).step s a s') :
    ChannelsRollbackable b s' ∧ RollbacksAddressed R b a.2 := by
  obtain ⟨hstep, hassumed, hrequests⟩ := hstep
  obtain ⟨i, o⟩ := a
  cases i with
  | confirmedLog own log isBootstrap r =>
    obtain ⟨client, hclient, heq⟩ := Option.map_eq_some_iff.1 hstep
    obtain ⟨rfl, rfl⟩ := Prod.mk.inj heq
    have hsent : RollbacksAddressed R b
        (.processed ((R.handler client).processConfirmedLog r log isBootstrap)) :=
      fun sent c msg hproc hroll =>
        hb.rollbackable_of_confirmedLog hclient (fun msg => hassumed client msg hclient)
          (fun msg => hrequests client msg hclient) hproc hroll
    exact ⟨hs.deliver hsent, hsent⟩
  | onflight srcChainId msg r =>
    simp only [relayerSystem, relayerStep] at hstep
    split_ifs at hstep with hqueue
    obtain ⟨client, hclient, heq⟩ := Option.map_eq_some_iff.1 hstep
    obtain ⟨rfl, rfl⟩ := Prod.mk.inj heq
    have hsent : RollbacksAddressed R b
        (.processed ((R.handler client).processOnflightMessage r msg)) :=
      fun sent c msg' hproc hroll => hb.rollbackable_of_onflight hclient hassumed.2 hproc hroll
    exact ⟨hs.deliver hsent, hsent⟩
  | pass c latestBlock replies =>
    obtain ⟨metadata, -, heq⟩ := Option.map_eq_some_iff.1 hstep
    obtain ⟨rfl, rfl⟩ := Prod.mk.inj heq
    obtain ⟨hkept, htried⟩ := hs.pass (R := R) c latestBlock replies
    refine ⟨hkept, fun x hx => ⟨htried x hx, ?_⟩⟩
    exact hb.rollbackPoll_of_rollbackable (htried x hx)

/-- In every run of a relayer with one native chain `b` in which the messages are between `b` and
another chain, the on-flight transfers are `Requested`, and without the relay queue a relay handler
gets only logs of requests of its own chain: every message sent to the emitter of a chain goes to
that chain and is inbound and `Requested` or outbound and `Accepted`; `try_rollback` never reaches
its panic, and its `Failed` or `Rejected` poll is addressed to the socket of the destination. -/
theorem rollbackable_messages_only (hb : OneNative evmProviders b)
    {tr : List (RelayerInput × RelayerOutput)} {s : RelayerState}
    (hrun : ((relayerSystem R b).restrict fun s a => Assumed R b s a ∧ OwnRequests R a).Run tr s) :
    ∀ a ∈ tr, RollbacksAddressed R b a.2 := by
  refine (hrun.induction (P := fun tr s => ChannelsRollbackable b s ∧
    ∀ a ∈ tr, RollbacksAddressed R b a.2) ?_ ?_).2
  · rintro s rfl
    refine ⟨⟨fun c msg hmem => ?_, fun c k e hget => ?_⟩, by simp⟩
    · cases hmem
    · simp at hget
  · rintro tr s a s' - ⟨hs, htr⟩ hstep
    obtain ⟨hs', ha⟩ := hs.step hb hstep
    refine ⟨hs', fun a' ha' => ?_⟩
    rcases List.mem_append.1 ha' with ha' | ha'
    · exact htr a' ha'
    · rw [List.mem_singleton.1 ha']
      exact ha

/-! ### A relayer of three chains -/

/-- Chain 2 is the native one of three. -/
def threeProviders : List EvmProvider := [⟨2, some true⟩, ⟨1, none⟩, ⟨3, none⟩]

/-- The client of the relay handler of an external chain. -/
def externalClient (id : ChainId) : RelayClient :=
  ⟨id, .outbound, 0, ⟨FixedBytes.repeatByte 20 1⟩, none, FixedBytes.repeatByte 32 6⟩

/-- A relayer without the relay queue, with relay handlers for chains 1 and 3. -/
def legacyRelayer : Relayer threeProviders where
  handlers := fun id => if id = 1 ∨ id = 3 then some (externalClient id) else none
  bitcoinChainId := none
  relayQueueEnabled := false
  handler_client := by
    intro id c hc
    split_ifs at hc with hid
    obtain rfl := Option.some.inj hc
    rcases hid with rfl | rfl
    · exact ⟨rfl, _, rfl, rfl⟩
    · exact ⟨rfl, _, rfl, rfl⟩

/-- A request from chain 2 to chain 1. -/
def sampleOutbound : SocketMessage :=
  { sampleRequest 2 0 with insCode := ⟨⟨[0, 0, 0, 1], rfl⟩, FixedBytes.repeatByte 16 3⟩ }

/-- The log of a message. -/
def logOf (msg : SocketMessage) : Log :=
  ⟨⟨FixedBytes.repeatByte 20 1⟩, [FixedBytes.repeatByte 32 6], msg.toVec, none, none, none⟩

/-- The relayer is selected, and the message is small enough and not ended. -/
def relayReplies (msg : SocketMessage) : RelayReplies :=
  ⟨.ok msg.toVec.length, .ok true, .ok false, .ok false, statusReply 0, sampleReplies⟩

/-- The log of a message decodes to it. -/
lemma decodeSocket_logOf (id : ChainId) (msg : SocketMessage) :
    (logOf msg).decodeSocket (externalClient id).signatureHash = .ok msg := by
  unfold Log.decodeSocket
  have htopics : (logOf msg).topics = [(externalClient id).signatureHash] := rfl
  rw [if_pos htopics]
  exact socketAbiDecodeData_toVec msg

/-- What the relayer does with a request that one of its handlers takes as inbound. -/
lemma processConfirmedLog_logOf (id : ChainId) (msg : SocketMessage)
    (hstatus : SocketEventStatus.ofU8 msg.status = some .requested)
    (hin : (externalClient id).isInboundSequence msg.dstChainId = true)
    (hsrc : (newClients threeProviders msg.srcChainId).isSome = true)
    (hdst : (newClients threeProviders msg.dstChainId).isSome = true) :
    (legacyRelayer.handler (externalClient id)).processConfirmedLog (relayReplies msg) (logOf msg)
        false =
      .ok ⟨some (msg.dstChainId, msg), some (msg.dstChainId, msg, .empty)⟩ := by
  obtain ⟨srcClient, hsrc⟩ := Option.isSome_iff_exists.1 hsrc
  obtain ⟨dstClient, hdst⟩ := Option.isSome_iff_exists.1 hdst
  have hbitcoin : (legacyRelayer.handler (externalClient id)).bitcoinChainId = none := by
    simp [Relayer.handler, Relayer.getBitcoinChainId, legacyRelayer]
  have hended : (legacyRelayer.handler (externalClient id)).isSequenceEnded (relayReplies msg) msg
      .requested = .ok false := by
    have hclient : (legacyRelayer.handler (externalClient id)).systemClients msg.srcChainId =
        some srcClient := hsrc
    simp only [RelayHandler.isSequenceEnded, hbitcoin, hclient]
    rfl
  have hsend : ∀ metadata : SocketRelayMetadata, metadata.isInbound = true →
      metadata.status = .requested →
      (legacyRelayer.handler (externalClient id)).sendSocketMessage (relayReplies msg) msg metadata
        true = .ok ⟨some (msg.dstChainId, msg), some (msg.dstChainId, msg, .empty)⟩ := by
    intro metadata hinbound hrequested
    simp [RelayHandler.sendSocketMessage, RelayHandler.requestSendTransaction,
      RelayHandler.sendRollbackableRequest, relayTxChainId, hstatus, getInboundRelayTxChainId,
      buildSignatures, buildInboundSignatures, outcomeOfOption, outcomeOfExcept, andThen,
      Relayer.handler, hdst, hinbound, hrequested, isExecutable]
  unfold RelayHandler.processConfirmedLog
  have hdecode : (logOf msg).decodeSocket
      (legacyRelayer.handler (externalClient id)).client.signatureHash = .ok msg :=
    decodeSocket_logOf id msg
  have hseen : (legacyRelayer.handler (externalClient id)).client.isInboundSequence
      msg.dstChainId = true := hin
  have hsize : (relayReplies msg).maxSocketMessageBytes = .ok msg.toVec.length := rfl
  have hselected : (relayReplies msg).isSelectedRelayer = .ok true := rfl
  have hlegacy : (legacyRelayer.handler (externalClient id)).relayQueueEnabled = false := rfl
  have hhooks : (legacyRelayer.handler (externalClient id)).checkHooks (relayReplies msg) =
    .ok () := rfl
  have hbrp : (legacyRelayer.handler (externalClient id)).submitBrpOutboundRequest
      (relayReplies msg) msg .requested = .ok none := by
    simp only [RelayHandler.submitBrpOutboundRequest, hbitcoin]
  rw [hdecode]
  simp [hstatus, outcomeOfOption, andThen, RelayHandler.processConfirmedMessage, hsize, hselected,
    hlegacy, hhooks, hbrp, hended, hseen, outcomeOfExcept, hsend]

/-- A relay handler can process any log. -/
lemma relayerSystem_step_confirmedLog (own : ChainId) (client : RelayClient)
    (hown : R.handlers own = some client) (s : RelayerState) (log : Log) (isBootstrap : Bool)
    (r : RelayReplies) :
    let outcome := (R.handler client).processConfirmedLog r log isBootstrap
    (relayerSystem R b).step s (.confirmedLog own log isBootstrap r, .processed outcome)
      (s.deliver outcome) := by
  simp [relayerSystem, relayerStep, hown]

/-- The relay handler of chain 3 gets the log of a request from Bifrost to chain 1.  It takes it as
inbound, and sends it to the emitter of chain 1, where it is neither inbound nor accepted. -/
theorem rollbackable_for_third_chain :
    OneNative threeProviders 2 ∧
    ∃ tr s, ((relayerSystem legacyRelayer 2).restrict (Assumed legacyRelayer 2)).Run tr s ∧
      ∃ a ∈ tr, ¬ RollbacksAddressed legacyRelayer 2 a.2 := by
  refine ⟨⟨⟨⟨2, some true⟩, by decide, rfl⟩, by decide⟩, _, _, .snoc (.start rfl)
    ⟨relayerSystem_step_confirmedLog 3 (externalClient 3) rfl _
      (logOf sampleOutbound) false (relayReplies sampleOutbound), ?_⟩, _,
    List.mem_singleton.2 rfl, ?_⟩
  · intro c msg hc hmsg
    obtain rfl : externalClient 3 = c := by simpa [legacyRelayer] using hc
    rw [decodeSocket_logOf] at hmsg
    obtain rfl := Except.ok.inj hmsg
    exact .inl ⟨by decide, by decide⟩
  · intro haddressed
    have hproc := processConfirmedLog_logOf 3 sampleOutbound (by decide) (by decide) (by decide)
      (by decide)
    have hroll := haddressed _ _ sampleOutbound hproc rfl
    exact absurd hroll.2 (by decide)

/-- The relay handler of chain 1 sends a request from there to the emitter of Bifrost. -/
theorem rollbackable_messages_only_inbound :
    ∃ tr s, ((relayerSystem legacyRelayer 2).restrict fun s a =>
        Assumed legacyRelayer 2 s a ∧ OwnRequests legacyRelayer a).Run tr s ∧
      s.channels 2 = [sampleRequest 1 0] ∧ Rollbackable 2 2 (sampleRequest 1 0) := by
  have hone : OneNative threeProviders 2 := ⟨⟨⟨2, some true⟩, by decide, rfl⟩, by decide⟩
  have hproc := processConfirmedLog_logOf 1 (sampleRequest 1 0) (by decide) (by decide) (by decide)
    (by decide)
  have hmsg : ∀ c msg, legacyRelayer.handlers 1 = some c →
      (logOf (sampleRequest 1 0)).decodeSocket c.signatureHash = .ok msg →
      sampleRequest 1 0 = msg := by
    intro c msg hc hmsg
    obtain rfl : externalClient 1 = c := by simpa [legacyRelayer] using hc
    rw [decodeSocket_logOf] at hmsg
    exact Except.ok.inj hmsg
  have hrun := LabelledSystem.Run.snoc
    (S := (relayerSystem legacyRelayer 2).restrict fun s a =>
      Assumed legacyRelayer 2 s a ∧ OwnRequests legacyRelayer a) (.start rfl)
    ⟨relayerSystem_step_confirmedLog 1 (externalClient 1) rfl _
      (logOf (sampleRequest 1 0)) false (relayReplies (sampleRequest 1 0)),
      fun c msg hc hdecode => hmsg c msg hc hdecode ▸ .inr ⟨by decide, by decide⟩,
      fun c msg hc hdecode => hmsg c msg hc hdecode ▸ .inr (.inl (by decide))⟩
  refine ⟨_, _, hrun, ?_, ?_⟩
  · rw [hproc]
    rfl
  · exact rollbackable_messages_only hone hrun _ (List.mem_singleton.2 rfl) _ 2 _ hproc rfl

end SocketRelay

end BifrostRelayer
