import BifrostRelayer.Primitives.Signatures
import BifrostRelayer.Rollback.Emitter
import BifrostRelayer.SocketQueue.Poller
import BifrostRelayer.SocketRelay.Handler

/-!
# The direction and the target of a relay

Every request has Bifrost on one side and another chain on the other.  Three components decide
whether a request is inbound, each from what it has at hand: the relay handler compares the
destination with its own chain, the queue poller with the native chain, and the rollback emitter
looks up the client of the destination.  The relay handler then chooses the chain of the relay
transaction from one table and the signatures from another.

`newClients` and `bifrostClient` are the parts of the start of the relayer on which all of them
rest, and a `Deployment` has the three components as that start makes them.
-/

namespace BifrostRelayer

namespace SocketRelay

open SolidityAbi SocketQueue Rollback

/-! ### The clients -/

/-- What is read of an `EVMProvider` of the configuration. -/
structure EvmProvider where
  id : ChainId
  isNative : Option Bool
deriving DecidableEq

/-- What is read of a `ProviderMetadata`. -/
structure ProviderMetadata where
  id : ChainId
  ifDestinationChain : RelayDirection
  isNative : Bool
deriving DecidableEq

/-- `ProviderMetadata::new`. -/
def ProviderMetadata.new (evmProvider : EvmProvider) (isNative : Bool) : ProviderMetadata where
  id := evmProvider.id
  ifDestinationChain :=
    match isNative with
    | true => .inbound
    | false => .outbound
  isNative := isNative

/-- The provider says that it is the native one, `is_native.unwrap_or(false)`. -/
def EvmProvider.saysNative (p : EvmProvider) : Bool := p.isNative.getD false

/-- `ClientMap`, with the metadata of the clients. -/
abbrev ClientMap : Type := ChainId → Option ProviderMetadata

/-- The loop that makes a client for every provider. -/
def newClients (evmProviders : List EvmProvider) : ClientMap :=
  evmProviders.foldl
    (fun clients p => Function.update clients p.id (some (.new p p.saysNative))) fun _ => none

/-- The client of the native chain in `ManagerDeps::new`: that of the last native provider. -/
def bifrostClient (evmProviders : List EvmProvider) : Option ProviderMetadata :=
  evmProviders.foldl
    (fun found p => if p.saysNative then newClients evmProviders p.id else found) none

/-- The configuration has exactly one native chain. -/
def OneNative (evmProviders : List EvmProvider) (b : ChainId) : Prop :=
  (∃ p ∈ evmProviders, p.id = b) ∧ ∀ p ∈ evmProviders, p.saysNative = true ↔ p.id = b

/-- The components as the start of the relayer makes them from its configuration. -/
structure Deployment (evmProviders : List EvmProvider) where
  handler : RelayClient
  poller : Poller
  emitter : EmitterConfig
  /-- The relay handler takes the client of its chain from the map. -/
  handler_client : ∃ client, newClients evmProviders handler.chainId = some client ∧
    handler.ifDestinationChain = client.ifDestinationChain
  /-- The poller has the client of the native chain. -/
  poller_client : ∃ client, bifrostClient evmProviders = some client ∧
    poller.bifrostChainId = client.id
  /-- The rollback emitter has the map of the clients. -/
  emitter_clients : ∀ id, emitter.systemClients id =
    (newClients evmProviders id).map ProviderMetadata.ifDestinationChain

/-! ### The relay transaction -/

/-- `get_inbound_relay_tx_chain_id`; `none` is the panic. -/
def getInboundRelayTxChainId (status : SocketEventStatus) (srcChainId dstChainId : ChainId) :
    Option ChainId :=
  match status with
  | .requested | .failed | .executed | .reverted => some dstChainId
  | .accepted | .rejected => some srcChainId
  | _ => none

/-- `get_outbound_relay_tx_chain_id`; `none` is the panic. -/
def getOutboundRelayTxChainId (status : SocketEventStatus) (srcChainId dstChainId : ChainId) :
    Option ChainId :=
  match status with
  | .requested | .executed | .reverted => some srcChainId
  | .accepted | .rejected => some dstChainId
  | _ => none

/-- The choice of the chain in `send_socket_message`, panics on an unknown status byte included. -/
def relayTxChainId (isInbound : Bool) (msg : SocketMessage) : Option ChainId := do
  let status ← SocketEventStatus.ofU8 msg.status
  if isInbound then getInboundRelayTxChainId status msg.srcChainId msg.dstChainId
  else getOutboundRelayTxChainId status msg.srcChainId msg.dstChainId

/-- The signature of this relayer for the message with another status. -/
def ownSignature (replies : SigningReplies) (msg : SocketMessage) (status : SocketEventStatus) :
    Except Report (Signatures × Bool) :=
  (replies.signSocketMessage { msg with status := status.toU8 }).map fun sig =>
    (.ofSignature sig, false)

/-- The signatures that the contract has collected. -/
def aggregatedSignatures (replies : SigningReplies) (msg : SocketMessage) :
    Option (Except Report (Signatures × Bool)) :=
  (replies.getSortedSignatures msg).map fun reply => reply.map fun signatures => (signatures, true)

/-- `build_inbound_signatures`: the signatures and `is_external`; `none` is a panic. -/
def buildInboundSignatures (replies : SigningReplies) (msg : SocketMessage) :
    Option (Except Report (Signatures × Bool)) := do
  let status ← SocketEventStatus.ofU8 msg.status
  match status with
  | .requested | .failed => return .ok (.empty, false)
  | .executed => return ownSignature replies msg .accepted
  | .reverted => return ownSignature replies msg .rejected
  | .accepted | .rejected => aggregatedSignatures replies msg
  | _ => none

/-- `build_outbound_signatures`. -/
def buildOutboundSignatures (replies : SigningReplies) (msg : SocketMessage) :
    Option (Except Report (Signatures × Bool)) := do
  let status ← SocketEventStatus.ofU8 msg.status
  match status with
  | .requested => return ownSignature replies msg .accepted
  | .accepted | .rejected => aggregatedSignatures replies msg
  | .executed | .reverted => return .ok (.empty, false)
  | _ => none

/-- The choice of the signatures in `build_transaction`. -/
def buildSignatures (replies : SigningReplies) (isInbound : Bool) (msg : SocketMessage) :
    Option (Except Report (Signatures × Bool)) :=
  if isInbound then buildInboundSignatures replies msg else buildOutboundSignatures replies msg

/-! ### Looking up clients -/

variable {evmProviders : List EvmProvider} {b x : ChainId}

/-- Every client of the map was made for a provider of its chain. -/
lemma exists_provider_of_newClients {id : ChainId} {client : ProviderMetadata}
    (h : newClients evmProviders id = some client) :
    ∃ p ∈ evmProviders, p.id = id ∧ client = .new p p.saysNative := by
  induction evmProviders using List.reverseRecOn with
  | nil => simp [newClients] at h
  | append_singleton ps p ih =>
    rw [newClients, List.foldl_append, List.foldl_cons, List.foldl_nil] at h
    by_cases hid : id = p.id
    · subst hid
      rw [Function.update_self] at h
      exact ⟨p, by simp, rfl, (Option.some.inj h).symm⟩
    · rw [Function.update_of_ne hid] at h
      obtain ⟨q, hq, hqid, hclient⟩ := ih h
      exact ⟨q, List.mem_append_left _ hq, hqid, hclient⟩

/-- Every provider has a client in the map. -/
lemma exists_newClients {id : ChainId} (h : ∃ p ∈ evmProviders, p.id = id) :
    ∃ client, newClients evmProviders id = some client := by
  induction evmProviders using List.reverseRecOn with
  | nil => simp at h
  | append_singleton ps p ih =>
    simp only [newClients, List.foldl_append, List.foldl_cons, List.foldl_nil]
    by_cases hid : id = p.id
    · exact ⟨_, by rw [hid, Function.update_self]⟩
    · rw [Function.update_of_ne hid]
      obtain ⟨q, hq, hqid⟩ := h
      rcases List.mem_append.1 hq with hq | hq
      · exact ih ⟨q, hq, hqid⟩
      · obtain rfl := List.mem_singleton.1 hq
        exact absurd hqid.symm hid

/-- Only a native chain is an inbound destination. -/
lemma new_ifDestinationChain (p : EvmProvider) (isNative : Bool) :
    (ProviderMetadata.new p isNative).ifDestinationChain =
      if isNative then .inbound else .outbound := by
  cases isNative <;> rfl

/-- A client has the id it is kept under, and only the native chain is an inbound destination. -/
lemma OneNative.client_eq (hb : OneNative evmProviders b) {id : ChainId} {client : ProviderMetadata}
    (h : newClients evmProviders id = some client) :
    client.id = id ∧ client.ifDestinationChain = if id = b then .inbound else .outbound := by
  obtain ⟨p, hp, rfl, rfl⟩ := exists_provider_of_newClients h
  refine ⟨rfl, ?_⟩
  rw [new_ifDestinationChain]
  simp only [hb.2 p hp]

/-- `ManagerDeps::new` finds the native chain. -/
lemma OneNative.bifrostClient_id (hb : OneNative evmProviders b) {client : ProviderMetadata}
    (h : bifrostClient evmProviders = some client) : client.id = b := by
  have hfound : ∀ c, bifrostClient evmProviders = some c → c.id = b := by
    refine List.foldlRecOn evmProviders _
      (motive := fun found => ∀ c : ProviderMetadata, found = some c → c.id = b) (by simp) ?_
    intro found hfound p hp c hc
    by_cases hnative : p.saysNative = true
    · rw [if_pos hnative] at hc
      rw [(hb.client_eq hc).1]
      exact (hb.2 p hp).1 hnative
    · rw [if_neg hnative] at hc
      exact hfound c hc
  exact hfound client h

/-! ### The direction -/

/-- The relay handler of either side sees the direction of a request. -/
lemma OneNative.isInboundSequence_handler (hb : OneNative evmProviders b)
    (d : Deployment evmProviders) (hx : x ≠ b) {dst : ChainId}
    (hown : d.handler.chainId = b ∨ d.handler.chainId = x) (hdst : dst = b ∨ dst = x) :
    d.handler.isInboundSequence dst = decide (dst = b) := by
  obtain ⟨client, hclient, hdir⟩ := d.handler_client
  rw [(hb.client_eq hclient).2] at hdir
  rcases hown with hown | hown <;> rcases hdst with rfl | rfl <;>
    simp [RelayClient.isInboundSequence, hdir, hown, hx, hx.symm]

/-- The queue poller sees the direction of a request. -/
lemma OneNative.isInbound_poller (hb : OneNative evmProviders b) (d : Deployment evmProviders)
    (dst : ChainId) : d.poller.isInbound dst = decide (dst = b) := by
  obtain ⟨client, hclient, hid⟩ := d.poller_client
  rw [Poller.isInbound, hid, hb.bifrostClient_id hclient]
  rfl

/-- The rollback emitter sees the direction of a request, whether the destination is configured or
not. -/
lemma OneNative.isInboundSequence_emitter (hb : OneNative evmProviders b)
    (d : Deployment evmProviders) (dst : ChainId) :
    d.emitter.isInboundSequence dst = decide (dst = b) := by
  rw [EmitterConfig.isInboundSequence, d.emitter_clients]
  cases hclient : newClients evmProviders dst with
  | some client =>
    by_cases hdst : dst = b <;> simp [(hb.client_eq hclient).2, hdst]
  | none =>
    have hne : dst ≠ b := by
      rintro rfl
      obtain ⟨client, hsome⟩ := exists_newClients hb.1
      rw [hclient] at hsome
      cases hsome
    simp [hne]

/-! ### The target -/

/-- The status of the message that this relayer signs itself for a relay to Bifrost; a message of
any other status is relayed without signatures. -/
def signedStatus (isInbound : Bool) : SocketEventStatus → Option SocketEventStatus
  | .requested => if isInbound then none else some .accepted
  | .executed => if isInbound then some .accepted else none
  | .reverted => if isInbound then some .rejected else none
  | _ => none

/-- The signatures of a relay to Bifrost. -/
def internalSignatures (replies : SigningReplies) (isInbound : Bool) (msg : SocketMessage)
    (status : SocketEventStatus) : Except Report (Signatures × Bool) :=
  match signedStatus isInbound status with
  | some signed => ownSignature replies msg signed
  | none => .ok (.empty, false)

/-- The signatures of a relay to Bifrost are never external. -/
lemma isExternal_internalSignatures {replies : SigningReplies} {isInbound : Bool}
    {msg : SocketMessage} {status : SocketEventStatus} {signatures : Signatures}
    {isExternal : Bool}
    (h : internalSignatures replies isInbound msg status = .ok (signatures, isExternal)) :
    isExternal = false := by
  unfold internalSignatures at h
  cases hsigned : signedStatus isInbound status with
  | none =>
    simp only [hsigned, Except.ok.injEq, Prod.mk.injEq] at h
    exact h.2.symm
  | some signed =>
    simp only [hsigned, ownSignature] at h
    cases hsign : replies.signSocketMessage { msg with status := signed.toU8 } with
    | error e => simp [hsign, Except.map] at h
    | ok sig =>
      simp only [hsign, Except.map, Except.ok.injEq, Prod.mk.injEq] at h
      exact h.2.symm

/-- The table of the chains and the table of the signatures agree, status by status: `Accepted` and
`Rejected` lead to the chain that is not Bifrost and to the collected signatures, every other status
to Bifrost and to the signature of this relayer or none. -/
lemma buildSignatures_of_relayTxChainId (replies : SigningReplies) {isInbound : Bool}
    {msg : SocketMessage} {status : SocketEventStatus} {id : ChainId}
    (hstatus : SocketEventStatus.ofU8 msg.status = some status)
    (h : relayTxChainId isInbound msg = some id) :
    if status = .accepted ∨ status = .rejected then
      id = (if isInbound then msg.srcChainId else msg.dstChainId) ∧
        buildSignatures replies isInbound msg = aggregatedSignatures replies msg
    else
      id = (if isInbound then msg.dstChainId else msg.srcChainId) ∧
        buildSignatures replies isInbound msg =
          some (internalSignatures replies isInbound msg status) := by
  rw [relayTxChainId, hstatus] at h
  replace h : (if isInbound = true then
      getInboundRelayTxChainId status msg.srcChainId msg.dstChainId
    else getOutboundRelayTxChainId status msg.srcChainId msg.dstChainId) = some id := h
  cases isInbound <;> cases status <;>
    simp only [getInboundRelayTxChainId, getOutboundRelayTxChainId, Option.some.injEq,
      reduceCtorEq, if_true, if_false, Bool.false_eq_true] at h <;>
    simp [buildSignatures, buildInboundSignatures, buildOutboundSignatures, hstatus, h,
      internalSignatures, signedStatus]

/-- The status bytes on which one of the tables panics are those of the other. -/
theorem buildSignatures_panics (replies : SigningReplies) {isInbound : Bool} {msg : SocketMessage}
    (h : relayTxChainId isInbound msg = none) : buildSignatures replies isInbound msg = none := by
  cases hstatus : SocketEventStatus.ofU8 msg.status with
  | none =>
    cases isInbound <;>
      simp [buildSignatures, buildInboundSignatures, buildOutboundSignatures, hstatus]
  | some status =>
    cases isInbound <;> cases status <;>
      simp [relayTxChainId, hstatus, getInboundRelayTxChainId, getOutboundRelayTxChainId] at h <;>
      simp [buildSignatures, buildInboundSignatures, buildOutboundSignatures, hstatus]

/-- Collected signatures are external. -/
lemma aggregatedSignatures_eq_ok {replies : SigningReplies} {msg : SocketMessage}
    {signatures : Signatures} {isExternal : Bool}
    (h : aggregatedSignatures replies msg = some (.ok (signatures, isExternal))) :
    isExternal = true ∧ replies.getSortedSignatures msg = some (.ok signatures) := by
  obtain ⟨reply, hreply, hmap⟩ := Option.map_eq_some_iff.1 h
  cases reply with
  | error e => cases hmap
  | ok sigs =>
    obtain ⟨rfl, rfl⟩ : sigs = signatures ∧ true = isExternal := by simpa [Except.map] using hmap
    exact ⟨rfl, hreply⟩

/-- Chain 2 is the native one. -/
def sampleProviders : List EvmProvider := [⟨2, some true⟩, ⟨1, none⟩]

/-- The components with the relay handler of chain 1. -/
def sampleDeployment : Deployment sampleProviders where
  handler := ⟨1, .outbound, 0, ⟨FixedBytes.repeatByte 20 1⟩, none, FixedBytes.repeatByte 32 6⟩
  poller := ⟨fun _ => FixedBytes.repeatByte 32 0, FixedBytes.repeatByte 32 6, 2, none,
    ⟨FixedBytes.repeatByte 20 5⟩⟩
  emitter := ⟨none, fun id => (newClients sampleProviders id).map fun client =>
    client.ifDestinationChain, true⟩
  handler_client := ⟨⟨1, .outbound, false⟩, by decide, rfl⟩
  poller_client := ⟨⟨2, .inbound, true⟩, by decide, rfl⟩
  emitter_clients := fun _ => rfl

/-- A request from chain 1 that chain 2 has accepted. -/
def sampleAccepted : SocketMessage :=
  { sampleRequest 1 0 with status := SocketEventStatus.accepted.toU8 }

/-- The contract has collected one signature. -/
def sampleReplies : SigningReplies where
  signMessage := fun _ => .error ⟨"no signer"⟩
  getSignatures := fun _ _ =>
    .ok ⟨[FixedBytes.repeatByte 32 8], [FixedBytes.repeatByte 32 9], [28]⟩
  recoverMessage := fun _ _ => .ok ⟨FixedBytes.repeatByte 20 5⟩

end SocketRelay

end BifrostRelayer
