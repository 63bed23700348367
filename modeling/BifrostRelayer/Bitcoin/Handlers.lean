import BifrostRelayer.Foundation.Consumers
import BifrostRelayer.Primitives.Bitcoin

/-!
# The Bitcoin handlers

The inbound handler polls for the deposits to vaults on Bitcoin, the outbound handler for the
withdrawals that the relayers have sent there.  Both take messages from the channel of the block
manager and pass the events of a message on to `process_event`, one by one.  Every call in there can
fail, and both loops leave at the first error.
-/

namespace BifrostRelayer

namespace Bitcoin

open SolidityAbi Consumers

/-! ### Loops over events -/

section Loops

variable {α ω ε : Type}

/-- Pass on items, each with its position in the message, to a function that makes requests: the
items passed on with their requests, and how the loop ends. -/
def passOn (process : ℕ → α → List ω × Ending ε) (items : List (α × ℕ)) :
    List ((α × ℕ) × List ω) × Ending ε :=
  let visit := forEach (fun x => (process x.2 x.1).2) items
  (visit.1.map fun x => (x, (process x.2 x.1).1), visit.2)

/-- The items that were passed on. -/
def passedOn (r : List ((α × ℕ) × List ω) × Ending ε) : List (α × ℕ) := r.1.map Prod.fst

/-- All items are passed on exactly if all but the last one end well. -/
lemma passedOn_passOn_iff (process : ℕ → α → List ω × Ending ε) (items : List (α × ℕ)) :
    passedOn (passOn process items) = items ↔
      ∀ x ∈ items.dropLast, (process x.2 x.1).2 = .done := by
  rw [← forEach_fst_eq_iff]
  simp [passedOn, passOn, Function.comp_def]

end Loops

/-! ### The inbound handler -/

/-- The requests of the inbound handler. -/
inductive InboundRequest where
  /-- `submit_utxos` for the output, with the signature. -/
  | submitUtxos (event : Event) (signature : List UInt8)
  /-- `poll` of the Bitcoin socket for the output and its user. -/
  | poll (event : Event) (userBfcAddress : Address)
deriving DecidableEq

/-- The replies that the calls for one event get. -/
structure InboundReplies where
  blazeActivation : Except Report Bool
  isSubmittableUtxo : Except Report Bool
  signMessage : Except Report (List UInt8)
  /-- `user_address` of the registration pool. -/
  userAddress : Except Report Address
  rollbackOutput : Except Report B256
  getHashKey : Except Report B256
  /-- The `voteCount` of `txs`. -/
  voteCount : Except Report ℕ
  majority : Except Report ℕ
  isRelayerVoted : Except Report Bool

namespace InboundReplies

/-- `submit_utxo`. -/
def submitUtxo (r : InboundReplies) (event : Event) : Except Report (List InboundRequest) := do
  if ← r.isSubmittableUtxo then
    let signature ← r.signMessage
    return [.submitUtxos event signature]
  return []

/-- `get_user_bfc_address`: none for the address of the system vault. -/
def getUserBfcAddress (r : InboundReplies) (registrationPool : Address) :
    Except Report (Option Address) := do
  let userAddress ← r.userAddress
  return if userAddress = registrationPool then none else some userAddress

/-- `is_rollback_output`. -/
def isRollbackOutput (r : InboundReplies) : Except Report Bool := do
  let psbtTxid ← r.rollbackOutput
  return decide (psbtTxid ≠ FixedBytes.repeatByte 32 0)

/-- `is_vote_finished`. -/
def isVoteFinished (r : InboundReplies) : Except Report Bool := do
  let _ ← r.getHashKey
  let voteCount ← r.voteCount
  let majority ← r.majority
  if voteCount ≥ majority then return true
  r.isRelayerVoted

/-- The part of `process_event` after the submission of the output. -/
def relayDeposit (r : InboundReplies) (registrationPool : Address) (event : Event) :
    Except Report (List InboundRequest) := do
  match ← r.getUserBfcAddress registrationPool with
  | none => return []
  | some userBfcAddress =>
      if ← r.isRollbackOutput then return []
      if ← r.isVoteFinished then return []
      return [.poll event userBfcAddress]

/-- `process_event` of the inbound handler: what it requests before it ends. -/
def processEvent (r : InboundReplies) (registrationPool : Address) (event : Event) :
    List InboundRequest × Ending Report :=
  let submitted := do if ← r.blazeActivation then r.submitUtxo event else return []
  match submitted with
  | .error e => ([], .failed e)
  | .ok utxos =>
      match r.relayDeposit registrationPool event with
      | .error e => (utxos, .failed e)
      | .ok polls => (utxos ++ polls, .done)

end InboundReplies

/-- A message with the replies that its handling gets. -/
structure Delivery (ρ : Type) where
  msg : EventMessage
  isSelectedRelayer : Except Report Bool
  /-- The replies for the event at a position of the message. -/
  replies : ℕ → ρ

/-- The event as it is passed to `process_event`: with the bytes of its transaction id reversed. -/
def Event.reversed (event : Event) : Event := { event with txid := reverseBytes event.txid }

/-- The events of a message that the inbound handler has to process. -/
def inboundTargets (msg : EventMessage) : List (Event × ℕ) :=
  if msg.eventType = .inbound then (msg.events.map Event.reversed).zipIdx else []

/-- The body of the loop of `InboundHandler::run`. -/
def handleInbound (registrationPool : Address) (d : Delivery InboundReplies) :
    List ((Event × ℕ) × List InboundRequest) × Ending Report :=
  match d.isSelectedRelayer with
  | .error e => ([], .failed e)
  | .ok selected =>
      if !selected || decide (d.msg.eventType ≠ .inbound) then ([], .done)
      else passOn (fun i event => (d.replies i).processEvent registrationPool event)
        (d.msg.events.map Event.reversed).zipIdx

/-! ### The outbound handler -/

/-- The requests of the outbound handler. -/
inductive OutboundRequest where
  /-- `poll` of the socket for a message, without signatures. -/
  | poll (msg : SocketMessage)
  /-- `broadcast_poll` for a transaction, with the signature. -/
  | broadcastPoll (txid : B256) (signature : List UInt8)
deriving DecidableEq

/-- The replies that the calls for one event get. -/
structure OutboundReplies where
  /-- `outbound_tx` of the socket queue: the encoded messages of the transaction. -/
  outboundTx : Except Report (List (List UInt8))
  blazeActivation : Except Report Bool
  isTxBroadcastable : Except Report Bool
  signMessage : Except Report (List UInt8)

namespace OutboundReplies

/-- `check_socket_queue`. -/
def checkSocketQueue (r : OutboundReplies) : Except Report (List SocketMessage) := do
  let socketMessages ← r.outboundTx
  socketMessages.mapM socketAbiDecodeData

/-- `broadcast_poll`. -/
def broadcastPoll (r : OutboundReplies) (txid : B256) : Except Report (List OutboundRequest) := do
  if ← r.isTxBroadcastable then
    let signature ← r.signMessage
    return [.broadcastPoll txid signature]
  return []

/-- `process_event` of the outbound handler: what it requests before it ends. -/
def processEvent (r : OutboundReplies) (event : Event) : List OutboundRequest × Ending Report :=
  let txid := reverseBytes event.txid
  match r.checkSocketQueue with
  | .error e => ([], .failed e)
  | .ok socketQueue =>
      let polls := socketQueue.map fun msg =>
        OutboundRequest.poll { msg with status := SocketEventStatus.executed.toU8 }
      let broadcast := do if ← r.blazeActivation then r.broadcastPoll txid else return []
      match broadcast with
      | .error e => (polls, .failed e)
      | .ok polled => (polls ++ polled, .done)

end OutboundReplies

/-- The loop of `OutboundHandler::run` over the events of a message, with `seen_txids`. -/
def passOnUnseen (process : ℕ → Event → List OutboundRequest × Ending Report) :
    List B256 → List (Event × ℕ) → List ((Event × ℕ) × List OutboundRequest) × Ending Report
  | _, [] => ([], .done)
  | seenTxids, x :: rest =>
    if seenTxids.contains x.1.txid then passOnUnseen process seenTxids rest
    else
      match (process x.2 x.1).2 with
      | .done =>
          let later := passOnUnseen process (x.1.txid :: seenTxids) rest
          ((x, (process x.2 x.1).1) :: later.1, later.2)
      | ending => ([(x, (process x.2 x.1).1)], ending)

/-- The events with transaction ids that were not seen before. -/
def unseen : List B256 → List (Event × ℕ) → List (Event × ℕ)
  | _, [] => []
  | seenTxids, x :: rest =>
    if seenTxids.contains x.1.txid then unseen seenTxids rest
    else x :: unseen (x.1.txid :: seenTxids) rest

/-- The events of a message that the outbound handler has to process: the first one of each
transaction. -/
def outboundTargets (msg : EventMessage) : List (Event × ℕ) :=
  if msg.eventType = .outbound then unseen [] msg.events.zipIdx else []

/-- The body of the loop of `OutboundHandler::run`. -/
def handleOutbound (d : Delivery OutboundReplies) :
    List ((Event × ℕ) × List OutboundRequest) × Ending Report :=
  match d.isSelectedRelayer with
  | .error e => ([], .failed e)
  | .ok selected =>
      if !selected || decide (d.msg.eventType ≠ .outbound) then ([], .done)
      else passOnUnseen (fun i event => (d.replies i).processEvent event) [] d.msg.events.zipIdx

/-- The loop passes on the events with transaction ids that were not seen. -/
lemma passOnUnseen_eq (process : ℕ → Event → List OutboundRequest × Ending Report)
    (seenTxids : List B256) (items : List (Event × ℕ)) :
    passOnUnseen process seenTxids items = passOn process (unseen seenTxids items) := by
  induction items generalizing seenTxids with
  | nil => rfl
  | cons x rest ih =>
    by_cases hseen : seenTxids.contains x.1.txid = true
    · rw [passOnUnseen, unseen, if_pos hseen, if_pos hseen]
      exact ih seenTxids
    · rw [passOnUnseen, unseen, if_neg hseen, if_neg hseen]
      cases hx : (process x.2 x.1).2 with
      | done => simp [passOn, forEach, hx, ih]
      | failed e => simp [passOn, forEach, hx]
      | died => simp [passOn, forEach, hx]

/-! ### Which events are passed on -/

/-- The condition under which every target event of a message is passed on: if there is one, the
selection of the relayer could be read, and every event but the last one ends well. -/
def GoesThrough {α ω : Type} (targets : List (α × ℕ)) (selected : Except Report Bool)
    (process : ℕ → α → List ω × Ending Report) : Prop :=
  (targets = [] ∨ selected = .ok true) ∧ ∀ x ∈ targets.dropLast, (process x.2 x.1).2 = .done

/-- The loops of both handlers: the events are passed on if the relayer is selected. -/
lemma passedOn_selected_iff {ω : Type} (process : ℕ → Event → List ω × Ending Report)
    (items : List (Event × ℕ)) (isTarget : Bool) {targets : List (Event × ℕ)}
    {selected : Except Report Bool} (htargets : targets = if isTarget then items else [])
    (hselected : selected ≠ .ok false) :
    passedOn (match selected with
      | .error e => ([], .failed e)
      | .ok s => if !s || !isTarget then ([], .done) else passOn process items) = targets ↔
      GoesThrough targets selected process := by
  cases selected with
  | error e =>
    simp only [passedOn, GoesThrough, List.map_nil, reduceCtorEq, or_false]
    constructor
    · intro h
      simp [← h]
    · exact fun h => h.1.symm
  | ok s =>
    obtain rfl : s = true := by simpa using hselected
    cases isTarget with
    | false => simp [htargets, passedOn, GoesThrough]
    | true =>
      obtain rfl : targets = items := by simpa using htargets
      simp only [Bool.not_true, Bool.or_self, Bool.false_eq_true, if_false]
      rw [passedOn_passOn_iff]
      simp [GoesThrough]

/-- A selected inbound handler passes on every event of the message exactly if the message goes
through. -/
lemma passedOn_handleInbound_iff (registrationPool : Address) (d : Delivery InboundReplies)
    (hselected : d.isSelectedRelayer ≠ .ok false) :
    passedOn (handleInbound registrationPool d) = inboundTargets d.msg ↔
      GoesThrough (inboundTargets d.msg) d.isSelectedRelayer fun i event =>
        (d.replies i).processEvent registrationPool event := by
  have h := passedOn_selected_iff
    (fun i event => (d.replies i).processEvent registrationPool event)
    (d.msg.events.map Event.reversed).zipIdx (decide (d.msg.eventType = .inbound))
    (show inboundTargets d.msg = _ by simp [inboundTargets]) hselected
  simpa [handleInbound] using h

/-- A selected outbound handler passes on the first event of every transaction exactly if the
message goes through. -/
lemma passedOn_handleOutbound_iff (d : Delivery OutboundReplies)
    (hselected : d.isSelectedRelayer ≠ .ok false) :
    passedOn (handleOutbound d) = outboundTargets d.msg ↔
      GoesThrough (outboundTargets d.msg) d.isSelectedRelayer fun i event =>
        (d.replies i).processEvent event := by
  have h := passedOn_selected_iff (fun i event => (d.replies i).processEvent event)
    (unseen [] d.msg.events.zipIdx) (decide (d.msg.eventType = .outbound))
    (show outboundTargets d.msg = _ by simp [outboundTargets]) hselected
  simpa [handleOutbound, passOnUnseen_eq] using h

end Bitcoin

end BifrostRelayer
