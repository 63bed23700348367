import BifrostRelayer.Bitcoin.Handlers
import BifrostRelayer.SocketQueue.Poller
import BifrostRelayer.SocketRelay.Handler

/-!
# Events of one message

The Bitcoin handlers and the queue poller take messages from a broadcast channel and pass their
events on one by one.  All three leave the loop at the first event that fails, and `run` is called
again by `service.rs` with the next message.  So a message is never taken twice, and the events
behind a failing one are not passed on at all.  The loop of `SocketRelayHandler` and the bootstrap
of the poller log the error and go on instead.
-/

namespace BifrostRelayer

namespace Events

open SolidityAbi Consumers Bitcoin SocketQueue SocketRelay

/-! ### The queue poller -/

/-- The replies that the calls of the poller for one log get. -/
structure PollerReplies where
  view : QueueView
  exceedsMaxSocketMessageBytes : Except Report Bool
  signMessage : Except Report (List UInt8)

namespace PollerReplies

/-- The end of `process_requested` and `process_finalized`: a submission is signed before it is
sent. -/
def submit (r : PollerReplies) : Except Report (Option PollSubmission) →
    List PollSubmission × Ending Report
  | .error e => ([], .failed e)
  | .ok none => ([], .done)
  | .ok (some submission) =>
      match r.signMessage with
      | .error e => ([], .failed e)
      | .ok _ => ([submission], .done)

/-- `process_confirmed_log` of the queue poller: what it submits before it ends.  An unknown status
byte makes it panic. -/
def processConfirmedLog (r : PollerReplies) (p : Poller) (log : Log) :
    List PollSubmission × Ending Report :=
  match log.decodeSocket p.signatureHash with
  | .error _ => ([], .done)
  | .ok msg =>
      match r.exceedsMaxSocketMessageBytes with
      | .error e => ([], .failed e)
      | .ok true => ([], .done)
      | .ok false =>
          match SocketEventStatus.ofU8 msg.status with
          | none => ([], .died)
          | some .requested =>
              r.submit (p.processRequested r.view msg
                (log.transactionHash.getD (FixedBytes.repeatByte 32 0)))
          | some .committed => r.submit (p.processFinalized r.view msg .committed)
          | some .rollbacked => r.submit (p.processFinalized r.view msg .rollbacked)
          | some .accepted =>
              if p.bitcoinChainId = some msg.srcChainId then
                r.submit (p.processFinalized r.view msg .accepted)
              else ([], .done)
          | some _ => ([], .done)

end PollerReplies

/-- An `EventMessage` of an EVM chain, with the replies that its handling gets. -/
structure LogDelivery where
  blockNumber : ℕ
  eventLogs : List Log
  /-- The replies for the log at a position of the message. -/
  replies : ℕ → PollerReplies

/-- The logs of a message that the poller has to process. -/
def pollerTargets (client : RelayClient) (d : LogDelivery) : List (Log × ℕ) :=
  d.eventLogs.zipIdx.filter fun x =>
    client.isTargetContract x.1 && client.isTargetEvent x.1.topic0

/-- The body of the loop of `SocketQueuePoller::run`. -/
def handleLogs (client : RelayClient) (p : Poller) (d : LogDelivery) :
    List ((Log × ℕ) × List PollSubmission) × Ending Report :=
  passOn (fun i log => (d.replies i).processConfirmedLog p log) (pollerTargets client d)

/-! ### All three loops -/

/-- The items that were passed on of each message that was taken. -/
def passedOf {μ α ω : Type} (x : μ × List ((α × ℕ) × List ω)) : List (α × ℕ) := x.2.map Prod.fst

/-- A consumer takes every delivered message once, and what it passes on of a message depends on
the message alone. -/
lemma serve_passes {μ α ω : Type} (handle : μ → List ((α × ℕ) × List ω) × Ending Report)
    (stream : List (Option μ)) :
    (serve handle stream.length stream).map Prod.fst = delivered handle stream ∧
      ∀ x ∈ serve handle stream.length stream, passedOf x = passedOn (handle x.1) := by
  rw [serve_eq le_rfl]
  refine ⟨by simp [Function.comp_def], ?_⟩
  intro x hx
  obtain ⟨d, -, rfl⟩ := List.mem_map.1 hx
  rfl

/-- The inbound handler, the outbound handler and the queue poller take every delivered message
once, also after a call of `run` has failed.  While the relayer is selected, all target events of a
message are passed on, each once and in order, exactly if the message goes through: the selection
could be read, and no target event but the last one fails. -/
theorem target_events_passed_once_iff (registrationPool : Address) (client : RelayClient)
    (p : Poller) :
    (∀ stream : List (Option (Delivery InboundReplies)),
      (serve (handleInbound registrationPool) stream.length stream).map Prod.fst =
        delivered (handleInbound registrationPool) stream ∧
      ∀ x ∈ serve (handleInbound registrationPool) stream.length stream,
        x.1.isSelectedRelayer ≠ .ok false →
        (passedOf x = inboundTargets x.1.msg ↔
          GoesThrough (inboundTargets x.1.msg) x.1.isSelectedRelayer fun i event =>
            (x.1.replies i).processEvent registrationPool event)) ∧
    (∀ stream : List (Option (Delivery OutboundReplies)),
      (serve handleOutbound stream.length stream).map Prod.fst = delivered handleOutbound stream ∧
      ∀ x ∈ serve handleOutbound stream.length stream,
        x.1.isSelectedRelayer ≠ .ok false →
        (passedOf x = outboundTargets x.1.msg ↔
          GoesThrough (outboundTargets x.1.msg) x.1.isSelectedRelayer fun i event =>
            (x.1.replies i).processEvent event)) ∧
    (∀ stream : List (Option LogDelivery),
      (serve (handleLogs client p) stream.length stream).map Prod.fst =
        delivered (handleLogs client p) stream ∧
      ∀ x ∈ serve (handleLogs client p) stream.length stream,
        (passedOf x = pollerTargets client x.1 ↔
          GoesThrough (pollerTargets client x.1) (.ok true) fun i log =>
            (x.1.replies i).processConfirmedLog p log)) := by
  refine ⟨fun stream => ?_, fun stream => ?_, fun stream => ?_⟩
  · obtain ⟨htaken, hpassed⟩ := serve_passes (handleInbound registrationPool) stream
    refine ⟨htaken, fun x hx hselected => ?_⟩
    rw [hpassed x hx]
    exact passedOn_handleInbound_iff registrationPool x.1 hselected
  · obtain ⟨htaken, hpassed⟩ := serve_passes handleOutbound stream
    refine ⟨htaken, fun x hx hselected => ?_⟩
    rw [hpassed x hx]
    exact passedOn_handleOutbound_iff x.1 hselected
  · obtain ⟨htaken, hpassed⟩ := serve_passes (handleLogs client p) stream
    refine ⟨htaken, fun x hx => ?_⟩
    rw [hpassed x hx, handleLogs, passedOn_passOn_iff]
    simp [GoesThrough]

/-- An output of a deposit. -/
def sampleDeposit (index : UInt32) : Event :=
  ⟨FixedBytes.repeatByte 32 1, index, ⟨"vault"⟩, 1000⟩

/-- The replies for deposits of which the first one cannot be processed. -/
def sampleInboundReplies (i : ℕ) : InboundReplies where
  blazeActivation := if i = 0 then .error ⟨"timeout"⟩ else .ok false
  isSubmittableUtxo := .ok false
  signMessage := .ok []
  userAddress := .ok ⟨FixedBytes.repeatByte 20 1⟩
  rollbackOutput := .ok (FixedBytes.repeatByte 32 0)
  getHashKey := .ok (FixedBytes.repeatByte 32 0)
  voteCount := .ok 0
  majority := .ok 1
  isRelayerVoted := .ok false

/-- The call for the first of two deposits fails, and the second one is not passed on. -/
theorem second_deposit_not_passed :
    ∃ x ∈ serve (handleInbound ⟨FixedBytes.repeatByte 20 0⟩) 1
        [some ⟨⟨100, .inbound, [sampleDeposit 0, sampleDeposit 1]⟩, .ok true,
          sampleInboundReplies⟩],
      x.1.isSelectedRelayer = .ok true ∧ passedOf x ≠ inboundTargets x.1.msg := by
  refine ⟨_, List.mem_singleton.2 rfl, rfl, ?_⟩
  decide

end Events

end BifrostRelayer
