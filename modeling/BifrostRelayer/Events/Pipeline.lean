import BifrostRelayer.Bitcoin.Runs
import BifrostRelayer.Events.Delivery
import BifrostRelayer.Evm.EventManager
import BifrostRelayer.Foundation.Broadcast

/-!
# From the chains to the handlers

The event managers and the block manager hand what they fetch to the handlers over broadcast channels
that keep 512 messages.  The streams of the handlers outlive every restart of both ends.

Here the managers run with their channels and receivers, interleaved in any way.  While a handler is
behind by at most 512 messages, it gets all logs of the fetched blocks, each once and in order, and
the inbound handler passes on every deposit of a scanned block once.

`send` fails if nobody has subscribed, and its result is unwrapped: the event manager of a chain that
no handler watches dies with the first batch in which there is a log of its contracts.
-/

namespace BifrostRelayer

namespace Events

open Consumers Pipeline SocketRelay SolidityAbi

/-- The capacity of the channels of the managers. -/
def broadcastCapacity : ℕ := 512

/-! ### The event managers -/

section Evm

open Evm

/-- An event manager that was initialized at the head `L`, and its receivers. -/
def eventPipeline (cfg : EventConfig) (L receivers : ℕ) :
    LabelledSystem (Pipeline EventManager EventMessage broadcastCapacity receivers)
      (PipelineStep (EventInput × EventOutput) EventMessage receivers) :=
  Pipeline.system (eventSystem cfg L) (fun a => a.2.messages) broadcastCapacity receivers

/-- The logs that a call has fetched. -/
def fetchedBy : EventInput → List Log
  | .getLogs (.ok logs) => logs
  | _ => []

/-- The logs that were fetched in a trace. -/
def fetchedLogs (tr : List (EventInput × EventOutput)) : List Log :=
  tr.flatMap fun a => fetchedBy a.1

/-- The logs of a list of messages. -/
def logsOf (messages : List EventMessage) : List Log :=
  messages.flatMap EventMessage.eventLogs

/-- What is fetched is broadcast. -/
lemma logsOf_step {cfg : EventConfig} {m m' : EventManager} {a : EventInput × EventOutput}
    (h : m.step cfg a.1 = some (m', a.2)) : logsOf a.2.messages = fetchedBy a.1 := by
  obtain ⟨i, o⟩ := a
  rcases EventManager.step_cases h with ⟨l, rfl, rfl, rfl⟩ | ⟨l, u, rfl, hpc, rfl, rfl⟩ |
    ⟨e, he, rfl, rfl⟩ | ⟨_, _, rfl, rfl, rfl⟩ | ⟨l, logs, rfl, hpc, hmo⟩
  · rfl
  · rfl
  · rcases he with rfl | rfl | rfl <;> rfl
  · rfl
  · obtain ⟨-, rfl⟩ := Prod.mk.inj hmo
    cases logs <;> simp [logsOf, fetchedBy]

lemma logsOf_run {cfg : EventConfig} {L : ℕ} {tr : List (EventInput × EventOutput)}
    {m : EventManager} (h : (eventSystem cfg L).Run tr m) :
    logsOf (tr.flatMap fun a => a.2.messages) = fetchedLogs tr := by
  have hall := h.forall_mem (P := fun a => logsOf a.2.messages = fetchedBy a.1)
    fun m a m' hstep => logsOf_step hstep
  rw [logsOf, List.flatMap_assoc, fetchedLogs]
  exact List.flatMap_congr hall

/-- The logs of an EVM chain reach every handler that keeps up.  The ranges that were fetched are
consecutive, and the logs that a handler has got, followed by those of the messages that wait for it,
are the logs of these ranges in order. -/
theorem event_logs_reach_handlers (cfg : EventConfig) (L : ℕ) {receivers : ℕ}
    (i : Fin receivers) {tr : List (PipelineStep (EventInput × EventOutput) EventMessage receivers)}
    {s : Pipeline EventManager EventMessage broadcastCapacity receivers}
    (h : ((eventPipeline cfg L receivers).restrict (KeepsUp i)).Run tr s)
    (hheads : ∀ head ∈ L :: headsOf (produced tr), head + 100 + cfg.getLogsBatchSize < 2 ^ 64) :
    ∃ m pending, s.producer = some m ∧
      blocksOf (fetchedOf (produced tr)) = rangeInclusive (L + 1) (m.waitingBlock - 1) ∧
      missedOf (receivedBy i tr) = 0 ∧
      logsOf (valuesOf (receivedBy i tr) ++ pending) = fetchedLogs (produced tr) ∧
      (pending = [] ↔ s.position i = s.channel.sent ∧ s.outbox = []) := by
  obtain ⟨history, hist, hreceived⟩ := received_of_keepsUp h
  obtain ⟨m, hm, hrun⟩ := hist.exists_producer i.pos
  have hle := hist.position_le i
  have hlength := (hist.reads i).length_eq
  have hsent := hist.holds.sent_eq
  refine ⟨m, history.drop (s.position i) ++ s.outbox, hm, (eventHistory_of_run hrun hheads).covered,
    ?_, ?_, ?_⟩
  · rw [hreceived, valuesOf_map_value] at hlength
    rw [hreceived]
    omega
  · rw [hreceived, valuesOf_map_value, ← List.append_assoc, List.take_append_drop,
      ← hist.emitted, logsOf_run hrun]
  · rw [List.append_eq_nil_iff, List.drop_eq_nil_iff, hsent]
    constructor
    · rintro ⟨hpos, hout⟩
      exact ⟨by omega, hout⟩
    · rintro ⟨hpos, hout⟩
      exact ⟨hpos.ge, hout⟩

/-- A call of the sample manager. -/
def sampleCall (m : EventManager) (a : EventInput × EventOutput) : Option EventManager :=
  (m.step sampleEventConfig a.1).bind fun r => if r.2 = a.2 then some r.1 else none

lemma step_of_sampleCall {m m' : EventManager} {a : EventInput × EventOutput}
    (h : sampleCall m a = some m') : (eventSystem sampleEventConfig 100).step m a m' := by
  obtain ⟨r, hr, hif⟩ := Option.bind_eq_some_iff.mp h
  rw [Option.ite_none_right_eq_some] at hif
  obtain ⟨hout, hsome⟩ := hif
  obtain rfl := Option.some.inj hsome
  show m.step sampleEventConfig a.1 = some (r.1, a.2)
  rw [hr, ← hout]

/-- Two batches of two blocks are fetched, with two logs in the first one.  One of two handlers gets
the messages of both, while a call fails in between. -/
def sampleEventSteps :
    List (PipelineStep (EventInput × EventOutput) EventMessage 2) :=
  [.produce (.getBlockNumber (.ok 105), .empty),
    .produce (.getLogs (.ok [requestLog 0, requestLog 1]),
      ⟨[⟨101, 102, 105⟩], [⟨101, [requestLog 0, requestLog 1]⟩]⟩),
    .send,
    .produce (.getLogs (.error ⟨"timeout"⟩), .empty),
    .produce (.getBlockNumber (.ok 105), .empty),
    .produce (.getLogs (.ok [requestLog 2]),
      ⟨[⟨103, 104, 105⟩], [⟨103, [requestLog 2]⟩]⟩),
    .receive 0 (.value ⟨101, [requestLog 0, requestLog 1]⟩),
    .send,
    .receive 0 (.value ⟨103, [requestLog 2]⟩)]

/-- The handler that has read its stream has all logs of both batches. -/
theorem event_logs_reach_handlers_sample :
    ∃ s : Pipeline EventManager EventMessage broadcastCapacity 2,
      ((eventPipeline sampleEventConfig 100 2).restrict (KeepsUp 0)).Run sampleEventSteps s ∧
      logsOf (valuesOf (receivedBy 0 sampleEventSteps)) =
        [requestLog 0, requestLog 1, requestLog 2] ∧
      logsOf (valuesOf (receivedBy 0 sampleEventSteps)) =
        fetchedLogs (produced sampleEventSteps) := by
  obtain ⟨s, hrun, hread⟩ := LabelledSystem.exists_restrict_run_of_foldlM
    (S := eventPipeline sampleEventConfig 100 2) (C := KeepsUp 0)
    (f := next sampleCall fun a => a.2.messages)
    ⟨_, rfl, rfl⟩
    (fun s a s' hs => step_of_next (fun p a p' hp => step_of_sampleCall hp) hs)
    sampleEventSteps (fun s => decide (s.position 0 = s.channel.sent) && s.outbox.isEmpty)
    (by decide +kernel)
  refine ⟨s, hrun, rfl, ?_⟩
  obtain ⟨m, pending, -, -, -, hlogs, hpending⟩ :=
    event_logs_reach_handlers sampleEventConfig 100 0 hrun (by decide)
  simp only [Bool.and_eq_true, decide_eq_true_eq, List.isEmpty_iff] at hread
  obtain rfl := hpending.mpr hread
  rwa [List.append_nil] at hlogs

end Evm

/-! ### The block manager -/

section Bitcoin

open Bitcoin

/-- The block manager, and its receivers: the inbound handler, the outbound handler and the fee rate
feeder. -/
def blockPipeline (cfg : BlockConfig) :
    LabelledSystem (Pipeline BlockManager EventMessage broadcastCapacity 3)
      (PipelineStep (BlockInput × BlockOutput) EventMessage 3) :=
  Pipeline.system (blockSystem cfg) (fun a => a.2.messages) broadcastCapacity 3

/-- The deposits of the blocks that a step has scanned. -/
def depositsBy (a : BlockInput × BlockOutput) : List Event :=
  match a.1 with
  | .tick (.ok _) (.ok sets) blocks | .bootstrap _ (.ok sets) blocks =>
      a.2.scanned.flatMap fun n => inboundEvents sets (blocks n)
  | _ => []

/-- The events of the messages for the inbound handler. -/
def inboundEventsOf (messages : List EventMessage) : List Event :=
  messages.flatMap fun msg => if msg.eventType = .inbound then msg.events else []

/-- The deposits of the scanned blocks are broadcast. -/
lemma inboundEventsOf_reported {a : BlockInput × BlockOutput} (h : Reported a) :
    inboundEventsOf a.2.messages = depositsBy a := by
  obtain ⟨i, o⟩ := a
  cases i with
  | initialized L =>
    obtain rfl : o = .empty := h
    rfl
  | bootstrap n sets blocks =>
    cases sets with
    | error e =>
      obtain rfl : o = .empty := h
      rfl
    | ok sets =>
      obtain ⟨toBlock, hmessages⟩ := h
      simp only at hmessages
      simp [inboundEventsOf, hmessages, depositsBy]
  | tick n sets blocks =>
    cases n with
    | error e =>
      obtain rfl : o = .empty := h
      rfl
    | ok n =>
      cases sets with
      | error e =>
        obtain rfl : o = .empty := h
        rfl
      | ok sets =>
        have hmessages : o.messages = _ := h
        rw [inboundEventsOf, hmessages, List.flatMap_assoc]
        simp [depositsBy]

lemma inboundEventsOf_run {cfg : BlockConfig} {tr : List (BlockInput × BlockOutput)}
    {m : BlockManager} (h : (blockSystem cfg).Run tr m) :
    inboundEventsOf (tr.flatMap fun a => a.2.messages) = tr.flatMap depositsBy := by
  have hall : ∀ a ∈ tr, inboundEventsOf a.2.messages = depositsBy a :=
    fun a ha => inboundEventsOf_reported (reported_of_run h a ha)
  rw [inboundEventsOf, List.flatMap_assoc]
  exact List.flatMap_congr hall

/-- Passing on the events of a message does not kill the inbound handler. -/
lemma handleInbound_ne_died (registrationPool : Address) (d : Delivery InboundReplies) :
    (handleInbound registrationPool d).2 ≠ .died := by
  have hevent : ∀ (r : InboundReplies) event,
      (r.processEvent registrationPool event).2 ≠ .died := by
    intro r event
    unfold InboundReplies.processEvent
    simp only
    split
    · simp
    · split <;> simp
  unfold handleInbound
  split
  · simp
  · split
    · simp
    · exact forEach_ne_died fun (x : Event × ℕ) _ => hevent (d.replies x.2) x.1

/-- The events of a message for the inbound handler, with the bytes of their ids reversed. -/
lemma map_fst_inboundTargets (msg : EventMessage) :
    (inboundTargets msg).map Prod.fst = (inboundEventsOf [msg]).map Event.reversed := by
  simp only [inboundTargets, inboundEventsOf, List.flatMap_cons, List.flatMap_nil, List.append_nil]
  split
  · rw [List.zipIdx_map_fst]
  · rfl

/-- Every deposit of a scanned block reaches an inbound handler that keeps up.  Whatever fails on the
way, the messages that the handler has taken, followed by those that wait for it, carry the deposits
of the scanned blocks in order; and if it is selected and every message goes through, it has passed
on each deposit that it has got once. -/
theorem deposits_reach_inbound_handler (cfg : BlockConfig) (registrationPool : Address) (i : Fin 3)
    {tr : List (PipelineStep (BlockInput × BlockOutput) EventMessage 3)}
    {s : Pipeline BlockManager EventMessage broadcastCapacity 3}
    (h : ((blockPipeline cfg).restrict (KeepsUp i)).Run tr s)
    (stream : List (Option (Delivery InboundReplies)))
    (hstream : stream.map (Option.map Delivery.msg) = (receivedBy i tr).map Received.toValue) :
    ∃ pending,
      inboundEventsOf (((serve (handleInbound registrationPool) stream.length stream).map
        fun x => x.1.msg) ++ pending) = (produced tr).flatMap depositsBy ∧
      (pending = [] ↔ s.position i = s.channel.sent ∧ s.outbox = []) ∧
      ((∀ d, some d ∈ stream → d.isSelectedRelayer = .ok true ∧
          GoesThrough (inboundTargets d.msg) d.isSelectedRelayer fun i event =>
            (d.replies i).processEvent registrationPool event) →
        ((serve (handleInbound registrationPool) stream.length stream).flatMap passedOf).map
          Prod.fst ++ (inboundEventsOf pending).map Event.reversed =
            ((produced tr).flatMap depositsBy).map Event.reversed) := by
  obtain ⟨history, hist, hreceived⟩ := received_of_keepsUp h
  obtain ⟨m, -, hrun⟩ := hist.exists_producer (by decide)
  have hle := hist.position_le i
  have hsent := hist.holds.sent_eq
  -- The handler is served with the messages up to its position.
  have hmessages : stream.reduceOption.map Delivery.msg = history.take (s.position i) := by
    have hvalues : stream.map (Option.map Delivery.msg) =
        (history.take (s.position i)).map some := by
      rw [hstream, hreceived, List.map_map]
      rfl
    have hreduced := congrArg List.reduceOption hvalues
    rw [List.reduceOption_map] at hreduced
    simpa [List.reduceOption] using hreduced
  have hserved : serve (handleInbound registrationPool) stream.length stream =
      stream.reduceOption.map fun d => (d, (handleInbound registrationPool d).1) := by
    rw [serve_eq le_rfl, delivered_of_ne_died fun d _ => handleInbound_ne_died registrationPool d]
  have hall : inboundEventsOf (history.take (s.position i) ++
      (history.drop (s.position i) ++ s.outbox)) = (produced tr).flatMap depositsBy := by
    rw [← List.append_assoc, List.take_append_drop, ← hist.emitted, inboundEventsOf_run hrun]
  refine ⟨history.drop (s.position i) ++ s.outbox, ?_, ?_, fun hthrough => ?_⟩
  · rw [hserved, List.map_map, ← hall, ← hmessages]
    rfl
  · rw [List.append_eq_nil_iff, List.drop_eq_nil_iff, hsent]
    constructor
    · rintro ⟨hpos, hout⟩
      exact ⟨by omega, hout⟩
    · rintro ⟨hpos, hout⟩
      exact ⟨hpos.ge, hout⟩
  · have hpassed : ∀ d ∈ stream.reduceOption,
        (passedOn (handleInbound registrationPool d)).map Prod.fst =
          (inboundEventsOf [d.msg]).map Event.reversed := by
      intro d hd
      obtain ⟨hselected, hgoes⟩ := hthrough d (List.reduceOption_mem_iff.mp hd)
      rw [(passedOn_handleInbound_iff registrationPool d (by simp [hselected])).mpr hgoes,
        map_fst_inboundTargets]
    have hevents : ((serve (handleInbound registrationPool) stream.length stream).flatMap
        passedOf).map Prod.fst =
          (inboundEventsOf (history.take (s.position i))).map Event.reversed := by
      rw [hserved, ← hmessages, inboundEventsOf, List.flatMap_map, List.map_flatMap,
        List.map_flatMap, List.flatMap_map]
      refine List.flatMap_congr fun d hd => (hpassed d hd).trans ?_
      simp [inboundEventsOf]
    rw [hevents, ← List.map_append, ← hall]
    simp [inboundEventsOf]

/-- A step of the sample manager. -/
def sampleBlockCall (m : BlockManager) (a : BlockInput × BlockOutput) : Option BlockManager :=
  if ∀ n ∈ a.1.blockCounts, n ≤ u64Max then
    (m.step eagerConfig a.1).bind fun r => if r.2 = a.2 then some r.1 else none
  else none

lemma step_of_sampleBlockCall {m m' : BlockManager} {a : BlockInput × BlockOutput}
    (h : sampleBlockCall m a = some m') : (blockSystem eagerConfig).step m a m' := by
  rw [sampleBlockCall, Option.ite_none_right_eq_some] at h
  obtain ⟨hcounts, h⟩ := h
  obtain ⟨r, hr, hif⟩ := Option.bind_eq_some_iff.mp h
  rw [Option.ite_none_right_eq_some] at hif
  obtain ⟨hout, hsome⟩ := hif
  obtain rfl := Option.some.inj hsome
  refine ⟨hcounts, ?_⟩
  rw [hr, ← hout]

/-- The vault of the sample. -/
def vaultSets : RegistrationSets := ⟨[⟨"vault"⟩], []⟩

/-- The block 101 has one deposit. -/
def vaultBlocks : Blocks := fun n =>
  if n = 101 then [⟨FixedBytes.repeatByte 32 1, [⟨1000, 0, some ⟨"vault"⟩⟩]⟩] else []

/-- The messages of the block 101. -/
def vaultMessages : List EventMessage :=
  [⟨101, .newBlock, []⟩, ⟨101, .inbound, [sampleDeposit 0]⟩, ⟨101, .outbound, []⟩]

/-- The block 101 is scanned, and the inbound handler takes its messages. -/
def sampleBlockSteps : List (PipelineStep (BlockInput × BlockOutput) EventMessage 3) :=
  [.produce (.initialized 100, .empty),
    .produce (.tick (.ok 101) (.ok vaultSets) vaultBlocks, ⟨[101], vaultMessages⟩),
    .send, .send, .send] ++
  vaultMessages.map fun msg => .receive 0 (.value msg)

/-- The replies for a deposit that is to be polled. -/
def sampleStream : List (Option (Delivery InboundReplies)) :=
  vaultMessages.map fun msg => some ⟨msg, .ok true, fun _ => sampleInboundReplies 1⟩

/-- The deposit of the block 101 is passed on once. -/
theorem deposits_reach_inbound_handler_sample :
    ((serve (handleInbound ⟨FixedBytes.repeatByte 20 0⟩) sampleStream.length sampleStream).flatMap
      passedOf).map Prod.fst = [(sampleDeposit 0).reversed] := by
  obtain ⟨s, hrun, hread⟩ := LabelledSystem.exists_restrict_run_of_foldlM
    (S := blockPipeline eagerConfig) (C := KeepsUp 0)
    (f := next sampleBlockCall fun a => a.2.messages)
    ⟨_, rfl, rfl⟩
    (fun s a s' hs => step_of_next (fun p a p' hp => step_of_sampleBlockCall hp) hs)
    sampleBlockSteps (fun s => decide (s.position 0 = s.channel.sent) && s.outbox.isEmpty)
    (by decide)
  obtain ⟨pending, -, hpending, hpassed⟩ :=
    deposits_reach_inbound_handler eagerConfig ⟨FixedBytes.repeatByte 20 0⟩ 0 hrun
      sampleStream (by decide)
  simp only [Bool.and_eq_true, decide_eq_true_eq, List.isEmpty_iff] at hread
  obtain rfl := hpending.mpr hread
  have hthrough : ∀ d, some d ∈ sampleStream → d.isSelectedRelayer = .ok true ∧
      GoesThrough (inboundTargets d.msg) d.isSelectedRelayer fun i event =>
        (d.replies i).processEvent ⟨FixedBytes.repeatByte 20 0⟩ event := by
    intro d hd
    obtain ⟨msg, hmsg, heq⟩ := List.mem_map.mp hd
    obtain rfl := Option.some.inj heq
    refine ⟨rfl, .inr rfl, ?_⟩
    fin_cases hmsg <;> decide
  have hall := hpassed hthrough
  rw [show inboundEventsOf [] = [] from rfl, List.map_nil, List.append_nil] at hall
  exact hall.trans (by decide)

end Bitcoin

end Events

end BifrostRelayer
