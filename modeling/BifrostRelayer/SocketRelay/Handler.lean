import BifrostRelayer.Foundation.Runs
import BifrostRelayer.SocketRelay.PendingEvents

/-!
# Runs of the socket relay handler

`SocketRelayHandler::run` reacts to three kinds of messages: a block's event logs, a message of the
on-flight handler, and the tick of the check timer.  `handle` is one turn of its `select!` loop; the
branches run to completion one at a time, and `pending_events` survives a return of `run`.

To speak about one queued entry over many turns, the entries are stamped with the number of the
delivered log they come from.  The handler never reads the stamp (`execute_stampedHandle`).  The
main result is `RelayHistory`, which ties the pending list to the trace of replies and handovers,
and `pendingEvents_lifecycle`, which reads the life of an entry off it.
-/

namespace BifrostRelayer

namespace SocketRelay

open SolidityAbi

/-! ### Routing of a delivered log -/

/-- What the handler reads of its client. -/
structure RelayClient where
  chainId : ChainId
  ifDestinationChain : RelayDirection
  blockConfirmations : ℕ
  /-- The address of the socket contract. -/
  socket : Address
  /-- The address of the Bitcoin socket contract, on the chain that has one. -/
  bitcoinSocket : Option Address
  /-- `Socket::SIGNATURE_HASH`. -/
  signatureHash : B256

namespace RelayClient

/-- `is_target_contract`. -/
def isTargetContract (c : RelayClient) (log : Log) : Bool :=
  match c.bitcoinSocket with
  | some bitcoinSocket => decide (log.address = c.socket) || decide (log.address = bitcoinSocket)
  | none => decide (log.address = c.socket)

/-- `is_target_event`. -/
def isTargetEvent (c : RelayClient) (topic : Option B256) : Bool :=
  match topic with
  | some topic => decide (topic = c.signatureHash)
  | none => false

/-- `is_inbound_sequence`. -/
def isInboundSequence (c : RelayClient) (dstChainId : ChainId) : Bool :=
  match decide (c.chainId = dstChainId), c.ifDestinationChain with
  | true, .inbound => true
  | false, .outbound => true
  | _, _ => false

/-- `should_process_immediately`.  The outer `none` is the panic on an unknown status byte, the
inner one the `None` of a log that does not decode. -/
def shouldProcessImmediately (c : RelayClient) (log : Log) : Option (Option Bool) :=
  match log.decodeSocket c.signatureHash with
  | .ok msg =>
      match SocketEventStatus.ofU8 msg.status with
      | some status =>
          match c.isInboundSequence msg.dstChainId, status with
          | true, .executed => some (some true)
          | false, .accepted => some (some true)
          | _, _ => some (some false)
      | none => none
  | .error _ => some none

end RelayClient

/-- What `run` does with one delivered log. -/
inductive Route where
  | ignored
  | immediate
  | queued
  | panics
deriving DecidableEq, Repr

/-- The branch that a delivered log takes. -/
def RelayClient.route (c : RelayClient) (log : Log) : Route :=
  if c.isTargetContract log && c.isTargetEvent log.topic0 then
    match c.shouldProcessImmediately log with
    | none => .panics
    | some (some true) => .immediate
    | some _ => .queued
  else .ignored

/-! ### One turn of the loop -/

/-- The state of the handler that matters here. -/
structure RelayState (L : Type) where
  pending : List (PendingEvent L)
  /-- A panic ends the task for good. -/
  panicked : Bool

/-- One message of the `select!` loop. -/
inductive RelayInput (L : Type) where
  /-- An `EventMessage`. -/
  | event (blockNumber : ℕ) (eventLogs : List L)
  /-- A tick of the check timer, with the replies it gets: see `checkPending`. -/
  | check (latest : Except Report ℕ) (reply : ℕ → VerifyReply)
  /-- A stream error, a message of the on-flight handler, or `run` returning and being called
  again: `pending_events` is not touched. -/
  | other

/-- The observable calls of one turn. -/
structure RelayOutput (L : Type) where
  /-- The logs handed to `process_confirmed_log` without waiting. -/
  immediate : List L
  /-- The calls of `verify_event_on_chain` with their replies. -/
  verified : List (PendingEvent L × VerifyReply)
  /-- The queued entries whose logs were handed to `process_confirmed_log`. -/
  handed : List (PendingEvent L)

variable {L : Type}

/-- The loop over the logs of an event message: the new state and the immediate handovers. -/
def deliver (route : L → Route) (blockNumber : ℕ) : RelayState L → List L → RelayState L × List L
  | s, [] => (s, [])
  | s, log :: logs =>
      match route log with
      | .ignored => deliver route blockNumber s logs
      | .immediate =>
          let r := deliver route blockNumber s logs
          (r.1, log :: r.2)
      | .queued =>
          deliver route blockNumber { s with pending := s.pending ++ [⟨log, blockNumber, 0⟩] } logs
      | .panics => ({ s with panicked := true }, [])

/-- One turn of the loop of `SocketRelayHandler::run`. -/
def handle (conf : ℕ) (route : L → Route) (s : RelayState L) (i : RelayInput L) :
    RelayState L × RelayOutput L :=
  if s.panicked then (s, ⟨[], [], []⟩)
  else
    match i with
    | .event blockNumber eventLogs =>
        let r := deliver route blockNumber s eventLogs
        (r.1, ⟨r.2, [], []⟩)
    | .check latest reply =>
        let r := checkPending conf latest reply s.pending
        ({ s with pending := r.pending }, ⟨[], r.verified, r.handed⟩)
    | .other => (s, ⟨[], [], []⟩)

/-- The handler as constructed. -/
def RelayState.new : RelayState L := ⟨[], false⟩

/-! ### Stamped entries -/

/-- A log with the number of its delivery. -/
abbrev StampedLog : Type := ℕ × Log

/-- The number an entry is known by. -/
def PendingEvent.stamp (e : PendingEvent StampedLog) : ℕ := e.log.1

/-- The handler together with the number of the next delivered log. -/
structure StampedState where
  relay : RelayState StampedLog
  next : ℕ

/-- Number the delivered logs. -/
def RelayInput.stamped (next : ℕ) : RelayInput Log → RelayInput StampedLog
  | .event blockNumber eventLogs =>
      .event blockNumber (eventLogs.zipIdx next |>.map Prod.swap)
  | .check latest reply => .check latest reply
  | .other => .other

/-- How many logs a message delivers. -/
def RelayInput.delivered : RelayInput L → ℕ
  | .event _ eventLogs => eventLogs.length
  | _ => 0

/-- One turn of the loop, with the delivered logs numbered. -/
def stampedHandle (c : RelayClient) (s : StampedState) (i : RelayInput Log) :
    StampedState × RelayOutput StampedLog :=
  let r := handle c.blockConfirmations (fun log => c.route log.2) s.relay (i.stamped s.next)
  (⟨r.1, s.next + i.delivered⟩, r.2)

/-- The runs of the handler with numbered logs. -/
def stampedSystem (c : RelayClient) :
    LabelledSystem StampedState (RelayInput Log × RelayOutput StampedLog) :=
  .ofHandler ⟨.new, 0⟩ (stampedHandle c)

/-! ### The stamps are never read -/

section Unstamp

variable {M : Type}

/-- Replace the log of an entry. -/
def PendingEvent.map (f : L → M) (e : PendingEvent L) : PendingEvent M :=
  ⟨f e.log, e.blockNumber, e.absentChecks⟩

/-- Replace the logs of a state. -/
def RelayState.map (f : L → M) (s : RelayState L) : RelayState M :=
  ⟨s.pending.map (PendingEvent.map f), s.panicked⟩

/-- Replace the logs of a message. -/
def RelayInput.map (f : L → M) : RelayInput L → RelayInput M
  | .event blockNumber eventLogs => .event blockNumber (eventLogs.map f)
  | .check latest reply => .check latest reply
  | .other => .other

/-- Replace the logs of an output. -/
def RelayOutput.map (f : L → M) (o : RelayOutput L) : RelayOutput M :=
  ⟨o.immediate.map f, o.verified.map fun v => (v.1.map f, v.2), o.handed.map (PendingEvent.map f)⟩

/-- The fate of an entry does not depend on its log. -/
lemma fate_map (f : L → M) (conf latest : ℕ) (reply : VerifyReply) (e : PendingEvent L) :
    (e.map f).fate conf latest reply = (e.fate conf latest reply).map (PendingEvent.map f) := by
  unfold PendingEvent.fate
  have hconf : (e.map f).isConfirmed conf latest = e.isConfirmed conf latest := rfl
  rw [hconf]
  by_cases h : e.isConfirmed conf latest = true
  · rw [if_pos h, if_pos h]
    rcases reply with report | _ | b
    · rfl
    · by_cases hmax : saturatingSucc e.absentChecks ≥ maxAbsentChecks
      · simp [PendingEvent.map, hmax]
      · simp [PendingEvent.map, PendingEvent.bump, hmax]
    · by_cases hb : b = e.blockNumber
      · simp [PendingEvent.map, hb]
      · simp [PendingEvent.map, PendingEvent.remine, hb]
  · rw [if_neg h, if_neg h]
    rfl

/-- The entries to check do not depend on the logs. -/
lemma eventsToCheck_map (f : L → M) (conf latest : ℕ) (pending : List (PendingEvent L)) :
    eventsToCheck conf latest (pending.map (PendingEvent.map f)) =
      (eventsToCheck conf latest pending).map fun c => (c.1, c.2.map f) := by
  rw [eventsToCheck_eq, eventsToCheck_eq, List.zipIdx_map, List.filter_map, List.map_map,
    List.map_map]
  rfl

/-- A check passes the logs on. -/
lemma checkPending_map (f : L → M) (conf : ℕ) (latest : Except Report ℕ) (reply : ℕ → VerifyReply)
    (pending : List (PendingEvent L)) :
    checkPending conf latest reply (pending.map (PendingEvent.map f)) =
      { pending := (checkPending conf latest reply pending).pending.map (PendingEvent.map f)
        verified := (checkPending conf latest reply pending).verified.map fun v => (v.1.map f, v.2)
        handed := (checkPending conf latest reply pending).handed.map (PendingEvent.map f) } := by
  cases latest with
  | error report => simp only [checkPending_error, List.map_nil]
  | ok latestBlock =>
    rw [checkPending_ok, checkPending_ok, eventsToCheck_map]
    congr 1
    · have hfates : (pending.map (PendingEvent.map f)).mapIdx
          (fun i e => e.fate conf latestBlock (reply i)) =
          (pending.mapIdx fun i e => e.fate conf latestBlock (reply i)).map
            (Option.map (PendingEvent.map f)) := by
        apply List.ext_getElem?
        intro i
        simp [Function.comp_def, fate_map]
      rw [hfates, List.reduceOption_map]
    · simp [Function.comp_def]
    · rw [List.filter_map, List.map_map, List.map_map]
      rfl

/-- The delivery loop passes the logs on. -/
lemma deliver_map (f : L → M) (route : M → Route) (blockNumber : ℕ) (s : RelayState L)
    (logs : List L) :
    deliver route blockNumber (s.map f) (logs.map f) =
      ((deliver (fun log => route (f log)) blockNumber s logs).1.map f,
        (deliver (fun log => route (f log)) blockNumber s logs).2.map f) := by
  induction logs generalizing s with
  | nil => rfl
  | cons log logs ih =>
    rw [List.map_cons]
    unfold deliver
    cases hr : route (f log) with
    | ignored => exact ih s
    | immediate =>
      simp only []
      rw [ih s, List.map_cons]
    | queued =>
      simp only []
      rw [← ih]
      simp [RelayState.map, PendingEvent.map]
    | panics => rfl

/-- A turn of the loop passes the logs on. -/
lemma handle_map (f : L → M) (conf : ℕ) (route : M → Route) (s : RelayState L) (i : RelayInput L) :
    handle conf route (s.map f) (i.map f) =
      ((handle conf (fun log => route (f log)) s i).1.map f,
        (handle conf (fun log => route (f log)) s i).2.map f) := by
  unfold handle
  have hp : (s.map f).panicked = s.panicked := rfl
  rw [hp]
  by_cases h : s.panicked = true
  · rw [if_pos h, if_pos h]
    rfl
  · rw [if_neg h, if_neg h]
    cases i with
    | event blockNumber eventLogs =>
      simp only [RelayInput.map]
      rw [deliver_map]
      rfl
    | check latest reply =>
      simp only [RelayInput.map]
      have hpend : (s.map f).pending = s.pending.map (PendingEvent.map f) := rfl
      rw [hpend, checkPending_map]
      rfl
    | other => rfl

/-- Forgetting the numbers of the delivered logs gives the message back. -/
lemma map_snd_stamped (next : ℕ) (i : RelayInput Log) : (i.stamped next).map Prod.snd = i := by
  cases i with
  | event blockNumber eventLogs =>
    simp only [RelayInput.stamped, RelayInput.map, List.map_map]
    congr 1
    exact List.zipIdx_map_fst next eventLogs
  | check latest reply => rfl
  | other => rfl

/-- On the same messages the numbered handler does what the handler does. -/
theorem execute_stampedHandle (c : RelayClient) (s : StampedState) (is : List (RelayInput Log)) :
    LabelledSystem.execute (handle c.blockConfirmations c.route) (s.relay.map Prod.snd) is =
      (((LabelledSystem.execute (stampedHandle c) s is).1.map fun a => (a.1, a.2.map Prod.snd)),
        (LabelledSystem.execute (stampedHandle c) s is).2.relay.map Prod.snd) := by
  induction is generalizing s with
  | nil => rfl
  | cons i is ih =>
    have hstep := handle_map Prod.snd c.blockConfirmations c.route s.relay (i.stamped s.next)
    rw [map_snd_stamped] at hstep
    simp only [LabelledSystem.execute, hstep]
    rw [List.map_cons]
    have htail := ih (stampedHandle c s i).1
    simp only [stampedHandle] at htail ⊢
    rw [htail]

end Unstamp

/-! ### Deliveries -/

/-- The logs of a message that end up in the pending list: those queued before a panic. -/
def queuedLogs (route : L → Route) (logs : List L) : List L :=
  (logs.takeWhile fun log => decide (route log ≠ .panics)).filter
    fun log => decide (route log = .queued)

/-- A delivery appends the queued logs, at the height of the message and never seen absent. -/
lemma deliver_pending (route : L → Route) (blockNumber : ℕ) (s : RelayState L) (logs : List L) :
    (deliver route blockNumber s logs).1.pending =
      s.pending ++ (queuedLogs route logs).map fun log => ⟨log, blockNumber, 0⟩ := by
  induction logs generalizing s with
  | nil => simp [deliver, queuedLogs]
  | cons log logs ih =>
    cases hr : route log with
    | ignored => simpa [deliver, queuedLogs, hr] using ih s
    | immediate => simpa [deliver, queuedLogs, hr] using ih s
    | queued => simp [deliver, queuedLogs, hr, ih]
    | panics => simp [deliver, queuedLogs, hr]

/-- The numbers of the queued logs of a message are distinct and count on from `next`. -/
lemma queuedLogs_stamped (route : StampedLog → Route) (next : ℕ) (logs : List Log) :
    ((queuedLogs route (logs.zipIdx next |>.map Prod.swap)).map Prod.fst).Sublist
      (List.range' next logs.length) := by
  have hsub : (queuedLogs route (logs.zipIdx next |>.map Prod.swap)).Sublist
      (logs.zipIdx next |>.map Prod.swap) :=
    List.filter_sublist.trans (List.takeWhile_sublist _)
  have hmap := hsub.map Prod.fst
  rwa [List.map_map, show Prod.fst ∘ Prod.swap = (Prod.snd : Log × ℕ → ℕ) from rfl,
    List.zipIdx_map_snd] at hmap

/-! ### The history of an entry -/

/-- A trace of the numbered handler. -/
abbrev RelayTrace : Type := List (RelayInput Log × RelayOutput StampedLog)

/-- The replies of `verify_event_on_chain` to the entry `k`, oldest first. -/
def RelayTrace.repliesTo (k : ℕ) (tr : RelayTrace) : List VerifyReply :=
  tr.flatMap fun a => (a.2.verified.filter fun v => decide (v.1.stamp = k)).map Prod.snd

/-- The number of `Ok(None)` replies since the last `Ok(Some(_))`. -/
def absentStreak (replies : List VerifyReply) : ℕ :=
  replies.foldl (fun n reply =>
    match reply with
    | .ok none => n + 1
    | .ok (some _) => 0
    | .error _ => n) 0

/-- The entries handed over along a trace. -/
def RelayTrace.handedStamps (tr : RelayTrace) : List ℕ :=
  tr.flatMap fun a => a.2.handed.map PendingEvent.stamp

/-- What the pending list says about the trace that led to it. -/
structure RelayHistory (tr : RelayTrace) (s : StampedState) : Prop where
  /-- An entry is pending once or was handed over once. -/
  nodup : (tr.handedStamps ++ s.relay.pending.map PendingEvent.stamp).Nodup
  /-- Numbers are given out in order. -/
  lt_next : ∀ k ∈ tr.handedStamps ++ s.relay.pending.map PendingEvent.stamp, k < s.next
  /-- No reply is about a log that was not yet delivered. -/
  unseen : ∀ k, s.next ≤ k → tr.repliesTo k = []
  /-- The counter of an entry is the length of its current absence. -/
  streak : ∀ e ∈ s.relay.pending, e.absentChecks = absentStreak (tr.repliesTo e.stamp)
  /-- The counter of a pending entry is below the limit. -/
  lt_max : ∀ e ∈ s.relay.pending, e.absentChecks < maxAbsentChecks

lemma RelayTrace.repliesTo_append (k : ℕ) (tr tr' : RelayTrace) :
    RelayTrace.repliesTo k (tr ++ tr') = tr.repliesTo k ++ tr'.repliesTo k :=
  List.flatMap_append

lemma RelayTrace.handedStamps_append (tr tr' : RelayTrace) :
    RelayTrace.handedStamps (tr ++ tr') = tr.handedStamps ++ tr'.handedStamps :=
  List.flatMap_append

/-- One more reply. -/
lemma absentStreak_concat (replies : List VerifyReply) (reply : VerifyReply) :
    absentStreak (replies ++ [reply]) =
      match reply with
      | .ok none => absentStreak replies + 1
      | .ok (some _) => 0
      | .error _ => absentStreak replies := by
  unfold absentStreak
  rw [List.foldl_append]
  rfl

/-- Below the limit the counter does not saturate. -/
lemma saturatingSucc_of_lt {n : ℕ} (h : n < maxAbsentChecks) : saturatingSucc n = n + 1 := by
  unfold saturatingSucc
  unfold maxAbsentChecks at h
  omega

/-- The fate of an entry keeps its number. -/
lemma stamp_of_fate {conf latest : ℕ} {reply : VerifyReply} {e e' : PendingEvent StampedLog}
    (h : e.fate conf latest reply = some e') : e'.stamp = e.stamp := by
  unfold PendingEvent.fate at h
  rcases reply with report | _ | b
  · simp only [ite_self, Option.some.injEq] at h
    rw [h]
  · simp only [] at h
    split at h
    · split at h
      · simp at h
      · rw [← Option.some.inj h]
        rfl
    · rw [Option.some.inj h]
  · simp only [] at h
    split at h
    · split at h
      · simp at h
      · rw [← Option.some.inj h]
        rfl
    · rw [Option.some.inj h]

/-- In a list with distinct numbers an entry is found at one index only. -/
lemma index_unique {pending : List (PendingEvent StampedLog)}
    (hnd : (pending.map PendingEvent.stamp).Nodup) {i j : ℕ} {e e' : PendingEvent StampedLog}
    (hi : pending[i]? = some e) (hj : pending[j]? = some e') (hs : e.stamp = e'.stamp) : i = j := by
  have hlt : i < (pending.map PendingEvent.stamp).length := by
    rw [List.length_map]
    exact (List.getElem?_eq_some_iff.mp hi).1
  refine (List.getElem?_inj hlt hnd).mp ?_
  rw [List.getElem?_map, List.getElem?_map, hi, hj, Option.map_some, Option.map_some, hs]

/-! ### One check, seen from one entry -/

section Check

variable {conf latest : ℕ} {reply : ℕ → VerifyReply} {pending : List (PendingEvent StampedLog)}

/-- The handed entries and the entries left are pairwise different entries of the old list. -/
lemma nodup_handed_append (hnd : (pending.map PendingEvent.stamp).Nodup) :
    ((checkPending conf (.ok latest) reply pending).handed.map PendingEvent.stamp ++
      (checkPending conf (.ok latest) reply pending).pending.map PendingEvent.stamp).Nodup := by
  have hchecked : ((eventsToCheck conf latest pending).map Prod.snd).Sublist pending := by
    rw [eventsToCheck_eq, List.map_map]
    have h : ((pending.zipIdx.filter fun p => p.1.isConfirmed conf latest).map Prod.fst).Sublist
        (pending.zipIdx.map Prod.fst) := List.filter_sublist.map _
    rwa [List.zipIdx_map_fst] at h
  have hhanded : ((checkPending conf (.ok latest) reply pending).handed.map
      PendingEvent.stamp).Sublist (pending.map PendingEvent.stamp) := by
    rw [checkPending_ok]
    exact ((List.filter_sublist.map _).trans hchecked).map _
  have hleft : ((checkPending conf (.ok latest) reply pending).pending.map
      PendingEvent.stamp).Sublist (pending.map PendingEvent.stamp) := by
    rw [checkPending_ok]
    exact map_reduceOption_mapIdx_sublist pending fun i e e' h => stamp_of_fate h
  refine List.nodup_append.mpr ⟨hnd.sublist hhanded, hnd.sublist hleft, ?_⟩
  rintro k hk m hm rfl
  obtain ⟨e, he, hek⟩ := List.mem_map.mp hk
  obtain ⟨e', he', hek'⟩ := List.mem_map.mp hm
  obtain ⟨i, hget, hconf, hreply⟩ := mem_handed.mp he
  rw [checkPending_ok] at he'
  obtain ⟨j, e₀, hget₀, hfate⟩ := mem_reduceOption_mapIdx.mp he'
  have hstamp : e.stamp = e₀.stamp := by rw [hek, ← hek', stamp_of_fate hfate]
  obtain rfl : i = j := index_unique hnd hget hget₀ hstamp
  obtain rfl : e = e₀ := Option.some.inj (hget.symm.trans hget₀)
  rw [fate_of_handed hconf hreply] at hfate
  simp at hfate

/-- A check asks once about a confirmed entry and not at all about the others. -/
lemma filter_verified (hnd : (pending.map PendingEvent.stamp).Nodup) {i : ℕ}
    {e : PendingEvent StampedLog} (hget : pending[i]? = some e) :
    ((checkPending conf (.ok latest) reply pending).verified.filter
        fun v => decide (v.1.stamp = e.stamp)).map Prod.snd =
      if e.isConfirmed conf latest then [reply i] else [] := by
  rw [checkPending_ok]
  have hsame : ∀ c ∈ eventsToCheck conf latest pending, c.2.stamp = e.stamp → c = (i, e) := by
    rintro ⟨j, e'⟩ hc hs
    have hget' := (mem_eventsToCheck.mp hc).1
    obtain rfl : j = i := index_unique hnd hget' hget hs
    rw [Option.some.inj (hget'.symm.trans hget)]
  have hnodup : (eventsToCheck conf latest pending).Nodup :=
    List.Nodup.of_map Prod.fst (nodup_eventsToCheck conf latest pending)
  simp only [List.filter_map, List.map_map]
  by_cases hconf : e.isConfirmed conf latest = true
  · have hfilter : (eventsToCheck conf latest pending).filter
        (fun c => decide (c.2.stamp = e.stamp)) = [(i, e)] := by
      refine List.perm_singleton.mp ((List.perm_ext_iff_of_nodup (hnodup.filter _)
        (List.nodup_singleton _)).mpr ?_)
      intro c
      rw [List.mem_filter, List.mem_singleton]
      constructor
      · rintro ⟨hc, hs⟩
        exact hsame c hc (of_decide_eq_true hs)
      · rintro rfl
        exact ⟨mem_eventsToCheck.mpr ⟨hget, hconf⟩, decide_eq_true rfl⟩
    rw [if_pos hconf]
    simp only [Function.comp_def]
    rw [hfilter]
    rfl
  · have hfilter : (eventsToCheck conf latest pending).filter
        (fun c => decide (c.2.stamp = e.stamp)) = [] := by
      rw [List.filter_eq_nil_iff]
      intro c hc hs
      obtain rfl := hsame c hc (of_decide_eq_true hs)
      exact hconf (mem_eventsToCheck.mp hc).2
    rw [if_neg hconf]
    simp only [Function.comp_def]
    rw [hfilter]
    rfl

end Check

/-! ### What one turn can do -/

/-- A turn either appends fresh entries and calls nothing, or it is a check at a known head. -/
lemma stampedHandle_cases (c : RelayClient) (s : StampedState) (i : RelayInput Log) :
    (∃ new : List (PendingEvent StampedLog),
      (stampedHandle c s i).1.relay.pending = s.relay.pending ++ new ∧
      (new.map PendingEvent.stamp).Sublist (List.range' s.next i.delivered) ∧
      (∀ e ∈ new, e.absentChecks = 0 ∧ ∃ logs, i = .event e.blockNumber logs) ∧
      (stampedHandle c s i).2.verified = [] ∧ (stampedHandle c s i).2.handed = []) ∨
    (∃ latest reply, i = .check (.ok latest) reply ∧
      (stampedHandle c s i).1 = ⟨⟨(checkPending c.blockConfirmations (.ok latest) reply
        s.relay.pending).pending, s.relay.panicked⟩, s.next⟩ ∧
      (stampedHandle c s i).2.verified =
        (checkPending c.blockConfirmations (.ok latest) reply s.relay.pending).verified ∧
      (stampedHandle c s i).2.handed =
        (checkPending c.blockConfirmations (.ok latest) reply s.relay.pending).handed) := by
  by_cases hp : s.relay.panicked = true
  · exact .inl ⟨[], by simp [stampedHandle, handle, hp]⟩
  · cases i with
    | event blockNumber eventLogs =>
      refine .inl ⟨(queuedLogs (fun log => c.route log.2)
        (eventLogs.zipIdx s.next |>.map Prod.swap)).map fun log => ⟨log, blockNumber, 0⟩, ?_⟩
      refine ⟨?_, ?_, ?_, ?_, ?_⟩
      · simp only [stampedHandle, RelayInput.stamped, handle, if_neg hp]
        exact deliver_pending _ _ _ _
      · rw [List.map_map]
        exact queuedLogs_stamped _ s.next eventLogs
      · intro e he
        obtain ⟨log, -, rfl⟩ := List.mem_map.mp he
        exact ⟨rfl, eventLogs, rfl⟩
      · simp [stampedHandle, RelayInput.stamped, handle, hp]
      · simp [stampedHandle, RelayInput.stamped, handle, hp]
    | check latest reply =>
      cases latest with
      | error report =>
        exact .inl ⟨[], by
          simp [stampedHandle, RelayInput.stamped, handle, hp, checkPending_error]⟩
      | ok latest =>
        refine .inr ⟨latest, reply, rfl, ?_⟩
        simp [stampedHandle, RelayInput.stamped, RelayInput.delivered, handle, hp]
    | other => exact .inl ⟨[], by simp [stampedHandle, RelayInput.stamped, handle, hp]⟩

/-- A turn that calls nothing and appends fresh entries keeps the history. -/
lemma RelayHistory.append {tr : RelayTrace} {s s' : StampedState} (h : RelayHistory tr s)
    {a : RelayInput Log × RelayOutput StampedLog} {new : List (PendingEvent StampedLog)} {n : ℕ}
    (hverified : a.2.verified = []) (hhanded : a.2.handed = [])
    (hpending : s'.relay.pending = s.relay.pending ++ new) (hnext : s'.next = s.next + n)
    (hstamps : (new.map PendingEvent.stamp).Sublist (List.range' s.next n))
    (hnew : ∀ e ∈ new, e.absentChecks = 0) : RelayHistory (tr ++ [a]) s' := by
  have hreplies : ∀ k, RelayTrace.repliesTo k (tr ++ [a]) = tr.repliesTo k := by
    intro k
    rw [RelayTrace.repliesTo_append]
    simp [RelayTrace.repliesTo, hverified]
  have hhs : RelayTrace.handedStamps (tr ++ [a]) = tr.handedStamps := by
    rw [RelayTrace.handedStamps_append]
    simp [RelayTrace.handedStamps, hhanded]
  have hfresh : ∀ k ∈ new.map PendingEvent.stamp, s.next ≤ k ∧ k < s.next + n := by
    intro k hk
    exact List.mem_range'_1.mp (hstamps.subset hk)
  refine ⟨?_, ?_, ?_, ?_, ?_⟩
  · rw [hhs, hpending, List.map_append, ← List.append_assoc]
    refine List.nodup_append.mpr ⟨h.nodup, hstamps.nodup List.nodup_range', ?_⟩
    rintro k hk m hm rfl
    have hlt := h.lt_next k hk
    have hge := (hfresh k hm).1
    omega
  · intro k hk
    rw [hhs, hpending, List.map_append, ← List.append_assoc, List.mem_append] at hk
    rw [hnext]
    rcases hk with hk | hk
    · have hlt := h.lt_next k hk
      omega
    · exact (hfresh k hk).2
  · intro k hk
    rw [hreplies k]
    exact h.unseen k (by omega)
  · intro e he
    rw [hreplies]
    rw [hpending, List.mem_append] at he
    rcases he with he | he
    · exact h.streak e he
    · have hge := (hfresh e.stamp (List.mem_map_of_mem he)).1
      rw [h.unseen e.stamp hge, hnew e he]
      rfl
  · intro e he
    rw [hpending, List.mem_append] at he
    rcases he with he | he
    · exact h.lt_max e he
    · rw [hnew e he]
      decide

/-- The counter that an entry keeps through a check is again the length of its absence. -/
lemma absentChecks_of_fate {conf latest : ℕ} {reply : VerifyReply}
    {e e' : PendingEvent StampedLog} {replies : List VerifyReply}
    (hstreak : e.absentChecks = absentStreak replies) (hlt : e.absentChecks < maxAbsentChecks)
    (hfate : e.fate conf latest reply = some e') :
    e'.absentChecks =
        absentStreak (replies ++ if e.isConfirmed conf latest then [reply] else []) ∧
      e'.absentChecks < maxAbsentChecks := by
  unfold PendingEvent.fate at hfate
  by_cases hconf : e.isConfirmed conf latest = true
  · rw [if_pos hconf] at hfate
    rw [if_pos hconf, absentStreak_concat]
    rcases reply with report | _ | b
    · obtain rfl := Option.some.inj hfate
      exact ⟨hstreak, hlt⟩
    · by_cases hmax : saturatingSucc e.absentChecks ≥ maxAbsentChecks
      · simp [hmax] at hfate
      · simp only [hmax, if_false, Option.some.injEq] at hfate
        obtain rfl := hfate
        have hsucc := saturatingSucc_of_lt hlt
        simp only [PendingEvent.bump, ← hstreak]
        omega
    · by_cases hb : b = e.blockNumber
      · simp [hb] at hfate
      · simp only [hb, if_false, Option.some.injEq] at hfate
        obtain rfl := hfate
        exact ⟨rfl, Nat.zero_lt_succ 4⟩
  · rw [if_neg hconf] at hfate
    obtain rfl := Option.some.inj hfate
    simpa [hconf] using And.intro hstreak hlt

/-- A check keeps the history. -/
lemma RelayHistory.check {tr : RelayTrace} {s s' : StampedState} (h : RelayHistory tr s)
    {a : RelayInput Log × RelayOutput StampedLog} {conf latest : ℕ} {reply : ℕ → VerifyReply}
    (hverified : a.2.verified = (checkPending conf (.ok latest) reply s.relay.pending).verified)
    (hhanded : a.2.handed = (checkPending conf (.ok latest) reply s.relay.pending).handed)
    (hpending : s'.relay.pending = (checkPending conf (.ok latest) reply s.relay.pending).pending)
    (hnext : s'.next = s.next) : RelayHistory (tr ++ [a]) s' := by
  obtain ⟨-, hnd, hdisj⟩ := List.nodup_append.mp h.nodup
  have hstep := @nodup_handed_append conf latest reply _ hnd
  have hhs : RelayTrace.handedStamps (tr ++ [a]) =
      tr.handedStamps ++
        (checkPending conf (.ok latest) reply s.relay.pending).handed.map PendingEvent.stamp := by
    rw [RelayTrace.handedStamps_append]
    simp [RelayTrace.handedStamps, hhanded]
  -- whatever a check hands over or keeps was pending before
  have hold : ∀ k ∈
      (checkPending conf (.ok latest) reply s.relay.pending).handed.map PendingEvent.stamp ++
        (checkPending conf (.ok latest) reply s.relay.pending).pending.map PendingEvent.stamp,
      k ∈ s.relay.pending.map PendingEvent.stamp := by
    intro k hk
    rcases List.mem_append.mp hk with hk | hk
    · obtain ⟨e, he, rfl⟩ := List.mem_map.mp hk
      obtain ⟨i, hget, -⟩ := mem_handed.mp he
      exact List.mem_map_of_mem (List.mem_of_getElem? hget)
    · obtain ⟨e', he', rfl⟩ := List.mem_map.mp hk
      rw [checkPending_ok] at he'
      obtain ⟨i, e, hget, hfate⟩ := mem_reduceOption_mapIdx.mp he'
      rw [stamp_of_fate hfate]
      exact List.mem_map_of_mem (List.mem_of_getElem? hget)
  have hcounter : ∀ e' ∈ s'.relay.pending,
      e'.absentChecks = absentStreak (RelayTrace.repliesTo e'.stamp (tr ++ [a])) ∧
        e'.absentChecks < maxAbsentChecks := by
    intro e' he'
    rw [hpending, checkPending_ok] at he'
    obtain ⟨i, e, hget, hfate⟩ := mem_reduceOption_mapIdx.mp he'
    have hmem := List.mem_of_getElem? hget
    have hnew : RelayTrace.repliesTo e.stamp [a] =
        if e.isConfirmed conf latest then [reply i] else [] := by
      rw [← @filter_verified conf latest reply _ hnd i e hget]
      simp [RelayTrace.repliesTo, hverified]
    rw [stamp_of_fate hfate, RelayTrace.repliesTo_append, hnew]
    exact absentChecks_of_fate (h.streak e hmem) (h.lt_max e hmem) hfate
  refine ⟨?_, ?_, ?_, fun e' he' => (hcounter e' he').1, fun e' he' => (hcounter e' he').2⟩
  · rw [hhs, hpending, List.append_assoc]
    refine List.nodup_append.mpr ⟨(List.nodup_append.mp h.nodup).1, hstep, ?_⟩
    intro k hk m hm
    exact hdisj k hk m (hold m hm)
  · intro k hk
    rw [hhs, hpending, List.append_assoc, List.mem_append] at hk
    rw [hnext]
    rcases hk with hk | hk
    · exact h.lt_next k (List.mem_append_left _ hk)
    · exact h.lt_next k (List.mem_append_right _ (hold k hk))
  · intro k hk
    rw [hnext] at hk
    rw [RelayTrace.repliesTo_append, h.unseen k hk, List.nil_append]
    -- an entry that was asked about is pending, so its number is below `next`
    simp only [RelayTrace.repliesTo, List.flatMap_singleton, hverified, List.map_eq_nil_iff,
      List.filter_eq_nil_iff, decide_eq_true_eq]
    rintro ⟨e, r⟩ hv rfl
    obtain ⟨i, hget, -⟩ := mem_verified.mp hv
    have hmem : e.stamp ∈ s.relay.pending.map PendingEvent.stamp :=
      List.mem_map_of_mem (List.mem_of_getElem? hget)
    have hlt := h.lt_next e.stamp (List.mem_append_right _ hmem)
    exact absurd hlt (Nat.not_lt.mpr hk)

/-- The pending list of every state reached is explained by the trace that led to it. -/
theorem relayHistory_of_run {c : RelayClient} {tr : RelayTrace} {s : StampedState}
    (h : (stampedSystem c).Run tr s) : RelayHistory tr s := by
  refine h.induction ?_ ?_
  · rintro s rfl
    refine ⟨by simp [RelayTrace.handedStamps, RelayState.new], ?_, fun k _ => rfl, ?_, ?_⟩
    · intro k hk
      simp [RelayTrace.handedStamps, RelayState.new] at hk
    · intro e he
      simp [RelayState.new] at he
    · intro e he
      simp [RelayState.new] at he
  · rintro tr s ⟨i, o⟩ s' - ih hstep
    have hs' : (stampedHandle c s i).1 = s' := congrArg Prod.fst hstep
    have ho : (stampedHandle c s i).2 = o := congrArg Prod.snd hstep
    have hnext : s'.next = s.next + i.delivered := by rw [← hs']; rfl
    rcases stampedHandle_cases c s i with
      ⟨new, hp, hst, hz, hv, hh⟩ | ⟨latest, reply, rfl, hp, hv, hh⟩
    · rw [hs'] at hp
      rw [ho] at hv hh
      exact ih.append hv hh hp hnext hst fun e he => (hz e he).1
    · rw [hs'] at hp
      rw [ho] at hv hh
      exact ih.check hv hh (by rw [hp]) hnext

/-! ### The life of a queued entry -/

/-- Nothing but a handover or too long an absence takes an entry out of the list. -/
lemma fate_eq_none_cases {conf latest : ℕ} {reply : VerifyReply} {e : PendingEvent L}
    (hlt : e.absentChecks < maxAbsentChecks) (h : e.fate conf latest reply = none) :
    e.isConfirmed conf latest = true ∧
      (reply = .ok (some e.blockNumber) ∨
        (reply = .ok none ∧ e.absentChecks + 1 = maxAbsentChecks)) := by
  unfold PendingEvent.fate at h
  by_cases hconf : e.isConfirmed conf latest = true
  · rw [if_pos hconf] at h
    refine ⟨hconf, ?_⟩
    rcases reply with report | _ | b
    · simp at h
    · by_cases hmax : saturatingSucc e.absentChecks ≥ maxAbsentChecks
      · rw [saturatingSucc_of_lt hlt] at hmax
        exact .inr ⟨rfl, by omega⟩
      · simp [hmax] at h
    · by_cases hb : b = e.blockNumber
      · exact .inl (by rw [hb])
      · simp [hb] at h
  · simp [hconf] at h

/-- The life of the entries of `pending_events`, at every step of every run:
an entry is handed over only in a check that found its transaction at its own height, with enough
confirmations; it leaves only so, or on the `MAX_ABSENT_CHECKS`-th absence in a row; it is handed
over at most once; and a check applies to all entries their own fate, in order, while every other
turn only appends. -/
theorem pendingEvents_lifecycle (c : RelayClient) {tr : RelayTrace} {s s' : StampedState}
    {a : RelayInput Log × RelayOutput StampedLog} (hrun : (stampedSystem c).Run tr s)
    (hstep : (stampedSystem c).step s a s') :
    (∀ e ∈ a.2.handed, e ∈ s.relay.pending ∧ ∃ latest reply, a.1 = .check (.ok latest) reply ∧
      (e, .ok (some e.blockNumber)) ∈ a.2.verified ∧
      latest - e.blockNumber ≥ c.blockConfirmations ∧
      (0 < c.blockConfirmations → e.blockNumber + c.blockConfirmations ≤ latest)) ∧
    (∀ e ∈ s.relay.pending, e.stamp ∉ s'.relay.pending.map PendingEvent.stamp →
      e ∈ a.2.handed ∨
        ((e, .ok none) ∈ a.2.verified ∧
          absentStreak (RelayTrace.repliesTo e.stamp (tr ++ [a])) = maxAbsentChecks)) ∧
    (∀ e ∈ s'.relay.pending, e.absentChecks < maxAbsentChecks ∧
      e.absentChecks = absentStreak (RelayTrace.repliesTo e.stamp (tr ++ [a]))) ∧
    (RelayTrace.handedStamps (tr ++ [a])).Nodup ∧
    ((∃ latest reply, a.1 = .check (.ok latest) reply ∧
        s'.relay.pending = (s.relay.pending.mapIdx fun i e =>
          e.fate c.blockConfirmations latest (reply i)).reduceOption) ∨
      (∃ new, s'.relay.pending = s.relay.pending ++ new ∧ a.2.handed = [] ∧
        ∀ e ∈ new, e.absentChecks = 0 ∧ ∃ logs, a.1 = .event e.blockNumber logs)) := by
  obtain ⟨i, o⟩ := a
  have hs' : (stampedHandle c s i).1 = s' := congrArg Prod.fst hstep
  have ho : (stampedHandle c s i).2 = o := congrArg Prod.snd hstep
  have hold := relayHistory_of_run hrun
  have hnew := relayHistory_of_run (.snoc hrun hstep)
  have hnd := (List.nodup_append.mp hold.nodup).2.1
  rcases stampedHandle_cases c s i with ⟨new, hp, -, hz, hv, hh⟩ | ⟨latest, reply, rfl, hp, hv, hh⟩
  · rw [hs'] at hp
    rw [ho] at hv hh
    refine ⟨?_, ?_, fun e he => ⟨hnew.lt_max e he, hnew.streak e he⟩,
      (List.nodup_append.mp hnew.nodup).1, .inr ⟨new, hp, hh, hz⟩⟩
    · intro e he
      rw [hh] at he
      simp at he
    · intro e he hgone
      refine absurd (List.mem_map_of_mem ?_) hgone
      rw [hp]
      exact List.mem_append_left _ he
  · rw [hs'] at hp
    rw [ho] at hv hh
    have hp' := congrArg (fun s => s.relay.pending) hp
    simp only [checkPending_ok] at hp'
    refine ⟨?_, ?_, fun e he => ⟨hnew.lt_max e he, hnew.streak e he⟩,
      (List.nodup_append.mp hnew.nodup).1, .inl ⟨latest, reply, rfl, hp'⟩⟩
    · intro e he
      rw [hh] at he
      obtain ⟨j, hget, hconf, hreply⟩ := mem_handed.mp he
      have hdepth : latest - e.blockNumber ≥ c.blockConfirmations := of_decide_eq_true hconf
      refine ⟨List.mem_of_getElem? hget, latest, reply, rfl, ?_, hdepth, fun hpos => by omega⟩
      rw [hv]
      exact mem_verified.mpr ⟨j, hget, hconf, hreply⟩
    · intro e he hgone
      obtain ⟨j, hget⟩ := List.mem_iff_getElem?.mp he
      have hfate : e.fate c.blockConfirmations latest (reply j) = none := by
        rw [Option.eq_none_iff_forall_ne_some]
        intro e' hfate
        refine hgone (List.mem_map.mpr ⟨e', ?_, stamp_of_fate hfate⟩)
        rw [hp']
        exact mem_reduceOption_mapIdx.mpr ⟨j, e, hget, hfate⟩
      obtain ⟨hconf, hreply | ⟨hreply, hmax⟩⟩ := fate_eq_none_cases (hold.lt_max e he) hfate
      · refine .inl ?_
        rw [hh]
        exact mem_handed.mpr ⟨j, hget, hconf, hreply⟩
      · refine .inr ⟨?_, ?_⟩
        · rw [hv]
          exact mem_verified.mpr ⟨j, hget, hconf, hreply⟩
        · have hasked :
                RelayTrace.repliesTo e.stamp [(.check (.ok latest) reply, o)] = [.ok none] := by
            have hfilter := @filter_verified c.blockConfirmations latest reply _ hnd j e hget
            rw [if_pos hconf, hreply] at hfilter
            simpa [RelayTrace.repliesTo, hv] using hfilter
          rw [RelayTrace.repliesTo_append, hasked, absentStreak_concat, ← hold.streak e he, hmax]

/-- A client that waits for two confirmations. -/
def sampleClient : RelayClient where
  chainId := 1
  ifDestinationChain := .outbound
  blockConfirmations := 2
  socket := ⟨FixedBytes.repeatByte 20 7⟩
  bitcoinSocket := none
  signatureHash := FixedBytes.repeatByte 32 9

/-- The transaction that makes the request. -/
def sampleHash : B256 := FixedBytes.repeatByte 32 1

/-- The log of the request. -/
def requestLog (sequence : BitVec 128) : Log where
  address := sampleClient.socket
  topics := [sampleClient.signatureHash]
  data := (sampleRequest 1 sequence).toVec
  blockHash := none
  transactionHash := some sampleHash
  logIndex := some 0

/-- A request waits for confirmations. -/
lemma route_requestLog (sequence : BitVec 128) :
    sampleClient.route (requestLog sequence) = .queued := by
  have hdec : (requestLog sequence).decodeSocket sampleClient.signatureHash =
      .ok (sampleRequest 1 sequence) := by
    have htopics : (requestLog sequence).topics = [sampleClient.signatureHash] := rfl
    unfold Log.decodeSocket
    rw [if_pos htopics]
    exact socketAbiDecodeData_toVec _
  have himm : sampleClient.shouldProcessImmediately (requestLog sequence) = some (some false) := by
    unfold RelayClient.shouldProcessImmediately
    rw [hdec]
    rfl
  have htarget : (sampleClient.isTargetContract (requestLog sequence) &&
      sampleClient.isTargetEvent (requestLog sequence).topic0) = true := by
    simp [RelayClient.isTargetContract, RelayClient.isTargetEvent, requestLog, Log.topic0,
      sampleClient]
  unfold RelayClient.route
  rw [if_pos htarget, himm]

/-- The entry of the request that was delivered as the given one, waiting in a block. -/
def requestEntry (stamp blockNumber : ℕ) : PendingEvent StampedLog :=
  ⟨(stamp, requestLog (.ofNat 128 stamp)), blockNumber, 0⟩

/-- Two requests are delivered from block 10 and one from block 11.  At head 12 the first two are
verified.  The first one is handed over, and the second one was mined again in block 11. -/
theorem pendingEvents_lifecycle_handover :
    ∃ (tr : RelayTrace) (s s' : StampedState) (a : RelayInput Log × RelayOutput StampedLog),
      (stampedSystem sampleClient).Run tr s ∧ (stampedSystem sampleClient).step s a s' ∧
      s.relay.pending = [requestEntry 0 10, requestEntry 1 10, requestEntry 2 11] ∧
      a.2.handed = [requestEntry 0 10] ∧
      s'.relay.pending = [requestEntry 1 11, requestEntry 2 11] ∧
      (RelayTrace.handedStamps (tr ++ [a])).Nodup := by
  have htwo : stampedHandle sampleClient ⟨.new, 0⟩ (.event 10 [requestLog 0, requestLog 1]) =
      (⟨⟨[requestEntry 0 10, requestEntry 1 10], false⟩, 2⟩, ⟨[], [], []⟩) := by
    simp [stampedHandle, RelayInput.stamped, RelayInput.delivered, handle, deliver,
      RelayState.new, route_requestLog, requestEntry]
  have hthree : stampedHandle sampleClient ⟨⟨[requestEntry 0 10, requestEntry 1 10], false⟩, 2⟩
      (.event 11 [requestLog 2]) =
        (⟨⟨[requestEntry 0 10, requestEntry 1 10, requestEntry 2 11], false⟩, 3⟩,
          ⟨[], [], []⟩) := by
    simp [stampedHandle, RelayInput.stamped, RelayInput.delivered, handle, deliver,
      route_requestLog, requestEntry]
  have hcheck : checkPending 2 (.ok 12) (fun idx => .ok (some (10 + idx)))
      [requestEntry 0 10, requestEntry 1 10, requestEntry 2 11] =
        { pending := [requestEntry 1 11, requestEntry 2 11]
          verified := [(requestEntry 0 10, .ok (some 10)), (requestEntry 1 10, .ok (some 11))]
          handed := [requestEntry 0 10] } := by
    rw [checkPending_ok]
    rfl
  have hrun : (stampedSystem sampleClient).Run
      [(.event 10 [requestLog 0, requestLog 1], ⟨[], [], []⟩),
        (.event 11 [requestLog 2], ⟨[], [], []⟩)]
      ⟨⟨[requestEntry 0 10, requestEntry 1 10, requestEntry 2 11], false⟩, 3⟩ :=
    .snoc (.snoc (.start rfl) htwo) hthree
  have hstep : (stampedSystem sampleClient).step
      ⟨⟨[requestEntry 0 10, requestEntry 1 10, requestEntry 2 11], false⟩, 3⟩
      (.check (.ok 12) fun idx => .ok (some (10 + idx)),
        ⟨[], [(requestEntry 0 10, .ok (some 10)), (requestEntry 1 10, .ok (some 11))],
          [requestEntry 0 10]⟩)
      ⟨⟨[requestEntry 1 11, requestEntry 2 11], false⟩, 3⟩ := by
    show stampedHandle _ _ _ = _
    simp [stampedHandle, RelayInput.stamped, RelayInput.delivered, handle, sampleClient, hcheck]
  exact ⟨_, _, _, _, hrun, hstep, rfl, rfl, rfl,
    (pendingEvents_lifecycle sampleClient hrun hstep).2.2.2.1⟩

end SocketRelay

end BifrostRelayer
