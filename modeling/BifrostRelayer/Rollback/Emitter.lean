import BifrostRelayer.Foundation.Runs
import BifrostRelayer.Primitives.Socket

/-!
# The rollback emitter

`SocketRollbackEmitter` keeps the relayed messages that may have to be rolled back.  Every few
minutes `run` makes a pass: it reads the time of the latest block, receives the new messages, and
asks for every tracked message whether it is done; if it is not, and the message has waited long
enough, a rollback transaction is requested.  The handled messages are removed at the end of the
pass.  Any call may fail; `run` then returns and is called again on the same instance.

The messages are kept in a map from the sequence of the request to the message.  `RollbackMsgs`
carries this as a field.
-/

namespace BifrostRelayer

namespace Rollback

/-! ### The tracked messages -/

/-- `RawRequestID`: the sequence of a request. -/
abbrev RawRequestId : Type := BitVec 128

/-- `RollbackableMessage`. -/
structure RollbackableMessage where
  timeoutStartedAt : ℕ
  socketMsg : SocketMessage
deriving DecidableEq

/-- `rollback_msgs`: every message is stored under its own sequence. -/
structure RollbackMsgs where
  map : Std.TreeMap RawRequestId RollbackableMessage
  key_eq : ∀ (k : RawRequestId) (e : RollbackableMessage), map[k]? = some e →
    e.socketMsg.reqId.sequence = k

namespace RollbackMsgs

/-- No message is tracked. -/
def empty : RollbackMsgs := ⟨∅, fun k e h => by simp at h⟩

/-- The message tracked under a sequence. -/
def get? (msgs : RollbackMsgs) (k : RawRequestId) : Option RollbackableMessage := msgs.map[k]?

/-- Store a message under its sequence. -/
def insert (msgs : RollbackMsgs) (e : RollbackableMessage) : RollbackMsgs where
  map := msgs.map.insert e.socketMsg.reqId.sequence e
  key_eq k e' h := by
    rw [Std.TreeMap.getElem?_insert] at h
    split at h
    · rename_i hk
      obtain rfl := Option.some.inj h
      simpa using hk
    · exact msgs.key_eq k e' h

/-- Remove the message under a sequence. -/
def erase (msgs : RollbackMsgs) (k : RawRequestId) : RollbackMsgs where
  map := msgs.map.erase k
  key_eq k' e h := by
    rw [Std.TreeMap.getElem?_erase] at h
    split at h
    · simp at h
    · exact msgs.key_eq k' e h

/-- The tracked messages in the order of their sequences, as the loop of a pass visits them. -/
def entries (msgs : RollbackMsgs) : List (RawRequestId × RollbackableMessage) := msgs.map.toList

end RollbackMsgs

/-! ### Configuration and replies -/

/-- What the emitter reads of its clients. -/
structure EmitterConfig where
  /-- `client.get_bitcoin_chain_id()`. -/
  bitcoinChainId : Option ChainId
  /-- The configured clients with their `if_destination_chain`. -/
  systemClients : ChainId → Option RelayDirection
  /-- One of the configured clients is the native one. -/
  hasNative : Bool

/-- What is read of a `RequestInfo`: the bytes of `field`. -/
structure RequestInfo where
  field : B256

/-- The byte of a request that holds its status, `field[0]`. -/
def RequestInfo.status (info : RequestInfo) : BitVec 8 :=
  (info.field.val.headD 0).toBitVec

/-- The replies that the calls for one tracked message get. -/
structure EntryReplies where
  /-- `get_request` on the source chain. -/
  src : Except Report RequestInfo
  /-- `get_request` on the destination chain. -/
  dst : Except Report RequestInfo
  /-- `get_signatures` on the Bifrost chain. -/
  signatures : Except Report Unit

/-- The result of code that may return an error or panic. -/
inductive Outcome (α : Type) where
  | ok (a : α)
  | failed (report : Report)
  | panicked
deriving DecidableEq

namespace EmitterConfig

/-- `ROLLBACK_CHECK_MINIMUM_INTERVAL`. -/
def rollbackCheckMinimumInterval : ℕ := 3 * 60

/-- `is_inbound_sequence`. -/
def isInboundSequence (cfg : EmitterConfig) (dstChainId : ChainId) : Bool :=
  match cfg.systemClients dstChainId with
  | some direction => decide (direction = .inbound)
  | none => false

/-- `is_request_timeout`. -/
def isRequestTimeout (timeoutStartedAt currentTimestamp : ℕ) : Bool :=
  decide (currentTimestamp - timeoutStartedAt ≥ rollbackCheckMinimumInterval)

/-- `get_socket_request`. -/
def getSocketRequest (cfg : EmitterConfig) (chainId : ChainId) (reply : Except Report RequestInfo) :
    Except Report (Option RequestInfo) :=
  match cfg.systemClients chainId with
  | some _ =>
      match reply with
      | .ok info => .ok (some info)
      | .error report => .error report
  | none => .ok none

/-- A source status that ends a request. -/
def isSrcDone : SocketEventStatus → Bool
  | .committed => true
  | .rollbacked => true
  | _ => false

/-- A destination status that ends a request, for an inbound or another message. -/
def isDstDone (isInbound : Bool) : SocketEventStatus → Bool
  | .executed => true
  | .reverted => true
  | .accepted => isInbound
  | .rejected => isInbound
  | _ => false

/-- `is_request_executed`. -/
def isRequestExecuted (cfg : EmitterConfig) (replies : EntryReplies) (socketMsg : SocketMessage) :
    Outcome Bool :=
  match cfg.getSocketRequest socketMsg.srcChainId replies.src with
  | .error report => .failed report
  | .ok srcRequest =>
      match cfg.getSocketRequest socketMsg.dstChainId replies.dst with
      | .error report => .failed report
      | .ok dstRequest =>
          match srcRequest, dstRequest with
          | some srcRequest, some dstRequest =>
              match SocketEventStatus.ofU8 srcRequest.status,
                SocketEventStatus.ofU8 dstRequest.status with
              | some srcStatus, some dstStatus =>
                  .ok (isSrcDone srcStatus ||
                    isDstDone (cfg.isInboundSequence socketMsg.dstChainId) dstStatus)
              | _, _ => .panicked
          | _, _ => .ok false

/-- `try_rollback`: `ok` if a rollback transaction was requested.  Both `build_poll_request` and
`get_sorted_signatures` call `get_client`, which panics without a native client. -/
def tryRollback (cfg : EmitterConfig) (replies : EntryReplies) (socketMsg : SocketMessage) :
    Outcome Unit :=
  match SocketEventStatus.ofU8 socketMsg.status with
  | some .requested => if cfg.hasNative then .ok () else .panicked
  | some .accepted =>
      if cfg.hasNative then
        match replies.signatures with
        | .ok _ => .ok ()
        | .error report => .failed report
      else .panicked
  | _ => .panicked

/-- The filter of `receive` for Bitcoin bridges. -/
def involvesBitcoin (cfg : EmitterConfig) (msg : SocketMessage) : Bool :=
  match cfg.bitcoinChainId with
  | some bitcoinChainId =>
      decide (msg.srcChainId = bitcoinChainId) || decide (msg.dstChainId = bitcoinChainId)
  | none => false

end EmitterConfig

/-! ### A pass -/

/-- `receive`: the messages tracked afterwards, and those newly stored. -/
def receive (cfg : EmitterConfig) (currentTimestamp : ℕ) :
    RollbackMsgs → List SocketMessage → RollbackMsgs × List RollbackableMessage
  | msgs, [] => (msgs, [])
  | msgs, msg :: inbox =>
      if cfg.involvesBitcoin msg then receive cfg currentTimestamp msgs inbox
      else
        match msgs.get? msg.reqId.sequence with
        | some _ => receive cfg currentTimestamp msgs inbox
        | none =>
            let e : RollbackableMessage := ⟨currentTimestamp, msg⟩
            let r := receive cfg currentTimestamp (msgs.insert e) inbox
            (r.1, e :: r.2)

/-- What the loop over the tracked messages did. -/
structure LoopResult where
  /-- The calls of `try_rollback`. -/
  tried : List (RawRequestId × RollbackableMessage)
  /-- The rollback transactions requested. -/
  requested : List RawRequestId
  handledReqIds : List RawRequestId
  outcome : Outcome Unit

/-- The loop of a pass over the tracked messages. -/
def checkEntries (cfg : EmitterConfig) (timestamp : ℕ) (replies : RawRequestId → EntryReplies) :
    List (RawRequestId × RollbackableMessage) → LoopResult
  | [] => ⟨[], [], [], .ok ()⟩
  | (reqId, e) :: rest =>
      match cfg.isRequestExecuted (replies reqId) e.socketMsg with
      | .failed report => ⟨[], [], [], .failed report⟩
      | .panicked => ⟨[], [], [], .panicked⟩
      | .ok true =>
          let r := checkEntries cfg timestamp replies rest
          { r with handledReqIds := reqId :: r.handledReqIds }
      | .ok false =>
          if EmitterConfig.isRequestTimeout e.timeoutStartedAt timestamp then
            match cfg.tryRollback (replies reqId) e.socketMsg with
            | .failed report => ⟨[(reqId, e)], [], [], .failed report⟩
            | .panicked => ⟨[(reqId, e)], [], [], .panicked⟩
            | .ok _ =>
                let r := checkEntries cfg timestamp replies rest
                { r with
                  tried := (reqId, e) :: r.tried
                  requested := reqId :: r.requested
                  handledReqIds := reqId :: r.handledReqIds }
          else checkEntries cfg timestamp replies rest

/-- The inputs of a pass. -/
structure PassInput where
  /-- The timestamp of the latest block; `get_block` may find none, and either call may fail. -/
  latestBlock : Except Report (Option ℕ)
  /-- The messages waiting in the channel. -/
  inbox : List SocketMessage
  replies : RawRequestId → EntryReplies

/-- The calls and the changes of a pass, in order. -/
structure PassOutput where
  /-- The messages newly stored. -/
  inserted : List RollbackableMessage
  /-- The calls of `try_rollback`. -/
  tried : List (RawRequestId × RollbackableMessage)
  /-- The rollback transactions requested. -/
  requested : List RawRequestId
  /-- The sequences removed at the end. -/
  removed : List RawRequestId

/-- The emitter; a panic ends its task for good. -/
structure EmitterState where
  msgs : RollbackMsgs
  panicked : Bool

/-- One pass of `run`.  A failed call ends it early, and the handled messages are then not
removed. -/
def pass (cfg : EmitterConfig) (s : EmitterState) (i : PassInput) : EmitterState × PassOutput :=
  if s.panicked then (s, ⟨[], [], [], []⟩)
  else
    match i.latestBlock with
    | .error _ => (s, ⟨[], [], [], []⟩)
    | .ok none => (s, ⟨[], [], [], []⟩)
    | .ok (some timestamp) =>
        let received := receive cfg timestamp s.msgs i.inbox
        let r := checkEntries cfg timestamp i.replies received.1.entries
        match r.outcome with
        | .ok _ =>
            (⟨r.handledReqIds.foldl RollbackMsgs.erase received.1, false⟩,
              ⟨received.2, r.tried, r.requested, r.handledReqIds⟩)
        | .failed _ => (⟨received.1, false⟩, ⟨received.2, r.tried, r.requested, []⟩)
        | .panicked => (⟨received.1, true⟩, ⟨received.2, r.tried, r.requested, []⟩)

/-- A trace of passes. -/
abbrev EmitterTrace : Type := List (PassInput × PassOutput)

/-- The runs of the emitter, over all restarts of `run`. -/
def emitterSystem (cfg : EmitterConfig) : LabelledSystem EmitterState (PassInput × PassOutput) :=
  .ofHandler ⟨.empty, false⟩ (pass cfg)

/-! ### The map -/

namespace RollbackMsgs

/-- Nothing is tracked at the start. -/
@[simp] lemma get?_empty (k : RawRequestId) : empty.get? k = none := by
  simp [empty, get?]

/-- A tracked message is found under its own sequence. -/
lemma sequence_of_get? {msgs : RollbackMsgs} {k : RawRequestId} {e : RollbackableMessage}
    (h : msgs.get? k = some e) : e.socketMsg.reqId.sequence = k :=
  msgs.key_eq k e h

/-- Inserting a message under its own sequence. -/
lemma get?_insert (msgs : RollbackMsgs) (e : RollbackableMessage) (k : RawRequestId) :
    (msgs.insert e).get? k =
      if e.socketMsg.reqId.sequence = k then some e else msgs.get? k := by
  simp [get?, insert, Std.TreeMap.getElem?_insert]

lemma get?_erase (msgs : RollbackMsgs) (k k' : RawRequestId) :
    (msgs.erase k).get? k' = if k = k' then none else msgs.get? k' := by
  simp [get?, erase, Std.TreeMap.getElem?_erase]

/-- Removing several sequences. -/
lemma get?_foldl_erase (msgs : RollbackMsgs) (ks : List RawRequestId) (k : RawRequestId) :
    (ks.foldl erase msgs).get? k = if k ∈ ks then none else msgs.get? k := by
  induction ks generalizing msgs with
  | nil => simp
  | cons k' ks ih =>
    rw [List.foldl_cons, ih, get?_erase]
    by_cases hk : k ∈ ks
    · simp [hk]
    · by_cases hkk : k' = k
      · simp [hkk]
      · simp [hk, hkk, Ne.symm hkk]

lemma mem_entries {msgs : RollbackMsgs} {k : RawRequestId} {e : RollbackableMessage} :
    (k, e) ∈ msgs.entries ↔ msgs.get? k = some e :=
  Std.TreeMap.mem_toList_iff_getElem?_eq_some

/-- A pass visits every tracked message once. -/
lemma nodup_entries (msgs : RollbackMsgs) : (msgs.entries.map Prod.fst).Nodup := by
  have h := Std.TreeMap.distinct_keys_toList (t := msgs.map)
  rw [List.Nodup, List.pairwise_map]
  refine h.imp ?_
  intro a b hab heq
  exact hab (by rw [heq]; exact Std.ReflCmp.compare_self)

end RollbackMsgs

/-! ### What is received -/

/-- The message of the inbox that is stored under a sequence, if the sequence is free. -/
def firstReceived (cfg : EmitterConfig) (inbox : List SocketMessage) (k : RawRequestId) :
    Option SocketMessage :=
  inbox.find? fun msg => !cfg.involvesBitcoin msg && decide (msg.reqId.sequence = k)

/-- After `receive` a sequence holds what it held before, else the first message with it. -/
theorem get?_receive (cfg : EmitterConfig) (ts : ℕ) (msgs : RollbackMsgs)
    (inbox : List SocketMessage) (k : RawRequestId) :
    (receive cfg ts msgs inbox).1.get? k =
      (msgs.get? k).or ((firstReceived cfg inbox k).map fun msg => ⟨ts, msg⟩) := by
  induction inbox generalizing msgs with
  | nil => simp [receive, firstReceived]
  | cons msg inbox ih =>
    by_cases hbtc : cfg.involvesBitcoin msg = true
    · simp [receive, firstReceived, hbtc, ih]
    · have hbtc' : cfg.involvesBitcoin msg = false := by simpa using hbtc
      by_cases hk : msg.reqId.sequence = k
      · subst hk
        cases hget : msgs.get? msg.reqId.sequence with
        | some e => simp [receive, hbtc', hget, ih]
        | none =>
          simp [receive, firstReceived, hbtc', hget, ih, RollbackMsgs.get?_insert]
      · cases hget : msgs.get? msg.reqId.sequence with
        | some e => simp [receive, firstReceived, hbtc', hget, ih, hk]
        | none =>
          simp [receive, firstReceived, hbtc', hget, ih, hk, RollbackMsgs.get?_insert]

/-- The newly stored messages are those under sequences that were free, with the time of the
pass. -/
theorem mem_inserted_receive {cfg : EmitterConfig} {ts : ℕ} {msgs : RollbackMsgs}
    {inbox : List SocketMessage} {e : RollbackableMessage} :
    e ∈ (receive cfg ts msgs inbox).2 ↔
      msgs.get? e.socketMsg.reqId.sequence = none ∧ e.timeoutStartedAt = ts ∧
        firstReceived cfg inbox e.socketMsg.reqId.sequence = some e.socketMsg := by
  induction inbox generalizing msgs with
  | nil => simp [receive, firstReceived]
  | cons msg inbox ih =>
    by_cases hbtc : cfg.involvesBitcoin msg = true
    · simp [receive, firstReceived, hbtc, ih]
    · have hbtc' : cfg.involvesBitcoin msg = false := by simpa using hbtc
      cases hget : msgs.get? msg.reqId.sequence with
      | some e' =>
        by_cases hk : msg.reqId.sequence = e.socketMsg.reqId.sequence
        · simp [receive, hbtc', hget, ih, ← hk]
        · simp [receive, firstReceived, hbtc', hget, ih, hk]
      | none =>
        simp only [receive, hbtc', hget, Bool.false_eq_true, if_false, List.mem_cons, ih,
          RollbackMsgs.get?_insert]
        by_cases hk : msg.reqId.sequence = e.socketMsg.reqId.sequence
        · have hfirst : firstReceived cfg (msg :: inbox) e.socketMsg.reqId.sequence = some msg := by
            simp [firstReceived, hbtc', hk]
          rw [hfirst, ← hk, hget]
          constructor
          · rintro (rfl | ⟨habsurd, -⟩)
            · simp
            · simp at habsurd
          · rintro ⟨-, rfl, hmsg⟩
            left
            rw [Option.some.inj hmsg]
        · have hfirst : firstReceived cfg (msg :: inbox) e.socketMsg.reqId.sequence =
              firstReceived cfg inbox e.socketMsg.reqId.sequence := by
            simp [firstReceived, hk]
          rw [hfirst, if_neg hk]
          constructor
          · rintro (rfl | h)
            · exact absurd rfl hk
            · exact h
          · exact .inr

/-! ### What the loop does -/

section Loop

variable (cfg : EmitterConfig) (timestamp : ℕ) (replies : RawRequestId → EntryReplies)

/-- A tracked message is due for rollback: it is not found executed, and it waited long enough. -/
def isDue (x : RawRequestId × RollbackableMessage) : Bool :=
  decide (cfg.isRequestExecuted (replies x.1) x.2.socketMsg = .ok false) &&
    EmitterConfig.isRequestTimeout x.2.timeoutStartedAt timestamp

/-- How the turn of the loop for a tracked message ends; after `ok` the loop goes on. -/
def visit (x : RawRequestId × RollbackableMessage) : Outcome Unit :=
  match cfg.isRequestExecuted (replies x.1) x.2.socketMsg with
  | .failed report => .failed report
  | .panicked => .panicked
  | .ok true => .ok ()
  | .ok false =>
      if EmitterConfig.isRequestTimeout x.2.timeoutStartedAt timestamp then
        cfg.tryRollback (replies x.1) x.2.socketMsg
      else .ok ()

/-- The messages whose turn completes before the loop ends. -/
def completedEntries (l : List (RawRequestId × RollbackableMessage)) :
    List (RawRequestId × RollbackableMessage) :=
  l.takeWhile fun x => decide (visit cfg timestamp replies x = .ok ())

/-- The messages that the loop reaches: those completed, and the one that ends it early. -/
def reachedEntries (l : List (RawRequestId × RollbackableMessage)) :
    List (RawRequestId × RollbackableMessage) :=
  completedEntries cfg timestamp replies l ++
    (l.dropWhile fun x => decide (visit cfg timestamp replies x = .ok ())).take 1

/-- A turn that completes: a due message is tried and requested, and the loop goes on. -/
lemma checkEntries_cons_of_ok {x : RawRequestId × RollbackableMessage}
    (rest : List (RawRequestId × RollbackableMessage))
    (h : visit cfg timestamp replies x = .ok ()) :
    let r := checkEntries cfg timestamp replies rest
    let r' := checkEntries cfg timestamp replies (x :: rest)
    r'.tried = [x].filter (isDue cfg timestamp replies) ++ r.tried ∧
      r'.requested = ([x].filter (isDue cfg timestamp replies)).map Prod.fst ++ r.requested ∧
      (∀ k ∈ r.handledReqIds, k ∈ r'.handledReqIds) ∧
      (isDue cfg timestamp replies x = true → x.1 ∈ r'.handledReqIds) ∧
      r'.outcome = r.outcome := by
  obtain ⟨k, e⟩ := x
  cases hex : cfg.isRequestExecuted (replies k) e.socketMsg with
  | failed report => simp [visit, hex] at h
  | panicked => simp [visit, hex] at h
  | ok executed =>
    cases executed with
    | true =>
      have hdue : isDue cfg timestamp replies (k, e) = false := by simp [isDue, hex]
      simpa [checkEntries, hex, hdue] using fun k' hk' => .inr hk'
    | false =>
      by_cases htime : EmitterConfig.isRequestTimeout e.timeoutStartedAt timestamp = true
      · have hdue : isDue cfg timestamp replies (k, e) = true := by simp [isDue, hex, htime]
        have htry : cfg.tryRollback (replies k) e.socketMsg = .ok () := by
          simpa [visit, hex, htime] using h
        simpa [checkEntries, hex, htime, htry, hdue] using fun k' hk' => .inr hk'
      · have hdue : isDue cfg timestamp replies (k, e) = false := by simp [isDue, hex, htime]
        simp [checkEntries, hex, htime, hdue]

/-- A turn that ends the loop: a due message is tried, and nothing is requested or handled. -/
lemma checkEntries_cons_of_ne_ok {x : RawRequestId × RollbackableMessage}
    (rest : List (RawRequestId × RollbackableMessage))
    (h : visit cfg timestamp replies x ≠ .ok ()) :
    checkEntries cfg timestamp replies (x :: rest) =
      ⟨[x].filter (isDue cfg timestamp replies), [], [], visit cfg timestamp replies x⟩ := by
  obtain ⟨k, e⟩ := x
  cases hex : cfg.isRequestExecuted (replies k) e.socketMsg with
  | failed report => simp [checkEntries, visit, isDue, hex]
  | panicked => simp [checkEntries, visit, isDue, hex]
  | ok executed =>
    cases executed with
    | true => simp [visit, hex] at h
    | false =>
      by_cases htime : EmitterConfig.isRequestTimeout e.timeoutStartedAt timestamp = true
      · cases htry : cfg.tryRollback (replies k) e.socketMsg with
        | failed report => simp [checkEntries, visit, isDue, hex, htime, htry]
        | panicked => simp [checkEntries, visit, isDue, hex, htime, htry]
        | ok u => simp [visit, hex, htime, htry] at h
      · simp [visit, hex, htime] at h

/-- The loop tries exactly the due messages that it reaches, and requests a rollback for those whose
turn completes. -/
theorem checkEntries_eq (l : List (RawRequestId × RollbackableMessage)) :
    (checkEntries cfg timestamp replies l).tried =
        (reachedEntries cfg timestamp replies l).filter (isDue cfg timestamp replies) ∧
      (checkEntries cfg timestamp replies l).requested =
        ((completedEntries cfg timestamp replies l).filter (isDue cfg timestamp replies)).map
          Prod.fst ∧
      (∀ k ∈ (checkEntries cfg timestamp replies l).requested,
        k ∈ (checkEntries cfg timestamp replies l).handledReqIds) ∧
      (∀ report, (checkEntries cfg timestamp replies l).outcome = .failed report →
        ∃ x, (l.dropWhile fun x => decide (visit cfg timestamp replies x = .ok ())).head? = some x ∧
          visit cfg timestamp replies x = .failed report) := by
  induction l with
  | nil => simp [checkEntries, reachedEntries, completedEntries]
  | cons x rest ih =>
    obtain ⟨ihtried, ihreq, ihhandled, ihfail⟩ := ih
    by_cases hvisit : visit cfg timestamp replies x = .ok ()
    · obtain ⟨htried, hreq, hmono, hself, hout⟩ :=
        checkEntries_cons_of_ok cfg timestamp replies rest hvisit
      have hcompleted : completedEntries cfg timestamp replies (x :: rest) =
          x :: completedEntries cfg timestamp replies rest := by
        simp [completedEntries, hvisit]
      have hreached : reachedEntries cfg timestamp replies (x :: rest) =
          x :: reachedEntries cfg timestamp replies rest := by
        simp [reachedEntries, completedEntries, hvisit]
      refine ⟨?_, ?_, ?_, ?_⟩
      · rw [htried, ihtried, hreached, ← List.filter_append, List.singleton_append]
      · rw [hreq, ihreq, hcompleted, ← List.map_append, ← List.filter_append,
          List.singleton_append]
      · intro k hk
        rw [hreq] at hk
        rcases List.mem_append.mp hk with hk | hk
        · obtain ⟨y, hy, rfl⟩ := List.mem_map.mp hk
          obtain ⟨hy, hdue⟩ := List.mem_filter.mp hy
          obtain rfl := List.mem_singleton.mp hy
          exact hself hdue
        · exact hmono k (ihhandled k hk)
      · intro report hreport
        simpa [hvisit] using ihfail report (hout ▸ hreport)
    · rw [checkEntries_cons_of_ne_ok cfg timestamp replies rest hvisit]
      refine ⟨?_, ?_, by simp, ?_⟩
      · simp [reachedEntries, completedEntries, hvisit]
      · simp [completedEntries, hvisit]
      · intro report hreport
        exact ⟨x, by simp [hvisit], hreport⟩

end Loop

end Rollback

end BifrostRelayer
