import BifrostRelayer.Rollback.Emitter

/-!
# Runs of the rollback emitter

Three questions about every run of the emitter.  Which messages are tracked after `receive`: a
message is lost exactly if its sequence belongs to another request (`receive_tracks_iff`).  How
often a rollback is requested for a tracked message: at most once, unless a call fails in a pass
after a message was due (`rollback_requested_once`).  When a rollback is tried: never before the
waiting time, and never for a message that a configured client reports done, unless only one of its
two chains is configured (`rollback_tried_iff`).
-/

namespace BifrostRelayer

namespace Rollback

/-! ### One pass -/

/-- A pass that gets as far as the latest block. -/
def Starts (s : EmitterState) (i : PassInput) (timestamp : ℕ) : Prop :=
  s.panicked = false ∧ i.latestBlock = .ok (some timestamp)

/-- The messages tracked when the loop of a pass starts. -/
abbrev receivedMsgs (cfg : EmitterConfig) (timestamp : ℕ) (s : EmitterState) (i : PassInput) :
    RollbackMsgs :=
  (receive cfg timestamp s.msgs i.inbox).1

/-- The loop of a pass. -/
abbrev passLoop (cfg : EmitterConfig) (timestamp : ℕ) (s : EmitterState) (i : PassInput) :
    LoopResult :=
  checkEntries cfg timestamp i.replies (receivedMsgs cfg timestamp s i).entries

/-- A pass either does nothing, or receives, runs its loop, and removes the handled messages if the
loop completed. -/
lemma pass_cases (cfg : EmitterConfig) (s : EmitterState) (i : PassInput) :
    (pass cfg s i = (s, ⟨[], [], [], []⟩) ∧ ∀ timestamp, ¬ Starts s i timestamp) ∨
    ∃ timestamp, Starts s i timestamp ∧
      (pass cfg s i).2.inserted = (receive cfg timestamp s.msgs i.inbox).2 ∧
      (pass cfg s i).2.tried = (passLoop cfg timestamp s i).tried ∧
      (pass cfg s i).2.requested = (passLoop cfg timestamp s i).requested ∧
      (pass cfg s i).1.msgs =
        (pass cfg s i).2.removed.foldl RollbackMsgs.erase (receivedMsgs cfg timestamp s i) ∧
      (((pass cfg s i).2.removed = (passLoop cfg timestamp s i).handledReqIds ∧
          (pass cfg s i).1.panicked = false) ∨
        ((pass cfg s i).2.removed = [] ∧ (pass cfg s i).1.panicked = true) ∨
        ((pass cfg s i).2.removed = [] ∧ (pass cfg s i).1.panicked = false ∧
          ∃ report, (passLoop cfg timestamp s i).outcome = .failed report)) := by
  by_cases hp : s.panicked = true
  · refine .inl ⟨by simp [pass, hp], fun timestamp h => ?_⟩
    rw [h.1] at hp
    exact Bool.false_ne_true hp
  · have hp' : s.panicked = false := by simpa using hp
    rcases hblock : i.latestBlock with report | _ | timestamp
    · exact .inl ⟨by simp [pass, hp, hblock], fun timestamp h => by simp [Starts, hblock] at h⟩
    · exact .inl ⟨by simp [pass, hp, hblock], fun timestamp h => by simp [Starts, hblock] at h⟩
    · refine .inr ⟨timestamp, ⟨hp', hblock⟩, ?_⟩
      cases hout : (passLoop cfg timestamp s i).outcome with
      | ok u => simp [pass, hp, hblock, hout]
      | failed report => simp [pass, hp, hblock, hout]
      | panicked => simp [pass, hp, hblock, hout]

/-- The latest block of a pass is determined. -/
lemma Starts.unique {s : EmitterState} {i : PassInput} {t t' : ℕ} (h : Starts s i t)
    (h' : Starts s i t') : t = t' := by
  have heq := h.2.symm.trans h'.2
  simpa using heq

/-! ### Sample passes -/

/-- An emitter with clients for the listed chains, of which chain 2 is the native one. -/
def sampleEmitter (clients : List ChainId) : EmitterConfig where
  bitcoinChainId := none
  systemClients := fun chainId =>
    if chainId ∈ clients then some (if chainId = 2 then .inbound else .outbound) else none
  hasNative := decide (2 ∈ clients)

/-- A reply of `get_request` with a status byte. -/
def statusReply (status : UInt8) : Except Report RequestInfo :=
  .ok ⟨⟨status :: List.replicate 31 0, rfl⟩⟩

/-- A pass at a time, with the replies of the source chain; the destination knows nothing. -/
def samplePass (timestamp : ℕ) (inbox : List SocketMessage)
    (src : RawRequestId → Except Report RequestInfo) : PassInput :=
  ⟨.ok (some timestamp), inbox, fun k => ⟨src k, statusReply 0, .ok ()⟩⟩

/-! ### Which messages are tracked -/

/-- Every received message that involves no Bitcoin chain is tracked after `receive`, unless an
entry for the same request was tracked when it was received. -/
def TracksAll (cfg : EmitterConfig) (timestamp : ℕ) (msgs : RollbackMsgs)
    (inbox : List SocketMessage) : Prop :=
  ∀ before msg after, inbox = before ++ msg :: after → cfg.involvesBitcoin msg = false →
    (∃ k e, (receive cfg timestamp msgs before).1.get? k = some e ∧
      e.socketMsg.reqId = msg.reqId) ∨
    ∃ k e, (receive cfg timestamp msgs inbox).1.get? k = some e ∧ e.socketMsg = msg

/-- No received message shares its sequence with another request that is tracked already or was
received before it. -/
def NoSequenceClash (cfg : EmitterConfig) (msgs : RollbackMsgs) (inbox : List SocketMessage) :
    Prop :=
  ∀ before msg after, inbox = before ++ msg :: after → cfg.involvesBitcoin msg = false →
    (∀ k e, msgs.get? k = some e → e.socketMsg.reqId.sequence = msg.reqId.sequence →
      e.socketMsg.reqId = msg.reqId) ∧
    ∀ msg' ∈ before, cfg.involvesBitcoin msg' = false →
      msg'.reqId.sequence = msg.reqId.sequence → msg'.reqId = msg.reqId

/-- What a received message was is found again. -/
lemma firstReceived_eq_some {cfg : EmitterConfig} {inbox : List SocketMessage} {k : RawRequestId}
    {msg : SocketMessage} (h : firstReceived cfg inbox k = some msg) :
    msg ∈ inbox ∧ cfg.involvesBitcoin msg = false ∧ msg.reqId.sequence = k := by
  have hp := List.find?_some h
  rw [Bool.and_eq_true] at hp
  exact ⟨List.mem_of_find?_eq_some h, by simpa using hp.1, of_decide_eq_true hp.2⟩

/-- A tracked message stays while more is received. -/
lemma get?_receive_of_get? {cfg : EmitterConfig} {timestamp : ℕ} {msgs : RollbackMsgs}
    {inbox : List SocketMessage} {k : RawRequestId} {e : RollbackableMessage}
    (h : msgs.get? k = some e) : (receive cfg timestamp msgs inbox).1.get? k = some e := by
  rw [get?_receive, h]
  rfl

/-- Receiving more keeps what was received. -/
lemma get?_receive_append {cfg : EmitterConfig} {timestamp : ℕ} {msgs : RollbackMsgs}
    {before after : List SocketMessage} {k : RawRequestId} {e : RollbackableMessage}
    (h : (receive cfg timestamp msgs before).1.get? k = some e) :
    (receive cfg timestamp msgs (before ++ after)).1.get? k = some e := by
  rw [get?_receive] at h ⊢
  cases hold : msgs.get? k with
  | some e' => simpa [hold] using h
  | none =>
    rw [hold, Option.none_or, Option.map_eq_some_iff] at h
    obtain ⟨msg, hmsg, rfl⟩ := h
    have hfind : firstReceived cfg (before ++ after) k = some msg := by
      unfold firstReceived at hmsg ⊢
      rw [List.find?_append, hmsg]
      rfl
    rw [Option.none_or, hfind]
    rfl

/-- If all is tracked, a received message is tracked under its request in the end. -/
lemma TracksAll.reqId_eq {cfg : EmitterConfig} {timestamp : ℕ} {msgs : RollbackMsgs}
    {inbox before after : List SocketMessage} {msg : SocketMessage}
    (h : TracksAll cfg timestamp msgs inbox) (heq : inbox = before ++ msg :: after)
    (hbtc : cfg.involvesBitcoin msg = false) {e : RollbackableMessage}
    (he : (receive cfg timestamp msgs inbox).1.get? msg.reqId.sequence = some e) :
    e.socketMsg.reqId = msg.reqId := by
  rcases h before msg after heq hbtc with ⟨k, e', hget, hid⟩ | ⟨k, e', hget, hmsg⟩
  · obtain rfl : e'.socketMsg.reqId.sequence = k := RollbackMsgs.sequence_of_get? hget
    have hlater : (receive cfg timestamp msgs (before ++ msg :: after)).1.get?
        e'.socketMsg.reqId.sequence = some e' := get?_receive_append hget
    rw [← heq, hid, he] at hlater
    rw [Option.some.inj hlater, hid]
  · obtain rfl : e'.socketMsg.reqId.sequence = k := RollbackMsgs.sequence_of_get? hget
    rw [hmsg, he] at hget
    rw [Option.some.inj hget, hmsg]

/-- Everything received is tracked exactly if no two different requests share a sequence. -/
lemma tracksAll_iff (cfg : EmitterConfig) (timestamp : ℕ) (msgs : RollbackMsgs)
    (inbox : List SocketMessage) :
    TracksAll cfg timestamp msgs inbox ↔ NoSequenceClash cfg msgs inbox := by
  constructor
  · intro h before msg after heq hbtc
    refine ⟨?_, ?_⟩
    · intro k e hget hseq
      obtain rfl : e.socketMsg.reqId.sequence = k := RollbackMsgs.sequence_of_get? hget
      rw [hseq] at hget
      exact h.reqId_eq heq hbtc (get?_receive_of_get? hget)
    · intro msg' hmem hbtc' hseq
      obtain ⟨b₁, b₂, rfl⟩ := List.append_of_mem hmem
      have heq' : inbox = b₁ ++ msg' :: (b₂ ++ msg :: after) := by rw [heq]; simp
      -- whatever the shared sequence holds in the end belongs to both requests
      cases hget : (receive cfg timestamp msgs inbox).1.get? msg.reqId.sequence with
      | some e =>
        rw [← h.reqId_eq heq hbtc hget]
        rw [← hseq] at hget
        exact (h.reqId_eq heq' hbtc' hget).symm
      | none =>
        exfalso
        rw [get?_receive, Option.or_eq_none_iff, Option.map_eq_none_iff] at hget
        have hnone := hget.2
        unfold firstReceived at hnone
        rw [List.find?_eq_none] at hnone
        refine hnone msg (by rw [heq]; simp) ?_
        simp [hbtc]
  · intro h before msg after heq hbtc
    obtain ⟨hold, hearlier⟩ := h before msg after heq hbtc
    cases hget : (receive cfg timestamp msgs before).1.get? msg.reqId.sequence with
    | some e =>
      left
      refine ⟨_, e, hget, ?_⟩
      rw [get?_receive, Option.or_eq_some_iff] at hget
      rcases hget with hget | ⟨-, hget⟩
      · exact hold _ e hget (RollbackMsgs.sequence_of_get? hget)
      · obtain ⟨msg', hfirst, rfl⟩ := Option.map_eq_some_iff.mp hget
        obtain ⟨hmem, hbtc', hseq⟩ := firstReceived_eq_some hfirst
        exact hearlier msg' hmem hbtc' hseq
    | none =>
      right
      refine ⟨msg.reqId.sequence, ⟨timestamp, msg⟩, ?_, rfl⟩
      rw [get?_receive, Option.or_eq_none_iff, Option.map_eq_none_iff] at hget
      have hfirst : firstReceived cfg inbox msg.reqId.sequence = some msg := by
        have hnone := hget.2
        unfold firstReceived at hnone ⊢
        rw [heq, List.find?_append, hnone]
        simp [hbtc]
      rw [get?_receive, hget.1, hfirst]
      rfl

/-- In every pass of every run that receives messages, all received messages are tracked exactly if
none of them shares its sequence with another request. -/
theorem receive_tracks_iff (cfg : EmitterConfig) :
    ∀ tr s a s' timestamp, (emitterSystem cfg).Run tr s → (emitterSystem cfg).step s a s' →
      Starts s a.1 timestamp →
      (TracksAll cfg timestamp s.msgs a.1.inbox ↔ NoSequenceClash cfg s.msgs a.1.inbox) :=
  fun _ s a _ timestamp _ _ _ => tracksAll_iff cfg timestamp s.msgs a.1.inbox

/-- Two requests of chains 1 and 3 with sequence 7 are received; the second is dropped. -/
theorem receive_drops_same_sequence :
    ∃ tr s a s' timestamp, (emitterSystem (sampleEmitter [1, 2, 3])).Run tr s ∧
      (emitterSystem (sampleEmitter [1, 2, 3])).step s a s' ∧ Starts s a.1 timestamp ∧
      (sampleRequest 1 7).srcChainId ≠ (sampleRequest 3 7).srcChainId ∧
      a.1.inbox = [sampleRequest 1 7, sampleRequest 3 7] ∧
      ¬ TracksAll (sampleEmitter [1, 2, 3]) timestamp s.msgs a.1.inbox := by
  refine ⟨[], _, _, _, 1000, .start rfl, LabelledSystem.ofHandler_step _ _ _
    (samplePass 1000 [sampleRequest 1 7, sampleRequest 3 7] fun _ => statusReply 1), ⟨rfl, rfl⟩,
    by decide, rfl, ?_⟩
  rw [tracksAll_iff]
  intro h
  have hclash := (h [sampleRequest 1 7] (sampleRequest 3 7) [] rfl rfl).2 (sampleRequest 1 7)
    (List.mem_singleton.mpr rfl) rfl rfl
  exact absurd hclash (by decide)

/-- Requests that agree wherever their sequences do cannot clash in an empty map. -/
lemma noSequenceClash_of_forall {cfg : EmitterConfig} {inbox : List SocketMessage}
    (h : ∀ msg ∈ inbox, ∀ msg' ∈ inbox, msg'.reqId.sequence = msg.reqId.sequence →
      msg'.reqId = msg.reqId) : NoSequenceClash cfg .empty inbox := by
  rintro before msg after rfl -
  refine ⟨fun k e hget => by simp at hget, fun msg' hmem _ => ?_⟩
  exact h msg (by simp) msg' (List.mem_append_left _ hmem)

/-- Two requests are tracked, and the first one again when it is received twice. -/
theorem receive_tracks_iff_distinct :
    TracksAll (sampleEmitter [1, 2, 3]) 1000 RollbackMsgs.empty
      [sampleRequest 1 7, sampleRequest 3 8, sampleRequest 1 7] :=
  (receive_tracks_iff (sampleEmitter [1, 2, 3]) [] _ _ _ 1000 (.start rfl)
    (LabelledSystem.ofHandler_step _ _ _
      (samplePass 1000 [sampleRequest 1 7, sampleRequest 3 8, sampleRequest 1 7]
        fun _ => statusReply 1)) ⟨rfl, rfl⟩).mpr (noSequenceClash_of_forall (by decide))

/-! ### How often a rollback is requested -/

/-- The life of an entry, as a pass records it. -/
inductive EntryEvent where
  | inserted (k : RawRequestId)
  | requested (k : RawRequestId)
  | removed (k : RawRequestId)

/-- The events of a pass up to the end of its loop, in order. -/
def PassOutput.loopEvents (o : PassOutput) : List EntryEvent :=
  o.inserted.map (fun e => .inserted e.socketMsg.reqId.sequence) ++ o.requested.map .requested

/-- The events of a pass, in order. -/
def PassOutput.events (o : PassOutput) : List EntryEvent :=
  o.loopEvents ++ o.removed.map .removed

/-- The events of a trace, in order. -/
def EmitterTrace.events (tr : EmitterTrace) : List EntryEvent :=
  tr.flatMap fun a => a.2.events

/-- One more event in the count of `openRequests`. -/
def countEvent (k : RawRequestId) (n : ℕ) : EntryEvent → ℕ
  | .inserted k' => if k' = k then 0 else n
  | .requested k' => if k' = k then n + 1 else n
  | .removed k' => if k' = k then 0 else n

/-- The number of rollback transactions requested for the entry `k` since it was inserted; it is 0
again when the entry is removed. -/
def openRequests (k : RawRequestId) (events : List EntryEvent) : ℕ :=
  events.foldl (countEvent k) 0

/-- Some call fails in the turn of a message. -/
def callFails (cfg : EmitterConfig) (timestamp : ℕ) (replies : RawRequestId → EntryReplies)
    (x : RawRequestId × RollbackableMessage) : Prop :=
  ∃ report, visit cfg timestamp replies x = .failed report

/-- In a pass, no call fails in the turn of a message after another message was due. -/
def NoFailureAfterDue (cfg : EmitterConfig) (s : EmitterState) (a : PassInput × PassOutput) :
    Prop :=
  ∀ timestamp, Starts s a.1 timestamp → ∀ before x after,
    (receivedMsgs cfg timestamp s a.1).entries = before ++ x :: after →
    callFails cfg timestamp a.1.replies x →
    ∀ y ∈ before, isDue cfg timestamp a.1.replies y = false

/-- Counting starts from what was counted before. -/
lemma openRequests_append (k : RawRequestId) (l l' : List EntryEvent) :
    openRequests k (l ++ l') = l'.foldl (countEvent k) (openRequests k l) := by
  simp [openRequests, List.foldl_append]

/-- The entry that a rollback transaction was requested for. -/
def EntryEvent.requestedKey : EntryEvent → Option RawRequestId
  | .requested k => some k
  | _ => none

/-- Only requests count up. -/
lemma foldl_countEvent_le (k : RawRequestId) (events : List EntryEvent) (n : ℕ) :
    events.foldl (countEvent k) n ≤ n + (events.filterMap EntryEvent.requestedKey).count k := by
  induction events generalizing n with
  | nil => simp
  | cons event events ih =>
    rw [List.foldl_cons]
    refine (ih _).trans ?_
    cases event with
    | inserted k' =>
      simp only [countEvent, EntryEvent.requestedKey, List.filterMap_cons]
      split <;> omega
    | requested k' =>
      simp only [countEvent, EntryEvent.requestedKey, List.filterMap_cons, List.count_cons]
      by_cases hk : k' = k
      · simp [hk]
        omega
      · simp [hk]
    | removed k' =>
      simp only [countEvent, EntryEvent.requestedKey, List.filterMap_cons]
      split <;> omega

/-- The requests among the events of a loop. -/
lemma filterMap_requestedKey_loopEvents (o : PassOutput) :
    o.loopEvents.filterMap EntryEvent.requestedKey = o.requested := by
  unfold PassOutput.loopEvents
  rw [List.filterMap_append, List.filterMap_map, List.filterMap_map]
  simp [EntryEvent.requestedKey, Function.comp_def]

/-- The requests among the events of a pass. -/
lemma filterMap_requestedKey_events (o : PassOutput) :
    o.events.filterMap EntryEvent.requestedKey = o.requested := by
  unfold PassOutput.events
  rw [List.filterMap_append, filterMap_requestedKey_loopEvents, List.filterMap_map]
  simp [EntryEvent.requestedKey, Function.comp_def]

/-- Removals close the requests of the removed entries. -/
lemma foldl_removed (k : RawRequestId) (ks : List RawRequestId) (n : ℕ) :
    (ks.map EntryEvent.removed).foldl (countEvent k) n = if k ∈ ks then 0 else n := by
  induction ks generalizing n with
  | nil => simp
  | cons k' ks ih =>
    rw [List.map_cons, List.foldl_cons, ih]
    unfold countEvent
    by_cases hk : k' = k
    · simp [hk]
    · by_cases hks : k ∈ ks
      · simp [hks]
      · simp [hk, hks, Ne.symm hk]

/-- A pass requests at most one rollback for an entry. -/
lemma nodup_requested (cfg : EmitterConfig) (s : EmitterState) (i : PassInput) :
    (pass cfg s i).2.requested.Nodup := by
  rcases pass_cases cfg s i with ⟨hnop, -⟩ | ⟨timestamp, -, -, -, hreq, -⟩
  · simp [hnop]
  · rw [hreq, (checkEntries_eq cfg timestamp i.replies _).2.1]
    refine (RollbackMsgs.nodup_entries (receivedMsgs cfg timestamp s i)).sublist ?_
    exact (List.filter_sublist.trans (List.takeWhile_sublist _)).map _

/-- A pass that does not panic removes every entry for which it requested a rollback. -/
lemma requested_subset_removed {cfg : EmitterConfig} {s s' : EmitterState}
    {a : PassInput × PassOutput} (hstep : (emitterSystem cfg).step s a s')
    (hcond : NoFailureAfterDue cfg s a) (hp : s'.panicked = false) :
    ∀ k ∈ a.2.requested, k ∈ a.2.removed := by
  obtain ⟨i, o⟩ := a
  obtain ⟨rfl, rfl⟩ : (pass cfg s i).1 = s' ∧ (pass cfg s i).2 = o := Prod.mk.inj hstep
  intro k hk
  rcases pass_cases cfg s i with ⟨hnop, -⟩ | ⟨timestamp, hstarts, -, -, hreq, -, hend⟩
  · simp [hnop] at hk
  · simp only [hreq] at hk
    rcases hend with ⟨hrem, -⟩ | ⟨-, hpan⟩ | ⟨-, -, report, hfail⟩
    · simp only [hrem]
      exact (checkEntries_eq cfg timestamp i.replies _).2.2.1 k hk
    · rw [hp] at hpan
      exact absurd hpan Bool.false_ne_true
    · -- the failing call comes after the requested entry, which was due
      exfalso
      obtain ⟨x, hhead, hx⟩ := (checkEntries_eq cfg timestamp i.replies _).2.2.2 report hfail
      rw [(checkEntries_eq cfg timestamp i.replies _).2.1] at hk
      obtain ⟨y, hy, rfl⟩ := List.mem_map.mp hk
      obtain ⟨hmem, hdue⟩ := List.mem_filter.mp hy
      obtain ⟨after, hafter⟩ := List.head?_eq_some_iff.mp hhead
      have hsplit := List.takeWhile_append_dropWhile
        (p := fun x => decide (visit cfg timestamp i.replies x = .ok ()))
        (l := (receivedMsgs cfg timestamp s i).entries)
      rw [hafter] at hsplit
      rw [hcond timestamp hstarts _ x after hsplit.symm ⟨report, hx⟩ y hmem] at hdue
      exact Bool.false_ne_true hdue

/-- Between the insertion and the removal of an entry at most one rollback transaction is requested
for it, at every moment of every run in which no call fails after a message was due. -/
theorem rollback_requested_once (cfg : EmitterConfig) {tr : EmitterTrace} {s : EmitterState}
    (hrun : ((emitterSystem cfg).restrict (NoFailureAfterDue cfg)).Run tr s) :
    ∀ k events, events <+: EmitterTrace.events tr → openRequests k events ≤ 1 := by
  have hinv : (∀ k events, events <+: EmitterTrace.events tr → openRequests k events ≤ 1) ∧
      (s.panicked = false → ∀ k, openRequests k (EmitterTrace.events tr) = 0) := by
    refine hrun.induction (P := fun tr s =>
      (∀ k events, events <+: EmitterTrace.events tr → openRequests k events ≤ 1) ∧
      (s.panicked = false → ∀ k, openRequests k (EmitterTrace.events tr) = 0)) ?_ ?_
    · rintro s rfl
      refine ⟨?_, fun _ k => rfl⟩
      intro k events hpre
      rw [List.prefix_nil.mp hpre]
      exact Nat.zero_le _
    · rintro tr s a s' - ⟨ihle, ihzero⟩ ⟨hstep, hcond⟩
      have hevents : EmitterTrace.events (tr ++ [a]) = EmitterTrace.events tr ++ a.2.events := by
        simp [EmitterTrace.events]
      have ho : (pass cfg s a.1).2 = a.2 := congrArg Prod.snd hstep
      by_cases hp : s.panicked = true
      · -- a panicked emitter does nothing
        have hnop : pass cfg s a.1 = (s, ⟨[], [], [], []⟩) := by simp [pass, hp]
        have hnil : a.2.events = [] := by
          rw [← ho, hnop]
          rfl
        have hs' : s = s' := by
          have h := congrArg Prod.fst hstep
          rw [hnop] at h
          exact h
        rw [hevents, hnil, List.append_nil, ← hs']
        exact ⟨ihle, ihzero⟩
      · have hzero := ihzero (by simpa using hp)
        have hnodup : a.2.requested.Nodup := ho ▸ nodup_requested cfg s a.1
        rw [hevents]
        refine ⟨?_, ?_⟩
        · intro k events hpre
          rcases List.prefix_or_prefix_of_prefix hpre (List.prefix_append _ _) with
            hold | ⟨part, rfl⟩
          · exact ihle k events hold
          · have hpart := (List.prefix_append_right_inj _).mp hpre
            rw [openRequests_append, hzero k]
            refine (foldl_countEvent_le k part 0).trans ?_
            have hsub := (hpart.filterMap EntryEvent.requestedKey).sublist.count_le k
            rw [filterMap_requestedKey_events] at hsub
            have hone := List.nodup_iff_count_le_one.mp hnodup k
            omega
        · intro hp' k
          have hrem := requested_subset_removed hstep hcond hp' k
          rw [openRequests_append, hzero k, PassOutput.events, List.foldl_append, foldl_removed]
          by_cases hk : k ∈ a.2.removed
          · rw [if_pos hk]
          · have hnone : a.2.requested.count k = 0 :=
              List.count_eq_zero.mpr fun hin => hk (hrem hin)
            have hle := foldl_countEvent_le k a.2.loopEvents 0
            rw [filterMap_requestedKey_loopEvents, hnone] at hle
            rw [if_neg hk]
            omega
  exact hinv.1

/-- Two requests wait; in two passes the first one is due and the call for the second one fails. -/
def failingPasses : List PassInput := [
  samplePass 1000 [sampleRequest 1 7, sampleRequest 1 8] fun _ => statusReply 1,
  samplePass 2000 [] fun k => if k = 7 then statusReply 1 else .error ⟨"timeout"⟩,
  samplePass 2012 [] fun k => if k = 7 then statusReply 1 else .error ⟨"timeout"⟩]

/-- Two rollback transactions are requested for one tracked request. -/
theorem rollback_requested_twice :
    ∃ tr s, (emitterSystem (sampleEmitter [1, 2])).Run tr s ∧
      openRequests 7 (EmitterTrace.events tr) = 2 :=
  ⟨_, _, LabelledSystem.run_execute _ (pass (sampleEmitter [1, 2])) failingPasses, by decide⟩

/-- A pass in which every turn completes has no failure. -/
lemma noFailureAfterDue_of_visit {cfg : EmitterConfig} {s : EmitterState}
    {a : PassInput × PassOutput} (timestamp : ℕ) (hstarts : Starts s a.1 timestamp)
    (hvisit : ∀ x ∈ (receivedMsgs cfg timestamp s a.1).entries,
      visit cfg timestamp a.1.replies x = .ok ()) : NoFailureAfterDue cfg s a := by
  intro t ht before x after heq ⟨report, hfails⟩
  obtain rfl := ht.unique hstarts
  rw [hvisit x (by simp [heq])] at hfails
  cases hfails

/-- Two requests are stored; in the next pass both are due and rolled back, in the last pass they
are gone. -/
def completePasses : List PassInput := [
  samplePass 1000 [sampleRequest 1 7, sampleRequest 1 8] fun _ => statusReply 1,
  samplePass 2000 [] fun _ => statusReply 1,
  samplePass 2012 [] fun _ => statusReply 1]

/-- Without failures both requests are rolled back, and each only once. -/
theorem rollback_requested_once_single :
    ∃ tr s, ((emitterSystem (sampleEmitter [1, 2])).restrict
        (NoFailureAfterDue (sampleEmitter [1, 2]))).Run tr s ∧
      tr.map (fun a => a.2.requested) = [[], [7, 8], []] ∧
      ∀ k events, events <+: EmitterTrace.events tr → openRequests k events ≤ 1 := by
  have hstored := LabelledSystem.Run.snoc (S := (emitterSystem (sampleEmitter [1, 2])).restrict
    (NoFailureAfterDue (sampleEmitter [1, 2]))) (.start rfl)
    ⟨LabelledSystem.ofHandler_step _ _ _ completePasses[0],
      noFailureAfterDue_of_visit 1000 ⟨rfl, rfl⟩ (by decide)⟩
  have hrolled := hstored.snoc ⟨LabelledSystem.ofHandler_step _ _ _ completePasses[1],
    noFailureAfterDue_of_visit 2000 ⟨by decide, rfl⟩ (by decide)⟩
  have hrun := hrolled.snoc ⟨LabelledSystem.ofHandler_step _ _ _ completePasses[2],
    noFailureAfterDue_of_visit 2012 ⟨by decide, rfl⟩ (by decide)⟩
  exact ⟨_, _, hrun, by decide, rollback_requested_once (sampleEmitter [1, 2]) hrun⟩

/-! ### When a rollback is tried -/

namespace EmitterConfig

/-- A configured source client reports the message done. -/
def srcReportsDone (cfg : EmitterConfig) (replies : EntryReplies) (socketMsg : SocketMessage) :
    Bool :=
  match cfg.systemClients socketMsg.srcChainId, replies.src with
  | some _, .ok info => (SocketEventStatus.ofU8 info.status).elim false isSrcDone
  | _, _ => false

/-- A configured destination client reports the message done. -/
def dstReportsDone (cfg : EmitterConfig) (replies : EntryReplies) (socketMsg : SocketMessage) :
    Bool :=
  match cfg.systemClients socketMsg.dstChainId, replies.dst with
  | some _, .ok info =>
      (SocketEventStatus.ofU8 info.status).elim false
        (isDstDone (cfg.isInboundSequence socketMsg.dstChainId))
  | _, _ => false

/-- A configured client of the source or the destination chain reports the message done. -/
def reportsDone (cfg : EmitterConfig) (replies : EntryReplies) (socketMsg : SocketMessage) : Bool :=
  cfg.srcReportsDone replies socketMsg || cfg.dstReportsDone replies socketMsg

/-- Exactly one of the two chains of a message has a configured client. -/
def onlyOneConfigured (cfg : EmitterConfig) (socketMsg : SocketMessage) : Bool :=
  (cfg.systemClients socketMsg.srcChainId).isSome != (cfg.systemClients socketMsg.dstChainId).isSome

/-- If a message is not found executed although a client reports it done, only one of its chains is
configured. -/
lemma onlyOneConfigured_of_reportsDone {cfg : EmitterConfig} {replies : EntryReplies}
    {socketMsg : SocketMessage} (h : cfg.isRequestExecuted replies socketMsg = .ok false)
    (hdone : cfg.reportsDone replies socketMsg = true) :
    cfg.onlyOneConfigured socketMsg = true := by
  cases hsrc : cfg.systemClients socketMsg.srcChainId with
  | none =>
    cases hdst : cfg.systemClients socketMsg.dstChainId with
    | none => simp [reportsDone, srcReportsDone, dstReportsDone, hsrc, hdst] at hdone
    | some d => simp [onlyOneConfigured, hsrc, hdst]
  | some d =>
    cases hdst : cfg.systemClients socketMsg.dstChainId with
    | none => simp [onlyOneConfigured, hsrc, hdst]
    | some d' =>
      -- with both configured, the two statuses were read and neither ends the request
      exfalso
      rcases hrs : replies.src with report | srcInfo
      · simp [isRequestExecuted, getSocketRequest, hsrc, hrs] at h
      · rcases hrd : replies.dst with report | dstInfo
        · simp [isRequestExecuted, getSocketRequest, hsrc, hrs, hdst, hrd] at h
        · cases hss : SocketEventStatus.ofU8 srcInfo.status with
          | none => simp [isRequestExecuted, getSocketRequest, hsrc, hrs, hdst, hrd, hss] at h
          | some srcStatus =>
            cases hds : SocketEventStatus.ofU8 dstInfo.status with
            | none =>
              simp [isRequestExecuted, getSocketRequest, hsrc, hrs, hdst, hrd, hss, hds] at h
            | some dstStatus =>
              have hfalse : (isSrcDone srcStatus ||
                  isDstDone (cfg.isInboundSequence socketMsg.dstChainId) dstStatus) = false := by
                simpa [isRequestExecuted, getSocketRequest, hsrc, hrs, hdst, hrd, hss, hds] using h
              simp only [reportsDone, srcReportsDone, dstReportsDone, hsrc, hdst, hrs, hrd, hss,
                hds, Option.elim_some, hfalse] at hdone
              exact Bool.false_ne_true hdone

/-- With only one chain configured, a message that its client reports done is not found executed. -/
lemma isRequestExecuted_of_onlyOneConfigured {cfg : EmitterConfig} {replies : EntryReplies}
    {socketMsg : SocketMessage} (h : cfg.onlyOneConfigured socketMsg = true)
    (hdone : cfg.reportsDone replies socketMsg = true) :
    cfg.isRequestExecuted replies socketMsg = .ok false := by
  cases hsrc : cfg.systemClients socketMsg.srcChainId with
  | none =>
    cases hdst : cfg.systemClients socketMsg.dstChainId with
    | none => simp [onlyOneConfigured, hsrc, hdst] at h
    | some d =>
      rcases hrd : replies.dst with report | dstInfo
      · simp [reportsDone, srcReportsDone, dstReportsDone, hsrc, hdst, hrd] at hdone
      · simp [isRequestExecuted, getSocketRequest, hsrc, hdst, hrd]
  | some d =>
    cases hdst : cfg.systemClients socketMsg.dstChainId with
    | none =>
      rcases hrs : replies.src with report | srcInfo
      · simp [reportsDone, srcReportsDone, dstReportsDone, hsrc, hdst, hrs] at hdone
      · simp [isRequestExecuted, getSocketRequest, hsrc, hdst, hrs]
    | some d' => simp [onlyOneConfigured, hsrc, hdst] at h

end EmitterConfig

/-- The message was stored by a pass at the time it carries, and nothing was stored under its
sequence since. -/
def StoredBy (tr : EmitterTrace) (e : RollbackableMessage) : Prop :=
  ∃ tr₁ b tr₂, tr = tr₁ ++ b :: tr₂ ∧ e ∈ b.2.inserted ∧
    b.1.latestBlock = .ok (some e.timeoutStartedAt) ∧
    ∀ b' ∈ tr₂, ∀ e' ∈ b'.2.inserted,
      e'.socketMsg.reqId.sequence ≠ e.socketMsg.reqId.sequence

/-- A pass that stores nothing under the sequence of a message. -/
lemma StoredBy.later {tr : EmitterTrace} {e : RollbackableMessage} {a : PassInput × PassOutput}
    (h : StoredBy tr e) (ha : ∀ e' ∈ a.2.inserted,
      e'.socketMsg.reqId.sequence ≠ e.socketMsg.reqId.sequence) : StoredBy (tr ++ [a]) e := by
  obtain ⟨tr₁, b, tr₂, rfl, hb, htime, hlater⟩ := h
  refine ⟨tr₁, b, tr₂ ++ [a], by simp, hb, htime, ?_⟩
  intro b' hb'
  rcases List.mem_append.mp hb' with hb' | hb'
  · exact hlater b' hb'
  · rw [List.mem_singleton.mp hb']
    exact ha

/-- What is tracked when the loop of a pass starts was stored by this pass or an earlier one. -/
lemma storedBy_received {cfg : EmitterConfig} {tr : EmitterTrace} {s : EmitterState}
    {a : PassInput × PassOutput} {timestamp : ℕ}
    (hold : ∀ k e, s.msgs.get? k = some e → StoredBy tr e) (hstarts : Starts s a.1 timestamp)
    (hins : a.2.inserted = (receive cfg timestamp s.msgs a.1.inbox).2) {k : RawRequestId}
    {e : RollbackableMessage} (hget : (receivedMsgs cfg timestamp s a.1).get? k = some e) :
    StoredBy (tr ++ [a]) e := by
  have hseq := RollbackMsgs.sequence_of_get? hget
  rw [receivedMsgs, get?_receive, Option.or_eq_some_iff] at hget
  rcases hget with hget | ⟨hfree, hget⟩
  · refine (hold k e hget).later ?_
    intro e' he' heq
    rw [hins, mem_inserted_receive, heq, hseq, hget] at he'
    exact absurd he'.1 (by simp)
  · obtain ⟨msg, hfirst, rfl⟩ := Option.map_eq_some_iff.mp hget
    obtain ⟨-, -, rfl⟩ := firstReceived_eq_some hfirst
    refine ⟨tr, a, [], rfl, ?_, hstarts.2, by simp⟩
    rw [hins, mem_inserted_receive]
    exact ⟨hfree, rfl, hfirst⟩

/-- Every tracked message was stored at the time it carries. -/
theorem storedBy_of_run {cfg : EmitterConfig} {tr : EmitterTrace} {s : EmitterState}
    (hrun : (emitterSystem cfg).Run tr s) : ∀ k e, s.msgs.get? k = some e → StoredBy tr e := by
  refine hrun.induction (P := fun tr s => ∀ k e, s.msgs.get? k = some e → StoredBy tr e) ?_ ?_
  · rintro s rfl k e h
    simp at h
  · rintro tr s ⟨i, o⟩ s' - ih hstep k e hget
    obtain ⟨rfl, rfl⟩ : (pass cfg s i).1 = s' ∧ (pass cfg s i).2 = o := Prod.mk.inj hstep
    rcases pass_cases cfg s i with ⟨hnop, -⟩ | ⟨timestamp, hstarts, hins, -, -, hmsgs, -⟩
    · rw [hnop] at hget ⊢
      exact (ih k e hget).later (by simp)
    · rw [hmsgs, RollbackMsgs.get?_foldl_erase] at hget
      split at hget
      · simp at hget
      · exact storedBy_received ih hstarts hins hget

/-- Every rollback tried in a pass is for a message that waited since the pass that stored it, and
that no configured client reports done. -/
def RollbacksJustified (cfg : EmitterConfig) (tr : EmitterTrace) (s : EmitterState)
    (a : PassInput × PassOutput) : Prop :=
  ∀ timestamp, Starts s a.1 timestamp → ∀ x ∈ a.2.tried,
    (StoredBy (tr ++ [a]) x.2 ∧
      x.2.timeoutStartedAt + EmitterConfig.rollbackCheckMinimumInterval ≤ timestamp) ∧
    cfg.reportsDone (a.1.replies x.1) x.2.socketMsg = false

/-- No message that a pass reaches after its waiting time has only one of its chains configured and
is reported done there. -/
def NoHalfConfiguredDone (cfg : EmitterConfig) (s : EmitterState) (a : PassInput × PassOutput) :
    Prop :=
  ∀ timestamp, Starts s a.1 timestamp → ∀ x ∈ reachedEntries cfg timestamp a.1.replies
      (receivedMsgs cfg timestamp s a.1).entries,
    EmitterConfig.isRequestTimeout x.2.timeoutStartedAt timestamp = true →
    cfg.onlyOneConfigured x.2.socketMsg = true →
    cfg.reportsDone (a.1.replies x.1) x.2.socketMsg = false

/-- In every pass of every run, the rollbacks tried are justified exactly if no reached message that
waited long enough is reported done by the only client configured for it. -/
theorem rollback_tried_iff (cfg : EmitterConfig) {tr : EmitterTrace} {s s' : EmitterState}
    {a : PassInput × PassOutput} (hrun : (emitterSystem cfg).Run tr s)
    (hstep : (emitterSystem cfg).step s a s') :
    RollbacksJustified cfg tr s a ↔ NoHalfConfiguredDone cfg s a := by
  have ho : (pass cfg s a.1).2 = a.2 := congrArg Prod.snd hstep
  rcases pass_cases cfg s a.1 with ⟨-, hno⟩ | ⟨timestamp, hstarts, hins, htried, -⟩
  · exact ⟨fun _ t ht => absurd ht (hno t), fun _ t ht => absurd ht (hno t)⟩
  · rw [ho] at hins htried
    have hloop := (checkEntries_eq cfg timestamp a.1.replies
      (receivedMsgs cfg timestamp s a.1).entries).1
    constructor
    · intro h t ht x hx htime hone
      obtain rfl := ht.unique hstarts
      by_contra hdone
      rw [Bool.not_eq_false] at hdone
      have hdue : isDue cfg t a.1.replies x = true := by
        rw [isDue, EmitterConfig.isRequestExecuted_of_onlyOneConfigured hone hdone, htime]
        simp
      have hmem : x ∈ a.2.tried := by
        rw [htried, hloop]
        exact List.mem_filter.mpr ⟨hx, hdue⟩
      rw [(h t ht x hmem).2] at hdone
      exact Bool.false_ne_true hdone
    · intro h t ht x hx
      obtain rfl := ht.unique hstarts
      rw [htried, hloop] at hx
      obtain ⟨hreached, hdue⟩ := List.mem_filter.mp hx
      rw [isDue, Bool.and_eq_true, decide_eq_true_eq] at hdue
      obtain ⟨hex, htime⟩ := hdue
      have hmem : x ∈ (receivedMsgs cfg t s a.1).entries := by
        unfold reachedEntries completedEntries at hreached
        rcases List.mem_append.mp hreached with hin | hin
        · exact (List.takeWhile_sublist _).subset hin
        · exact (List.dropWhile_sublist _).subset (List.mem_of_mem_take hin)
      refine ⟨⟨storedBy_received (storedBy_of_run hrun) hstarts hins
        (RollbackMsgs.mem_entries.mp hmem), ?_⟩, ?_⟩
      · have hwait : t - x.2.timeoutStartedAt ≥ EmitterConfig.rollbackCheckMinimumInterval :=
          of_decide_eq_true htime
        unfold EmitterConfig.rollbackCheckMinimumInterval at hwait ⊢
        omega
      · by_contra hdone
        rw [Bool.not_eq_false] at hdone
        have hone := EmitterConfig.onlyOneConfigured_of_reportsDone hex hdone
        rw [h t ht x hreached htime hone] at hdone
        exact Bool.false_ne_true hdone

/-- A request is stored. -/
def storingPasses : List PassInput := [
  samplePass 1000 [sampleRequest 1 7] fun _ => statusReply 1]

/-- A pass in which the destination chain would say that the request is executed. -/
def executedPass : PassInput :=
  ⟨.ok (some 2000), [], fun _ => ⟨statusReply 1, statusReply 3, .ok ()⟩⟩

/-- Only the destination chain is configured.  A rollback is requested although it reports the
request executed. -/
theorem rollback_tried_for_executed :
    ∃ tr s a s', (emitterSystem (sampleEmitter [2])).Run tr s ∧
      (emitterSystem (sampleEmitter [2])).step s a s' ∧ a.2.requested = [7] ∧
      ¬ RollbacksJustified (sampleEmitter [2]) tr s a := by
  refine ⟨_, _, _, _,
    LabelledSystem.run_execute _ (pass (sampleEmitter [2])) storingPasses,
    LabelledSystem.ofHandler_step _ _ _ executedPass, by decide, ?_⟩
  intro h
  have hdone := (h 2000 ⟨by decide, rfl⟩ (7, ⟨1000, sampleRequest 1 7⟩) (by decide)).2
  exact absurd hdone (by decide)

/-- With both chains configured the same pass is justified: the request is found executed. -/
theorem rollback_tried_iff_configured :
    ∃ tr s a s', (emitterSystem (sampleEmitter [1, 2])).Run tr s ∧
      (emitterSystem (sampleEmitter [1, 2])).step s a s' ∧
      RollbacksJustified (sampleEmitter [1, 2]) tr s a := by
  have hrun := LabelledSystem.run_execute ⟨.empty, false⟩ (pass (sampleEmitter [1, 2]))
    storingPasses
  have hstep := LabelledSystem.ofHandler_step ⟨.empty, false⟩ (pass (sampleEmitter [1, 2]))
    (LabelledSystem.execute (pass (sampleEmitter [1, 2])) ⟨.empty, false⟩ storingPasses).2
    executedPass
  refine ⟨_, _, _, _, hrun, hstep, (rollback_tried_iff (sampleEmitter [1, 2]) hrun hstep).mpr ?_⟩
  intro timestamp hstarts x hx htime hone
  obtain rfl : 2000 = timestamp := by simpa [executedPass] using hstarts.2
  have hreached : reachedEntries (sampleEmitter [1, 2]) 2000 executedPass.replies
      (receivedMsgs (sampleEmitter [1, 2]) 2000
        (LabelledSystem.execute (pass (sampleEmitter [1, 2])) ⟨.empty, false⟩
          storingPasses).2 executedPass).entries =
      [(7, ⟨1000, sampleRequest 1 7⟩)] := by decide
  rw [hreached, List.mem_singleton] at hx
  subst hx
  exact absurd hone (by decide)

end Rollback

end BifrostRelayer
