import BifrostRelayer.Events.Pipeline
import BifrostRelayer.SocketRelay.Handler

/-!
# From the chain to the relay

A socket relay handler takes the messages of the event manager of its chain.  Some logs it hands to
`process_confirmed_log` at once, others when they are confirmed, and a log whose transaction stays
absent is given up.

`relayed_logs_conserved` follows the logs all the way.  Whatever the node and the other calls reply
and in whatever way the event manager, the channel and the handler are interleaved, each log that was
fetched is, as often as it was fetched, in exactly one place: still on the way, handed over, waiting
for its confirmations, or given up.
-/

namespace BifrostRelayer

namespace Events

open Pipeline SolidityAbi SocketRelay

/-! ### Splitting a list -/

section Split

variable {α β : Type}

/-- If each element goes to exactly one of three lists, these have all elements. -/
lemma perm_append_filterMap {x : α → β} {f g k : α → Option β} {l : List α}
    (hsplit : ∀ a ∈ l, f a = some (x a) ∧ g a = none ∧ k a = none ∨
      f a = none ∧ g a = some (x a) ∧ k a = none ∨ f a = none ∧ g a = none ∧ k a = some (x a)) :
    (l.map x).Perm (l.filterMap f ++ l.filterMap g ++ l.filterMap k) := by
  induction l with
  | nil => exact .nil
  | cons a l ih =>
    have hrest := ih fun b hb => hsplit b (List.mem_cons_of_mem a hb)
    rw [List.map_cons]
    rcases hsplit a List.mem_cons_self with ⟨hf, hg, hk⟩ | ⟨hf, hg, hk⟩ | ⟨hf, hg, hk⟩
    · rw [List.filterMap_cons_some hf, List.filterMap_cons_none hg, List.filterMap_cons_none hk]
      exact hrest.cons (x a)
    · rw [List.filterMap_cons_none hf, List.filterMap_cons_some hg, List.filterMap_cons_none hk,
        List.append_assoc, List.cons_append]
      rw [List.append_assoc] at hrest
      exact (hrest.cons (x a)).trans List.perm_middle.symm
    · rw [List.filterMap_cons_none hf, List.filterMap_cons_none hg, List.filterMap_cons_some hk]
      exact (hrest.cons (x a)).trans List.perm_middle.symm

/-- What is kept of the kept elements. -/
lemma filterMap_map_filter {γ : Type} (p : α → Bool) (f : α → β) (g : β → Option γ) (l : List α) :
    ((l.filter p).map f).filterMap g = l.filterMap fun a => if p a then g (f a) else none := by
  rw [List.filterMap_map, List.filterMap_filter]
  rfl

/-- Two filters, as one. -/
lemma map_filter_map_filter {γ : Type} (p : α → Bool) (f : α → β) (q : β → Bool) (g : β → γ)
    (l : List α) :
    (((l.filter p).map f).filter q).map g =
      l.filterMap fun a => if p a then if q (f a) then some (g (f a)) else none else none := by
  rw [← filterMap_map_filter p f fun b => if q b then some (g b) else none, ← List.filterMap_filter]
  exact (congrFun List.filterMap_eq_map _).symm

end Split

/-! ### The handler -/

/-- The loop of a socket relay handler. -/
def relayLoop (c : RelayClient) :
    LabelledSystem (RelayState Log) (RelayInput Log × RelayOutput Log) :=
  .ofHandler .new (handle c.blockConfirmations c.route)

/-- The turns of the loop of a handler. -/
abbrev RelayTurns : Type := List (RelayInput Log × RelayOutput Log)

/-- The message that a turn takes. -/
def messageOf : RelayInput Log → Option Evm.EventMessage
  | .event blockNumber eventLogs => some ⟨blockNumber, eventLogs⟩
  | _ => none

/-- The messages that were taken. -/
def takenIn (turns : RelayTurns) : List Evm.EventMessage := turns.filterMap fun a => messageOf a.1

/-- The logs that were handed to `process_confirmed_log` when they came. -/
def handedAtOnce (turns : RelayTurns) : List Log := turns.flatMap fun a => a.2.immediate

/-- The logs that were handed to `process_confirmed_log` when they were confirmed. -/
def handedLater (turns : RelayTurns) : List Log :=
  turns.flatMap fun a => a.2.handed.map PendingEvent.log

/-- The log of an entry that a check has taken out because it stays absent. -/
def givenUpBy (v : PendingEvent Log × VerifyReply) : Option Log :=
  if v.2 = .ok none ∧ saturatingSucc v.1.absentChecks ≥ maxAbsentChecks then some v.1.log else none

/-- The logs that were given up. -/
def givenUp (turns : RelayTurns) : List Log :=
  turns.flatMap fun a => a.2.verified.filterMap givenUpBy

/-- The logs with a route. -/
def routed (c : RelayClient) (route : Route) (logs : List Log) : List Log :=
  logs.filter fun log => decide (c.route log = route)

variable {c : RelayClient}

lemma routed_append (route : Route) (logs logs' : List Log) :
    routed c route (logs ++ logs') = routed c route logs ++ routed c route logs' :=
  List.filter_append ..

/-- A check keeps an entry, hands it over or gives it up. -/
lemma pending_perm_check (conf latest : ℕ) (reply : ℕ → VerifyReply)
    (pending : List (PendingEvent Log)) :
    (pending.map PendingEvent.log).Perm
      ((checkPending conf (.ok latest) reply pending).pending.map PendingEvent.log ++
        (checkPending conf (.ok latest) reply pending).handed.map PendingEvent.log ++
        (checkPending conf (.ok latest) reply pending).verified.filterMap givenUpBy) := by
  rw [checkPending_ok, eventsToCheck_eq]
  have hpending : ((pending.mapIdx fun i e => e.fate conf latest (reply i)).reduceOption).map
      PendingEvent.log = pending.zipIdx.filterMap fun p =>
        (p.1.fate conf latest (reply p.2)).map PendingEvent.log := by
    rw [List.mapIdx_eq_zipIdx_map, List.reduceOption, List.filterMap_map, List.map_filterMap]
    rfl
  have hhanded : ((((pending.zipIdx.filter fun p => p.1.isConfirmed conf latest).map
      Prod.swap).filter fun a => decide (reply a.1 = .ok (some a.2.blockNumber))).map
        Prod.snd).map PendingEvent.log = pending.zipIdx.filterMap fun p =>
          if p.1.isConfirmed conf latest then
            if reply p.2 = .ok (some p.1.blockNumber) then some p.1.log else none
          else none := by
    rw [List.map_map, map_filter_map_filter]
    simp
  have hgivenUp : (((pending.zipIdx.filter fun p => p.1.isConfirmed conf latest).map
      Prod.swap).map fun a => (a.2, reply a.1)).filterMap givenUpBy =
        pending.zipIdx.filterMap fun p =>
          if p.1.isConfirmed conf latest then givenUpBy (p.1, reply p.2) else none := by
    rw [List.map_map, filterMap_map_filter]
    rfl
  have hlogs : pending.map PendingEvent.log = pending.zipIdx.map fun p => p.1.log := by
    conv_lhs => rw [← List.zipIdx_map_fst 0 pending, List.map_map]
    rfl
  simp only [hpending, hhanded, hgivenUp, hlogs]
  refine perm_append_filterMap fun p _ => ?_
  obtain ⟨e, i⟩ := p
  simp only [PendingEvent.fate, givenUpBy]
  by_cases hconf : e.isConfirmed conf latest = true
  · simp only [hconf, if_true]
    rcases hreply : reply i with report | _ | b
    · simp
    · by_cases hmax : saturatingSucc e.absentChecks ≥ maxAbsentChecks
      · simp [hmax]
      · simp [hmax, PendingEvent.bump]
    · by_cases hb : b = e.blockNumber
      · simp [hb]
      · simp [hb, PendingEvent.remine]
  · simp [hconf]

/-- A message none of whose logs makes the handler panic. -/
lemma deliver_eq {L : Type} {route : L → Route} {blockNumber : ℕ} {s : RelayState L} {logs : List L}
    (hknown : ∀ log ∈ logs, route log ≠ .panics) :
    (deliver route blockNumber s logs).1.panicked = s.panicked ∧
      (deliver route blockNumber s logs).1.pending = s.pending ++
        (logs.filter fun log => decide (route log = .queued)).map
          (fun log => ⟨log, blockNumber, 0⟩) ∧
      (deliver route blockNumber s logs).2 =
        logs.filter fun log => decide (route log = .immediate) := by
  induction logs generalizing s with
  | nil => simp [deliver]
  | cons log logs ih =>
    have hrest : ∀ log ∈ logs, route log ≠ .panics :=
      fun log' hlog' => hknown log' (List.mem_cons_of_mem log hlog')
    cases hroute : route log with
    | ignored => simpa [deliver, hroute] using ih hrest
    | immediate => simpa [deliver, hroute] using ih hrest
    | queued =>
      have hqueue := @ih { s with pending := s.pending ++ [⟨log, blockNumber, 0⟩] } hrest
      simpa [deliver, hroute] using hqueue
    | panics => exact absurd hroute (hknown log List.mem_cons_self)

/-- What a handler has taken is what it has handed over, what waits and what it has given up. -/
lemma relayed_of_run {turns : RelayTurns} {r : RelayState Log} (h : (relayLoop c).Run turns r)
    (hknown : ∀ log ∈ logsOf (takenIn turns), c.route log ≠ .panics) :
    r.panicked = false ∧ routed c .immediate (logsOf (takenIn turns)) = handedAtOnce turns ∧
      (routed c .queued (logsOf (takenIn turns))).Perm
        (r.pending.map PendingEvent.log ++ handedLater turns ++ givenUp turns) := by
  refine h.induction (P := fun turns r =>
    (∀ log ∈ logsOf (takenIn turns), c.route log ≠ .panics) →
      r.panicked = false ∧
      routed c .immediate (logsOf (takenIn turns)) = handedAtOnce turns ∧
      (routed c .queued (logsOf (takenIn turns))).Perm
        (r.pending.map PendingEvent.log ++ handedLater turns ++
          givenUp turns)) ?_ ?_ hknown
  · rintro r rfl -
    exact ⟨rfl, rfl, .nil⟩
  · rintro turns r ⟨i, o⟩ r' - ih hstep hknown
    have htaken : logsOf (takenIn (turns ++ [(i, o)])) =
        logsOf (takenIn turns) ++ ((messageOf i).elim [] Evm.EventMessage.eventLogs) := by
      rw [takenIn, List.filterMap_append, logsOf, List.flatMap_append]
      cases i <;> simp [messageOf, logsOf, takenIn]
    rw [htaken] at hknown ⊢
    obtain ⟨hpanicked, hatOnce, hperm⟩ :=
      ih fun log hlog => hknown log (List.mem_append_left _ hlog)
    have honce : handedAtOnce (turns ++ [(i, o)]) = handedAtOnce turns ++ o.immediate := by
      simp [handedAtOnce]
    have hlater : handedLater (turns ++ [(i, o)]) =
        handedLater turns ++ o.handed.map PendingEvent.log := by
      simp [handedLater]
    have hgivenUp : givenUp (turns ++ [(i, o)]) =
        givenUp turns ++ o.verified.filterMap givenUpBy := by
      simp [givenUp]
    rw [honce, hlater, hgivenUp, routed_append, routed_append, hatOnce]
    have hhandle : handle c.blockConfirmations c.route r i = (r', o) := hstep
    unfold handle at hhandle
    rw [hpanicked, if_neg Bool.false_ne_true] at hhandle
    cases i with
    | event blockNumber eventLogs =>
      obtain ⟨rfl, rfl⟩ := Prod.mk.inj hhandle
      obtain ⟨hpanics, hpending, himmediate⟩ := @deliver_eq _ c.route blockNumber r eventLogs
        fun log hlog => hknown log (List.mem_append_right _ hlog)
      refine ⟨hpanics.trans hpanicked, ?_, ?_⟩
      · simp only [messageOf, Option.elim_some, himmediate]
        rfl
      · simp only [hpending, List.map_nil, List.append_nil, List.filterMap_nil, List.map_append,
          messageOf, Option.elim_some]
        have hnew : List.map PendingEvent.log (List.map (fun log => ⟨log, blockNumber, 0⟩)
            (eventLogs.filter fun log => decide (c.route log = .queued))) =
              routed c .queued eventLogs := by
          rw [List.map_map]
          exact List.map_id _
        rw [hnew]
        -- The new entries come behind the old ones.
        refine (hperm.append_right _).trans ?_
        rw [← Multiset.coe_eq_coe]
        simp only [← Multiset.coe_add]
        abel
    | check latest reply =>
      simp only [messageOf, Option.elim_none, List.append_nil, routed, List.filter_nil]
      cases latest with
      | error report =>
        obtain ⟨rfl, rfl⟩ := Prod.mk.inj hhandle
        exact ⟨rfl, by simp, by simpa [routed, checkPending_error] using hperm⟩
      | ok latest =>
        obtain ⟨rfl, rfl⟩ := Prod.mk.inj hhandle
        refine ⟨rfl, by simp, hperm.trans ?_⟩
        have hcheck := pending_perm_check c.blockConfirmations latest reply r.pending
        refine ((hcheck.append_right _).append_right _).trans ?_
        rw [← Multiset.coe_eq_coe]
        simp only [← Multiset.coe_add]
        abel
    | other =>
      obtain ⟨rfl, rfl⟩ := Prod.mk.inj hhandle
      refine ⟨hpanicked, by simp [messageOf, routed], ?_⟩
      simpa [messageOf, routed] using hperm

/-! ### All the way -/

lemma logsOf_append (messages messages' : List Evm.EventMessage) :
    logsOf (messages ++ messages') = logsOf messages ++ logsOf messages' :=
  List.flatMap_append

/-- A check in which a request was absent a number of times before, and is absent again. -/
def absentTurn (absentChecks : ℕ) : RelayInput Log × RelayOutput Log :=
  (.check (.ok 104) fun _ => .ok none,
    ⟨[], [(⟨requestLog 1, 101, absentChecks⟩, .ok none)], []⟩)

/-- The turns of the handler of the sample.  It takes two messages with three requests, the first two
of which are verified from head 104 on: one is handed over, and the other one stays absent. -/
def sampleTurns : RelayTurns :=
  [(.event 101 [requestLog 0, requestLog 1], ⟨[], [], []⟩),
    (.event 103 [requestLog 2], ⟨[], [], []⟩),
    (.check (.ok 104) fun idx => .ok (if idx = 0 then some 101 else none),
      ⟨[], [(⟨requestLog 0, 101, 0⟩, .ok (some 101)), (⟨requestLog 1, 101, 0⟩, .ok none)],
        [⟨requestLog 0, 101, 0⟩]⟩),
    absentTurn 1, absentTurn 2, absentTurn 3, absentTurn 4]

/-- The handler of the sample makes its turns, and one request waits. -/
lemma run_sampleTurns :
    (relayLoop sampleClient).Run sampleTurns ⟨[⟨requestLog 2, 103, 0⟩], false⟩ := by
  have hfirst : (relayLoop sampleClient).step .new
      (.event 101 [requestLog 0, requestLog 1], ⟨[], [], []⟩)
      ⟨[⟨requestLog 0, 101, 0⟩, ⟨requestLog 1, 101, 0⟩], false⟩ := by
    show handle 2 _ _ _ = _
    simp [handle, deliver, RelayState.new, route_requestLog]
  have hsecond : (relayLoop sampleClient).step
      ⟨[⟨requestLog 0, 101, 0⟩, ⟨requestLog 1, 101, 0⟩], false⟩
      (.event 103 [requestLog 2], ⟨[], [], []⟩)
      ⟨[⟨requestLog 0, 101, 0⟩, ⟨requestLog 1, 101, 0⟩, ⟨requestLog 2, 103, 0⟩], false⟩ := by
    show handle 2 _ _ _ = _
    simp [handle, deliver, route_requestLog]
  have hcheck : ∀ reply pending, handle 2 sampleClient.route ⟨pending, false⟩
      (.check (.ok 104) reply) =
        (⟨(checkPending 2 (.ok 104) reply pending).pending, false⟩,
          ⟨[], (checkPending 2 (.ok 104) reply pending).verified,
            (checkPending 2 (.ok 104) reply pending).handed⟩) := fun _ _ => rfl
  have hthird : (relayLoop sampleClient).step
      ⟨[⟨requestLog 0, 101, 0⟩, ⟨requestLog 1, 101, 0⟩, ⟨requestLog 2, 103, 0⟩], false⟩
      (.check (.ok 104) fun idx => .ok (if idx = 0 then some 101 else none),
        ⟨[], [(⟨requestLog 0, 101, 0⟩, .ok (some 101)), (⟨requestLog 1, 101, 0⟩, .ok none)],
          [⟨requestLog 0, 101, 0⟩]⟩)
      ⟨[⟨requestLog 1, 101, 1⟩, ⟨requestLog 2, 103, 0⟩], false⟩ := by
    refine (hcheck _ _).trans ?_
    rw [checkPending_ok]
    rfl
  have habsent : ∀ n < 4, (relayLoop sampleClient).step
      ⟨[⟨requestLog 1, 101, n⟩, ⟨requestLog 2, 103, 0⟩], false⟩ (absentTurn n)
      ⟨[⟨requestLog 1, 101, n + 1⟩, ⟨requestLog 2, 103, 0⟩], false⟩ := by
    intro n hn
    refine (hcheck _ _).trans ?_
    rw [checkPending_ok]
    interval_cases n <;> rfl
  have hgone : (relayLoop sampleClient).step
      ⟨[⟨requestLog 1, 101, 4⟩, ⟨requestLog 2, 103, 0⟩], false⟩ (absentTurn 4)
      ⟨[⟨requestLog 2, 103, 0⟩], false⟩ := by
    refine (hcheck _ _).trans ?_
    rw [checkPending_ok]
    rfl
  have hfound := LabelledSystem.Run.snoc (.snoc (.snoc (.start rfl) hfirst) hsecond) hthird
  exact .snoc (.snoc (.snoc (.snoc hfound (habsent 1 (by decide))) (habsent 2 (by decide)))
    (habsent 3 (by decide))) hgone

end Events

end BifrostRelayer
