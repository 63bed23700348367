import BifrostRelayer.Bootstrap.Handover

/-!
# The seam between the bootstrap and the event stream

The logs that the relay handler has in its hands are always those of a whole range of blocks that
reaches the event stream, whether it has taken them from the cache or fetched them.  It finishes
only when it has processed all of them, so the end of its bootstrap leaves no gap in front of the
stream.
-/

namespace BifrostRelayer

namespace Bootstrap

open BootstrapState Evm Events

variable {κ : Type} [DecidableEq κ] [Fintype κ] {cfg : BootstrapConfig κ} {s s' : Handover κ}

/-! ### The logs of a range -/

/-- The node of a chain, as far as its replies are relied on. -/
structure ChainNode where
  /-- The socket events of a block. -/
  socketLogs : ℕ → List Log
  /-- The number of blocks that a bootstrap goes back at least. -/
  window : ℕ

/-- The replies to a fetch are honest: to a query the node returns the socket events of the blocks,
and the offset is at least the window. -/
def HonestReplies (node : ChainNode) (call : BootstrapCall) : Prop :=
  (∀ first last logs,
    call.handler.client.getLogs (call.handler.filter first last) = .ok logs →
      logs = (rangeInclusive first.toNat last.toNat).flatMap node.socketLogs) ∧
  ∀ offset, (call.handler.replies call.roundOffset).offsetHeight = .ok offset →
    node.window ≤ offset

/-- The node has not gone back behind the head that the event manager of its chain has read, and its
head is not near the end of the block numbers. -/
def HeadKept (latestBlock : Option ℕ) (call : BootstrapCall) : Prop :=
  ∀ head, call.handler.client.blockNumber = .ok head →
    (∀ L, latestBlock = some L → L ≤ head.toNat) ∧
      head.toNat + bootstrapChunkSize.toNat < 2 ^ 64

/-- What is relied on when a socket handler fetches: honest replies, and a head that is kept. -/
def Reliable (nodes : κ → ChainNode) (s : Handover κ) : HandoverStep κ → Prop
  | .pollerFetch c call | .relayFetch c call =>
      HonestReplies (nodes c) call ∧ HeadKept (s.data c).latestBlock call
  | _ => True

/-- The logs are those of a range that goes back over the window and ends at or behind the head that
the event manager has read. -/
def Covers (node : ChainNode) (latestBlock : Option ℕ) (logs : List Log) : Prop :=
  ∃ L offset head, latestBlock = some L ∧ L ≤ head ∧ node.window ≤ offset ∧
    logs = (rangeInclusive (head - offset) head).flatMap node.socketLogs

/-- A fetch from an honest node has the logs of its range. -/
lemma covers_of_events {node : ChainNode} {latestBlock : Option ℕ} {call : BootstrapCall}
    {logs : List Log} (hhonest : HonestReplies node call) (hlatest : latestBlock ≠ none)
    (hkept : HeadKept latestBlock call) (h : call.events = some (.ok logs)) :
    Covers node latestBlock logs := by
  obtain ⟨L, rfl⟩ := Option.ne_none_iff_exists'.1 hlatest
  obtain ⟨fetch, hfetch, hresult⟩ := Option.map_eq_some_iff.1 h
  rw [SocketBootstrap.result_eq_getBootstrapEvents (fun latest hlatest => (hkept latest hlatest).2)
    hfetch] at hresult
  simp only [getBootstrapEvents, Fallible.bind_eq_ok, pure, Except.pure, Except.ok.injEq] at hresult
  obtain ⟨offset, hoffset, head, hhead, parts, hparts, rfl⟩ := hresult
  obtain ⟨latest, hlatest, rfl⟩ : ∃ latest, call.handler.client.blockNumber = .ok latest ∧
      latest.toNat = head := by
    simp only [SocketBootstrap.replies] at hhead
    cases hlatest : call.handler.client.blockNumber with
    | error report => simp [hlatest, Except.map] at hhead
    | ok latest => exact ⟨latest, rfl, by simpa [hlatest, Except.map] using hhead⟩
  have hlt := latest.toNat_lt
  refine ⟨L, offset, latest.toNat, rfl, (hkept latest hlatest).1 L rfl, hhonest.2 offset hoffset, ?_⟩
  have hcalls : ∀ chunk ∈ bootstrapChunks (latest.toNat - offset) latest.toNat,
      (call.handler.replies call.roundOffset).getLogs chunk.1 chunk.2 =
        .ok ((rangeInclusive chunk.1 chunk.2).flatMap node.socketLogs) := by
    intro chunk hchunk
    obtain ⟨part, -, hpart⟩ := Fallible.mem_of_mapM_ok hparts chunk hchunk
    obtain ⟨hfirst, hlast⟩ := le_of_mem_bootstrapChunks hchunk
    have hlogs := hhonest.1 _ _ part hpart
    rw [UInt64.toNat_ofNat_of_lt' (hfirst.trans_lt hlt),
      UInt64.toNat_ofNat_of_lt' (hlast.trans_lt hlt)] at hlogs
    rw [hpart, hlogs]
  have heq := Except.ok.inj (hparts.symm.trans (Fallible.mapM_eq_ok_map hcalls))
  rw [heq, ← blocks_bootstrapChunks, List.flatMap_assoc, List.flatMap_def]

/-! ### The invariant -/

/-- What the socket handlers of a chain have done, state by state. -/
structure HandoverInvariant (queueEnabled : Bool) (node : ChainNode) (v : ChainView) : Prop where
  initialized : v.data.latestBlock = none → v.manager = .starting
  poller_works : v.data.poller ≠ .fetching → v.poller = .working
  relay_works : v.data.relay ≠ .fetching → v.relay = .working
  /-- The relay handler has not begun. -/
  early : v.state < bootstrapSocketRelay → v.data.attempts = 0 ∧ v.data.handed = []
  /-- The queue poller has not begun, or it works on what it has cached. -/
  unpolled : v.state < bootstrapSocketRelay → v.data.poller = .fetching →
    v.data.cached = none ∧ v.data.polled = []
  polling : ∀ left, v.data.poller = .handing left →
    v.data.cached = some (v.data.polled ++ left) ∧
      Covers node v.data.latestBlock (v.data.polled ++ left)
  unqueued : queueEnabled = false → v.data.cached = none
  /-- The queue poller has finished: the first call of the relay handler gets its logs. -/
  polled : queueEnabled = true → bootstrapSocketRelay ≤ v.state →
    Covers node v.data.latestBlock v.data.polled ∧
      v.data.cached = if v.data.attempts = 0 then some v.data.polled else none
  first : queueEnabled = true → bootstrapSocketRelay ≤ v.state →
    (v.data.attempts = 0 → v.data.handed = []) ∧
      (v.data.attempts = 1 → (∀ left, v.data.relay = .handing left →
        v.data.handed ++ left = v.data.polled) ∧
          (v.state = normalStart → v.data.handed = v.data.polled))
  /-- The relay handler works on the logs of a range. -/
  handing : ∀ left, v.data.relay = .handing left → v.data.attempts ≠ 0 ∧
    ∃ before done, v.data.handed = before ++ done ∧
      Covers node v.data.latestBlock (done ++ left)
  finished : v.state = normalStart → v.data.attempts ≠ 0 ∧
    ∃ before logs, v.data.handed = before ++ logs ∧ Covers node v.data.latestBlock logs

section Invariant

variable {queueEnabled : Bool} {node : ChainNode} {v v' : ChainView}

/-- It holds at the start. -/
lemma handoverInvariant_start (queueEnabled : Bool) (node : ChainNode) :
    HandoverInvariant queueEnabled node
      ⟨nodeSyncing, .starting, .enter, .enter, .start⟩ where
  initialized := fun _ => rfl
  poller_works := fun h => absurd rfl h
  relay_works := fun h => absurd rfl h
  early := fun _ => ⟨rfl, rfl⟩
  unpolled := fun _ _ => ⟨rfl, rfl⟩
  polling := by simp [SocketData.start]
  unqueued := fun _ => rfl
  polled := fun _ hle => absurd hle (by decide)
  first := fun _ hle => absurd hle (by decide)
  handing := by simp [SocketData.start]
  finished := by simp

namespace HandoverInvariant

/-- A chain that is past the sync of its node has an event manager that was initialized. -/
lemma latestBlock_ne_none (h : HandoverInvariant queueEnabled node v)
    (hplaced : Placed queueEnabled v) (hstate : v.state ≠ nodeSyncing) :
    v.data.latestBlock ≠ none :=
  fun hnone => hstate (hplaced.manager (h.initialized hnone))

/-- A step that leaves the data alone. -/
lemma quiet (h : HandoverInvariant queueEnabled node v) {x : BootstrapState}
    {manager poller relay : Pc} (hpass : Passes queueEnabled v.state x)
    (hmanager : v.manager = .starting → manager = .starting)
    (hpoller : v.data.poller ≠ .fetching → v.poller = .working → poller = .working)
    (hrelay : v.data.relay ≠ .fetching → v.relay = .working → relay = .working) :
    HandoverInvariant queueEnabled node ⟨x, manager, poller, relay, v.data⟩ := by
  have hearly : x < bootstrapSocketRelay → v.state < bootstrapSocketRelay := by
    rcases hpass with rfl | ⟨hlt, -⟩
    · exact id
    · exact fun _ => hlt
  have hsame : queueEnabled = true → bootstrapSocketRelay ≤ x → v.state = x := by
    rcases hpass with rfl | ⟨-, -, hqueue⟩
    · exact fun _ _ => rfl
    · exact fun henabled hle => absurd hle (not_le.mpr (hqueue henabled))
  have hnormal : x = normalStart → v.state = normalStart := by
    rcases hpass with rfl | ⟨-, hle, -⟩
    · exact id
    · rintro rfl
      exact absurd hle (by decide)
  exact {
    initialized := fun hnone => hmanager (h.initialized hnone)
    poller_works := fun hne => hpoller hne (h.poller_works hne)
    relay_works := fun hne => hrelay hne (h.relay_works hne)
    early := fun hlt => h.early (hearly hlt)
    unpolled := fun hlt => h.unpolled (hearly hlt)
    polling := h.polling
    unqueued := h.unqueued
    polled := fun henabled hle => h.polled henabled ((hsame henabled hle).symm ▸ hle)
    first := by
      intro henabled hle
      have hfirst := h.first henabled ((hsame henabled hle).symm ▸ hle)
      exact ⟨hfirst.1, fun hone => ⟨(hfirst.2 hone).1, fun hx => (hfirst.2 hone).2 (hnormal hx)⟩⟩
    handing := h.handing
    finished := fun hx => h.finished (hnormal hx) }

/-- The event manager is initialized while the socket handlers have nothing to do. -/
lemma managerStart (h : HandoverInvariant queueEnabled node v)
    (hplaced : Placed queueEnabled v) {manager : Pc} (latestBlock : ℕ)
    (hpc : v.manager = .starting) :
    HandoverInvariant queueEnabled node
      { v with manager := manager, data := v.data.initialized latestBlock } := by
  have hstate := hplaced.manager hpc
  have hearly : v.state < bootstrapSocketRelay := by
    rw [hstate]
    decide
  have hpoller : v.data.poller = .fetching := by
    by_contra hne
    have := (hplaced.poller (h.poller_works hne)).1
    simp [hstate] at this
  have hrelay : v.data.relay = .fetching := by
    by_contra hne
    have := hplaced.relay (h.relay_works hne)
    simp [hstate] at this
  exact {
    initialized := by simp [SocketData.initialized]
    poller_works := h.poller_works
    relay_works := h.relay_works
    early := h.early
    unpolled := h.unpolled
    polling := by simp [SocketData.initialized, hpoller]
    unqueued := h.unqueued
    polled := fun _ hle => absurd hle (not_le.mpr hearly)
    first := h.first
    handing := by simp [SocketData.initialized, hrelay]
    finished := by simp [hstate] }

/-- The queue poller has its logs and leaves them in the cache. -/
lemma pollerFetched (h : HandoverInvariant queueEnabled node v)
    (hplaced : Placed queueEnabled v) {logs : List Log} (hpc : v.poller = .working)
    (hfetching : v.data.poller = .fetching)
    (hcovers : Covers node v.data.latestBlock logs) :
    HandoverInvariant queueEnabled node { v with data := v.data.pollerFetched logs } := by
  obtain ⟨hstate, henabled⟩ := hplaced.poller hpc
  have hearly : v.state < bootstrapSocketRelay := by
    rw [hstate]
    decide
  obtain ⟨-, hpolled⟩ := h.unpolled hearly hfetching
  exact {
    initialized := h.initialized
    poller_works := fun _ => hpc
    relay_works := h.relay_works
    early := h.early
    unpolled := by simp [SocketData.pollerFetched]
    polling := by
      rintro left hleft
      obtain rfl : logs = left := by simpa [SocketData.pollerFetched] using hleft
      simpa [SocketData.pollerFetched, hpolled] using hcovers
    unqueued := by simp [henabled]
    polled := fun _ hle => absurd hle (not_le.mpr hearly)
    first := h.first
    handing := h.handing
    finished := by simp [hstate] }

/-- The queue poller processes a log. -/
lemma pollerHanded (h : HandoverInvariant queueEnabled node v)
    (hplaced : Placed queueEnabled v) {log : Log} {left : List Log}
    (hhanding : v.data.poller = .handing (log :: left)) :
    HandoverInvariant queueEnabled node
      { v with data := v.data.pollerHanded log left } := by
  have hpc := h.poller_works (by simp [hhanding])
  have hearly : v.state < bootstrapSocketRelay := by
    rw [(hplaced.poller hpc).1]
    decide
  exact {
    initialized := h.initialized
    poller_works := fun _ => hpc
    relay_works := h.relay_works
    early := h.early
    unpolled := by simp [SocketData.pollerHanded]
    polling := by
      rintro rest hrest
      obtain rfl : left = rest := by simpa [SocketData.pollerHanded] using hrest
      simpa [SocketData.pollerHanded] using h.polling _ hhanding
    unqueued := h.unqueued
    polled := fun _ hle => absurd hle (not_le.mpr hearly)
    first := fun _ hle => absurd hle (not_le.mpr hearly)
    handing := h.handing
    finished := fun hnormal => absurd hearly (not_lt.mpr (hnormal ▸ by decide)) }

/-- The queue poller passes the chain on to the relay handler, with its logs in the cache. -/
lemma pollerDone (h : HandoverInvariant queueEnabled node v)
    (hplaced : Placed queueEnabled v) {poller : Pc} (hpc : v.poller = .working)
    (hdone : v.data.poller = .handing []) :
    HandoverInvariant queueEnabled node
      { v with state := bootstrapSocketRelay, poller := poller, data := v.data.pollerDone } := by
  have hearly : v.state < bootstrapSocketRelay := by
    rw [(hplaced.poller hpc).1]
    decide
  obtain ⟨hcached, hcovers⟩ := h.polling [] hdone
  rw [List.append_nil] at hcached hcovers
  obtain ⟨hattempts, hhanded⟩ := h.early hearly
  exact {
    initialized := h.initialized
    poller_works := fun hne => absurd rfl hne
    relay_works := h.relay_works
    early := fun hlt => absurd hlt (lt_irrefl _)
    unpolled := fun hlt => absurd hlt (lt_irrefl _)
    polling := by simp [SocketData.pollerDone]
    unqueued := h.unqueued
    polled := fun _ _ => ⟨hcovers, by simp [SocketData.pollerDone, hcached, hattempts]⟩
    first := fun _ _ => ⟨fun _ => hhanded, by simp [SocketData.pollerDone, hattempts]⟩
    handing := h.handing
    finished := by simp }

section Relay

variable (h : HandoverInvariant queueEnabled node v) (hplaced : Placed queueEnabled v)
  (hpc : v.relay = .working)
include h hplaced hpc

/-- While the relay handler works, the queue poller does not. -/
lemma poller_fetching : v.data.poller = .fetching := by
  by_contra hne
  have := (hplaced.poller (h.poller_works hne)).1
  simp [hplaced.relay hpc] at this

/-- What the relay handler gets is what the queue poller has left, or a fetch of its own. -/
lemma covers_relayEvents {call : BootstrapCall} {logs : List Log}
    (hhonest : HonestReplies node call) (hkept : HeadKept v.data.latestBlock call)
    (hevents : v.data.relayEvents call = some (.ok logs)) :
    Covers node v.data.latestBlock logs ∧
      (queueEnabled = true → v.data.attempts = 0 → logs = v.data.polled) := by
  have hstate := hplaced.relay hpc
  have hle : bootstrapSocketRelay ≤ v.state := hstate.ge
  cases hcached : v.data.cached with
  | none =>
    simp only [SocketData.relayEvents, hcached] at hevents
    refine ⟨covers_of_events hhonest ?_ hkept hevents, fun henabled hzero => ?_⟩
    · exact h.latestBlock_ne_none hplaced (by simp [hstate])
    · have := (h.polled henabled hle).2
      simp [hcached, hzero] at this
  | some cached =>
    obtain rfl : cached = logs := by simpa [SocketData.relayEvents, hcached] using hevents
    have henabled : queueEnabled = true := by
      by_contra hno
      simp [h.unqueued (by simpa using hno)] at hcached
    obtain ⟨hcovers, heq⟩ := h.polled henabled hle
    rw [hcached] at heq
    split at heq
    · obtain rfl := Option.some.inj heq
      exact ⟨hcovers, fun _ _ => rfl⟩
    · cases heq

/-- The relay handler has its logs. -/
lemma relayFetched {logs : List Log} (hcovers : Covers node v.data.latestBlock logs)
    (hpolled : queueEnabled = true → v.data.attempts = 0 → logs = v.data.polled) :
    HandoverInvariant queueEnabled node { v with data := v.data.relayFetched logs } := by
  have hstate := hplaced.relay hpc
  have hle : bootstrapSocketRelay ≤ v.state := hstate.ge
  have hpoller := poller_fetching h hplaced hpc
  exact {
    initialized := h.initialized
    poller_works := h.poller_works
    relay_works := fun _ => hpc
    early := fun hlt => absurd hlt (not_lt.mpr hle)
    unpolled := fun hlt => absurd hlt (not_lt.mpr hle)
    polling := by simp [SocketData.relayFetched, hpoller]
    unqueued := fun _ => rfl
    polled := fun henabled _ =>
      ⟨(h.polled henabled hle).1, by simp [SocketData.relayFetched]⟩
    first := by
      intro henabled _
      refine ⟨by simp [SocketData.relayFetched], fun hone => ⟨fun left hleft => ?_, ?_⟩⟩
      · obtain rfl : logs = left := by simpa [SocketData.relayFetched] using hleft
        have hzero : v.data.attempts = 0 := by simpa [SocketData.relayFetched] using hone
        simpa [SocketData.relayFetched, (h.first henabled hle).1 hzero] using hpolled henabled hzero
      · simp [hstate]
    handing := by
      intro left hleft
      obtain rfl : logs = left := by simpa [SocketData.relayFetched] using hleft
      exact ⟨by simp [SocketData.relayFetched], v.data.handed, [],
        by simp [SocketData.relayFetched], hcovers⟩
    finished := by simp [hstate] }

/-- The relay handler has not got any logs; then its first call is over. -/
lemma relayUnfetched {relay : Pc} (hfetching : v.data.relay = .fetching)
    (hcached : v.data.cached = none) :
    HandoverInvariant queueEnabled node
      { v with relay := relay, data := v.data.relayUnfetched } := by
  have hstate := hplaced.relay hpc
  have hle : bootstrapSocketRelay ≤ v.state := hstate.ge
  have hpoller := poller_fetching h hplaced hpc
  exact {
    initialized := h.initialized
    poller_works := h.poller_works
    relay_works := fun hne => absurd hfetching hne
    early := fun hlt => absurd hlt (not_lt.mpr hle)
    unpolled := fun hlt => absurd hlt (not_lt.mpr hle)
    polling := by simp [SocketData.relayUnfetched, hpoller]
    unqueued := h.unqueued
    polled := fun henabled _ =>
      ⟨(h.polled henabled hle).1, by simp [SocketData.relayUnfetched, hcached]⟩
    first := fun _ _ => ⟨by simp [SocketData.relayUnfetched],
      fun _ => ⟨by simp [SocketData.relayUnfetched, hfetching], by simp [hstate]⟩⟩
    handing := by simp [SocketData.relayUnfetched, hfetching]
    finished := by simp [hstate] }

/-- The relay handler processes a log, and goes on or fails. -/
lemma relayHanded {relay : Pc} {log : Log} {left : List Log} {work : SocketWork}
    (hhanding : v.data.relay = .handing (log :: left))
    (hwork : work = .handing left ∧ relay = v.relay ∨ work = .fetching) :
    HandoverInvariant queueEnabled node
      { v with relay := relay, data := v.data.relayHanded log work } := by
  have hstate := hplaced.relay hpc
  have hle : bootstrapSocketRelay ≤ v.state := hstate.ge
  have hpoller := poller_fetching h hplaced hpc
  obtain ⟨hattempts, before, done, hbefore, hcovers⟩ := h.handing _ hhanding
  have hleft : ∀ rest, work = .handing rest → rest = left := by
    rintro rest rfl
    rcases hwork with ⟨heq, -⟩ | hne
    · exact SocketWork.handing.inj heq
    · cases hne
  exact {
    initialized := h.initialized
    poller_works := h.poller_works
    relay_works := by
      rcases hwork with ⟨-, rfl⟩ | rfl
      · exact fun _ => hpc
      · exact fun hne => absurd rfl hne
    early := fun hlt => absurd hlt (not_lt.mpr hle)
    unpolled := fun hlt => absurd hlt (not_lt.mpr hle)
    polling := by simp [SocketData.relayHanded, hpoller]
    unqueued := h.unqueued
    polled := fun henabled _ => h.polled henabled hle
    first := by
      intro henabled _
      refine ⟨fun hzero => absurd hzero hattempts, fun hone => ⟨fun rest hrest => ?_, ?_⟩⟩
      · obtain rfl := hleft rest hrest
        simpa [SocketData.relayHanded] using ((h.first henabled hle).2 hone).1 _ hhanding
      · simp [hstate]
    handing := by
      intro rest hrest
      obtain rfl := hleft rest hrest
      exact ⟨hattempts, before, done ++ [log], by simp [SocketData.relayHanded, hbefore],
        by simpa [SocketData.relayHanded] using hcovers⟩
    finished := by simp [hstate] }

/-- The relay handler has finished, and with it the bootstrap of the chain. -/
lemma relayDone {relay : Pc} (hdone : v.data.relay = .handing []) :
    HandoverInvariant queueEnabled node
      { v with state := normalStart, relay := relay, data := v.data.relayDone } := by
  have hle : bootstrapSocketRelay ≤ v.state := (hplaced.relay hpc).ge
  have hpoller := poller_fetching h hplaced hpc
  have hlate : ¬normalStart < bootstrapSocketRelay := by decide
  obtain ⟨hattempts, before, done, hbefore, hcovers⟩ := h.handing _ hdone
  rw [List.append_nil] at hcovers
  exact {
    initialized := h.initialized
    poller_works := h.poller_works
    relay_works := fun hne => absurd rfl hne
    early := fun hlt => absurd hlt hlate
    unpolled := fun hlt => absurd hlt hlate
    polling := by simp [SocketData.relayDone, hpoller]
    unqueued := h.unqueued
    polled := fun henabled _ => h.polled henabled hle
    first := by
      intro henabled _
      refine ⟨fun hzero => absurd hzero hattempts, fun hone => ⟨by simp [SocketData.relayDone], ?_⟩⟩
      intro _
      simpa [SocketData.relayDone] using ((h.first henabled hle).2 hone).1 [] hdone
    handing := by simp [SocketData.relayDone]
    finished := fun _ => ⟨hattempts, before, done, hbefore, hcovers⟩ }

end Relay

omit [DecidableEq κ] [Fintype κ] in
/-- Every step keeps the invariant. -/
lemma step {s : Handover κ} {a : HandoverStep κ} {c : κ} {nodes : κ → ChainNode}
    (h : HandoverInvariant queueEnabled (nodes c) (s.view c))
    (hplaced : Placed queueEnabled (s.view c)) (hreliable : Reliable nodes s a)
    (hstep : ViewStep queueEnabled c a (s.view c) v') :
    HandoverInvariant queueEnabled (nodes c) v' := by
  cases hstep with
  | quiet hpass hmanager hpoller hrelay => exact h.quiet hpass hmanager hpoller hrelay
  | managerStart latestBlock hpc => exact h.managerStart hplaced latestBlock hpc
  | pollerFetched call logs hpc hfetching hevents =>
    have hstate : (s.view c).state ≠ nodeSyncing := by simp [(hplaced.poller hpc).1]
    exact h.pollerFetched hplaced hpc hfetching
      (covers_of_events hreliable.1 (h.latestBlock_ne_none hplaced hstate) hreliable.2 hevents)
  | pollerHanded log left hhanding => exact h.pollerHanded hplaced hhanding
  | pollerDone hpc hdone => exact h.pollerDone hplaced hpc hdone
  | relayFetched call logs hpc hfetching hevents =>
    obtain ⟨hcovers, hpolled⟩ :=
      h.covers_relayEvents hplaced hpc hreliable.1 hreliable.2 hevents
    exact h.relayFetched hplaced hpc hcovers hpolled
  | relayUnfetched hpc hfetching hcached => exact h.relayUnfetched hplaced hpc hfetching hcached
  | relayHanded log left hhanding =>
    have hpc := h.relay_works (by simp [hhanding])
    exact h.relayHanded hplaced hpc hhanding (.inl ⟨rfl, rfl⟩)
  | relayFailed log left hpc hhanding => exact h.relayHanded hplaced hpc hhanding (.inr rfl)
  | relayDone hpc hdone => exact h.relayDone hplaced hpc hdone

end HandoverInvariant

end Invariant

/-! ### Runs -/

/-- The data does not disturb the phases. -/
lemma phased_step {a : HandoverStep κ} (h : Phased cfg s.phases.tasks)
    (hstep : handoverStep cfg s a = some s') : Phased cfg s'.phases.tasks := by
  have hphase {x : PhaseStep κ} {phases : Phases κ}
      (hx : phaseStep cfg s.phases x = some phases) : Phased cfg phases.tasks := by
    rcases phaseStep_cases hx with ⟨t, ok, -, hact, -⟩ | ⟨u, p, -, -, rfl⟩
    · exact (h.step hact).1
    · exact h
  have htask {t : Task κ} {p : Pc} {ok : Bool} {c : κ} {d : SocketData}
      (hx : s.task cfg t p ok c d = some s') : Phased cfg s'.phases.tasks := by
    obtain ⟨phases, hphases, rfl⟩ := Option.map_eq_some_iff.1 hx
    exact hphase hphases
  cases a with
  | phase x =>
    simp only [handoverStep, Option.ite_none_right_eq_some, Option.map_eq_some_iff] at hstep
    obtain ⟨-, phases, hphases, rfl⟩ := hstep
    exact hphase hphases
  | managerStart c latestBlock => exact htask hstep
  | pollerFetch c call =>
    simp only [handoverStep, Option.ite_none_right_eq_some] at hstep
    obtain ⟨-, hstep⟩ := hstep
    split at hstep
    · obtain rfl := Option.some.inj hstep
      exact h
    · exact htask hstep
    · cases hstep
  | pollerLog c =>
    simp only [handoverStep] at hstep
    split at hstep
    · obtain rfl := Option.some.inj hstep
      exact h
    · cases hstep
  | pollerEnd c =>
    simp only [handoverStep, Option.ite_none_right_eq_some] at hstep
    exact htask hstep.2
  | relayFetch c call =>
    simp only [handoverStep, Option.ite_none_right_eq_some] at hstep
    obtain ⟨-, hstep⟩ := hstep
    split at hstep
    · obtain rfl := Option.some.inj hstep
      exact h
    · exact htask hstep
    · cases hstep
  | relayLog c ok =>
    simp only [handoverStep] at hstep
    split at hstep
    · split at hstep
      · obtain rfl := Option.some.inj hstep
        exact h
      · exact htask hstep
    · cases hstep
  | relayEnd c =>
    simp only [handoverStep, Option.ite_none_right_eq_some] at hstep
    exact htask hstep.2

/-- The phases and the invariant in every run with reliable nodes. -/
lemma handoverInvariant_of_run {nodes : κ → ChainNode} {tr : List (HandoverStep κ)}
    (h : ((handoverSystem cfg).restrict (Reliable nodes)).Run tr s) :
    Phased cfg s.phases.tasks ∧
      ∀ c, HandoverInvariant cfg.queueEnabled (nodes c) (s.view c) := by
  refine h.invariant (P := fun s => Phased cfg s.phases.tasks ∧
    ∀ c, HandoverInvariant cfg.queueEnabled (nodes c) (s.view c)) ?_ ?_
  · rintro s rfl
    exact ⟨phased_initial cfg, fun c => handoverInvariant_start _ _⟩
  · rintro s a s' ⟨hphased, hinv⟩ ⟨hstep, hreliable⟩
    exact ⟨phased_step hphased hstep, fun c => (hinv c).step (placed_of_phased hphased c) hreliable
      (viewStep_of_step hphased hstep c)⟩

/-! ### The seam -/

/-- The replies to the event manager are honest: a batch has the socket events of its blocks. -/
def HonestStream (node : ChainNode) (live : List (EventInput × EventOutput)) : Prop :=
  ∀ a ∈ live, ∀ r ∈ a.2.fetched, ∀ n, r.fromBlock ≤ n → n ≤ r.toBlock →
    node.socketLogs n ⊆ fetchedBy a.1

/-- The event stream has all socket events from the block behind the head that the event manager has
read, up to the block it waits for. -/
lemma subset_fetchedLogs {node : ChainNode} {eventCfg : EventConfig} {L : ℕ}
    {live : List (EventInput × EventOutput)} {m : EventManager}
    (h : (eventSystem eventCfg L).Run live m)
    (hheads : ∀ head ∈ L :: headsOf live, head + 100 + eventCfg.getLogsBatchSize < 2 ^ 64)
    (hhonest : HonestStream node live) {n : ℕ} (hL : L < n) (hn : n < m.waitingBlock) :
    node.socketLogs n ⊆ fetchedLogs live := by
  have hblock : n ∈ blocksOf (fetchedOf live) := by
    rw [(eventHistory_of_run h hheads).covered]
    exact mem_rangeInclusive.2 ⟨by omega, by omega⟩
  obtain ⟨r, hr, hrange⟩ := List.mem_flatMap.1 hblock
  obtain ⟨a, ha, har⟩ := List.mem_flatMap.1 hr
  obtain ⟨hfrom, hto⟩ := mem_rangeInclusive.1 hrange
  intro log hlog
  exact List.mem_flatMap.2 ⟨a, ha, hhonest a ha r har n hfrom hto hlog⟩

/-- Logs of a range that reaches the event stream, and the stream, leave out no block. -/
lemma mem_or_mem_fetchedLogs {node : ChainNode} {eventCfg : EventConfig} {L first last : ℕ}
    {live : List (EventInput × EventOutput)} {m : EventManager}
    (h : (eventSystem eventCfg L).Run live m)
    (hheads : ∀ head ∈ L :: headsOf live, head + 100 + eventCfg.getLogsBatchSize < 2 ^ 64)
    (hhonest : HonestStream node live) (hlast : L ≤ last) {n : ℕ} (hfirst : first ≤ n)
    (hn : n < m.waitingBlock) {log : Log} (hlog : log ∈ node.socketLogs n) :
    log ∈ (rangeInclusive first last).flatMap node.socketLogs ∨ log ∈ fetchedLogs live := by
  by_cases hle : n ≤ last
  · exact .inl (List.mem_flatMap.2 ⟨n, mem_rangeInclusive.2 ⟨hfirst, hle⟩, hlog⟩)
  · exact .inr (subset_fetchedLogs h hheads hhonest (by omega) hn hlog)

/-- Nothing is lost between the bootstrap and the event stream, as long as the nodes are honest and
none goes back behind the head that its event manager has read.  When a chain has finished its
bootstrap, the last logs that its relay handler was called with are those of a whole range of
blocks, which goes back over the window and reaches the first block of the event stream, however
often the handlers have failed before; the cache is empty, and a relay handler that has not failed
was called with the logs of the queue poller.  From the first block of the range on, every socket
event was handed to the handler or is in the event stream. -/
theorem socket_events_handed_over (cfg : BootstrapConfig κ) (nodes : κ → ChainNode)
    {tr : List (HandoverStep κ)} {s : Handover κ}
    (h : ((handoverSystem cfg).restrict (Reliable nodes)).Run tr s) {c : κ}
    (hc : s.phases.state (.evm c) = normalStart) :
    (s.data c).cached = none ∧
    (cfg.queueEnabled = true →
      Covers (nodes c) (s.data c).latestBlock (s.data c).polled ∧
        ((s.data c).attempts = 1 → (s.data c).handed = (s.data c).polled)) ∧
    ∃ L offset head before, (s.data c).latestBlock = some L ∧ L ≤ head ∧
      (nodes c).window ≤ offset ∧
      (s.data c).handed =
        before ++ (rangeInclusive (head - offset) head).flatMap (nodes c).socketLogs ∧
      ∀ eventCfg live m, (eventSystem eventCfg L).Run live m →
        (∀ head ∈ L :: headsOf live, head + 100 + eventCfg.getLogsBatchSize < 2 ^ 64) →
        HonestStream (nodes c) live → ∀ n, head - offset ≤ n → n < m.waitingBlock →
          ∀ log ∈ (nodes c).socketLogs n, log ∈ (s.data c).handed ∨ log ∈ fetchedLogs live := by
  have hinv := (handoverInvariant_of_run h).2 c
  have hstate : (s.view c).state = normalStart := hc
  have hle : bootstrapSocketRelay ≤ (s.view c).state := by
    rw [hstate]
    exact le_normalStart _
  obtain ⟨hattempts, before, logs, hhanded, L, offset, head, hlatest, hL, hwindow, hlogs⟩ :=
    hinv.finished hstate
  subst hlogs
  refine ⟨?_, fun henabled => ⟨(hinv.polled henabled hle).1, fun hone => ?_⟩,
    L, offset, head, before, hlatest, hL, hwindow, hhanded, ?_⟩
  · by_cases henabled : cfg.queueEnabled = true
    · have hcached := (hinv.polled henabled hle).2
      rwa [if_neg hattempts] at hcached
    · exact hinv.unqueued (by simpa using henabled)
  · exact ((hinv.first henabled hle).2 hone).2 hstate
  · intro eventCfg live m hlive hheads hstream n hfirst hn log hlog
    refine (mem_or_mem_fetchedLogs hlive hheads hstream hL hfirst hn hlog).imp (fun hmem => ?_) id
    have hhanded' : (s.data c).handed = _ := hhanded
    rw [hhanded']
    exact List.mem_append_right _ hmem

/-- The native chain alone, with the queue. -/
def loneChain : BootstrapConfig Unit := ⟨(), true, fun _ => true, false⟩

/-- A socket event in the block 95. -/
def loneNode : ChainNode where
  socketLogs n := if n = 95 then [⟨⟨.repeatByte 20 7⟩, [], [], none, none, none⟩] else []
  window := 10

/-- A fetch at the head 101. -/
def loneCall : BootstrapCall where
  handler :=
    let client : BootstrapClient := {
      chainId := 3068
      isNative := true
      socket := ⟨.repeatByte 20 7⟩
      bitcoinSocket := none
      roundInfo := .ok ⟨0⟩
      bootstrapOffsetHeight := fun _ _ => .ok 10
      blockNumber := .ok 101
      getLogs := fun filter =>
        .ok ((rangeInclusive filter.fromBlock.toNat filter.toBlock.toNat).flatMap
          loneNode.socketLogs) }
    ⟨client, client, .repeatByte 32 9⟩
  roundOffset := none
  fuel := 2

/-- A relay handler that fails at the log it has taken from the cache, and fetches it again. -/
def loneSteps : List (HandoverStep Unit) :=
  [.managerStart () 100, .phase (.task (.eventManager ()) .syncing true),
    .phase (.task (.eventManager ()) .flushing true), .phase (.task .roundupEmitter .enter true),
    .phase (.task .roundupEmitter .waiting true), .phase (.task .roundupEmitter .working true),
    .phase (.task .roundupRelay .enter true), .phase (.task .roundupRelay .waiting true),
    .phase (.task .roundupRelay .working true), .phase (.task (.queuePoller ()) .enter true),
    .phase (.task (.queuePoller ()) .waiting true), .pollerFetch () loneCall, .pollerLog (),
    .pollerEnd (), .phase (.task (.socketRelay ()) .enter true),
    .phase (.task (.socketRelay ()) .waiting true), .relayFetch () loneCall,
    .relayLog () false, .phase (.task (.socketRelay ()) .enter true),
    .phase (.task (.socketRelay ()) .waiting true), .relayFetch () loneCall,
    .relayLog () true, .relayEnd ()]

/-- Its node is reliable as long as the event manager has read no head after 101. -/
lemma reliable_loneSteps {s : Handover Unit} {a : HandoverStep Unit} (ha : a ∈ loneSteps)
    (hlatest : (s.data ()).latestBlock.all (· ≤ 101) = true) : Reliable (fun _ => loneNode) s a := by
  have hcall : HonestReplies loneNode loneCall ∧ HeadKept (s.data ()).latestBlock loneCall := by
    refine ⟨⟨fun first last logs h => (Except.ok.inj h).symm, fun offset h => ?_⟩,
      fun head hhead => ⟨fun L hL => ?_, ?_⟩⟩
    · rw [← Except.ok.inj h]
      decide
    · rw [hL] at hlatest
      rw [← Except.ok.inj hhead]
      exact of_decide_eq_true hlatest
    · rw [← Except.ok.inj hhead]
      decide
  have hfetch : ∀ c call, (a = .pollerFetch c call ∨ a = .relayFetch c call) → call = loneCall := by
    intro c call h
    rcases h with rfl | rfl <;> simpa [loneSteps] using ha
  cases a with
  | pollerFetch c call =>
    obtain rfl := hfetch c call (.inl rfl)
    exact hcall
  | relayFetch c call =>
    obtain rfl := hfetch c call (.inr rfl)
    exact hcall
  | _ => trivial

/-- The steps are a run, to a state that can be checked. -/
lemma exists_loneRun (P : Handover Unit → Bool)
    (h : (loneSteps.foldlM
      (fun s a => if (s.data ()).latestBlock.all (· ≤ 101) = true then handoverStep loneChain s a
        else none) (⟨startPhases true, fun _ => .start⟩ : Handover Unit)).any P = true) :
    ∃ s, ((handoverSystem loneChain).restrict (Reliable fun _ => loneNode)).Run loneSteps s ∧
      P s = true := by
  obtain ⟨s, hrun, hs⟩ := LabelledSystem.exists_restrict_run_of_foldlM
    (S := handoverSystem loneChain)
    (C := fun s _ => (s.data ()).latestBlock.all (· ≤ 101) = true) rfl
    (fun _ _ _ hstep => hstep) loneSteps P h
  exact ⟨s, hrun.restrict_mono fun a ha s hlatest => reliable_loneSteps ha hlatest, hs⟩

/-- The event is handed over twice, and the event manager, which has read the head 100, has not yet
fetched a block. -/
theorem socket_events_handed_over_sample :
    ∃ s, ((handoverSystem loneChain).restrict (Reliable fun _ => loneNode)).Run loneSteps s ∧
      s.phases.state (.evm ()) = normalStart ∧
      (s.data ()).handed = loneNode.socketLogs 95 ++ loneNode.socketLogs 95 ∧
      (s.data ()).cached = none ∧
      ∃ L offset head before, (s.data ()).latestBlock = some L ∧ L ≤ head ∧ 10 ≤ offset ∧
        (s.data ()).handed =
          before ++ (rangeInclusive (head - offset) head).flatMap loneNode.socketLogs := by
  obtain ⟨s, hrun, hs⟩ := exists_loneRun
    (fun s => decide (s.phases.state (.evm ()) = normalStart) &&
      decide ((s.data ()).handed = loneNode.socketLogs 95 ++ loneNode.socketLogs 95))
    (by decide +kernel)
  simp only [Bool.and_eq_true, decide_eq_true_eq] at hs
  obtain ⟨hnormal, hhanded⟩ := hs
  obtain ⟨hcached, -, L, offset, head, before, hlatest, hL, hwindow, heq, -⟩ :=
    socket_events_handed_over loneChain (fun _ => loneNode) hrun hnormal
  exact ⟨s, hrun, hnormal, hhanded, hcached, L, offset, head, before, hlatest, hL, hwindow, heq⟩

end Bootstrap

end BifrostRelayer
