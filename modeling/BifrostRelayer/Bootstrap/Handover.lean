import BifrostRelayer.Bootstrap.Phases
import BifrostRelayer.Events.Pipeline

/-!
# From the bootstrap to the event stream

The socket events of a chain come to its two socket handlers in two ways.  The old ones are fetched
in the bootstrap: the queue poller fetches them first and leaves them in `bootstrap_socket_logs`;
the relay handler takes them from there, and fetches them itself when nothing is left for it.  The
new ones come with the event stream, whose first block is fixed when the event manager is
initialized, long before the bootstrap of the sockets.

Both handlers can fail at any point of their bootstrap and are called again, the relay handler also
in the middle of the logs it has taken.  The model adds to the phases what the handlers of a chain
read and do.  What a step means for one chain is said once, by `ViewStep`, and the invariant is one
of that relation.
-/

namespace BifrostRelayer

namespace Bootstrap

open BootstrapState Evm Events

/-! ### The data of a chain -/

/-- Where a socket handler stands in the work of its bootstrap. -/
inductive SocketWork where
  /-- Before `get_bootstrap_events`. -/
  | fetching
  /-- In the loop over the logs, with those that are left. -/
  | handing (left : List Log)
deriving DecidableEq

/-- A fetch in `get_bootstrap_events`: the handler, with the replies that its clients get, the
configured offset, and a bound on the chunks. -/
structure BootstrapCall where
  handler : SocketBootstrap
  roundOffset : Option UInt64
  fuel : ℕ

/-- The logs that are fetched, if the bound is large enough. -/
def BootstrapCall.events (call : BootstrapCall) : Option (Except Report (List Log)) :=
  (call.handler.fetchSocketLogs call.roundOffset call.fuel).map Fetch.result

/-- What the bootstrap of the socket handlers of a chain reads and does. -/
structure SocketData where
  /-- The head that `initialize` of the event manager has read. -/
  latestBlock : Option ℕ
  /-- The entry in `bootstrap_socket_logs`. -/
  cached : Option (List Log)
  poller : SocketWork
  relay : SocketWork
  /-- The logs that `process_confirmed_log` of the queue poller was called with. -/
  polled : List Log
  /-- The logs that `process_confirmed_log` of the relay handler was called with, in all calls of
  its `bootstrap`. -/
  handed : List Log
  /-- The calls of `get_bootstrap_events` by the relay handler. -/
  attempts : ℕ

namespace SocketData

variable (d : SocketData)

/-- The start. -/
def start : SocketData := ⟨none, none, .fetching, .fetching, [], [], 0⟩

/-- `initialize` has read the head. -/
def initialized (latestBlock : ℕ) : SocketData := { d with latestBlock := some latestBlock }

/-- The queue poller has fetched its logs: `set_bootstrap_socket_logs`. -/
def pollerFetched (logs : List Log) : SocketData :=
  { d with cached := some logs, poller := .handing logs }

/-- The queue poller has processed a log; an error is only logged. -/
def pollerHanded (log : Log) (left : List Log) : SocketData :=
  { d with poller := .handing left, polled := d.polled ++ [log] }

/-- The end of `bootstrap` of the queue poller. -/
def pollerDone : SocketData := { d with poller := .fetching }

/-- `get_bootstrap_events` of the relay handler: `take_bootstrap_socket_logs`, or a fetch. -/
def relayEvents (call : BootstrapCall) : Option (Except Report (List Log)) :=
  match d.cached with
  | some cached => some (.ok cached)
  | none => call.events

/-- The relay handler has its logs, and nothing is left in the cache. -/
def relayFetched (logs : List Log) : SocketData :=
  { d with cached := none, relay := .handing logs, attempts := d.attempts + 1 }

/-- The relay handler could not fetch its logs. -/
def relayUnfetched : SocketData := { d with attempts := d.attempts + 1 }

/-- The relay handler has processed a log, with the logs that are left. -/
def relayHanded (log : Log) (relay : SocketWork) : SocketData :=
  { d with relay := relay, handed := d.handed ++ [log] }

/-- The end of `bootstrap` of the relay handler. -/
def relayDone : SocketData := { d with relay := .fetching }

end SocketData

/-! ### The system -/

/-- The bootstrap and the data of the chains. -/
structure Handover (κ : Type) where
  phases : Phases κ
  data : κ → SocketData

/-- The steps: those that touch the data, and all others. -/
inductive HandoverStep (κ : Type) where
  | phase (a : PhaseStep κ)
  /-- `bootstrap_0` of an event manager up to its check. -/
  | managerStart (c : κ) (latestBlock : ℕ)
  /-- `get_bootstrap_events` of a queue poller. -/
  | pollerFetch (c : κ) (call : BootstrapCall)
  | pollerLog (c : κ)
  | pollerEnd (c : κ)
  /-- `get_bootstrap_events` of a relay handler. -/
  | relayFetch (c : κ) (call : BootstrapCall)
  | relayLog (c : κ) (ok : Bool)
  | relayEnd (c : κ)

/-- The step does not touch the data. -/
def isBare {κ : Type} : PhaseStep κ → Bool
  | .task (.eventManager _) .starting _ => false
  | .task (.queuePoller _) .working _ => false
  | .task (.socketRelay _) .working _ => false
  | _ => true

variable {κ : Type} [DecidableEq κ]

/-- The data of a chain changes. -/
def Handover.set (s : Handover κ) (c : κ) (d : SocketData) : Handover κ :=
  { s with data := Function.update s.data c d }

/-- The data of a chain changes with a step of one of its tasks. -/
def Handover.task [Fintype κ] (cfg : BootstrapConfig κ) (s : Handover κ) (t : Task κ) (p : Pc)
    (ok : Bool) (c : κ) (d : SocketData) : Option (Handover κ) :=
  (phaseStep cfg s.phases (.task t p ok)).map fun phases => ⟨phases, Function.update s.data c d⟩

/-- One step. -/
def handoverStep [Fintype κ] (cfg : BootstrapConfig κ) (s : Handover κ) :
    HandoverStep κ → Option (Handover κ)
  | .phase a =>
      if isBare a then (phaseStep cfg s.phases a).map fun phases => { s with phases := phases }
      else none
  | .managerStart c latestBlock =>
      s.task cfg (.eventManager c) .starting true c ((s.data c).initialized latestBlock)
  | .pollerFetch c call =>
      if s.phases.tasks.pc (.queuePoller c) = .working ∧ (s.data c).poller = .fetching then
        match call.events with
        | some (.ok logs) => some (s.set c ((s.data c).pollerFetched logs))
        | some (.error _) => s.task cfg (.queuePoller c) .working false c (s.data c)
        | none => none
      else none
  | .pollerLog c =>
      match (s.data c).poller with
      | .handing (log :: left) => some (s.set c ((s.data c).pollerHanded log left))
      | _ => none
  | .pollerEnd c =>
      if (s.data c).poller = .handing [] then
        s.task cfg (.queuePoller c) .working true c (s.data c).pollerDone
      else none
  | .relayFetch c call =>
      if s.phases.tasks.pc (.socketRelay c) = .working ∧ (s.data c).relay = .fetching then
        match (s.data c).relayEvents call with
        | some (.ok logs) => some (s.set c ((s.data c).relayFetched logs))
        | some (.error _) => s.task cfg (.socketRelay c) .working false c (s.data c).relayUnfetched
        | none => none
      else none
  | .relayLog c ok =>
      match (s.data c).relay with
      | .handing (log :: left) =>
          if ok then some (s.set c ((s.data c).relayHanded log (.handing left)))
          else s.task cfg (.socketRelay c) .working false c ((s.data c).relayHanded log .fetching)
      | _ => none
  | .relayEnd c =>
      if (s.data c).relay = .handing [] then
        s.task cfg (.socketRelay c) .working true c (s.data c).relayDone
      else none

/-- An enabled bootstrap, with all interleavings and restarts of its tasks. -/
def handoverSystem [Fintype κ] (cfg : BootstrapConfig κ) :
    LabelledSystem (Handover κ) (HandoverStep κ) where
  init s := s = ⟨startPhases true, fun _ => .start⟩
  step s a s' := handoverStep cfg s a = some s'

/-! ### The view of a chain -/

/-- What concerns one chain: its state, where its tasks stand, and its data. -/
structure ChainView where
  state : BootstrapState
  manager : Pc
  poller : Pc
  relay : Pc
  data : SocketData

/-- The view of a chain. -/
def Handover.view (s : Handover κ) (c : κ) : ChainView :=
  ⟨s.phases.tasks.shared.evm c, s.phases.tasks.pc (.eventManager c),
    s.phases.tasks.pc (.queuePoller c), s.phases.tasks.pc (.socketRelay c), s.data c⟩

/-- Where the tasks of a chain stand says in which state it is. -/
structure Placed (queueEnabled : Bool) (v : ChainView) : Prop where
  manager : v.manager = .starting → v.state = nodeSyncing
  poller : v.poller = .working → v.state = bootstrapSocketRelayQueue ∧ queueEnabled = true
  relay : v.relay = .working → v.state = bootstrapSocketRelay

/-- The state of a chain stays, or it moves without its socket handlers, and then not past the
bootstrap of the queue poller, if there is one, and not past that of the relay handler. -/
def Passes (queueEnabled : Bool) (x y : BootstrapState) : Prop :=
  y = x ∨ x < bootstrapSocketRelay ∧ y ≤ bootstrapSocketRelay ∧
    (queueEnabled = true → y < bootstrapSocketRelay)

/-- What a step of the system is for one chain. -/
inductive ViewStep (queueEnabled : Bool) (c : κ) :
    HandoverStep κ → ChainView → ChainView → Prop where
  /-- The data stays, and a task that has data in its hands stays where it is. -/
  | quiet {a v} {x : BootstrapState} {manager poller relay : Pc} :
      Passes queueEnabled v.state x → (v.manager = .starting → manager = .starting) →
      (v.data.poller ≠ .fetching → v.poller = .working → poller = .working) →
      (v.data.relay ≠ .fetching → v.relay = .working → relay = .working) →
      ViewStep queueEnabled c a v ⟨x, manager, poller, relay, v.data⟩
  | managerStart {a v} {manager : Pc} (latestBlock : ℕ) : v.manager = .starting →
      ViewStep queueEnabled c a v
        { v with manager := manager, data := v.data.initialized latestBlock }
  | pollerFetched {v} (call : BootstrapCall) (logs : List Log) :
      v.poller = .working → v.data.poller = .fetching → call.events = some (.ok logs) →
      ViewStep queueEnabled c (.pollerFetch c call) v
        { v with data := v.data.pollerFetched logs }
  | pollerHanded {a v} (log : Log) (left : List Log) : v.data.poller = .handing (log :: left) →
      ViewStep queueEnabled c a v { v with data := v.data.pollerHanded log left }
  | pollerDone {a v} {poller : Pc} : v.poller = .working → v.data.poller = .handing [] →
      ViewStep queueEnabled c a v
        { v with state := bootstrapSocketRelay, poller := poller, data := v.data.pollerDone }
  | relayFetched {v} (call : BootstrapCall) (logs : List Log) :
      v.relay = .working → v.data.relay = .fetching → v.data.relayEvents call = some (.ok logs) →
      ViewStep queueEnabled c (.relayFetch c call) v
        { v with data := v.data.relayFetched logs }
  | relayUnfetched {a v} {relay : Pc} : v.relay = .working → v.data.relay = .fetching →
      v.data.cached = none →
      ViewStep queueEnabled c a v { v with relay := relay, data := v.data.relayUnfetched }
  | relayHanded {a v} (log : Log) (left : List Log) : v.data.relay = .handing (log :: left) →
      ViewStep queueEnabled c a v { v with data := v.data.relayHanded log (.handing left) }
  | relayFailed {a v} {relay : Pc} (log : Log) (left : List Log) : v.relay = .working →
      v.data.relay = .handing (log :: left) →
      ViewStep queueEnabled c a v
        { v with relay := relay, data := v.data.relayHanded log .fetching }
  | relayDone {a v} {relay : Pc} : v.relay = .working → v.data.relay = .handing [] →
      ViewStep queueEnabled c a v
        { v with state := normalStart, relay := relay, data := v.data.relayDone }

variable {cfg : BootstrapConfig κ}

omit [DecidableEq κ] in
/-- The assertions of the phases for the tasks of a chain. -/
lemma placed_of_phased {s : Handover κ} (h : Phased cfg s.phases.tasks) (c : κ) :
    Placed cfg.queueEnabled (s.view c) := by
  have hallows {t : Task κ} {p : Pc} (hp : s.phases.tasks.pc t = p) (hne : p ≠ .enter)
      (ht : t.watches cfg (.evm c)) (hrelied : Relied t p) :
      t.isSpawned cfg = true ∧ t.role.allows p (s.phases.tasks.shared.evm c) = true := by
    have hassert := h.2 t (by rw [hp]; exact hrelied)
    rw [hp] at hassert
    by_cases hspawned : t.isSpawned cfg = true
    · exact ⟨hspawned, (assertion_spawned hspawned).1 hassert (.evm c) ht⟩
    · simp only [assertion, hspawned] at hassert
      exact absurd hassert hne
  refine ⟨fun hp => ?_, fun hp => ?_, fun hp => ?_⟩
  · obtain ⟨-, hstate⟩ := hallows hp (by simp) rfl ⟨by simp, by simp⟩
    exact of_decide_eq_true hstate
  · obtain ⟨hspawned, hstate⟩ := hallows hp (by simp) rfl ⟨by simp, by simp⟩
    simp only [Task.isSpawned, Bool.and_eq_true] at hspawned
    exact ⟨of_decide_eq_true hstate, hspawned.1⟩
  · obtain ⟨-, hstate⟩ := hallows hp (by simp) rfl ⟨by simp, by simp⟩
    exact of_decide_eq_true hstate

/-- The writes of the tasks other than the two socket handlers. -/
lemma passes_of_write {queueEnabled : Bool} {r : Role} {p p' : Pc} {x y : BootstrapState}
    (hw : r.write queueEnabled p = some (x, y, p')) (hpoller : r ≠ .queuePoller)
    (hrelay : r ≠ .socketRelay) (hbitcoin : r ≠ .blockManager) : Passes queueEnabled x y := by
  cases r <;> cases p <;>
    simp only [Role.write, Option.some.injEq, Prod.mk.injEq, reduceCtorEq] at hw <;>
    obtain ⟨rfl, rfl, -⟩ := hw <;> revert hpoller hrelay hbitcoin <;> revert queueEnabled <;>
    unfold Passes <;> decide

variable [Fintype κ] {s s' : Handover κ}

/-- A step of a task moves a chain only as far as its own bootstrap, unless it is the end of the
bootstrap of a socket handler. -/
lemma passes_of_act {tasks tasks' : State κ} {t : Task κ} {ok : Bool} (h : Phased cfg tasks)
    (hact : act cfg tasks t ok = some tasks')
    (hpoller : ∀ c, t = .queuePoller c → tasks.pc t ≠ .working)
    (hrelay : ∀ c, t = .socketRelay c → tasks.pc t ≠ .working) (c : κ) :
    Passes cfg.queueEnabled (tasks.shared.evm c) (tasks'.shared.evm c) := by
  obtain ⟨-, hshared | ⟨-, x, y, p', hw, hadv⟩⟩ := h.step hact
  · rw [hshared]
    exact .inl rfl
  by_cases ht : t.watches cfg (.evm c)
  · obtain ⟨hx, hy⟩ := hadv.1 _ ht
    simp only [Board.state] at hx hy
    rw [hx, hy]
    have hwrites (hne : tasks.pc t ≠ .working) : t.role ≠ .queuePoller ∧ t.role ≠ .socketRelay := by
      constructor <;> intro hr <;> rw [hr] at hw <;> cases hp : tasks.pc t <;>
        simp_all [Role.write]
    apply passes_of_write hw
    · intro hr
      cases t <;> simp [Task.role] at hr
      exact (hwrites (hpoller _ rfl)).1 rfl
    · intro hr
      cases t <;> simp [Task.role] at hr
      exact (hwrites (hrelay _ rfl)).2 rfl
    · cases t <;> simp_all [Task.role, Task.watches]
  · exact .inl (hadv.2 _ ht)

/-- The view of a chain after a step of a task. -/
lemma view_of_task {t : Task κ} {p : Pc} {ok : Bool} {phases : Phases κ}
    (hstep : phaseStep cfg s.phases (.task t p ok) = some phases) (data : κ → SocketData) (c : κ) :
    s.phases.tasks.pc t = p ∧ act cfg s.phases.tasks t ok = some phases.tasks ∧
      ∃ b' p', taskStep cfg s.phases.tasks.shared t p ok = some (b', p') ∧
        Handover.view ⟨phases, data⟩ c =
          ⟨b'.evm c, if .eventManager c = t then p' else (s.view c).manager,
            if .queuePoller c = t then p' else (s.view c).poller,
            if .socketRelay c = t then p' else (s.view c).relay, data c⟩ := by
  rcases phaseStep_cases hstep with ⟨u, ok', heq, hact, -⟩ | ⟨u, q, heq, -⟩
  · cases heq
    obtain ⟨-, b', p', htask, hs'⟩ := act_eq_some hact
    refine ⟨rfl, hact, b', p', htask, ?_⟩
    simp only [Handover.view, hs', Interleaved.move, Function.update_apply]
  · cases heq

omit [Fintype κ] in
/-- A change of the data of a chain leaves the other chains alone. -/
lemma view_set (s : Handover κ) (c : κ) (d : SocketData) (e : κ) :
    (s.set c d).view e = if e = c then { s.view e with data := d } else s.view e := by
  by_cases he : e = c <;> simp [Handover.view, Handover.set, he]

/-- A task of one chain. -/
def Task.OfChain (t : Task κ) (c : κ) : Prop :=
  t = .eventManager c ∨ t = .queuePoller c ∨ t = .socketRelay c

/-- It moves no other chain. -/
lemma Task.OfChain.evm_eq {t : Task κ} {c e : κ} (ht : t.OfChain c) (he : e ≠ c) {p p' : Pc}
    {ok : Bool} {b b' : Board κ} (hstep : taskStep cfg b t p ok = some (b', p')) :
    b'.evm e = b.evm e := by
  cases ok with
  | false =>
    obtain ⟨-, rfl, -⟩ : _ ∧ b = b' ∧ _ = p' := by simpa [taskStep] using hstep
    rfl
  | true =>
    rcases ht with rfl | rfl | rfl <;> cases p <;>
      simp only [taskStep, synced, flushed, finish, if_true, Option.some.injEq, Prod.mk.injEq,
        reduceCtorEq, Option.ite_none_right_eq_some] at hstep <;>
      simp_all [← hstep.1]

/-- A step of a task of one chain leaves the views of the others alone. -/
lemma Task.OfChain.view_eq {t : Task κ} {c e : κ} (ht : t.OfChain c) (he : e ≠ c) {p : Pc}
    {ok : Bool} {d : SocketData} (hstep : s.task cfg t p ok c d = some s') :
    s'.view e = s.view e := by
  obtain ⟨phases, hphases, rfl⟩ := Option.map_eq_some_iff.1 hstep
  obtain ⟨-, -, b', p', htask, hview⟩ := view_of_task hphases (Function.update s.data c d) e
  have hother : t ≠ .eventManager e ∧ t ≠ .queuePoller e ∧ t ≠ .socketRelay e := by
    rcases ht with rfl | rfl | rfl <;> simp [Ne.symm he]
  rw [hview, ht.evm_eq he htask, if_neg (Ne.symm hother.1), if_neg (Ne.symm hother.2.1),
    if_neg (Ne.symm hother.2.2), Function.update_of_ne he]
  rfl

omit [DecidableEq κ] [Fintype κ] in
/-- Nothing happens. -/
lemma ViewStep.refl (queueEnabled : Bool) (c : κ) (a : HandoverStep κ) (v : ChainView) :
    ViewStep queueEnabled c a v v :=
  .quiet (.inl rfl) id (fun _ => id) (fun _ => id)

/-- A step of a task of a chain, for this chain and for the others. -/
lemma viewStep_of_task {a : HandoverStep κ} {t : Task κ} {c : κ} (ht : t.OfChain c) {p : Pc}
    {ok : Bool} {d : SocketData} (hstep : s.task cfg t p ok c d = some s')
    (hown : ∀ b' p', s.phases.tasks.pc t = p →
      taskStep cfg s.phases.tasks.shared t p ok = some (b', p') →
      ViewStep cfg.queueEnabled c a (s.view c)
        ⟨b'.evm c, if .eventManager c = t then p' else (s.view c).manager,
          if .queuePoller c = t then p' else (s.view c).poller,
          if .socketRelay c = t then p' else (s.view c).relay, d⟩) (e : κ) :
    ViewStep cfg.queueEnabled e a (s.view e) (s'.view e) := by
  by_cases he : e = c
  · subst he
    obtain ⟨phases, hphases, rfl⟩ := Option.map_eq_some_iff.1 hstep
    obtain ⟨hpc, -, b', p', htask, hview⟩ := view_of_task hphases (Function.update s.data e d) e
    rw [hview, Function.update_self]
    exact hown b' p' hpc htask
  · rw [ht.view_eq he hstep]
    exact .refl _ _ _ _

omit [Fintype κ] in
/-- A change of the data of a chain, for this chain and for the others. -/
lemma viewStep_of_set {a : HandoverStep κ} {c : κ} {d : SocketData}
    (hown : ViewStep cfg.queueEnabled c a (s.view c) { s.view c with data := d }) (e : κ) :
    ViewStep cfg.queueEnabled e a (s.view e) ((s.set c d).view e) := by
  rw [view_set]
  by_cases he : e = c
  · subst he
    simpa using hown
  · rw [if_neg he]
    exact .refl _ _ _ _

/-- A step that does not touch the data is quiet. -/
lemma viewStep_of_bare {a : HandoverStep κ} {x : PhaseStep κ} {phases : Phases κ}
    (h : Phased cfg s.phases.tasks) (hbare : isBare x = true)
    (hstep : phaseStep cfg s.phases x = some phases) (e : κ) :
    ViewStep cfg.queueEnabled e a (s.view e) (Handover.view ⟨phases, s.data⟩ e) := by
  cases x with
  | handler u =>
    have htasks : phases.tasks = s.phases.tasks := by
      rcases phaseStep_cases hstep with ⟨t, ok, heq, -⟩ | ⟨u, p, -, -, rfl⟩
      · cases heq
      · rfl
    simp only [Handover.view, htasks]
    exact .refl _ _ _ _
  | task t p ok =>
    obtain ⟨rfl, hact, b', p', htask, hview⟩ := view_of_task hstep s.data e
    have hworks : ∀ c, t = .queuePoller c ∨ t = .socketRelay c →
        s.phases.tasks.pc t ≠ .working := by
      rintro c (rfl | rfl) hp <;> simp [hp, isBare] at hbare
    have hpass := passes_of_act h hact (fun c ht => hworks c (.inl ht))
      (fun c ht => hworks c (.inr ht)) e
    have hshared : phases.tasks.shared.evm e = b'.evm e := congrArg ChainView.state hview
    rw [hshared] at hpass
    rw [hview]
    refine .quiet hpass (fun hp => ?_) (fun _ hp => ?_) (fun _ hp => ?_)
    · by_cases ht : .eventManager e = t
      · subst ht
        replace hp : s.phases.tasks.pc (.eventManager e) = .starting := hp
        simp [hp, isBare] at hbare
      · rwa [if_neg ht]
    · by_cases ht : .queuePoller e = t
      · subst ht
        exact absurd hp (hworks e (.inl rfl))
      · rwa [if_neg ht]
    · by_cases ht : .socketRelay e = t
      · subst ht
        exact absurd hp (hworks e (.inr rfl))
      · rwa [if_neg ht]

/-- A step at the work of a task that ends with an error goes back to the start of `run`. -/
lemma taskStep_failed {b b' : Board κ} {t : Task κ} {p' : Pc}
    (hstep : taskStep cfg b t .working false = some (b', p')) : b' = b := by
  obtain ⟨-, rfl, -⟩ : _ ∧ b = b' ∧ _ = p' := by simpa [taskStep] using hstep
  rfl

/-- What a step of the system is for each chain. -/
lemma viewStep_of_step {a : HandoverStep κ} (h : Phased cfg s.phases.tasks)
    (hstep : handoverStep cfg s a = some s') (e : κ) :
    ViewStep cfg.queueEnabled e a (s.view e) (s'.view e) := by
  cases a with
  | phase x =>
    simp only [handoverStep, Option.ite_none_right_eq_some, Option.map_eq_some_iff] at hstep
    obtain ⟨hbare, phases, hphases, rfl⟩ := hstep
    exact viewStep_of_bare h hbare hphases e
  | managerStart c latestBlock =>
    refine viewStep_of_task (.inl rfl) hstep (fun b' p' hpc htask => ?_) e
    obtain ⟨rfl, -⟩ : s.phases.tasks.shared = b' ∧ _ = p' := by simpa [taskStep] using htask
    have hview : ViewStep cfg.queueEnabled c (.managerStart c latestBlock) (s.view c)
        { s.view c with manager := p', data := (s.data c).initialized latestBlock } :=
      .managerStart latestBlock hpc
    simpa [Handover.view] using hview
  | pollerFetch c call =>
    simp only [handoverStep, Option.ite_none_right_eq_some] at hstep
    obtain ⟨⟨hpc, hfetching⟩, hstep⟩ := hstep
    split at hstep
    next logs hevents =>
      obtain rfl := Option.some.inj hstep
      exact viewStep_of_set (.pollerFetched call logs hpc hfetching hevents) e
    next report hevents =>
      refine viewStep_of_task (.inr (.inl rfl)) hstep (fun b' p' _ htask => ?_) e
      obtain rfl := taskStep_failed htask
      have hview : ViewStep cfg.queueEnabled c (.pollerFetch c call) (s.view c)
          { s.view c with poller := p' } :=
        .quiet (.inl rfl) id (fun hne => absurd hfetching hne) fun _ => id
      simpa [Handover.view] using hview
    next => cases hstep
  | pollerLog c =>
    simp only [handoverStep] at hstep
    split at hstep
    · next log left hhanding =>
      obtain rfl := Option.some.inj hstep
      exact viewStep_of_set (.pollerHanded log left hhanding) e
    · cases hstep
  | pollerEnd c =>
    simp only [handoverStep, Option.ite_none_right_eq_some] at hstep
    obtain ⟨hdone, hstep⟩ := hstep
    refine viewStep_of_task (.inr (.inl rfl)) hstep (fun b' p' hpc htask => ?_) e
    obtain ⟨rfl, -⟩ : finish cfg s.phases.tasks.shared (.queuePoller c) = b' ∧ _ = p' := by
      simpa [taskStep] using htask
    have hview : ViewStep cfg.queueEnabled c (.pollerEnd c) (s.view c)
        { s.view c with
          state := bootstrapSocketRelay, poller := p', data := (s.data c).pollerDone } :=
      .pollerDone hpc hdone
    simpa [finish, Handover.view] using hview
  | relayFetch c call =>
    simp only [handoverStep, Option.ite_none_right_eq_some] at hstep
    obtain ⟨⟨hpc, hfetching⟩, hstep⟩ := hstep
    split at hstep
    next logs hevents =>
      obtain rfl := Option.some.inj hstep
      exact viewStep_of_set (.relayFetched call logs hpc hfetching hevents) e
    next report hevents =>
      have hcached : (s.data c).cached = none := by
        cases hcached : (s.data c).cached with
        | none => rfl
        | some cached => simp [SocketData.relayEvents, hcached] at hevents
      refine viewStep_of_task (.inr (.inr rfl)) hstep (fun b' p' _ htask => ?_) e
      obtain rfl := taskStep_failed htask
      have hview : ViewStep cfg.queueEnabled c (.relayFetch c call) (s.view c)
          { s.view c with relay := p', data := (s.data c).relayUnfetched } :=
        .relayUnfetched hpc hfetching hcached
      simpa [Handover.view] using hview
    next => cases hstep
  | relayLog c ok =>
    simp only [handoverStep] at hstep
    split at hstep
    · next log left hhanding =>
      cases ok with
      | true =>
        obtain rfl := Option.some.inj hstep
        exact viewStep_of_set (.relayHanded log left hhanding) e
      | false =>
        refine viewStep_of_task (.inr (.inr rfl)) hstep (fun b' p' hpc htask => ?_) e
        obtain rfl := taskStep_failed htask
        have hview : ViewStep cfg.queueEnabled c (.relayLog c false) (s.view c)
            { s.view c with relay := p', data := (s.data c).relayHanded log .fetching } :=
          .relayFailed log left hpc hhanding
        simpa [Handover.view] using hview
    · cases hstep
  | relayEnd c =>
    simp only [handoverStep, Option.ite_none_right_eq_some] at hstep
    obtain ⟨hdone, hstep⟩ := hstep
    refine viewStep_of_task (.inr (.inr rfl)) hstep (fun b' p' hpc htask => ?_) e
    obtain ⟨rfl, -⟩ : finish cfg s.phases.tasks.shared (.socketRelay c) = b' ∧ _ = p' := by
      simpa [taskStep] using htask
    have hview : ViewStep cfg.queueEnabled c (.relayEnd c) (s.view c)
        { s.view c with state := normalStart, relay := p', data := (s.data c).relayDone } :=
      .relayDone hpc hdone
    simpa [finish, Handover.view] using hview

end Bootstrap

end BifrostRelayer
