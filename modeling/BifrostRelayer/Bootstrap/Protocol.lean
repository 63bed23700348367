import BifrostRelayer.Foundation.Interleaving
import BifrostRelayer.Foundation.Runs

/-!
# The bootstrap protocol

The tasks of the relayer start together and share `bootstrap_states`, one state per chain.  A task
that bootstraps waits, by polling, until the chains it depends on are in exactly one state, does its
work, and moves the chains to the next state.  Every task runs in a loop of `service.rs`: when its
`run` returns, it is called again and decides anew whether it has to bootstrap.

The model has one program counter per task and one step per read or write of the shared states.  The
states of a chain never go back, so a task that waits for a state which its chain has left waits
forever.  `NoWaiterLeftBehind` says that no task does.
-/

namespace BifrostRelayer

namespace Bootstrap

/-! ### The shared states -/

/-- `BootstrapState`. -/
inductive BootstrapState where
  | nodeSyncing
  | flushingStalledTransactions
  | bootstrapRoundUpPhase1
  | bootstrapRoundUpPhase2
  | bootstrapSocketRelayQueue
  | bootstrapSocketRelay
  | normalStart
deriving DecidableEq, Repr

namespace BootstrapState

/-- The position of a state in the order of the phases. -/
def rank : BootstrapState → ℕ
  | nodeSyncing => 0
  | flushingStalledTransactions => 1
  | bootstrapRoundUpPhase1 => 2
  | bootstrapRoundUpPhase2 => 3
  | bootstrapSocketRelayQueue => 4
  | bootstrapSocketRelay => 5
  | normalStart => 6

/-- Different states have different positions. -/
lemma rank_injective : Function.Injective rank := by
  intro a b h
  cases a <;> cases b <;> first | rfl | simp [rank] at h

instance : LinearOrder BootstrapState := LinearOrder.lift' rank rank_injective

instance : Fintype BootstrapState :=
  ⟨{nodeSyncing, flushingStalledTransactions, bootstrapRoundUpPhase1, bootstrapRoundUpPhase2,
    bootstrapSocketRelayQueue, bootstrapSocketRelay, normalStart}, by intro x; cases x <;> decide⟩

/-- `NormalStart` is the last state. -/
lemma le_normalStart (x : BootstrapState) : x ≤ normalStart := by
  cases x <;> decide

/-- `BootstrapSocketRelay` is the last state but one. -/
lemma le_bootstrapSocketRelay {x : BootstrapState} :
    x ≤ bootstrapSocketRelay ↔ x ≠ normalStart := by
  cases x <;> decide

end BootstrapState

/-- A chain with a bootstrap state. -/
inductive Chain (κ : Type) where
  | evm (c : κ)
  | bitcoin
deriving DecidableEq

/-- `bootstrap_states`. -/
structure Board (κ : Type) where
  evm : κ → BootstrapState
  bitcoin : BootstrapState

/-- The state of a chain. -/
def Board.state {κ : Type} (b : Board κ) : Chain κ → BootstrapState
  | .evm c => b.evm c
  | .bitcoin => b.bitcoin

/-! ### The tasks -/

/-- The tasks that take part in the bootstrap. -/
inductive Task (κ : Type) where
  | eventManager (c : κ)
  | roundupEmitter
  | roundupRelay
  | queuePoller (c : κ)
  | socketRelay (c : κ)
  | onflight
  | blockManager
deriving DecidableEq

/-- Where a task stands. -/
inductive Pc where
  /-- Before the check of `bootstrap_0`. -/
  | starting
  /-- In `wait_provider_sync`. -/
  | syncing
  /-- In `initial_flushing`. -/
  | flushing
  /-- `run` is called, before its check. -/
  | enter
  /-- In `wait_for_bootstrap_state`, or the variant of the round-up emitter for all chains. -/
  | waiting
  /-- In the rest of `bootstrap`. -/
  | working
  /-- In `wait_for_all_chains_bootstrapped`. -/
  | waitAll
  /-- In the main loop of `run`. -/
  | loop
deriving DecidableEq, Repr

instance : Fintype Pc :=
  ⟨{.starting, .syncing, .flushing, .enter, .waiting, .working, .waitAll, .loop},
    by intro p; cases p <;> decide⟩

/-- The parameters of the protocol. -/
structure BootstrapConfig (κ : Type) where
  /-- The native chain. -/
  bifrost : κ
  /-- `cccp_relay_queue_enabled`. -/
  queueEnabled : Bool
  /-- The chains in the `watch_list` of the socket handlers. -/
  watchList : κ → Bool
  /-- The on-flight handler could be created. -/
  onflightCreated : Bool

/-- The states of the chains and where every task stands. -/
abbrev State (κ : Type) := Interleaved (Task κ) Pc (Board κ)

variable {κ : Type} [DecidableEq κ]

namespace Task

/-- The tasks that are spawned: the socket handlers for the chains of the watch list, and the tasks
of the queue only if its pallet is present. -/
def isSpawned (cfg : BootstrapConfig κ) : Task κ → Bool
  | queuePoller c => cfg.queueEnabled && cfg.watchList c
  | socketRelay c => cfg.watchList c
  | onflight => cfg.queueEnabled && cfg.onflightCreated
  | _ => true

/-- Where a call of `run` starts: the event managers go straight to the wait for all chains. -/
def runStart : Task κ → Pc
  | eventManager _ => .waitAll
  | _ => .enter

/-- Where `run` goes on after `bootstrap`: the round-up emitter and the on-flight handler do not
wait for the other chains. -/
def afterBootstrap : Task κ → Pc
  | roundupEmitter => .loop
  | onflight => .loop
  | _ => .waitAll

end Task

/-- The check whether to bootstrap, `is_before_bootstrap_state(NormalStart)` for the chain of the
task.  The on-flight handler always bootstraps. -/
def shouldBootstrap (cfg : BootstrapConfig κ) (b : Board κ) : Task κ → Bool
  | .eventManager c => decide (b.evm c < .normalStart)
  | .roundupEmitter => decide (b.evm cfg.bifrost < .normalStart)
  | .roundupRelay => decide (b.evm cfg.bifrost < .normalStart)
  | .queuePoller c => decide (b.evm c < .normalStart)
  | .socketRelay c => decide (b.evm c < .normalStart)
  | .onflight => true
  | .blockManager => decide (b.bitcoin < .normalStart)

/-- The condition that a task polls for at the start of `bootstrap`. -/
def isReady [Fintype κ] (cfg : BootstrapConfig κ) (b : Board κ) : Task κ → Bool
  | .eventManager _ => false
  | .roundupEmitter => decide (∀ c, b.evm c = .bootstrapRoundUpPhase1)
  | .roundupRelay => decide (b.evm cfg.bifrost = .bootstrapRoundUpPhase2)
  | .queuePoller c => decide (b.evm c = .bootstrapSocketRelayQueue)
  | .socketRelay c => decide (b.evm c = .bootstrapSocketRelay)
  | .onflight => decide (b.evm cfg.bifrost = .bootstrapSocketRelay)
  | .blockManager => decide (b.bitcoin = .bootstrapSocketRelay)

/-- The write at the end of `bootstrap`. -/
def finish (cfg : BootstrapConfig κ) (b : Board κ) : Task κ → Board κ
  | .eventManager _ => b
  | .roundupEmitter => { b with evm := fun _ => .bootstrapRoundUpPhase2 }
  | .roundupRelay =>
      { b with evm := fun _ =>
          if cfg.queueEnabled then .bootstrapSocketRelayQueue else .bootstrapSocketRelay }
  | .queuePoller c => { b with evm := Function.update b.evm c .bootstrapSocketRelay }
  | .socketRelay c => { b with evm := Function.update b.evm c .normalStart }
  | .onflight => b
  | .blockManager => { b with bitcoin := .normalStart }

/-- The write at the end of `wait_provider_sync`, and where the task goes on. -/
def synced (b : Board κ) : Task κ → Option (Board κ × Pc)
  | .eventManager c =>
      some ({ b with evm := Function.update b.evm c .flushingStalledTransactions }, .flushing)
  | .blockManager => some ({ b with bitcoin := .bootstrapSocketRelay }, .enter)
  | _ => none

/-- The write at the end of `initial_flushing`, and where the task goes on. -/
def flushed (b : Board κ) : Task κ → Option (Board κ × Pc)
  | .eventManager c =>
      some ({ b with evm := Function.update b.evm c .bootstrapRoundUpPhase1 }, .waitAll)
  | _ => none

/-- `wait_for_all_chains_bootstrapped` has what it waits for. -/
def allBootstrapped [Fintype κ] (b : Board κ) : Bool :=
  decide (∀ c, b.evm c = .normalStart) && decide (b.bitcoin = .normalStart)

/-- The points at which an error makes `run` return before its main loop.  The on-flight handler
only logs the errors of its recovery. -/
def Task.mayFail : Task κ → Pc → Bool
  | roundupEmitter, .enter => true
  | onflight, .working => false
  | _, .working => true
  | _, _ => false

/-- One step of a task that stands at `p`: the states it leaves and where it goes on.  With
`ok = false` the step is an error on which `run` returns, and `run` is called again; a step in the
main loop is the return of `run`. -/
def taskStep [Fintype κ] (cfg : BootstrapConfig κ) (b : Board κ) (t : Task κ) (p : Pc) (ok : Bool) :
    Option (Board κ × Pc) :=
  if ok then
    match p with
    | .starting => some (b, if shouldBootstrap cfg b t then .syncing else t.runStart)
    | .syncing => synced b t
    | .flushing => flushed b t
    | .enter => some (b, if shouldBootstrap cfg b t then .waiting else t.afterBootstrap)
    | .waiting => if isReady cfg b t then some (b, .working) else none
    | .working => some (finish cfg b t, t.afterBootstrap)
    | .waitAll => if allBootstrapped b then some (b, .loop) else none
    | .loop => some (b, t.runStart)
  else if t.mayFail p then some (b, t.runStart) else none

/-- A step of one of the spawned tasks. -/
def act [Fintype κ] (cfg : BootstrapConfig κ) (s : State κ) (t : Task κ) (ok : Bool) :
    Option (State κ) :=
  if t.isSpawned cfg then
    (taskStep cfg s.shared t (s.pc t) ok).map fun r => s.move t r.1 r.2
  else none

/-- Bootstrap is enabled: all chains are in the first state. -/
def initial : State κ where
  shared := ⟨fun _ => .nodeSyncing, .nodeSyncing⟩
  pc := fun t =>
    match t with
    | .eventManager _ => .starting
    | .blockManager => .starting
    | _ => .enter

/-- The interleavings of the tasks, with all their restarts. -/
def bootstrapSystem [Fintype κ] (cfg : BootstrapConfig κ) :
    LabelledSystem (State κ) (Task κ × Bool) where
  init s := s = initial
  step s a s' := act cfg s a.1 a.2 = some s'

/-! ### Waiting -/

/-- The task polls for the chain to be in exactly the state `target`. -/
def WaitsFor (cfg : BootstrapConfig κ) (s : State κ) (t : Task κ) (chain : Chain κ)
    (target : BootstrapState) : Prop :=
  match s.pc t with
  | .waiting =>
      match t with
      | .eventManager _ => False
      | .roundupEmitter => (∃ c, chain = .evm c) ∧ target = .bootstrapRoundUpPhase1
      | .roundupRelay => chain = .evm cfg.bifrost ∧ target = .bootstrapRoundUpPhase2
      | .queuePoller c => chain = .evm c ∧ target = .bootstrapSocketRelayQueue
      | .socketRelay c => chain = .evm c ∧ target = .bootstrapSocketRelay
      | .onflight => chain = .evm cfg.bifrost ∧ target = .bootstrapSocketRelay
      | .blockManager => chain = .bitcoin ∧ target = .bootstrapSocketRelay
  | .waitAll => target = .normalStart
  | _ => False

/-- No task waits for a state that its chain has left. -/
def NoWaiterLeftBehind (cfg : BootstrapConfig κ) (s : State κ) : Prop :=
  ∀ t chain target, WaitsFor cfg s t chain target → s.shared.state chain ≤ target

/-- The condition on a step under which no waiter is left behind.  The relay handler of the native
chain moves it to `NormalStart` only when the on-flight handler, if there is one, is past its wait;
the on-flight handler is not called again after that; and the round-up emitter makes its check only
while no chain is past its phase, or when the native chain has finished. -/
def Permitted (cfg : BootstrapConfig κ) (s : State κ) (a : Task κ × Bool) : Prop :=
  (a = (.socketRelay cfg.bifrost, true) → s.pc (.socketRelay cfg.bifrost) = .working →
    Task.isSpawned cfg .onflight = true → s.pc .onflight ≠ .enter ∧ s.pc .onflight ≠ .waiting) ∧
  (a = (.onflight, true) → s.pc .onflight = .loop →
    s.shared.evm cfg.bifrost ≠ .normalStart) ∧
  (a = (.roundupEmitter, true) → s.pc .roundupEmitter = .enter →
    s.shared.evm cfg.bifrost = .normalStart ∨
      ∀ c, s.shared.evm c ≤ .bootstrapRoundUpPhase1)

end Bootstrap

end BifrostRelayer
