import Mathlib.Data.List.AList
import BifrostRelayer.Events.Pipeline
import BifrostRelayer.Service.Configuration

/-!
# How the tasks of the relayer are connected

`relay` makes the clients and the event managers from the list of providers and the handlers from the
list of handler configurations, connects them and spawns them.  Whatever is missing makes it panic.
What it makes from the lists is modelled as the source has it; of the other things that it needs (the
signers, the URLs, the addresses of the contracts, the Substrate and the Bitcoin client)
`Surroundings` has what became of them.

A socket handler subscribes to the event manager of its chain and, if the relay queue is in use, owns
the receiving end of a channel for on-flight messages.  The sending ends are kept by chain, so that a
chain that is watched twice has the sending end of its last handler only.

`wired` says which tasks a configuration asks for, and `relay_eq_ok` when it gets them.  The
`select!` loop of a handler takes the closed channel for one that is ready, so a handler without a
sending end never gets to rest; `spins_eq` says which handlers these are.
-/

namespace BifrostRelayer

namespace Service

open SocketRelay (ProviderMetadata ClientMap newClients)

/-! ### The managers -/

/-- `INVALID_CHAIN_ID`. -/
def invalidChainId : String :=
  "Invalid chain ID provided. Please check your provider's or contract's chain ID."

/-- `INVALID_BIFROST_NATIVENESS`. -/
def invalidBifrostNativeness : String :=
  "Bifrost Network is not initialized as native. Please check your provider's " ++
    "`is_native` field."

/-- What `unwrap` says. -/
def unwrapNone : String := "called `Option::unwrap()` on a `None` value"

/-- `ManagerDeps`, with the metadata of the clients. -/
structure ManagerDeps where
  bifrostClient : ProviderMetadata
  clients : ClientMap
  eventManagers : ClientMap

/-- The turn of the loop of `ManagerDeps::new` for a provider. -/
def addManager (clients : ClientMap) (s : Option ProviderMetadata × ClientMap)
    (p : SocketRelay.EvmProvider) : Except String (Option ProviderMetadata × ClientMap) :=
  match clients p.id with
  | none => .error unwrapNone
  | some client =>
      .ok (if p.saysNative then some client else s.1,
        Function.update s.2 client.id (some client))

/-- `ManagerDeps::new`. -/
def ManagerDeps.new (evmProviders : List SocketRelay.EvmProvider) (clients : ClientMap) :
    Except String ManagerDeps := do
  let s ← evmProviders.foldlM (addManager clients) (none, fun _ => none)
  match s.1 with
  | none => .error invalidBifrostNativeness
  | some bifrostClient => .ok ⟨bifrostClient, clients, s.2⟩

/-! ### The handlers -/

/-- What becomes of the things that are not made from the lists of providers and handlers, in the
order in which `relay` needs them.  Those that it cannot do without make it fail with a message. -/
structure Surroundings where
  /-- `TaskManager::new`. -/
  taskManager : Except String Unit
  /-- Everything that the clients are made of: the private keys or the keys of the KMS, the URLs, the
  addresses of the contracts, and the selected relayers, which the native client asks for at once. -/
  clients : Except String Unit
  /-- The name of the Bitcoin network. -/
  network : Except String Unit
  /-- `SubstrateDeps::new`. -/
  substrateDeps : Except String Unit
  /-- Whether the runtime has the pallet `CCCPRelayQueue`, if its metadata can be fetched. -/
  relayQueue : Option Bool
  /-- Whether a call of `SocketQueuePoller::new` succeeds, by its number. -/
  pollerCreated : ℕ → Bool
  /-- Whether `SocketOnflightHandler::new` succeeds. -/
  onflightCreated : Bool
  /-- `BtcDeps::new`. -/
  btcDeps : Except String Unit

/-- A `SocketRelayHandler`: its chain, and the number of the channel that it receives on-flight
messages from. -/
structure SocketHandler where
  target : ChainId
  onflightReceiver : Option ℕ
deriving DecidableEq

/-- The collections that the loop of `HandlerDeps::new` fills. -/
structure Handlers where
  socketRelayHandlers : List SocketHandler
  /-- The chains of the pollers. -/
  socketQueuePollers : List ChainId
  /-- The chains whose logs the round-up handlers get. -/
  roundupRelayHandlers : List ChainId
  /-- The channel of the sending end for a chain. -/
  onflightSenders : AList fun _ : ChainId => ℕ

/-- `HandlerDeps`; the on-flight handler has all the sending ends. -/
structure HandlerDeps extends Handlers where
  onflightHandler : Bool

/-- A socket handler for a chain of a watch list, and its poller.  The channels are numbered as the
handlers are. -/
def addSocketTarget (managers : ManagerDeps) (env : Surroundings) (enabled : Bool) (h : Handlers)
    (target : ChainId) : Except String Handlers :=
  match managers.eventManagers target, managers.clients target with
  | some _, some _ =>
      let number := h.socketRelayHandlers.length
      if enabled then
        if env.pollerCreated h.socketQueuePollers.length then
          .ok { h with
            socketRelayHandlers := h.socketRelayHandlers ++ [⟨target, some number⟩]
            socketQueuePollers := h.socketQueuePollers ++ [target]
            onflightSenders := h.onflightSenders.insert target number }
        else .error "Failed to create SocketQueuePoller"
      else .ok { h with socketRelayHandlers := h.socketRelayHandlers ++ [⟨target, none⟩] }
  | _, _ => .error invalidChainId

/-- The turn of the loop of `HandlerDeps::new` for a handler configuration. -/
def addHandler (managers : ManagerDeps) (env : Surroundings) (enabled : Bool) (h : Handlers)
    (handlerConfig : HandlerConfig) : Except String Handlers :=
  match handlerConfig.handlerType with
  | .socket => handlerConfig.watchList.foldlM (addSocketTarget managers env enabled) h
  | .roundup =>
      match handlerConfig.watchList with
      | [] => .error "index out of bounds: the len is 0 but the index is 0"
      | target :: _ =>
          match managers.eventManagers target with
          | some _ => .ok { h with roundupRelayHandlers := h.roundupRelayHandlers ++ [target] }
          | none => .error invalidChainId

/-- `HandlerDeps::new`. -/
def HandlerDeps.new (handlerConfigs : List HandlerConfig) (managers : ManagerDeps)
    (env : Surroundings) : Except String HandlerDeps :=
  match env.relayQueue with
  | none => .error "Failed to fetch runtime metadata from the Bifrost node"
  | some enabled => do
      let h ← handlerConfigs.foldlM (addHandler managers env enabled) ⟨[], [], [], ∅⟩
      .ok ⟨h, enabled && !h.onflightSenders.entries.isEmpty && env.onflightCreated⟩

/-- `FullDeps`, with what is made from the lists. -/
structure FullDeps where
  managerDeps : ManagerDeps
  handlerDeps : HandlerDeps

/-- `relay`, up to the spawning of the tasks, which cannot fail.  `BootstrapSharedData::new` and
`PeriodicDeps::new` cannot fail either. -/
def relay (config : Configuration) (env : Surroundings) : Except String FullDeps := do
  assertConfigurationValidity config
  env.taskManager
  env.clients
  env.network
  let managerDeps ← ManagerDeps.new config.providers (newClients config.providers)
  env.substrateDeps
  let handlerDeps ← HandlerDeps.new config.handlerConfigs managerDeps env
  env.btcDeps
  .ok ⟨managerDeps, handlerDeps⟩

/-! ### What a configuration asks for -/

/-- The chains with a socket handler, in the order in which the handlers are made. -/
def socketTargets (handlerConfigs : List HandlerConfig) : List ChainId :=
  handlerConfigs.flatMap fun c => if c.handlerType = .socket then c.watchList else []

/-- The chains whose logs the round-up handlers get. -/
def roundupTargets (handlerConfigs : List HandlerConfig) : List ChainId :=
  handlerConfigs.flatMap fun c => if c.handlerType = .roundup then c.watchList.take 1 else []

/-- The sending ends that are kept when every target has got a channel. -/
def sendersOf (targets : List ChainId) : AList fun _ : ChainId => ℕ :=
  targets.zipIdx.foldl (fun senders x => senders.insert x.1 x.2) ∅

/-- The handlers for the given chains. -/
def handlersFor (enabled : Bool) (sockets roundups : List ChainId) : Handlers where
  socketRelayHandlers := sockets.zipIdx.map fun x => ⟨x.1, if enabled then some x.2 else none⟩
  socketQueuePollers := if enabled then sockets else []
  roundupRelayHandlers := roundups
  onflightSenders := if enabled then sendersOf sockets else ∅

/-- The tasks that a configuration asks for. -/
def wired (config : Configuration) (env : Surroundings) (enabled : Bool) : HandlerDeps where
  toHandlers := handlersFor enabled (socketTargets config.handlerConfigs)
    (roundupTargets config.handlerConfigs)
  onflightHandler :=
    enabled && !(socketTargets config.handlerConfigs).isEmpty && env.onflightCreated

/-- There is a client for a chain. -/
def Configuration.Knows (config : Configuration) (c : ChainId) : Prop :=
  ∃ p ∈ config.evmProviders, p.id = c

/-- The last provider with a property. -/
def Configuration.lastProvider (config : Configuration) (f : SocketRelay.EvmProvider → Bool) :
    Option SocketRelay.EvmProvider :=
  config.providers.reverse.find? f

/-- The configuration and the outside have everything that the tasks need. -/
structure Startable (config : Configuration) (env : Surroundings) (enabled : Bool) : Prop where
  valid : config.Valid
  taskManager : env.taskManager = .ok ()
  clients : env.clients = .ok ()
  network : env.network = .ok ()
  native : ∃ p ∈ config.evmProviders, p.saysNative = true
  substrateDeps : env.substrateDeps = .ok ()
  relayQueue : env.relayQueue = some enabled
  sockets : ∀ c ∈ socketTargets config.handlerConfigs, config.Knows c
  roundups : ∀ h ∈ config.handlerConfigs, h.handlerType = .roundup →
    ∃ c rest, h.watchList = c :: rest ∧ config.Knows c
  pollers : enabled = true →
    ∀ i < (socketTargets config.handlerConfigs).length, env.pollerCreated i = true
  btcDeps : env.btcDeps = .ok ()

/-! ### The managers that are made -/

variable {config : Configuration} {env : Surroundings} {enabled : Bool}
  {managers : ManagerDeps}

lemma knows_iff {c : ChainId} :
    config.Knows c ↔ ∃ client, newClients config.providers c = some client := by
  constructor
  · rintro ⟨p, hp, hid⟩
    exact SocketRelay.exists_newClients ⟨p.toEvmProvider, List.mem_map_of_mem hp, hid⟩
  · rintro ⟨client, hclient⟩
    obtain ⟨q, hq, hid, -⟩ := SocketRelay.exists_provider_of_newClients hclient
    obtain ⟨p, hp, rfl⟩ := List.mem_map.mp hq
    exact ⟨p, hp, hid⟩

/-- The client of a chain was made for its last provider. -/
lemma newClients_eq (ps : List SocketRelay.EvmProvider) (c : ChainId) :
    newClients ps c =
      (ps.reverse.find? fun p => decide (p.id = c)).map fun p => .new p p.saysNative := by
  induction ps using List.reverseRecOn with
  | nil => rfl
  | append_singleton ps p ih =>
    rw [newClients, List.foldl_append, List.foldl_cons, List.foldl_nil, List.reverse_append,
      List.reverse_singleton, List.singleton_append, List.find?_cons]
    by_cases hid : p.id = c
    · subst hid
      simp
    · rw [Function.update_of_ne (Ne.symm hid)]
      rw [decide_eq_false hid, ← ih]
      rfl

/-- The client of the native chain is that of the last native provider. -/
lemma foldl_native_eq (clients : ClientMap) (ps : List SocketRelay.EvmProvider) :
    ps.foldl (fun found p => if p.saysNative then clients p.id else found) none =
      (ps.reverse.find? SocketRelay.EvmProvider.saysNative).bind fun p => clients p.id := by
  induction ps using List.reverseRecOn with
  | nil => rfl
  | append_singleton ps p ih =>
    rw [List.foldl_append, List.foldl_cons, List.foldl_nil, List.reverse_append,
      List.reverse_singleton, List.singleton_append, List.find?_cons]
    cases hnative : p.saysNative with
    | true => simp
    | false => simpa using ih

/-- The event managers of the providers in a list that have clients. -/
lemma foldlM_addManager {clients : ClientMap} (hids : ∀ c client, clients c = some client →
    client.id = c) {ps : List SocketRelay.EvmProvider}
    (hclients : ∀ p ∈ ps, ∃ client, clients p.id = some client) :
    ps.foldlM (addManager clients) (none, fun _ => none) =
      .ok (ps.foldl (fun found p => if p.saysNative then clients p.id else found) none,
        fun c => if ∃ p ∈ ps, p.id = c then clients c else none) := by
  induction ps using List.reverseRecOn with
  | nil => simp [pure, Except.pure]
  | append_singleton ps p ih =>
    obtain ⟨client, hclient⟩ := hclients p (by simp)
    rw [List.foldlM_append, ih fun q hq => hclients q (List.mem_append_left _ hq)]
    show (addManager clients _ p >>= pure) = _
    rw [bind_pure, addManager, hclient]
    simp only [hids _ _ hclient, List.foldl_append, List.foldl_cons, List.foldl_nil, hclient]
    congr 2
    funext c
    by_cases hc : c = p.id
    · subst hc
      simp [hclient]
    · simp [Function.update_of_ne hc, Ne.symm hc, or_comm]

/-- The client of the native chain is found if there is a native provider. -/
lemma foldl_native_eq_none_iff {clients : ClientMap} {ps : List SocketRelay.EvmProvider}
    (hclients : ∀ p ∈ ps, ∃ client, clients p.id = some client) :
    ps.foldl (fun found p => if p.saysNative then clients p.id else found) none = none ↔
      ∀ p ∈ ps, p.saysNative = false := by
  rw [foldl_native_eq]
  constructor
  · intro hnone p hp
    cases hfind : ps.reverse.find? SocketRelay.EvmProvider.saysNative with
    | none => simpa using List.find?_eq_none.mp hfind p (List.mem_reverse.mpr hp)
    | some q =>
      obtain ⟨client, hclient⟩ := hclients q (List.mem_reverse.mp (List.mem_of_find?_eq_some hfind))
      simp [hfind, hclient] at hnone
  · intro hall
    rw [List.find?_eq_none.mpr fun p hp => by simp [hall p (List.mem_reverse.mp hp)]]
    rfl

/-- Every provider has a client. -/
lemma exists_client {p : SocketRelay.EvmProvider} (hp : p ∈ config.providers) :
    ∃ client, newClients config.providers p.id = some client :=
  SocketRelay.exists_newClients ⟨p, hp, rfl⟩

/-- A native provider makes a native client. -/
lemma exists_bifrostClient (h : ∃ p ∈ config.evmProviders, p.saysNative = true) :
    ∃ client, SocketRelay.bifrostClient config.providers = some client := by
  rw [← Option.ne_none_iff_exists', SocketRelay.bifrostClient, ne_eq,
    foldl_native_eq_none_iff fun p hp => exists_client hp]
  obtain ⟨p, hp, hnative⟩ := h
  intro hall
  exact absurd (hall p.toEvmProvider (List.mem_map_of_mem hp)) (by simp [hnative])

/-- The managers can be made if one of the providers is the native one; every chain that has a client
has an event manager then. -/
lemma ManagerDeps.new_eq_ok_iff :
    ManagerDeps.new config.providers (newClients config.providers) = .ok managers ↔
      (∃ p ∈ config.evmProviders, p.saysNative = true) ∧
      managers.clients = newClients config.providers ∧
      managers.eventManagers = newClients config.providers ∧
      SocketRelay.bifrostClient config.providers = some managers.bifrostClient := by
  have hids : ∀ c client, newClients config.providers c = some client → client.id = c := by
    intro c client h
    obtain ⟨p, -, rfl, rfl⟩ := SocketRelay.exists_provider_of_newClients h
    rfl
  have hmanagers : (fun c => if ∃ p ∈ config.providers, p.id = c then newClients config.providers c
      else none) = newClients config.providers := by
    funext c
    split
    next => rfl
    next hno =>
      cases hc : newClients config.providers c with
      | none => rfl
      | some client =>
        obtain ⟨p, hp, hid, -⟩ := SocketRelay.exists_provider_of_newClients hc
        exact absurd ⟨p, hp, hid⟩ hno
  unfold ManagerDeps.new
  rw [foldlM_addManager hids fun p hp => exists_client hp, hmanagers]
  show (match SocketRelay.bifrostClient config.providers with
    | none => .error invalidBifrostNativeness
    | some bifrostClient => .ok _) = Except.ok managers ↔ _
  cases hbifrost : SocketRelay.bifrostClient config.providers with
  | none =>
    have hno : ¬ ∃ p ∈ config.evmProviders, p.saysNative = true := fun hsome => by
      obtain ⟨client, hclient⟩ := exists_bifrostClient hsome
      simp [hbifrost] at hclient
    simp [hno]
  | some client =>
    have hsome : ∃ p ∈ config.evmProviders, p.saysNative = true := by
      by_contra hno
      rw [SocketRelay.bifrostClient, (foldl_native_eq_none_iff fun p hp => exists_client hp).mpr]
        at hbifrost
      · cases hbifrost
      · simpa [Configuration.providers] using hno
    obtain ⟨bifrost, clients, eventManagers⟩ := managers
    simp only [hsome, true_and, Except.ok.injEq, ManagerDeps.mk.injEq, Option.some.injEq]
    constructor
    · rintro ⟨rfl, rfl, rfl⟩
      exact ⟨rfl, rfl, rfl⟩
    · rintro ⟨rfl, rfl, rfl⟩
      exact ⟨rfl, rfl, rfl⟩

/-! ### The handlers that are made -/

lemma sendersOf_concat (targets : List ChainId) (c : ChainId) :
    sendersOf (targets ++ [c]) = (sendersOf targets).insert c targets.length := by
  simp [sendersOf, List.zipIdx_append]

/-- The channels are numbered as the handlers are. -/
lemma length_socketRelayHandlers (sockets roundups : List ChainId) :
    (handlersFor enabled sockets roundups).socketRelayHandlers.length = sockets.length := by
  simp [handlersFor]

/-- One more target. -/
lemma addSocketTarget_eq_ok_iff {sockets roundups : List ChainId} {c : ChainId} {h : Handlers}
    (hsame : managers.eventManagers = managers.clients) :
    addSocketTarget managers env enabled (handlersFor enabled sockets roundups) c = .ok h ↔
      (∃ client, managers.clients c = some client) ∧
      (enabled = true → env.pollerCreated sockets.length = true) ∧
      h = handlersFor enabled (sockets ++ [c]) roundups := by
  unfold addSocketTarget
  rw [hsame, length_socketRelayHandlers]
  cases hclient : managers.clients c with
  | none => simp
  | some client =>
    simp only [Option.some.injEq, exists_eq', true_and]
    cases enabled with
    | false =>
      simp only [Bool.false_eq_true, if_false, false_implies, true_and, Except.ok.injEq]
      have hadd : handlersFor false (sockets ++ [c]) roundups =
          { handlersFor false sockets roundups with
            socketRelayHandlers :=
              (handlersFor false sockets roundups).socketRelayHandlers ++ [⟨c, none⟩] } := by
        simp [handlersFor, List.zipIdx_append]
      rw [hadd, eq_comm]
    | true =>
      have hadd : handlersFor true (sockets ++ [c]) roundups =
          { handlersFor true sockets roundups with
            socketRelayHandlers :=
              (handlersFor true sockets roundups).socketRelayHandlers ++ [⟨c, some sockets.length⟩]
            socketQueuePollers := (handlersFor true sockets roundups).socketQueuePollers ++ [c]
            onflightSenders := (handlersFor true sockets roundups).onflightSenders.insert c
              sockets.length } := by
        simp [handlersFor, List.zipIdx_append, sendersOf_concat]
      have hlength : (handlersFor true sockets roundups).socketQueuePollers.length =
          sockets.length := rfl
      rw [hadd, hlength]
      by_cases hpoller : env.pollerCreated sockets.length = true
      · simp only [hpoller, if_true, imp_self, true_and, Except.ok.injEq]
        exact eq_comm
      · simp [hpoller]

/-- The targets of a watch list. -/
lemma foldlM_addSocketTarget {sockets roundups l : List ChainId} {h : Handlers}
    (hsame : managers.eventManagers = managers.clients) :
    l.foldlM (addSocketTarget managers env enabled) (handlersFor enabled sockets roundups) = .ok h ↔
      (∀ c ∈ l, ∃ client, managers.clients c = some client) ∧
      (enabled = true → ∀ i, sockets.length ≤ i → i < (sockets ++ l).length →
        env.pollerCreated i = true) ∧
      h = handlersFor enabled (sockets ++ l) roundups := by
  induction l generalizing sockets with
  | nil =>
    simp only [List.foldlM_nil, List.append_nil, List.not_mem_nil, false_implies, implies_true,
      true_and, pure, Except.pure, Except.ok.injEq]
    constructor
    · rintro rfl
      exact ⟨fun _ i hle hlt => by omega, rfl⟩
    · rintro ⟨-, rfl⟩
      rfl
  | cons c l ih =>
    rw [List.foldlM_cons, Fallible.bind_eq_ok]
    simp only [addSocketTarget_eq_ok_iff hsame]
    rw [List.forall_mem_cons]
    have hassoc : sockets ++ c :: l = sockets ++ [c] ++ l := by simp
    rw [hassoc]
    constructor
    · rintro ⟨h', ⟨hclient, hpoller, rfl⟩, hrest⟩
      obtain ⟨hclients, hpollers, rfl⟩ := ih.mp hrest
      refine ⟨⟨hclient, hclients⟩, fun henabled i hle hlt => ?_, rfl⟩
      rcases hle.eq_or_lt with rfl | hlt'
      · exact hpoller henabled
      · exact hpollers henabled i (by simpa using hlt') hlt
    · rintro ⟨⟨hclient, hclients⟩, hpollers, rfl⟩
      refine ⟨_, ⟨hclient, fun henabled => ?_, rfl⟩, ih.mpr ⟨hclients, ?_, rfl⟩⟩
      · exact hpollers henabled _ le_rfl (by simp)
      · intro henabled i hle hlt
        exact hpollers henabled i (by simp at hle; omega) hlt

/-- One more handler configuration. -/
lemma addHandler_eq_ok_iff {sockets roundups : List ChainId} {handlerConfig : HandlerConfig}
    {h : Handlers} (hsame : managers.eventManagers = managers.clients) :
    addHandler managers env enabled (handlersFor enabled sockets roundups) handlerConfig = .ok h ↔
      (∀ c ∈ socketTargets [handlerConfig], ∃ client, managers.clients c = some client) ∧
      (handlerConfig.handlerType = .roundup → ∃ c rest, handlerConfig.watchList = c :: rest ∧
        ∃ client, managers.clients c = some client) ∧
      (enabled = true → ∀ i, sockets.length ≤ i →
        i < (sockets ++ socketTargets [handlerConfig]).length → env.pollerCreated i = true) ∧
      h = handlersFor enabled (sockets ++ socketTargets [handlerConfig])
        (roundups ++ roundupTargets [handlerConfig]) := by
  obtain ⟨handlerType, watchList⟩ := handlerConfig
  cases handlerType with
  | socket =>
    have hsockets : socketTargets [⟨.socket, watchList⟩] = watchList := by simp [socketTargets]
    have hroundups : roundupTargets [⟨.socket, watchList⟩] = [] := by simp [roundupTargets]
    rw [hsockets, hroundups, List.append_nil]
    simp only [addHandler, foldlM_addSocketTarget hsame, reduceCtorEq, false_implies, true_and]
  | roundup =>
    have hsockets : socketTargets [⟨.roundup, watchList⟩] = [] := by simp [socketTargets]
    have hroundups : roundupTargets [⟨.roundup, watchList⟩] = watchList.take 1 := by
      simp [roundupTargets]
    rw [hsockets, hroundups, List.append_nil]
    have hpollers : (enabled = true → ∀ i, sockets.length ≤ i → i < sockets.length →
        env.pollerCreated i = true) :=
      fun _ i hle hlt => absurd hlt (by omega)
    simp only [addHandler, hsame, List.not_mem_nil, false_implies, implies_true, true_and,
      forall_const, iff_true_intro hpollers]
    cases watchList with
    | nil => simp
    | cons c rest =>
      have hadd : handlersFor enabled sockets (roundups ++ [c]) =
          { handlersFor enabled sockets roundups with
            roundupRelayHandlers :=
              (handlersFor enabled sockets roundups).roundupRelayHandlers ++ [c] } := rfl
      rw [List.take_succ_cons, List.take_zero, hadd]
      cases hclient : managers.clients c with
      | none => simp [hclient]
      | some client => simp [hclient, eq_comm]

lemma socketTargets_cons (c : HandlerConfig) (l : List HandlerConfig) :
    socketTargets (c :: l) = socketTargets [c] ++ socketTargets l := by
  simp [socketTargets]

lemma roundupTargets_cons (c : HandlerConfig) (l : List HandlerConfig) :
    roundupTargets (c :: l) = roundupTargets [c] ++ roundupTargets l := by
  simp [roundupTargets]

/-- The handlers of a list of handler configurations. -/
lemma foldlM_addHandler {sockets roundups : List ChainId} {l : List HandlerConfig} {h : Handlers}
    (hsame : managers.eventManagers = managers.clients) :
    l.foldlM (addHandler managers env enabled) (handlersFor enabled sockets roundups) = .ok h ↔
      (∀ c ∈ socketTargets l, ∃ client, managers.clients c = some client) ∧
      (∀ handlerConfig ∈ l, handlerConfig.handlerType = .roundup →
        ∃ c rest, handlerConfig.watchList = c :: rest ∧
          ∃ client, managers.clients c = some client) ∧
      (enabled = true → ∀ i, sockets.length ≤ i → i < (sockets ++ socketTargets l).length →
        env.pollerCreated i = true) ∧
      h = handlersFor enabled (sockets ++ socketTargets l) (roundups ++ roundupTargets l) := by
  induction l generalizing sockets roundups with
  | nil =>
    simp only [socketTargets, roundupTargets, List.foldlM_nil, List.flatMap_nil, List.append_nil,
      List.not_mem_nil, false_implies, implies_true, true_and, pure, Except.pure, Except.ok.injEq]
    constructor
    · rintro rfl
      exact ⟨fun _ i hle hlt => by omega, rfl⟩
    · rintro ⟨-, rfl⟩
      rfl
  | cons c l ih =>
    rw [List.foldlM_cons, Fallible.bind_eq_ok, socketTargets_cons, roundupTargets_cons,
      List.forall_mem_append, List.forall_mem_cons, ← List.append_assoc, ← List.append_assoc]
    simp only [addHandler_eq_ok_iff hsame]
    constructor
    · rintro ⟨h', ⟨hclients, hroundup, hpollers, rfl⟩, hrest⟩
      obtain ⟨hclients', hroundups, hpollers', rfl⟩ := ih.mp hrest
      refine ⟨⟨hclients, hclients'⟩, ⟨hroundup, hroundups⟩, fun henabled i hle hlt => ?_, rfl⟩
      rcases lt_or_ge i (sockets ++ socketTargets [c]).length with hi | hi
      · exact hpollers henabled i hle hi
      · exact hpollers' henabled i hi hlt
    · rintro ⟨⟨hclients, hclients'⟩, ⟨hroundup, hroundups⟩, hpollers, rfl⟩
      refine ⟨_, ⟨hclients, hroundup, fun henabled i hle hlt => ?_, rfl⟩,
        ih.mpr ⟨hclients', hroundups, fun henabled i hle hlt => ?_, rfl⟩⟩
      · refine hpollers henabled i hle ?_
        rw [List.length_append]
        omega
      · refine hpollers henabled i ?_ hlt
        rw [List.length_append] at hle
        omega

/-- The channel that is kept for a chain is the one of its last target. -/
lemma lookup_sendersOf {targets : List ChainId} {c : ChainId} {k : ℕ} :
    (sendersOf targets).lookup c = some k ↔
      targets[k]? = some c ∧ c ∉ targets.drop (k + 1) := by
  induction targets using List.reverseRecOn with
  | nil => simp [sendersOf]
  | append_singleton targets d ih =>
    rw [sendersOf_concat]
    by_cases hcd : c = d
    · subst hcd
      rw [AList.lookup_insert, Option.some.injEq]
      constructor
      · rintro rfl
        simp
      · rintro ⟨hget, hlast⟩
        by_contra hne
        have hlt : k < targets.length := by
          have := (List.getElem?_eq_some_iff.mp hget).1
          rw [List.length_append, List.length_singleton] at this
          omega
        refine hlast ?_
        rw [List.drop_append_of_le_length (by omega)]
        simp
    · rw [AList.lookup_insert_ne hcd, ih]
      rcases lt_trichotomy k targets.length with hlt | rfl | hgt
      · rw [List.getElem?_append_left hlt, List.drop_append_of_le_length (by omega)]
        simp [hcd]
      · simp [Ne.symm hcd]
      · rw [List.getElem?_eq_none (by omega), List.getElem?_eq_none (by simp; omega)]
        simp

/-- There is a sending end as soon as there is a target. -/
lemma isEmpty_entries_sendersOf (targets : List ChainId) :
    (sendersOf targets).entries.isEmpty = targets.isEmpty := by
  induction targets using List.reverseRecOn with
  | nil => rfl
  | append_singleton targets d _ =>
    rw [sendersOf_concat]
    simp [AList.insert, List.kinsert]

/-- The handlers can be made if the outside plays along and every chain is known. -/
lemma HandlerDeps.new_eq_ok_iff {deps : HandlerDeps}
    (hclients : managers.clients = newClients config.providers)
    (hmanagers : managers.eventManagers = newClients config.providers) :
    HandlerDeps.new config.handlerConfigs managers env = .ok deps ↔
      ∃ enabled, env.relayQueue = some enabled ∧
        (∀ c ∈ socketTargets config.handlerConfigs, config.Knows c) ∧
        (∀ h ∈ config.handlerConfigs, h.handlerType = .roundup →
          ∃ c rest, h.watchList = c :: rest ∧ config.Knows c) ∧
        (enabled = true →
          ∀ i < (socketTargets config.handlerConfigs).length, env.pollerCreated i = true) ∧
        deps = wired config env enabled := by
  unfold HandlerDeps.new
  cases hqueue : env.relayQueue with
  | none => simp
  | some enabled =>
    have hempty : (⟨[], [], [], ∅⟩ : Handlers) = handlersFor enabled [] [] := by
      cases enabled <;> rfl
    simp only [Fallible.bind_eq_ok, hempty, foldlM_addHandler (hmanagers.trans hclients.symm),
      hclients, ← knows_iff, List.nil_append, List.length_nil, Nat.zero_le, true_implies,
      Option.some.injEq, exists_eq_left', Except.ok.injEq]
    have hwired : (⟨handlersFor enabled (socketTargets config.handlerConfigs)
        (roundupTargets config.handlerConfigs), enabled &&
          !(handlersFor enabled (socketTargets config.handlerConfigs)
            (roundupTargets config.handlerConfigs)).onflightSenders.entries.isEmpty &&
          env.onflightCreated⟩ : HandlerDeps) = wired config env enabled := by
      cases enabled with
      | false => rfl
      | true =>
        unfold wired
        rw [← isEmpty_entries_sendersOf]
        rfl
    constructor
    · rintro ⟨h, ⟨hsockets, hroundups, hpollers, rfl⟩, rfl⟩
      exact ⟨hsockets, hroundups, hpollers, hwired⟩
    · rintro ⟨hsockets, hroundups, hpollers, rfl⟩
      exact ⟨_, ⟨hsockets, hroundups, hpollers, rfl⟩, hwired⟩

/-- The relayer starts if it has everything that its tasks need. -/
lemma relay_eq_ok {deps : FullDeps} :
    relay config env = .ok deps ↔
      ∃ enabled, Startable config env enabled ∧
        ManagerDeps.new config.providers (newClients config.providers) = .ok deps.managerDeps ∧
        deps.handlerDeps = wired config env enabled := by
  obtain ⟨managerDeps, handlerDeps⟩ := deps
  unfold relay
  simp only [Fallible.bind_eq_ok, Except.ok.injEq, FullDeps.mk.injEq]
  constructor
  · rintro ⟨_, hvalid, _, htask, _, hclient, _, hnetwork, managers, hmanagers, _, hsubstrate,
      handlers, hhandlers, _, hbtc, rfl, rfl⟩
    obtain ⟨hnative, hclients, hevents, -⟩ := ManagerDeps.new_eq_ok_iff.mp hmanagers
    obtain ⟨enabled, hqueue, hsockets, hroundups, hpollers, hwired⟩ :=
      (HandlerDeps.new_eq_ok_iff hclients hevents).mp hhandlers
    exact ⟨enabled, ⟨assertConfigurationValidity_ok.mp hvalid, htask, hclient, hnetwork, hnative,
      hsubstrate, hqueue, hsockets, hroundups, hpollers, hbtc⟩, hmanagers, hwired⟩
  · rintro ⟨enabled, h, hmanagers, rfl⟩
    obtain ⟨-, hclients, hevents, -⟩ := ManagerDeps.new_eq_ok_iff.mp hmanagers
    have hhandlers := (HandlerDeps.new_eq_ok_iff hclients hevents).mpr
      ⟨enabled, h.relayQueue, h.sockets, h.roundups, h.pollers, rfl⟩
    exact ⟨(), assertConfigurationValidity_ok.mpr h.valid, (), h.taskManager, (), h.clients, (),
      h.network, managerDeps, hmanagers, (), h.substrateDeps, _, hhandlers, (), h.btcDeps, rfl, rfl⟩

/-- The relayer starts exactly if its configuration is valid, has a native chain and watches known
chains only, and the outside plays along.  It then has a client and an event manager for the chains
of its providers and no others, with what the last provider of the chain says, and the handlers that
the configuration asks for.  The parameters of its clients are what the configuration says, without
saturation; a task panics on its timer if the interval is zero, which passes for a provider without
a batch size. -/
theorem starts_iff (config : Configuration) (env : Surroundings) :
    ((∃ deps, relay config env = .ok deps) ↔ ∃ enabled, Startable config env enabled) ∧
    ∀ deps, relay config env = .ok deps →
      (∀ c, deps.managerDeps.clients c =
        (config.lastProvider fun p => decide (p.id = c)).map fun p => .new p p.saysNative) ∧
      deps.managerDeps.eventManagers = deps.managerDeps.clients ∧
      ((config.lastProvider SocketRelay.EvmProvider.saysNative).bind fun p =>
        deps.managerDeps.clients p.id) = some deps.managerDeps.bifrostClient ∧
      (∃ enabled, env.relayQueue = some enabled ∧ deps.handlerDeps = wired config env enabled) ∧
      ∀ p ∈ config.evmProviders, 1 ≤ p.batchSize ∧
        p.confirmations = p.blockConfirmations + p.batchSize ∧
        p.batchSize * p.callInterval ≤ maxCallIntervalMs ∧
        ((∃ message, p.timer = .error message) ↔
          p.callInterval = 0 ∧ p.getLogsBatchSize = none) := by
  refine ⟨⟨?_, ?_⟩, fun deps hdeps => ?_⟩
  · rintro ⟨deps, hdeps⟩
    obtain ⟨enabled, hstart, -⟩ := relay_eq_ok.mp hdeps
    exact ⟨enabled, hstart⟩
  · rintro ⟨enabled, hstart⟩
    obtain ⟨bifrost, hbifrost⟩ := exists_bifrostClient hstart.native
    let managers : ManagerDeps :=
      ⟨bifrost, newClients config.providers, newClients config.providers⟩
    have hmanagers :
        ManagerDeps.new config.providers (newClients config.providers) = .ok managers :=
      ManagerDeps.new_eq_ok_iff.mpr ⟨hstart.native, rfl, rfl, hbifrost⟩
    exact ⟨⟨_, _⟩, relay_eq_ok.mpr ⟨enabled, hstart, hmanagers, rfl⟩⟩
  · obtain ⟨enabled, hstart, hmanagers, hwired⟩ := relay_eq_ok.mp hdeps
    obtain ⟨-, hclients, hevents, hbifrost⟩ := ManagerDeps.new_eq_ok_iff.mp hmanagers
    refine ⟨fun c => ?_, hevents.trans hclients.symm, ?_, ⟨enabled, hstart.relayQueue, hwired⟩,
      fun p hp => ?_⟩
    · rw [hclients, newClients_eq]
      rfl
    · rw [hclients, ← hbifrost, SocketRelay.bifrostClient, foldl_native_eq]
      rfl
    · have hvalid := hstart.valid.provider p hp
      exact ⟨hvalid.batchSize_bounds.1, hvalid.confirmations_eq, hvalid.batchSize_bounds.2,
        hvalid.timer_error_iff⟩

/-- A configuration with a native chain, and two other chains of which one is watched twice and one
not at all. -/
def sampleConfiguration : Configuration where
  bootstrapConfig := some ⟨some 3⟩
  evmProviders := [⟨⟨3068, some true⟩, 3000, 12, none⟩, ⟨⟨1, none⟩, 12000, 12, some 1⟩,
    ⟨⟨10, some false⟩, 2000, 100, none⟩]
  handlerConfigs := [⟨.socket, [3068, 1, 1]⟩, ⟨.roundup, [3068, 10]⟩]

/-- The relay queue is in use, and every call succeeds. -/
def sampleSurroundings : Surroundings where
  taskManager := .ok ()
  clients := .ok ()
  network := .ok ()
  substrateDeps := .ok ()
  relayQueue := some true
  pollerCreated := fun _ => true
  onflightCreated := true
  btcDeps := .ok ()

/-- The managers and the handlers of the sample. -/
def sampleDeps : FullDeps where
  managerDeps := ⟨⟨3068, .inbound, true⟩, newClients sampleConfiguration.providers,
    newClients sampleConfiguration.providers⟩
  handlerDeps := wired sampleConfiguration sampleSurroundings true

lemma relay_sample : relay sampleConfiguration sampleSurroundings = .ok sampleDeps := by
  rfl

/-! ### On-flight messages -/

/-- The sending end of a channel is kept by the on-flight handler. -/
def HandlerDeps.isOpen (deps : HandlerDeps) (number : ℕ) : Bool :=
  deps.onflightHandler && deps.onflightSenders.entries.any fun e => decide (e.2 = number)

/-- The `select!` loop of a handler takes the end of a channel for a message and goes on at once,
so it spins when its receiver has no sending end.  Without a receiver the arm waits forever. -/
def HandlerDeps.spins (deps : HandlerDeps) (h : SocketHandler) : Bool :=
  h.onflightReceiver.any fun number => !deps.isOpen number

/-- The channel of a handler is open if it is the last one of its chain. -/
lemma isOpen_wired {k : ℕ} {c : ChainId}
    (hget : (socketTargets config.handlerConfigs)[k]? = some c) :
    (wired config env true).isOpen k = true ↔
      env.onflightCreated = true ∧ c ∉ (socketTargets config.handlerConfigs).drop (k + 1) := by
  have hne : (socketTargets config.handlerConfigs).isEmpty = false := by
    cases hl : socketTargets config.handlerConfigs with
    | nil => simp [hl] at hget
    | cons => rfl
  have hany : ((sendersOf (socketTargets config.handlerConfigs)).entries.any fun e =>
      decide (e.2 = k)) = true ↔ c ∉ (socketTargets config.handlerConfigs).drop (k + 1) := by
    rw [List.any_eq_true]
    constructor
    · rintro ⟨⟨d, n⟩, hmem, hn⟩
      obtain rfl : n = k := of_decide_eq_true hn
      obtain ⟨hget', hlast⟩ := lookup_sendersOf.mp (AList.mem_lookup_iff.mpr hmem)
      obtain rfl : c = d := Option.some.inj (hget.symm.trans hget')
      exact hlast
    · intro hlast
      exact ⟨⟨c, k⟩, AList.mem_lookup_iff.mp (lookup_sendersOf.mpr ⟨hget, hlast⟩), by simp⟩
  simp only [HandlerDeps.isOpen, wired, handlersFor, hne, Bool.not_false, Bool.true_and, if_true,
    Bool.and_eq_true, hany]

/-- No entry of a list comes again after itself if the list has no duplicates. -/
lemma nodup_iff_drop {α : Type} {l : List α} :
    l.Nodup ↔ ∀ k a, l[k]? = some a → a ∉ l.drop (k + 1) := by
  induction l with
  | nil => simp
  | cons b l ih =>
    rw [List.nodup_cons, ih]
    constructor
    · rintro ⟨hb, hl⟩ k a hget
      cases k with
      | zero =>
        obtain rfl : b = a := by simpa using hget
        simpa using hb
      | succ k => exact hl k a (by simpa using hget)
    · intro h
      exact ⟨by simpa using h 0 b rfl, fun k a hget => h (k + 1) a (by simpa using hget)⟩

/-- A chain has a sending end if it has a socket handler and the relay queue is in use, and its
messages go to the last handler that was made for it.  No handler spins exactly if the relay queue is
not in use, or no chain is watched, or the on-flight handler was made and no chain is watched
twice. -/
theorem no_handler_spins_iff {config : Configuration} {env : Surroundings} {deps : FullDeps}
    (h : relay config env = .ok deps) :
    (∀ c k, deps.handlerDeps.onflightSenders.lookup c = some k ↔ env.relayQueue = some true ∧
      (socketTargets config.handlerConfigs)[k]? = some c ∧
      c ∉ (socketTargets config.handlerConfigs).drop (k + 1)) ∧
    ((∀ handler ∈ deps.handlerDeps.socketRelayHandlers,
        deps.handlerDeps.spins handler = false) ↔
      env.relayQueue = some false ∨ socketTargets config.handlerConfigs = [] ∨
        env.onflightCreated = true ∧ (socketTargets config.handlerConfigs).Nodup) := by
  obtain ⟨enabled, hstart, -, hwired⟩ := relay_eq_ok.mp h
  rw [hstart.relayQueue, hwired]
  cases enabled with
  | false =>
    refine ⟨fun c k => by simp [wired, handlersFor], iff_of_true (fun handler hmem => ?_) (.inl rfl)⟩
    obtain ⟨x, -, rfl⟩ := List.mem_map.mp hmem
    rfl
  | true =>
    refine ⟨fun c k => by simp [wired, handlersFor, lookup_sendersOf], ?_⟩
    have hspins : (∀ handler ∈ (wired config env true).socketRelayHandlers,
        (wired config env true).spins handler = false) ↔
        ∀ k c, (socketTargets config.handlerConfigs)[k]? = some c →
          env.onflightCreated = true ∧ c ∉ (socketTargets config.handlerConfigs).drop (k + 1) := by
      constructor
      · intro hall k c hget
        rw [← isOpen_wired hget]
        have hmem : (⟨c, some k⟩ : SocketHandler) ∈ (wired config env true).socketRelayHandlers :=
          List.mem_map.mpr ⟨(c, k), List.mk_mem_zipIdx_iff_getElem?.mpr hget, rfl⟩
        simpa [HandlerDeps.spins] using hall _ hmem
      · intro hall handler hmem
        obtain ⟨⟨c, k⟩, hck, rfl⟩ := List.mem_map.mp hmem
        have hget := List.mk_mem_zipIdx_iff_getElem?.mp hck
        simpa [HandlerDeps.spins] using (isOpen_wired hget).mpr (hall k c hget)
    rw [hspins, nodup_iff_drop]
    simp only [Option.some.injEq, Bool.true_eq_false, false_or]
    constructor
    · intro hall
      cases htargets : socketTargets config.handlerConfigs with
      | nil => exact .inl rfl
      | cons c rest =>
        rw [htargets] at hall
        exact .inr ⟨(hall 0 c rfl).1, fun k a hget => (hall k a hget).2⟩
    · rintro (hnil | ⟨hcreated, hall⟩) k c hget
      · simp [hnil] at hget
      · exact ⟨hcreated, hall k c hget⟩

/-- A handler of the chain that is watched twice spins. -/
theorem no_handler_spins_sample :
    ¬ ∀ handler ∈ sampleDeps.handlerDeps.socketRelayHandlers,
      sampleDeps.handlerDeps.spins handler = false := by
  rw [(no_handler_spins_iff relay_sample).2]
  decide

/-! ### Logs -/

open Events Evm Pipeline

/-- How many handlers have subscribed to the event manager of a chain. -/
def HandlerDeps.subscribers (deps : HandlerDeps) (c : ChainId) : ℕ :=
  deps.socketRelayHandlers.countP (fun h => decide (h.target = c)) +
    deps.socketQueuePollers.count c + deps.roundupRelayHandlers.count c

/-- Some handler watches a chain. -/
def Configuration.Watches (config : Configuration) (c : ChainId) : Prop :=
  c ∈ socketTargets config.handlerConfigs ∨ c ∈ roundupTargets config.handlerConfigs

instance (c : ChainId) : Decidable (config.Watches c) :=
  inferInstanceAs (Decidable (c ∈ socketTargets config.handlerConfigs ∨
    c ∈ roundupTargets config.handlerConfigs))

variable (config env enabled) in
lemma subscribers_pos_iff (c : ChainId) :
    0 < (wired config env enabled).subscribers c ↔ config.Watches c := by
  have hsockets : (wired config env enabled).socketRelayHandlers.countP
      (fun h => decide (h.target = c)) = (socketTargets config.handlerConfigs).count c := by
    rw [wired, handlersFor, List.countP_map, List.count_eq_countP]
    conv_rhs => rw [← List.zipIdx_map_fst 0 (socketTargets config.handlerConfigs), List.countP_map]
    rfl
  have hpollers : (wired config env enabled).socketQueuePollers.count c ≤
      (socketTargets config.handlerConfigs).count c := by
    cases enabled with
    | false => simp [wired, handlersFor]
    | true => rfl
  have hroundups : (wired config env enabled).roundupRelayHandlers =
      roundupTargets config.handlerConfigs := rfl
  rw [HandlerDeps.subscribers, hsockets, hroundups, Configuration.Watches, ← List.count_pos_iff,
    ← List.count_pos_iff]
  omega

/-- The head is one batch past the block where the manager was initialized, and the batch has a log,
which nobody has subscribed to. -/
lemma exists_run_died (cfg : EventConfig) (hbatch : 1 ≤ cfg.getLogsBatchSize) (log : Log) :
    ∃ tr s, (eventPipeline cfg 0 0).Run tr s ∧ s.producer = none := by
  have hready : (EventManager.afterInitialize 0).isBatchReady cfg cfg.getLogsBatchSize = true := by
    have hend : (EventManager.afterInitialize 0).batchEnd cfg ≤ 1 + (cfg.getLogsBatchSize - 1) :=
      min_le_left _ _
    have hwaiting : (EventManager.afterInitialize 0).waitingBlock = 1 := rfl
    rw [EventManager.isBatchReady, if_neg (by omega), decide_eq_true_eq]
    omega
  have hinit : (eventPipeline cfg 0 0).Run [] ⟨some (.afterInitialize 0), [], .empty, fun _ => 0⟩ :=
    .start ⟨_, rfl, rfl⟩
  have hhead : (eventSystem cfg 0).step (.afterInitialize 0)
      (.getBlockNumber (.ok cfg.getLogsBatchSize), .empty)
      ⟨1, .batch cfg.getLogsBatchSize⟩ := by
    show some ((EventManager.afterInitialize 0).continueBatches cfg cfg.getLogsBatchSize, _) = _
    rw [EventManager.continueBatches, if_pos hready]
    rfl
  have hlogs : (eventSystem cfg 0).step ⟨1, .batch cfg.getLogsBatchSize⟩
      (.getLogs (.ok [log]), (EventManager.processNewBlock cfg ⟨1, .batch cfg.getLogsBatchSize⟩
        cfg.getLogsBatchSize [log]).2) _ := rfl
  exact ⟨_, _, ((hinit.snoc (.produce rfl rfl hhead)).snoc (.produce rfl rfl hlogs)).snoc
    (.die rfl rfl rfl), rfl⟩

end Service

end BifrostRelayer
