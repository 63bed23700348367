import BifrostRelayer.Bootstrap.Protocol

/-!
# No waiter is left behind

Every point of every task is annotated with the states that the chains it depends on can be in
while the task stands there.  The annotation is a finite table, `Role.allows`, because it depends on
a chain only through its state; so is the list of the writes, `Role.write`.  That a write does not
interfere with the other tasks is then a check of the two tables against each other, and it fails at
one place only: the relay handler of the native chain moves it to `NormalStart` while the on-flight
handler still waits for `BootstrapSocketRelay`.

The round-up handler polls the native chain alone but moves all of them.  What makes this right is
`InStep`: the chains pass the second phase of the round-up together.
-/

namespace BifrostRelayer

namespace Bootstrap

open BootstrapState

/-! ### What the tasks rely on -/

/-- The kinds of tasks. -/
inductive Role where
  | eventManager
  | roundupEmitter
  | roundupRelay
  | queuePoller
  | socketRelay
  | onflight
  | blockManager
deriving DecidableEq

instance : Fintype Role :=
  ⟨{.eventManager, .roundupEmitter, .roundupRelay, .queuePoller, .socketRelay, .onflight,
    .blockManager}, by intro r; cases r <;> decide⟩

/-- The states that a chain can be in while a task which depends on it stands at a point. -/
def Role.allows : Role → Pc → BootstrapState → Bool
  | .eventManager, .starting, x => x = nodeSyncing
  | .eventManager, .syncing, x => x = nodeSyncing
  | .eventManager, .flushing, x => x = flushingStalledTransactions
  | .eventManager, .waitAll, x => bootstrapRoundUpPhase1 ≤ x
  | .eventManager, .loop, x => bootstrapRoundUpPhase1 ≤ x
  | .roundupEmitter, .enter, _ => true
  | .roundupEmitter, .waiting, x => x ≤ bootstrapRoundUpPhase1
  | .roundupEmitter, .working, x => x = bootstrapRoundUpPhase1
  | .roundupEmitter, .loop, _ => true
  | .roundupRelay, .enter, x => x ≤ bootstrapRoundUpPhase2 ∨ x = normalStart
  | .roundupRelay, .waiting, x => x ≤ bootstrapRoundUpPhase2
  | .roundupRelay, .working, x => x = bootstrapRoundUpPhase2
  | .roundupRelay, .waitAll, x => bootstrapSocketRelayQueue ≤ x
  | .roundupRelay, .loop, x => x = normalStart
  | .queuePoller, .enter, x => x ≤ bootstrapSocketRelayQueue ∨ x = normalStart
  | .queuePoller, .waiting, x => x ≤ bootstrapSocketRelayQueue
  | .queuePoller, .working, x => x = bootstrapSocketRelayQueue
  | .queuePoller, .waitAll, x => bootstrapSocketRelay ≤ x
  | .queuePoller, .loop, x => x = normalStart
  | .socketRelay, .enter, _ => true
  | .socketRelay, .waiting, x => x ≤ bootstrapSocketRelay
  | .socketRelay, .working, x => x = bootstrapSocketRelay
  | .socketRelay, .waitAll, x => x = normalStart
  | .socketRelay, .loop, x => x = normalStart
  | .onflight, .enter, x => x ≤ bootstrapSocketRelay
  | .onflight, .waiting, x => x ≤ bootstrapSocketRelay
  | .onflight, .working, _ => true
  | .onflight, .loop, _ => true
  | .blockManager, .starting, x => x = nodeSyncing
  | .blockManager, .syncing, x => x = nodeSyncing
  | .blockManager, .enter, x => x = bootstrapSocketRelay ∨ x = normalStart
  | .blockManager, .waiting, x => x = bootstrapSocketRelay
  | .blockManager, .working, x => x = bootstrapSocketRelay
  | .blockManager, .waitAll, x => x = normalStart
  | .blockManager, .loop, x => x = normalStart
  | _, _, _ => false

/-- The write that a task makes when it leaves a point: the states before and after, and where the
task goes on. -/
def Role.write (queueEnabled : Bool) : Role → Pc → Option (BootstrapState × BootstrapState × Pc)
  | .eventManager, .syncing => some (nodeSyncing, flushingStalledTransactions, .flushing)
  | .eventManager, .flushing => some (flushingStalledTransactions, bootstrapRoundUpPhase1, .waitAll)
  | .roundupEmitter, .working => some (bootstrapRoundUpPhase1, bootstrapRoundUpPhase2, .loop)
  | .roundupRelay, .working =>
      some (bootstrapRoundUpPhase2,
        if queueEnabled then bootstrapSocketRelayQueue else bootstrapSocketRelay, .waitAll)
  | .queuePoller, .working => some (bootstrapSocketRelayQueue, bootstrapSocketRelay, .waitAll)
  | .socketRelay, .working => some (bootstrapSocketRelay, normalStart, .waitAll)
  | .blockManager, .syncing => some (nodeSyncing, bootstrapSocketRelay, .enter)
  | .blockManager, .working => some (bootstrapSocketRelay, normalStart, .waitAll)
  | _, _ => none

/-- The lap of the round-up that a state belongs to: before, in, or after its second phase. -/
def BootstrapState.lap (x : BootstrapState) : ℕ :=
  if x ≤ bootstrapRoundUpPhase1 then 0 else if x ≤ bootstrapRoundUpPhase2 then 1 else 2

/-- The second lap is the second phase. -/
lemma lap_eq_one {z : BootstrapState} : z.lap = 1 ↔ z = bootstrapRoundUpPhase2 := by
  cases z <;> decide

/-- The first two laps end with the second phase. -/
lemma lap_le_one {z : BootstrapState} : z.lap ≤ 1 ↔ z ≤ bootstrapRoundUpPhase2 := by
  cases z <;> decide

namespace Role

-- The proofs below all use the equations of the two tables.
attribute [local simp] write allows

variable {queueEnabled : Bool} {r r' : Role} {p p' q : Pc} {x y z : BootstrapState}

/-- Before a write the chains are in the state that it expects. -/
lemma eq_of_write (hw : r.write queueEnabled p = some (x, y, p')) (h : r.allows p z = true) :
    z = x := by
  cases r <;> cases p <;>
    simp only [Role.write, Option.some.injEq, Prod.mk.injEq, reduceCtorEq] at hw <;>
    obtain ⟨rfl, -, -⟩ := hw <;> exact of_decide_eq_true h

/-- A write establishes what its own role relies on next. -/
lemma allows_write_self (hw : r.write queueEnabled p = some (x, y, p')) :
    r.allows p' y = true := by
  cases r <;> cases p <;>
    simp only [Role.write, Option.some.injEq, Prod.mk.injEq, reduceCtorEq] at hw <;>
    obtain ⟨-, rfl, rfl⟩ := hw <;> revert queueEnabled <;> decide

/-- A write keeps what the other roles rely on, except for the on-flight handler before its work. -/
lemma allows_write_other (hw : r.write queueEnabled p = some (x, y, p')) (hr : r' ≠ r)
    (hb : r' = .blockManager ↔ r = .blockManager)
    (hqueue : queueEnabled = false → r' ≠ .queuePoller)
    (hflight : r = .socketRelay → r' = .onflight → q ≠ .enter ∧ q ≠ .waiting)
    (h : r'.allows q x = true) : r'.allows q y = true := by
  cases r <;> cases p <;>
    simp only [Role.write, Option.some.injEq, Prod.mk.injEq, reduceCtorEq] at hw <;>
    obtain ⟨rfl, rfl, -⟩ := hw <;> revert r' q queueEnabled <;> decide

/-- Only the writes of the round-up tasks, which move all chains at once, change the lap. -/
lemma lap_write (hw : r.write queueEnabled p = some (x, y, p'))
    (hr : r ≠ .roundupEmitter ∧ r ≠ .roundupRelay ∧ r ≠ .blockManager) : y.lap = x.lap := by
  cases r <;> cases p <;>
    simp only [Role.write, Option.some.injEq, Prod.mk.injEq, reduceCtorEq] at hw <;>
    obtain ⟨rfl, rfl, -⟩ := hw <;> simp at hr <;> decide

/-- The node is still syncing when its sync starts. -/
lemma allows_syncing (h : r.allows .starting z = true) : r.allows .syncing z = true := by
  revert r z
  decide

/-- The check of a task with one chain leads to a wait that is not too late. -/
lemma allows_checked (hr : r = .queuePoller ∨ r = .socketRelay ∨ r = .blockManager)
    (h : r.allows .enter z = true) :
    r.allows (if decide (z < normalStart) then .waiting else .waitAll) z = true := by
  revert r z
  decide

/-- All points after the wait for all chains allow the last state. -/
lemma allows_loop (h : r.allows .waitAll z = true) : r.allows .loop normalStart = true := by
  revert r z
  decide

/-- A task that fails at its work may start again. -/
lemma allows_failed (hr : r ≠ .onflight) (h : r.allows .working z = true) :
    r.allows .enter z = true := by
  revert r z
  decide

/-- A task whose main loop has ended may start again. -/
lemma allows_called (hr : r ≠ .onflight) (h : r.allows .loop z = true) :
    r.allows (if r = .eventManager then .waitAll else .enter) z = true := by
  revert r z
  decide

end Role

/-! ### The assertions -/

variable {κ : Type}

/-- The kind of a task. -/
def Task.role : Task κ → Role
  | .eventManager _ => .eventManager
  | .roundupEmitter => .roundupEmitter
  | .roundupRelay => .roundupRelay
  | .queuePoller _ => .queuePoller
  | .socketRelay _ => .socketRelay
  | .onflight => .onflight
  | .blockManager => .blockManager

/-- The chains that a task depends on in its bootstrap. -/
def Task.watches (cfg : BootstrapConfig κ) : Task κ → Chain κ → Prop
  | .eventManager c, chain => chain = .evm c
  | .roundupEmitter, chain => chain ≠ .bitcoin
  | .roundupRelay, chain => chain ≠ .bitcoin
  | .queuePoller c, chain => chain = .evm c
  | .socketRelay c, chain => chain = .evm c
  | .onflight, chain => chain = .evm cfg.bifrost
  | .blockManager, chain => chain = .bitcoin

/-- The assertion at a point of a task.  A task that is not spawned never moves. -/
def assertion (cfg : BootstrapConfig κ) (t : Task κ) (p : Pc) (b : Board κ) : Prop :=
  if t.isSpawned cfg then ∀ chain, t.watches cfg chain → t.role.allows p (b.state chain) = true
  else p = .enter

/-- All chains but bitcoin are in the same lap. -/
def InStep (b : Board κ) : Prop :=
  ∀ c d, (b.evm c).lap = (b.evm d).lap

/-- The chains that the task depends on move from `x` to `y`, and the others stay. -/
def Advances (cfg : BootstrapConfig κ) (t : Task κ) (x y : BootstrapState) (b b' : Board κ) :
    Prop :=
  (∀ chain, t.watches cfg chain → b.state chain = x ∧ b'.state chain = y) ∧
    ∀ chain, ¬t.watches cfg chain → b'.state chain = b.state chain

variable {cfg : BootstrapConfig κ} {t u : Task κ} {b b' : Board κ} {p p' q : Pc}
  {x y : BootstrapState}

/-- Two tasks of one kind that depend on the same chain are the same. -/
lemma Task.eq_of_watches {chain : Chain κ} (ht : t.watches cfg chain) (hu : u.watches cfg chain)
    (hrole : u.role = t.role) : u = t := by
  cases t <;> cases u <;> simp_all [Task.watches, Task.role]

/-- The tasks that depend on bitcoin depend on no other chain. -/
lemma Task.role_eq_blockManager_iff {chain : Chain κ} (ht : t.watches cfg chain)
    (hu : u.watches cfg chain) : u.role = .blockManager ↔ t.role = .blockManager := by
  cases t <;> cases u <;> simp_all [Task.watches, Task.role]

/-- The start of `run` in terms of the kind of a task. -/
lemma Task.runStart_eq (t : Task κ) :
    t.runStart = if t.role = .eventManager then .waitAll else .enter := by
  cases t <;> rfl

/-- The assertion of a task that is spawned. -/
lemma assertion_spawned (hspawned : t.isSpawned cfg = true) :
    assertion cfg t p b ↔
      ∀ chain, t.watches cfg chain → t.role.allows p (b.state chain) = true := by
  simp [assertion, hspawned]

/-! ### Writes -/

/-- Setting all chains but bitcoin advances a task that depends on these. -/
lemma advances_all (ht : ∀ chain, t.watches cfg chain ↔ chain ≠ .bitcoin)
    (hx : ∀ chain, t.watches cfg chain → b.state chain = x) :
    Advances cfg t x y b { b with evm := fun _ => y } := by
  constructor
  · intro chain hc
    refine ⟨hx chain hc, ?_⟩
    cases chain with
    | bitcoin => exact absurd rfl ((ht _).1 hc)
    | evm d => rfl
  · intro chain hc
    cases chain with
    | bitcoin => rfl
    | evm d => exact absurd ((ht _).2 (by simp)) hc

/-- Setting bitcoin advances a task that depends on it. -/
lemma advances_bitcoin (ht : ∀ chain, t.watches cfg chain ↔ chain = .bitcoin)
    (hx : ∀ chain, t.watches cfg chain → b.state chain = x) :
    Advances cfg t x y b { b with bitcoin := y } := by
  constructor
  · intro chain hc
    refine ⟨hx chain hc, ?_⟩
    obtain rfl := (ht chain).1 hc
    rfl
  · intro chain hc
    cases chain with
    | bitcoin => exact absurd ((ht _).2 rfl) hc
    | evm d => rfl

/-- Setting one chain advances a task that depends on this chain only. -/
lemma advances_update [DecidableEq κ] {c : κ} (ht : ∀ chain, t.watches cfg chain ↔ chain = .evm c)
    (hx : ∀ chain, t.watches cfg chain → b.state chain = x) :
    Advances cfg t x y b { b with evm := Function.update b.evm c y } := by
  constructor
  · intro chain hc
    refine ⟨hx chain hc, ?_⟩
    obtain rfl := (ht chain).1 hc
    simp [Board.state]
  · intro chain hc
    cases chain with
    | bitcoin => rfl
    | evm d =>
      have hd : d ≠ c := fun h => hc ((ht _).2 (h ▸ rfl))
      simp [Board.state, hd]

/-- A write establishes the assertion of the task that makes it. -/
lemma assertion_write_self (hspawned : t.isSpawned cfg = true) (hadv : Advances cfg t x y b b')
    (hw : t.role.write cfg.queueEnabled p = some (x, y, p')) : assertion cfg t p' b' := by
  rw [assertion_spawned hspawned]
  intro chain ht
  rw [(hadv.1 chain ht).2]
  exact Role.allows_write_self hw

/-- A write does not interfere with the other tasks, unless it moves the native chain to
`NormalStart` before the on-flight handler has made its poll. -/
lemma assertion_write_other (hadv : Advances cfg t x y b b')
    (hw : t.role.write cfg.queueEnabled p = some (x, y, p'))
    (hflight : t = .socketRelay cfg.bifrost → u = .onflight → u.isSpawned cfg = true →
      q ≠ .enter ∧ q ≠ .waiting)
    (hne : u ≠ t) (h : assertion cfg u q b) : assertion cfg u q b' := by
  by_cases hspawned : u.isSpawned cfg = true
  · rw [assertion_spawned hspawned] at h ⊢
    intro chain hu
    by_cases ht : t.watches cfg chain
    · obtain ⟨hx, hy⟩ := hadv.1 chain ht
      rw [hy]
      refine Role.allows_write_other hw ?_ ?_ ?_ ?_ (hx ▸ h chain hu)
      · exact fun hr => hne (Task.eq_of_watches ht hu hr)
      · exact Task.role_eq_blockManager_iff ht hu
      · intro hq
        cases u <;> simp_all [Task.isSpawned, Task.role]
      · intro htr hur
        cases t <;> cases u <;> simp_all [Task.role, Task.watches, Task.isSpawned]
    · rw [hadv.2 chain ht]
      exact h chain hu
  · simpa [assertion, hspawned] using h

/-- The chains stay in step. -/
lemma InStep.advances (h : InStep b) (hadv : Advances cfg t x y b b')
    (hw : t.role.write cfg.queueEnabled p = some (x, y, p')) : InStep b' := by
  by_cases hall : t.role = .roundupEmitter ∨ t.role = .roundupRelay
  · have hwatch : ∀ c, t.watches cfg (.evm c) := by
      cases t <;> simp_all [Task.role, Task.watches]
    have hy : ∀ c, b'.evm c = y := fun c => (hadv.1 (.evm c) (hwatch c)).2
    intro c d
    rw [hy c, hy d]
  · have hkeep : ∀ c, (b'.evm c).lap = (b.evm c).lap := by
      intro c
      by_cases ht : t.watches cfg (.evm c)
      · have hr : t.role ≠ .blockManager := by cases t <;> simp_all [Task.role, Task.watches]
        obtain ⟨hx, hy⟩ := hadv.1 _ ht
        simp only [Board.state] at hx hy
        rw [hx, hy]
        exact Role.lap_write hw ⟨fun hr => hall (.inl hr), fun hr => hall (.inr hr), hr⟩
      · exact congrArg BootstrapState.lap (hadv.2 _ ht)
    intro c d
    rw [hkeep c, hkeep d]
    exact h c d

/-- A step leaves the states alone or makes the write of the table. -/
lemma taskStep_write [DecidableEq κ] [Fintype κ] {ok : Bool} (hspawned : t.isSpawned cfg = true)
    (h : assertion cfg t p b) (hstep : taskStep cfg b t p ok = some (b', p')) :
    (b' = b ∧ (ok = true → t.role.write cfg.queueEnabled p = none)) ∨
      ok = true ∧ ∃ x y, t.role.write cfg.queueEnabled p = some (x, y, p') ∧
        Advances cfg t x y b b' := by
  rw [assertion_spawned hspawned] at h
  have hx {x y : BootstrapState} {p' : Pc}
      (hw : t.role.write cfg.queueEnabled p = some (x, y, p')) :
      ∀ chain, t.watches cfg chain → b.state chain = x :=
    fun chain hc => Role.eq_of_write hw (h chain hc)
  cases ok with
  | false => exact .inl (by simp_all [taskStep])
  | true =>
    cases p with
    | syncing =>
      refine .inr ⟨rfl, ?_⟩
      cases t with
      | eventManager c =>
        obtain ⟨rfl, rfl⟩ : _ = b' ∧ _ = p' := by simpa [taskStep, synced] using hstep
        exact ⟨_, _, rfl, advances_update (fun _ => Iff.rfl) (hx rfl)⟩
      | blockManager =>
        obtain ⟨rfl, rfl⟩ : _ = b' ∧ _ = p' := by simpa [taskStep, synced] using hstep
        exact ⟨_, _, rfl, advances_bitcoin (fun _ => Iff.rfl) (hx rfl)⟩
      | _ => simp [taskStep, synced] at hstep
    | flushing =>
      refine .inr ⟨rfl, ?_⟩
      cases t with
      | eventManager c =>
        obtain ⟨rfl, rfl⟩ : _ = b' ∧ _ = p' := by simpa [taskStep, flushed] using hstep
        exact ⟨_, _, rfl, advances_update (fun _ => Iff.rfl) (hx rfl)⟩
      | _ => simp [taskStep, flushed] at hstep
    | working =>
      obtain ⟨rfl, rfl⟩ : finish cfg b t = b' ∧ t.afterBootstrap = p' := by
        simpa [taskStep] using hstep
      cases t with
      | eventManager c => exact .inl ⟨rfl, fun _ => rfl⟩
      | onflight => exact .inl ⟨rfl, fun _ => rfl⟩
      | roundupEmitter =>
        exact .inr ⟨rfl, _, _, rfl, advances_all (fun _ => Iff.rfl) (hx rfl)⟩
      | roundupRelay =>
        exact .inr ⟨rfl, _, _, rfl, advances_all (fun _ => Iff.rfl) (hx rfl)⟩
      | queuePoller c =>
        exact .inr ⟨rfl, _, _, rfl, advances_update (fun _ => Iff.rfl) (hx rfl)⟩
      | socketRelay c =>
        exact .inr ⟨rfl, _, _, rfl, advances_update (fun _ => Iff.rfl) (hx rfl)⟩
      | blockManager =>
        exact .inr ⟨rfl, _, _, rfl, advances_bitcoin (fun _ => Iff.rfl) (hx rfl)⟩
    | waiting => exact .inl ⟨by simp_all [taskStep], fun _ => by cases t <;> rfl⟩
    | waitAll => exact .inl ⟨by simp_all [taskStep], fun _ => by cases t <;> rfl⟩
    | _ => exact .inl ⟨by simp_all [taskStep], fun _ => by cases t <;> rfl⟩

/-! ### Reads -/

/-- `bootstrap_0` starts with the sync of the node. -/
lemma assertion_started (hspawned : t.isSpawned cfg = true) (h : assertion cfg t .starting b) :
    assertion cfg t (if shouldBootstrap cfg b t then .syncing else t.runStart) b := by
  rw [assertion_spawned hspawned] at h ⊢
  intro chain hc
  have hz := h chain hc
  cases t with
  | eventManager c =>
    obtain rfl := hc
    have hx : b.evm c = nodeSyncing := of_decide_eq_true hz
    have hb : shouldBootstrap cfg b (.eventManager c) = true := by
      rw [shouldBootstrap, hx]
      decide
    rw [if_pos hb]
    exact Role.allows_syncing hz
  | blockManager =>
    obtain rfl := hc
    have hx : b.bitcoin = nodeSyncing := of_decide_eq_true hz
    have hb : shouldBootstrap cfg b .blockManager = true := by
      rw [shouldBootstrap, hx]
      decide
    rw [if_pos hb]
    exact Role.allows_syncing hz
  | _ => simp [Task.role, Role.allows] at hz

/-- The check at the start of `run`, for the round-up emitter under a condition. -/
lemma assertion_checked (hspawned : t.isSpawned cfg = true) (hin : InStep b)
    (h : assertion cfg t .enter b)
    (hemit : t = .roundupEmitter → b.evm cfg.bifrost = normalStart ∨
      ∀ c, b.evm c ≤ bootstrapRoundUpPhase1) :
    assertion cfg t (if shouldBootstrap cfg b t then .waiting else t.afterBootstrap) b := by
  rw [assertion_spawned hspawned] at h ⊢
  intro chain hc
  have hz := h chain hc
  cases t with
  | eventManager c => simp [Task.role, Role.allows] at hz
  | roundupEmitter =>
    cases chain with
    | bitcoin => exact absurd rfl hc
    | evm c =>
      rcases hemit rfl with hb | hall
      · simp [shouldBootstrap, hb, Task.afterBootstrap, Task.role, Role.allows]
      · have hb : b.evm cfg.bifrost < normalStart := (hall _).trans_lt (by decide)
        simpa [shouldBootstrap, hb, Task.role, Role.allows, Board.state] using hall c
  | roundupRelay =>
    cases chain with
    | bitcoin => exact absurd rfl hc
    | evm c =>
      have hb := h (.evm cfg.bifrost) (by simp [Task.watches])
      have hlap := hin c cfg.bifrost
      simp only [Task.role, Role.allows, Board.state, decide_eq_true_eq] at hz hb
      -- the chains are in step, so the native chain decides for all of them
      rcases hb with hb | hb
      · have hlt : b.evm cfg.bifrost < normalStart := hb.trans_lt (by decide)
        have hle : b.evm c ≤ bootstrapRoundUpPhase2 := by
          rw [← lap_le_one, hlap, lap_le_one]
          exact hb
        simpa [shouldBootstrap, hlt, Task.role, Role.allows, Board.state] using hle
      · have hgt : bootstrapSocketRelayQueue ≤ b.evm c := by
          rw [hb] at hlap
          rcases hz with hz | hz
          · exact absurd (lap_le_one.2 hz) (by rw [hlap]; decide)
          · rw [hz]
            decide
        simpa [shouldBootstrap, hb, Task.role, Task.afterBootstrap, Role.allows, Board.state]
          using hgt
  | onflight => exact hz
  | queuePoller c | socketRelay c | blockManager =>
    obtain rfl := hc
    exact Role.allows_checked (by simp [Task.role]) hz

/-- A poll that succeeds.  The round-up handler learns about all chains from the native one. -/
lemma assertion_ready [Fintype κ] (hspawned : t.isSpawned cfg = true) (hin : InStep b)
    (h : assertion cfg t .waiting b) (hready : isReady cfg b t = true) :
    assertion cfg t .working b := by
  rw [assertion_spawned hspawned] at h ⊢
  intro chain hc
  have hz := h chain hc
  cases t with
  | eventManager c => simp [isReady] at hready
  | roundupEmitter =>
    cases chain with
    | bitcoin => exact absurd rfl hc
    | evm c =>
      have hall : ∀ c, b.evm c = bootstrapRoundUpPhase1 := by simpa [isReady] using hready
      simpa [Task.role, Role.allows, Board.state] using hall c
  | roundupRelay =>
    cases chain with
    | bitcoin => exact absurd rfl hc
    | evm c =>
      have hb : b.evm cfg.bifrost = bootstrapRoundUpPhase2 := by simpa [isReady] using hready
      have hone : (b.evm c).lap = 1 := by rw [hin c cfg.bifrost, lap_eq_one, hb]
      simpa [Task.role, Role.allows, Board.state] using lap_eq_one.1 hone
  | onflight => rfl
  | queuePoller c | socketRelay c | blockManager =>
    obtain rfl := hc
    exact hready

/-- The end of the wait for all chains. -/
lemma assertion_loop [Fintype κ] (hspawned : t.isSpawned cfg = true)
    (h : assertion cfg t .waitAll b) (hall : allBootstrapped b = true) :
    assertion cfg t .loop b := by
  rw [assertion_spawned hspawned] at h ⊢
  intro chain hc
  have hnormal : b.state chain = normalStart := by
    cases chain <;> simp_all [allBootstrapped, Board.state]
  rw [hnormal]
  exact Role.allows_loop (h chain hc)

/-- `run` is called again after its main loop has ended, for the on-flight handler under a
condition. -/
lemma assertion_called (hspawned : t.isSpawned cfg = true) (h : assertion cfg t .loop b)
    (hflight : t = .onflight → b.evm cfg.bifrost ≠ normalStart) :
    assertion cfg t t.runStart b := by
  rw [assertion_spawned hspawned] at h ⊢
  intro chain hc
  by_cases ht : t = .onflight
  · subst ht
    obtain rfl := hc
    have hle : b.evm cfg.bifrost ≤ bootstrapSocketRelay := le_bootstrapSocketRelay.2 (hflight rfl)
    simpa [Task.role, Task.runStart, Role.allows, Board.state] using hle
  · have hr : t.role ≠ .onflight := by cases t <;> simp_all [Task.role]
    rw [Task.runStart_eq]
    exact Role.allows_called hr (h chain hc)

/-- `run` is called again after an error in its bootstrap. -/
lemma assertion_failed (hspawned : t.isSpawned cfg = true) (h : assertion cfg t p b)
    (hfail : t.mayFail p = true) : assertion cfg t t.runStart b := by
  rw [assertion_spawned hspawned] at h ⊢
  intro chain hc
  have hz := h chain hc
  cases t <;> cases p <;> simp [Task.mayFail] at hfail
  case eventManager => simp [Task.role, Role.allows] at hz
  case roundupEmitter.enter => exact hz
  all_goals exact Role.allows_failed (by simp [Task.role]) hz

/-- A step that leaves the states alone establishes the assertion of its task. -/
lemma assertion_read [DecidableEq κ] [Fintype κ] {ok : Bool} (hspawned : t.isSpawned cfg = true)
    (hin : InStep b) (h : assertion cfg t p b) (hstep : taskStep cfg b t p ok = some (b, p'))
    (hread : ok = true → t.role.write cfg.queueEnabled p = none)
    (hemit : (t, ok) = (.roundupEmitter, true) → p = .enter →
      b.evm cfg.bifrost = normalStart ∨ ∀ c, b.evm c ≤ bootstrapRoundUpPhase1)
    (hflight : (t, ok) = (.onflight, true) → p = .loop → b.evm cfg.bifrost ≠ normalStart) :
    assertion cfg t p' b := by
  cases ok with
  | false =>
    obtain ⟨hfail, rfl⟩ : t.mayFail p = true ∧ t.runStart = p' := by
      simpa [taskStep] using hstep
    exact assertion_failed hspawned h hfail
  | true =>
    cases p with
    | starting =>
      obtain rfl : _ = p' := by simpa [taskStep] using hstep
      exact assertion_started hspawned h
    | syncing => cases t <;> simp_all [taskStep, synced, Task.role, Role.write]
    | flushing => cases t <;> simp_all [taskStep, flushed, Task.role, Role.write]
    | enter =>
      obtain rfl : _ = p' := by simpa [taskStep] using hstep
      exact assertion_checked hspawned hin h fun ht => hemit (by rw [ht]) rfl
    | waiting =>
      obtain ⟨hready, rfl⟩ : isReady cfg b t = true ∧ Pc.working = p' := by
        simpa [taskStep] using hstep
      exact assertion_ready hspawned hin h hready
    | working =>
      obtain ⟨-, rfl⟩ : finish cfg b t = b ∧ t.afterBootstrap = p' := by
        simpa [taskStep] using hstep
      cases t <;> simp [Task.role, Role.write] at hread
      case eventManager c =>
        have hz := (assertion_spawned hspawned).1 h (.evm c) rfl
        simp [Task.role, Role.allows] at hz
      case onflight =>
        simp [assertion_spawned hspawned, Task.role, Task.afterBootstrap, Role.allows]
    | waitAll =>
      obtain ⟨hall, rfl⟩ : allBootstrapped b = true ∧ Pc.loop = p' := by
        simpa [taskStep] using hstep
      exact assertion_loop hspawned h hall
    | loop =>
      obtain rfl : _ = p' := by simpa [taskStep] using hstep
      exact assertion_called hspawned h fun ht => hflight (by rw [ht]) rfl

/-! ### Runs -/

/-- The invariant of the protocol. -/
def Invariant (cfg : BootstrapConfig κ) (s : State κ) : Prop :=
  InStep s.shared ∧ s.Asserts (assertion cfg)

/-- The invariant holds at the start. -/
lemma invariant_initial (cfg : BootstrapConfig κ) : Invariant cfg initial := by
  refine ⟨fun _ _ => rfl, ?_⟩
  intro t
  by_cases hspawned : t.isSpawned cfg = true
  · rw [assertion_spawned hspawned]
    intro chain _
    cases t <;> cases chain <;> rfl
  · cases t <;> simp_all [assertion, Task.isSpawned, initial]

/-- A task that waits has not been passed by the chain it waits for. -/
lemma Invariant.noWaiterLeftBehind {s : State κ} (h : Invariant cfg s) :
    NoWaiterLeftBehind cfg s := by
  intro t chain target hwait
  have hspawned : t.isSpawned cfg = true := by
    by_contra hno
    have hp : s.pc t = .enter := by simpa [assertion, hno] using h.2 t
    simp [WaitsFor, hp] at hwait
  have hallows := (assertion_spawned hspawned).1 (h.2 t)
  cases hp : s.pc t <;> simp only [WaitsFor, hp] at hwait
  case waitAll =>
    subst hwait
    exact le_normalStart _
  case waiting =>
    rw [hp] at hallows
    cases t with
    | eventManager c => exact hwait.elim
    | roundupEmitter =>
      obtain ⟨⟨c, rfl⟩, rfl⟩ := hwait
      exact of_decide_eq_true (hallows (.evm c) (by simp [Task.watches]))
    | roundupRelay =>
      obtain ⟨rfl, rfl⟩ := hwait
      exact of_decide_eq_true (hallows (.evm cfg.bifrost) (by simp [Task.watches]))
    | queuePoller c | socketRelay c | onflight =>
      obtain ⟨rfl, rfl⟩ := hwait
      exact of_decide_eq_true (hallows _ rfl)
    | blockManager =>
      obtain ⟨rfl, rfl⟩ := hwait
      exact (of_decide_eq_true (hallows _ rfl)).le

variable [DecidableEq κ] [Fintype κ]

/-- What a step of the system does. -/
lemma act_eq_some {s s' : State κ} {ok : Bool} (h : act cfg s t ok = some s') :
    t.isSpawned cfg = true ∧ ∃ b' p', taskStep cfg s.shared t (s.pc t) ok = some (b', p') ∧
      s' = s.move t b' p' := by
  by_cases hspawned : t.isSpawned cfg = true
  · simp only [act, hspawned, if_true, Option.map_eq_some_iff] at h
    obtain ⟨r, hr, rfl⟩ := h
    exact ⟨hspawned, r.1, r.2, hr, rfl⟩
  · simp [act, hspawned] at h

/-- A permitted step keeps the invariant. -/
lemma Invariant.step {s s' : State κ} {a : Task κ × Bool} (h : Invariant cfg s)
    (hperm : Permitted cfg s a) (hact : act cfg s a.1 a.2 = some s') : Invariant cfg s' := by
  obtain ⟨t, ok⟩ := a
  obtain ⟨hin, hasserts⟩ := h
  obtain ⟨hfirst, hflight, hemit⟩ := hperm
  obtain ⟨hspawned, b', p', hstep, rfl⟩ := act_eq_some hact
  rcases taskStep_write hspawned (hasserts t) hstep with ⟨rfl, hread⟩ | ⟨rfl, x, y, hw, hadv⟩
  · refine ⟨hin, hasserts.goto ?_⟩
    refine assertion_read hspawned hin (hasserts t) hstep hread ?_ ?_
    · rintro ht hp
      obtain ⟨rfl, rfl⟩ := Prod.mk.inj ht
      exact hemit rfl hp
    · rintro ht hp
      obtain ⟨rfl, rfl⟩ := Prod.mk.inj ht
      exact hflight rfl hp
  · refine ⟨hin.advances hadv hw, hasserts.move (assertion_write_self hspawned hadv hw) ?_⟩
    intro u hne hu
    refine assertion_write_other hadv hw ?_ hne hu
    rintro rfl rfl hflying
    have hp : s.pc (.socketRelay cfg.bifrost) = .working := by
      cases hpc : s.pc (.socketRelay cfg.bifrost) <;> simp_all [Task.role, Role.write]
    exact hfirst rfl hp hflying

/-- The on-flight handler is left behind once it is before its poll and the native chain has
finished. -/
lemma onflight_waits {s : State κ} (hspawned : Task.isSpawned cfg .onflight = true)
    (hnormal : s.shared.evm cfg.bifrost = normalStart)
    (hp : s.pc .onflight = .enter ∨ s.pc .onflight = .waiting) :
    ¬NoWaiterLeftBehind cfg s ∨
      ∃ s', act cfg s .onflight true = some s' ∧ ¬NoWaiterLeftBehind cfg s' := by
  have hleft : ∀ s' : State κ, s'.shared = s.shared → s'.pc .onflight = .waiting →
      ¬NoWaiterLeftBehind cfg s' := by
    intro s' hshared hwait hno
    have hle := hno .onflight (.evm cfg.bifrost) bootstrapSocketRelay (by simp [WaitsFor, hwait])
    rw [hshared, Board.state, hnormal] at hle
    exact absurd hle (by decide)
  rcases hp with hp | hp
  · refine .inr ⟨s.move .onflight s.shared .waiting, ?_, hleft _ rfl ?_⟩
    · simp [act, hspawned, taskStep, hp, shouldBootstrap]
    · simp [Interleaved.move]
  · exact .inl (hleft s rfl hp)

/-- The condition is exact: a step that is not permitted leaves a waiter behind, at once or with the
next step of the on-flight handler. -/
theorem left_behind_of_not_permitted {s s' : State κ} {a : Task κ × Bool}
    (hact : act cfg s a.1 a.2 = some s') (hperm : ¬Permitted cfg s a) :
    ¬NoWaiterLeftBehind cfg s' ∨
      ∃ s'', act cfg s' .onflight true = some s'' ∧ ¬NoWaiterLeftBehind cfg s'' := by
  obtain ⟨t, ok⟩ := a
  obtain ⟨hspawned, b', p', hstep, rfl⟩ := act_eq_some hact
  by_cases hfirst : (t, ok) = (.socketRelay cfg.bifrost, true) ∧
      s.pc (.socketRelay cfg.bifrost) = .working ∧ Task.isSpawned cfg .onflight = true ∧
      (s.pc .onflight = .enter ∨ s.pc .onflight = .waiting)
  · obtain ⟨ht, hp, hflying, hflight⟩ := hfirst
    obtain ⟨rfl, rfl⟩ := Prod.mk.inj ht
    obtain ⟨rfl, rfl⟩ : _ = b' ∧ _ = p' := by simpa [taskStep, hp, finish] using hstep
    exact onflight_waits hflying (by simp [Interleaved.move])
      (by simpa [Interleaved.move] using hflight)
  by_cases hcalled : (t, ok) = (.onflight, true) ∧ s.pc .onflight = .loop ∧
      s.shared.evm cfg.bifrost = normalStart
  · obtain ⟨ht, hp, hnormal⟩ := hcalled
    obtain ⟨rfl, rfl⟩ := Prod.mk.inj ht
    obtain ⟨rfl, rfl⟩ : _ = b' ∧ _ = p' := by simpa [taskStep, hp] using hstep
    exact onflight_waits hspawned (by simpa [Interleaved.move] using hnormal)
      (.inl (by simp [Interleaved.move, Task.runStart]))
  · have hcheck : (t, ok) = (.roundupEmitter, true) ∧ s.pc .roundupEmitter = .enter ∧
        s.shared.evm cfg.bifrost ≠ normalStart ∧
        ∃ c, ¬s.shared.evm c ≤ bootstrapRoundUpPhase1 := by
      by_contra hno
      apply hperm
      refine ⟨?_, ?_, ?_⟩
      · grind
      · grind
      · grind
    obtain ⟨ht, hp, hnormal, c, hc⟩ := hcheck
    obtain ⟨rfl, rfl⟩ := Prod.mk.inj ht
    have hlt : s.shared.evm cfg.bifrost < normalStart :=
      (le_normalStart _).lt_of_ne hnormal
    obtain ⟨rfl, rfl⟩ : _ = b' ∧ _ = p' := by
      simpa [taskStep, hp, shouldBootstrap, hlt] using hstep
    refine .inl fun hno => hc ?_
    exact hno .roundupEmitter (.evm c) bootstrapRoundUpPhase1 (by simp [WaitsFor, Interleaved.move])

/-- In every run all of whose steps are permitted, no task ever waits for a state that its chain has
left. -/
theorem no_waiter_left_behind (cfg : BootstrapConfig κ) {tr : List (Task κ × Bool)} {s : State κ}
    (h : ((bootstrapSystem cfg).restrict (Permitted cfg)).Run tr s) :
    NoWaiterLeftBehind cfg s := by
  have hinv : Invariant cfg s := by
    refine h.invariant (P := Invariant cfg) ?_ ?_
    · rintro s rfl
      exact invariant_initial cfg
    · rintro s a s' hs ⟨hact, hperm⟩
      exact hs.step hperm hact
  exact hinv.noWaiterLeftBehind

/-! ### One native chain -/

/-- The native chain alone, with the queue. -/
def sampleConfig : BootstrapConfig Unit := ⟨(), true, fun _ => true, true⟩

/-- The steps of a bootstrap up to the work of the relay handler. -/
def sampleSteps : List (Task Unit × Bool) :=
  [(.onflight, true),
    (.eventManager (), true), (.eventManager (), true), (.eventManager (), true),
    (.roundupEmitter, true), (.roundupEmitter, true), (.roundupEmitter, true),
    (.roundupRelay, true), (.roundupRelay, true), (.roundupRelay, true),
    (.queuePoller (), true), (.queuePoller (), true), (.queuePoller (), true),
    (.socketRelay (), true), (.socketRelay (), true)]

instance (s : State Unit) (a : Task Unit × Bool) : Decidable (Permitted sampleConfig s a) := by
  unfold Permitted
  infer_instance

/-- The on-flight handler polls before the relay handler finishes, and both go on. -/
theorem no_waiter_left_behind_polled :
    ∃ tr s, ((bootstrapSystem sampleConfig).restrict (Permitted sampleConfig)).Run tr s ∧
      s.shared.evm () = .normalStart ∧ s.pc .onflight = .loop ∧
      NoWaiterLeftBehind sampleConfig s := by
  have hrun := LabelledSystem.exists_run_of_foldlM
    (S := (bootstrapSystem sampleConfig).restrict (Permitted sampleConfig))
    (f := fun s a => if Permitted sampleConfig s a then act sampleConfig s a.1 a.2 else none)
    (by rfl) (by intro s a s' h; split at h <;> simp_all [bootstrapSystem, LabelledSystem.restrict])
    (sampleSteps ++ [(.onflight, true), (.onflight, true), (.socketRelay (), true)])
    (fun s => s.shared.evm () = .normalStart ∧ s.pc .onflight = .loop) (by decide)
  obtain ⟨s, hrun, hs⟩ := hrun
  have hs := of_decide_eq_true hs
  exact ⟨_, s, hrun, hs.1, hs.2, no_waiter_left_behind sampleConfig hrun⟩

/-- The relay handler finishes between two polls of the on-flight handler, which then waits for a
state that the chain has left. -/
theorem onflight_left_behind :
    ∃ tr s, (bootstrapSystem sampleConfig).Run tr s ∧ ¬NoWaiterLeftBehind sampleConfig s := by
  have hrun := LabelledSystem.exists_run_of_foldlM (S := bootstrapSystem sampleConfig)
    (f := fun s a => act sampleConfig s a.1 a.2) rfl (fun _ _ _ h => h)
    (sampleSteps ++ [(.socketRelay (), true)])
    (fun s => s.shared.evm () = .normalStart ∧ s.pc .onflight = .waiting) (by decide)
  obtain ⟨s, hrun, hs⟩ := hrun
  obtain ⟨hnormal, hwait⟩ := of_decide_eq_true hs
  refine ⟨_, s, hrun, fun hno => ?_⟩
  have hle := hno .onflight (.evm ()) .bootstrapSocketRelay
    (by simp [WaitsFor, hwait, sampleConfig])
  rw [Board.state, hnormal] at hle
  exact absurd hle (by decide)

end Bootstrap

end BifrostRelayer
