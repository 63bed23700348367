import BifrostRelayer.Bootstrap.Waiters

/-!
# The phases of the bootstrap

What a chain is allowed to do depends on its bootstrap state, so the states have to move in one
direction only, and the main loops have to stay closed until the last state.  Here all runs of the
bootstrap count, also those in which a waiter is left behind.

Not every assertion of `Waiters` survives in such runs.  The on-flight handler and the round-up
emitter can be late; but the on-flight handler makes no write, and the round-up emitter makes one
only after a poll that has seen all chains in its phase.  `Relied` keeps the assertions that hold in
every run, and they are enough for all writes.

The two Bitcoin handlers take no part in the bootstrap.  They wait for its end before they read
their channel, so they are added to the system here.
-/

namespace BifrostRelayer

namespace Bootstrap

open BootstrapState

/-! ### The system -/

/-- The handlers of Bitcoin events. -/
inductive BitcoinHandler where
  | inbound
  | outbound
deriving DecidableEq

/-- The tasks of the bootstrap and where the Bitcoin handlers stand. -/
structure Phases (κ : Type) where
  tasks : State κ
  handlers : BitcoinHandler → Pc

/-- The steps, with the point at which a task makes its step. -/
inductive PhaseStep (κ : Type) where
  | task (t : Task κ) (p : Pc) (ok : Bool)
  | handler (h : BitcoinHandler)
deriving DecidableEq

/-- The step of a task that ends its `bootstrap` with the final write. -/
def PhaseStep.finished {κ : Type} (t : Task κ) : PhaseStep κ := .task t .working true

variable {κ : Type} [DecidableEq κ]

/-- The state of a chain. -/
def Phases.state (s : Phases κ) (chain : Chain κ) : BootstrapState := s.tasks.shared.state chain

/-- One step of a Bitcoin handler: the end of `wait_for_all_chains_bootstrapped`, or the return of
`run`, which is called again. -/
def handlerStep [Fintype κ] (b : Board κ) : Pc → Option Pc
  | .waitAll => if allBootstrapped b then some .loop else none
  | .loop => some .waitAll
  | _ => none

/-- A step of the system. -/
def phaseStep [Fintype κ] (cfg : BootstrapConfig κ) (s : Phases κ) :
    PhaseStep κ → Option (Phases κ)
  | .task t p ok =>
      if s.tasks.pc t = p then (act cfg s.tasks t ok).map fun tasks => { s with tasks := tasks }
      else none
  | .handler h =>
      (handlerStep s.tasks.shared (s.handlers h)).map fun p =>
        { s with handlers := Function.update s.handlers h p }

/-- The start of the relayer.  If bootstrap is not enabled, all chains are in the last state. -/
def startPhases (isEnabled : Bool) : Phases κ where
  tasks :=
    { (initial : State κ) with
      shared :=
        if isEnabled then ⟨fun _ => nodeSyncing, nodeSyncing⟩
        else ⟨fun _ => normalStart, normalStart⟩ }
  handlers := fun _ => .waitAll

/-- The interleavings of the tasks and the handlers, with all their restarts. -/
def phaseSystem [Fintype κ] (cfg : BootstrapConfig κ) (isEnabled : Bool) :
    LabelledSystem (Phases κ) (PhaseStep κ) where
  init s := s = startPhases isEnabled
  step s a s' := phaseStep cfg s a = some s'

/-- What a step of the system does: a step of a task, or a handler moves. -/
lemma phaseStep_cases [Fintype κ] {cfg : BootstrapConfig κ} {s s' : Phases κ} {a : PhaseStep κ}
    (h : phaseStep cfg s a = some s') :
    (∃ t ok, a = .task t (s.tasks.pc t) ok ∧ act cfg s.tasks t ok = some s'.tasks ∧
        s'.handlers = s.handlers) ∨
      ∃ u p, a = .handler u ∧ handlerStep s.tasks.shared (s.handlers u) = some p ∧
        s' = { s with handlers := Function.update s.handlers u p } := by
  cases a with
  | task t p ok =>
    simp only [phaseStep] at h
    split at h
    case isFalse => cases h
    case isTrue hp =>
      obtain ⟨tasks, hact, rfl⟩ := Option.map_eq_some_iff.1 h
      exact .inl ⟨t, ok, by rw [hp], hact, rfl⟩
  | handler u =>
    simp only [phaseStep] at h
    obtain ⟨p, hp, rfl⟩ := Option.map_eq_some_iff.1 h
    exact .inr ⟨u, p, rfl, hp, rfl⟩

/-! ### Writes go forward -/

/-- Every write of the table moves to a later state. -/
lemma Role.le_of_write {queueEnabled : Bool} {r : Role} {p p' : Pc} {x y : BootstrapState}
    (hw : r.write queueEnabled p = some (x, y, p')) : x ≤ y := by
  cases r <;> cases p <;>
    simp only [Role.write, Option.some.injEq, Prod.mk.injEq, reduceCtorEq] at hw <;>
    obtain ⟨rfl, rfl, -⟩ := hw <;> revert queueEnabled <;> decide

omit [DecidableEq κ] in
/-- A write moves no chain back. -/
lemma Advances.le {cfg : BootstrapConfig κ} {t : Task κ} {x y : BootstrapState} {b b' : Board κ}
    (h : Advances cfg t x y b b') (hxy : x ≤ y) (chain : Chain κ) :
    b.state chain ≤ b'.state chain := by
  by_cases ht : t.watches cfg chain
  · obtain ⟨hx, hy⟩ := h.1 chain ht
    rw [hx, hy]
    exact hxy
  · exact (h.2 chain ht).ge

/-! ### The assertions of every run -/

/-- The points whose assertions hold in every run. -/
def Relied (t : Task κ) (p : Pc) : Prop :=
  t ≠ .onflight ∧ (t = .roundupEmitter → p = .working)

/-- The assertions that hold in every run of an enabled bootstrap. -/
def Phased (cfg : BootstrapConfig κ) (s : State κ) : Prop :=
  InStep s.shared ∧ s.Asserts fun t p b => Relied t p → assertion cfg t p b

variable {cfg : BootstrapConfig κ} {s s' : State κ} {t : Task κ}

omit [DecidableEq κ] in
/-- The assertions hold at the start. -/
lemma phased_initial (cfg : BootstrapConfig κ) : Phased cfg initial := by
  obtain ⟨hin, hasserts⟩ := invariant_initial cfg
  exact ⟨hin, fun t _ => hasserts t⟩

variable [Fintype κ]

/-- At the points that are left out, a task makes no write; and the round-up emitter goes to its
work only after a poll that has seen all chains. -/
lemma taskStep_not_relied {p p' : Pc} {b b' : Board κ} {ok : Bool} (hrel : ¬Relied t p)
    (hstep : taskStep cfg b t p ok = some (b', p')) :
    b' = b ∧ (Relied t p' → assertion cfg t p' b) := by
  have ht : t = .onflight ∨ t = .roundupEmitter ∧ p ≠ .working := by
    by_contra hno
    push Not at hno
    exact hrel hno
  rcases ht with rfl | ⟨rfl, hp⟩
  · refine ⟨?_, fun h => absurd rfl h.1⟩
    cases ok <;> cases p <;> simp_all [taskStep, synced, flushed, finish]
  · cases ok with
    | false =>
      obtain ⟨-, rfl, rfl⟩ : _ ∧ b = b' ∧ _ = p' := by simpa [taskStep] using hstep
      exact ⟨rfl, fun h => by simpa [Task.runStart] using h.2 rfl⟩
    | true =>
      cases p with
      | working => exact absurd rfl hp
      | waiting =>
        obtain ⟨hready, rfl, rfl⟩ : isReady cfg b .roundupEmitter = true ∧ b = b' ∧ _ = p' := by
          simpa [taskStep] using hstep
        refine ⟨rfl, fun _ => ?_⟩
        have hall : ∀ c, b.evm c = bootstrapRoundUpPhase1 := by simpa [isReady] using hready
        rw [assertion_spawned rfl]
        intro chain hc
        cases chain with
        | bitcoin => exact absurd rfl hc
        | evm c => simpa [Task.role, Role.allows, Board.state] using hall c
      | enter =>
        obtain ⟨rfl, rfl⟩ : b = b' ∧ _ = p' := by simpa [taskStep] using hstep
        refine ⟨rfl, fun h => absurd (h.2 rfl) ?_⟩
        split <;> simp [Task.afterBootstrap]
      | starting =>
        obtain ⟨rfl, rfl⟩ : b = b' ∧ _ = p' := by simpa [taskStep] using hstep
        refine ⟨rfl, fun h => absurd (h.2 rfl) ?_⟩
        split <;> simp [Task.runStart]
      | waitAll =>
        obtain ⟨-, rfl, rfl⟩ : _ ∧ b = b' ∧ _ = p' := by simpa [taskStep] using hstep
        exact ⟨rfl, fun h => absurd (h.2 rfl) (by simp)⟩
      | loop =>
        obtain ⟨rfl, rfl⟩ : b = b' ∧ _ = p' := by simpa [taskStep] using hstep
        exact ⟨rfl, fun h => absurd (h.2 rfl) (by simp [Task.runStart])⟩
      | syncing => simp [taskStep, synced] at hstep
      | flushing => simp [taskStep, flushed] at hstep

/-- The states before and after a step: they stay, or the step makes the write of the table. -/
def Moves (cfg : BootstrapConfig κ) (t : Task κ) (p : Pc) (ok : Bool) (b b' : Board κ) : Prop :=
  b' = b ∨ ok = true ∧ ∃ x y p', t.role.write cfg.queueEnabled p = some (x, y, p') ∧
    Advances cfg t x y b b'

/-- Every step keeps the assertions and makes no write that is not in the table. -/
lemma Phased.step {ok : Bool} (h : Phased cfg s) (hact : act cfg s t ok = some s') :
    Phased cfg s' ∧ Moves cfg t (s.pc t) ok s.shared s'.shared := by
  obtain ⟨hin, hasserts⟩ := h
  obtain ⟨hspawned, b', p', hstep, rfl⟩ := act_eq_some hact
  by_cases hrel : Relied t (s.pc t)
  · have hassert := hasserts t hrel
    rcases taskStep_write hspawned hassert hstep with ⟨rfl, hread⟩ | ⟨rfl, x, y, hw, hadv⟩
    · refine ⟨⟨hin, hasserts.goto fun _ => ?_⟩, .inl rfl⟩
      refine assertion_read hspawned hin hassert hstep hread ?_ ?_
      · intro ht hp
        have hworking := hrel.2 (Prod.mk.inj ht).1
        rw [hp] at hworking
        cases hworking
      · exact fun ht => absurd (Prod.mk.inj ht).1 hrel.1
    · refine ⟨⟨hin.advances hadv hw, hasserts.move ?_ ?_⟩, .inr ⟨rfl, x, y, p', hw, hadv⟩⟩
      · exact fun _ => assertion_write_self hspawned hadv hw
      · intro u hne hu hrelu
        exact assertion_write_other hadv hw (fun _ hflight => absurd hflight hrelu.1) hne (hu hrelu)
  · obtain ⟨rfl, hown⟩ := taskStep_not_relied hrel hstep
    exact ⟨⟨hin, hasserts.goto hown⟩, .inl rfl⟩

/-! ### Without bootstrap -/

/-- The points at which a task does not bootstrap. -/
def Outside (p : Pc) : Prop := p = .starting ∨ p = .enter ∨ p = .waitAll ∨ p = .loop

/-- All chains are in the last state, and no task bootstraps. -/
def Skipped (s : State κ) : Prop :=
  (∀ chain, s.shared.state chain = normalStart) ∧ ∀ t, t ≠ .onflight → Outside (s.pc t)

omit [DecidableEq κ] [Fintype κ] in
/-- A call of `run` starts outside of the bootstrap. -/
lemma outside_runStart (t : Task κ) : Outside t.runStart := by
  cases t <;> simp [Task.runStart, Outside]

omit [DecidableEq κ] [Fintype κ] in
/-- A task goes on outside of the bootstrap. -/
lemma outside_afterBootstrap (t : Task κ) : Outside t.afterBootstrap := by
  cases t <;> simp [Task.afterBootstrap, Outside]

/-- A task that need not bootstrap makes no write and stays outside. -/
lemma taskStep_outside {p p' : Pc} {b b' : Board κ} {ok : Bool} (hp : Outside p)
    (hskip : shouldBootstrap cfg b t = false) (hstep : taskStep cfg b t p ok = some (b', p')) :
    b' = b ∧ Outside p' := by
  cases ok with
  | false =>
    obtain ⟨-, rfl, rfl⟩ : _ ∧ b = b' ∧ t.runStart = p' := by simpa [taskStep] using hstep
    exact ⟨rfl, outside_runStart t⟩
  | true =>
    rcases hp with rfl | rfl | rfl | rfl
    · obtain ⟨rfl, rfl⟩ : b = b' ∧ t.runStart = p' := by simpa [taskStep, hskip] using hstep
      exact ⟨rfl, outside_runStart t⟩
    · obtain ⟨rfl, rfl⟩ : b = b' ∧ t.afterBootstrap = p' := by simpa [taskStep, hskip] using hstep
      exact ⟨rfl, outside_afterBootstrap t⟩
    · obtain ⟨-, rfl, rfl⟩ : _ ∧ b = b' ∧ Pc.loop = p' := by simpa [taskStep] using hstep
      exact ⟨rfl, by simp [Outside]⟩
    · obtain ⟨rfl, rfl⟩ : b = b' ∧ t.runStart = p' := by simpa [taskStep] using hstep
      exact ⟨rfl, outside_runStart t⟩

/-- No task starts to bootstrap later on. -/
lemma Skipped.step {ok : Bool} (h : Skipped s) (hact : act cfg s t ok = some s') :
    Skipped s' ∧ s'.shared = s.shared := by
  obtain ⟨hnormal, hpc⟩ := h
  obtain ⟨-, b', p', hstep, rfl⟩ := act_eq_some hact
  have hevm : ∀ c, s.shared.evm c = normalStart := fun c => hnormal (.evm c)
  have hbitcoin : s.shared.bitcoin = normalStart := hnormal .bitcoin
  have hown : b' = s.shared ∧ (t ≠ .onflight → Outside p') := by
    by_cases ht : t = .onflight
    · subst ht
      obtain ⟨rfl, -⟩ := taskStep_not_relied (fun h => h.1 rfl) hstep
      exact ⟨rfl, fun h => absurd rfl h⟩
    · have hskip : shouldBootstrap cfg s.shared t = false := by
        cases t <;> simp_all [shouldBootstrap]
      obtain ⟨rfl, hgoto⟩ := taskStep_outside (hpc t ht) hskip hstep
      exact ⟨rfl, fun _ => hgoto⟩
  obtain ⟨rfl, hgoto⟩ := hown
  refine ⟨⟨hnormal, fun u hu => ?_⟩, rfl⟩
  by_cases hut : u = t
  · subst hut
    simpa [Interleaved.move] using hgoto hu
  · simpa [Interleaved.move, hut] using hpc u hu

/-! ### Runs -/

/-- What holds of the tasks in every run. -/
def Started (cfg : BootstrapConfig κ) (isEnabled : Bool) (s : State κ) : Prop :=
  if isEnabled then Phased cfg s else Skipped s

omit [DecidableEq κ] [Fintype κ] in
/-- It holds at the start. -/
lemma started_startPhases (cfg : BootstrapConfig κ) (isEnabled : Bool) :
    Started cfg isEnabled (startPhases isEnabled).tasks := by
  cases isEnabled with
  | true => exact phased_initial cfg
  | false =>
    refine ⟨fun chain => by cases chain <;> rfl, fun t _ => ?_⟩
    cases t <;> simp [startPhases, initial, Outside]

/-- Every step keeps it and makes no write that is not in the table. -/
lemma Started.step {isEnabled ok : Bool} (h : Started cfg isEnabled s)
    (hact : act cfg s t ok = some s') :
    Started cfg isEnabled s' ∧ Moves cfg t (s.pc t) ok s.shared s'.shared := by
  cases isEnabled with
  | true => exact Phased.step h hact
  | false =>
    obtain ⟨hskipped, hshared⟩ := Skipped.step h hact
    exact ⟨hskipped, .inl hshared⟩

omit [DecidableEq κ] [Fintype κ] in
/-- A step moves no chain back. -/
lemma Moves.le {p : Pc} {ok : Bool} {b b' : Board κ} (h : Moves cfg t p ok b b')
    (chain : Chain κ) : b.state chain ≤ b'.state chain := by
  rcases h with rfl | ⟨-, x, y, p', hw, hadv⟩
  · exact le_rfl
  · exact hadv.le (Role.le_of_write hw) chain

omit [DecidableEq κ] in
/-- `wait_for_all_chains_bootstrapped` ends when all chains are in the last state. -/
lemma state_of_allBootstrapped {b : Board κ} (h : allBootstrapped b = true) (chain : Chain κ) :
    b.state chain = normalStart := by
  obtain ⟨hevm, hbitcoin⟩ : (∀ c, b.evm c = normalStart) ∧ b.bitcoin = normalStart := by
    simpa [allBootstrapped] using h
  cases chain with
  | evm c => exact hevm c
  | bitcoin => exact hbitcoin

/-- Only the wait for all chains leads to the main loop, for all tasks but two. -/
lemma taskStep_loop {p : Pc} {ok : Bool} {b b' : Board κ} (hemitter : t ≠ .roundupEmitter)
    (honflight : t ≠ .onflight) (hstep : taskStep cfg b t p ok = some (b', .loop)) :
    b' = b ∧ allBootstrapped b = true := by
  have hstart : t.runStart ≠ .loop := by cases t <;> simp [Task.runStart]
  have hafter : t.afterBootstrap ≠ .loop := by cases t <;> simp_all [Task.afterBootstrap]
  cases ok with
  | false => simp [taskStep, hstart] at hstep
  | true =>
    cases p with
    | waitAll =>
      obtain ⟨hall, rfl⟩ : allBootstrapped b = true ∧ b = b' := by simpa [taskStep] using hstep
      exact ⟨rfl, hall⟩
    | starting =>
      simp only [taskStep, if_true, Option.some.injEq, Prod.mk.injEq] at hstep
      split at hstep <;> simp_all
    | enter =>
      simp only [taskStep, if_true, Option.some.injEq, Prod.mk.injEq] at hstep
      split at hstep <;> simp_all
    | syncing => cases t <;> simp [taskStep, synced] at hstep
    | flushing => cases t <;> simp [taskStep, flushed] at hstep
    | waiting => simp [taskStep] at hstep
    | working => simp [taskStep, hafter] at hstep
    | loop => simp [taskStep, hstart] at hstep

/-- All chains, bitcoin included, are in the last state. -/
def Phases.Normal (s : Phases κ) : Prop := ∀ chain, s.state chain = normalStart

/-- What holds after every run: the assertions, the main loops are closed while a chain is below the
last state, and the final writes of the two round-up tasks are in the trace before a chain is in a
later lap. -/
structure PhaseInvariant (cfg : BootstrapConfig κ) (isEnabled : Bool) (tr : List (PhaseStep κ))
    (s : Phases κ) : Prop where
  /-- The assertions of the tasks. -/
  started : Started cfg isEnabled s.tasks
  /-- The tasks that wait for all chains are not in their main loops too early. -/
  task_loop : ∀ t, t ≠ .roundupEmitter → t ≠ .onflight → s.tasks.pc t = .loop → s.Normal
  /-- The Bitcoin handlers are not in their main loops too early. -/
  handler_loop : ∀ u, s.handlers u = .loop → s.Normal
  /-- The second phase starts with the final write of the round-up emitter. -/
  emitted : isEnabled = true → ∀ c, 1 ≤ (s.tasks.shared.evm c).lap →
    PhaseStep.finished .roundupEmitter ∈ tr
  /-- The second phase ends with the final write of the round-up handler. -/
  relayed : isEnabled = true → ∀ c, 2 ≤ (s.tasks.shared.evm c).lap →
    PhaseStep.finished .roundupRelay ∈ tr

omit [DecidableEq κ] [Fintype κ] in
/-- The invariant holds at the start. -/
lemma phaseInvariant_startPhases (cfg : BootstrapConfig κ) (isEnabled : Bool) :
    PhaseInvariant cfg isEnabled [] (startPhases isEnabled) where
  started := started_startPhases cfg isEnabled
  task_loop := by
    intro t _ _ hp
    cases t <;> simp [startPhases, initial] at hp
  handler_loop := by
    intro u hp
    simp [startPhases] at hp
  emitted := by
    rintro rfl c hlap
    have hlap : 1 ≤ nodeSyncing.lap := hlap
    exact absurd hlap (by decide)
  relayed := by
    rintro rfl c hlap
    have hlap : 2 ≤ nodeSyncing.lap := hlap
    exact absurd hlap (by decide)

omit [DecidableEq κ] [Fintype κ] in
/-- A chain changes its lap only with the final writes of the two round-up tasks. -/
lemma Moves.lap {p : Pc} {ok : Bool} {b b' : Board κ} (h : Moves cfg t p ok b b') (c : κ) :
    (b'.evm c).lap = (b.evm c).lap ∨
      PhaseStep.task t p ok = .finished .roundupEmitter ∧ (b'.evm c).lap = 1 ∨
      PhaseStep.task t p ok = .finished .roundupRelay ∧ (b.evm c).lap = 1 := by
  rcases h with rfl | ⟨rfl, x, y, p', hw, hadv⟩
  · exact .inl rfl
  by_cases ht : t.watches cfg (.evm c)
  · obtain ⟨hx, hy⟩ := hadv.1 _ ht
    simp only [Board.state] at hx hy
    rw [hx, hy]
    by_cases hall : t.role = .roundupEmitter ∨ t.role = .roundupRelay
    · -- the round-up tasks write at the end of their work only
      cases t <;> simp [Task.role] at hall <;> cases p <;>
        simp only [Task.role, Role.write, Option.some.injEq, Prod.mk.injEq, reduceCtorEq] at hw <;>
        obtain ⟨rfl, rfl, -⟩ := hw
      case roundupEmitter.working => exact .inr (.inl ⟨rfl, by decide⟩)
      case roundupRelay.working => exact .inr (.inr ⟨rfl, by decide⟩)
    · have hbitcoin : t.role ≠ .blockManager := by cases t <;> simp_all [Task.role, Task.watches]
      push Not at hall
      exact .inl (Role.lap_write hw ⟨hall.1, hall.2, hbitcoin⟩)
  · exact .inl (congrArg BootstrapState.lap (hadv.2 _ ht))

section Steps

variable {isEnabled : Bool} {tr : List (PhaseStep κ)} {s s' : Phases κ} {a : PhaseStep κ}

omit [DecidableEq κ] [Fintype κ] in
/-- All chains stay in the last state. -/
lemma Phases.Normal.of_le (h : s.Normal) (hle : ∀ chain, s.state chain ≤ s'.state chain) :
    s'.Normal := by
  intro chain
  exact le_antisymm (le_normalStart _) (h chain ▸ hle chain)

/-- A step of a task keeps the invariant and moves no chain back. -/
lemma PhaseInvariant.taskStep (h : PhaseInvariant cfg isEnabled tr s) {ok : Bool}
    (hact : act cfg s.tasks t ok = some s'.tasks) (hhandlers : s'.handlers = s.handlers) :
    PhaseInvariant cfg isEnabled (tr ++ [.task t (s.tasks.pc t) ok]) s' ∧
      ∀ chain, s.state chain ≤ s'.state chain := by
  obtain ⟨hstarted, hmoves⟩ := h.started.step hact
  have hle : ∀ chain, s.state chain ≤ s'.state chain := fun chain => hmoves.le chain
  refine ⟨⟨hstarted, ?_, ?_, ?_, ?_⟩, hle⟩
  · intro u hemitter honflight hloop
    obtain ⟨-, b', p', hstep, hs'⟩ := act_eq_some hact
    rw [hs'] at hloop
    apply Phases.Normal.of_le _ hle
    by_cases hu : u = t
    · subst hu
      obtain rfl : p' = .loop := by simpa [Interleaved.move] using hloop
      obtain ⟨-, hall⟩ := taskStep_loop hemitter honflight hstep
      exact fun chain => state_of_allBootstrapped hall chain
    · apply h.task_loop u hemitter honflight
      simpa [Interleaved.move, hu] using hloop
  · intro u hloop
    rw [hhandlers] at hloop
    exact (h.handler_loop u hloop).of_le hle
  · intro henabled c hlap
    rcases hmoves.lap c with hc | ⟨ha, -⟩ | ⟨-, hc⟩
    · exact List.mem_append_left _ (h.emitted henabled c (hc ▸ hlap))
    · simp [ha]
    · exact List.mem_append_left _ (h.emitted henabled c hc.ge)
  · intro henabled c hlap
    rcases hmoves.lap c with hc | ⟨-, hc⟩ | ⟨ha, -⟩
    · exact List.mem_append_left _ (h.relayed henabled c (hc ▸ hlap))
    · omega
    · simp [ha]

omit [DecidableEq κ] in
/-- A Bitcoin handler enters its main loop when all chains are in the last state. -/
lemma handlerStep_loop {b : Board κ} {p : Pc} (h : handlerStep b p = some .loop) :
    allBootstrapped b = true := by
  cases p <;> simp [handlerStep] at h
  exact h

omit [DecidableEq κ] in
/-- A step of a Bitcoin handler keeps the invariant. -/
lemma PhaseInvariant.handlerStep (h : PhaseInvariant cfg isEnabled tr s) {u : BitcoinHandler}
    {p : Pc} (hp : Bootstrap.handlerStep s.tasks.shared (s.handlers u) = some p) :
    PhaseInvariant cfg isEnabled (tr ++ [.handler u])
      { s with handlers := Function.update s.handlers u p } where
  started := h.started
  task_loop := h.task_loop
  handler_loop := by
    intro v hloop
    by_cases hv : v = u
    · subst hv
      obtain rfl : p = .loop := by simpa using hloop
      exact fun chain => state_of_allBootstrapped (handlerStep_loop hp) chain
    · apply h.handler_loop v
      simpa [hv] using hloop
  emitted := fun henabled c hlap => List.mem_append_left _ (h.emitted henabled c hlap)
  relayed := fun henabled c hlap => List.mem_append_left _ (h.relayed henabled c hlap)

/-- Every step keeps the invariant and moves no chain back. -/
lemma PhaseInvariant.step (h : PhaseInvariant cfg isEnabled tr s)
    (hstep : phaseStep cfg s a = some s') :
    PhaseInvariant cfg isEnabled (tr ++ [a]) s' ∧ ∀ chain, s.state chain ≤ s'.state chain := by
  rcases phaseStep_cases hstep with ⟨t, ok, rfl, hact, hhandlers⟩ | ⟨u, p, rfl, hp, rfl⟩
  · exact h.taskStep hact hhandlers
  · exact ⟨h.handlerStep hp, fun _ => le_rfl⟩

end Steps

/-- The invariant holds after every run. -/
lemma phaseInvariant_run {isEnabled : Bool} {tr : List (PhaseStep κ)} {s : Phases κ}
    (h : (phaseSystem cfg isEnabled).Run tr s) : PhaseInvariant cfg isEnabled tr s := by
  refine h.induction (P := PhaseInvariant cfg isEnabled) ?_ ?_
  · rintro s rfl
    exact phaseInvariant_startPhases cfg isEnabled
  · intro tr s a s' _ hs ha
    exact (hs.step ha).1

omit [DecidableEq κ] [Fintype κ] in
/-- Without bootstrap no chain is below the last state. -/
lemma Started.enabled {s : State κ} {isEnabled : Bool} (h : Started cfg isEnabled s) {c : κ}
    (hc : s.shared.evm c ≠ normalStart) : isEnabled = true := by
  cases isEnabled with
  | true => rfl
  | false => exact absurd (h.1 (.evm c)) hc

/-- In every run, whatever the order of the steps and the restarts: no chain ever goes back to an
earlier state; a chain is in one of the phases of the socket relay only after the round-up emitter
and the round-up handler have made their final writes; and no task that waits for the end of the
bootstrap is in its main loop while some chain, bitcoin included, is below `NormalStart`. -/
theorem phases_forward_and_gating (cfg : BootstrapConfig κ) (isEnabled : Bool)
    {tr : List (PhaseStep κ)} {s : Phases κ} (h : (phaseSystem cfg isEnabled).Run tr s) :
    (∀ s', Relation.ReflTransGen (fun s s' => ∃ a, (phaseSystem cfg isEnabled).step s a s') s s' →
      ∀ chain, s.state chain ≤ s'.state chain) ∧
    (∀ c, s.state (.evm c) = bootstrapSocketRelayQueue ∨
        s.state (.evm c) = bootstrapSocketRelay →
      PhaseStep.finished .roundupEmitter ∈ tr ∧ PhaseStep.finished .roundupRelay ∈ tr) ∧
    (∀ t, t ≠ .roundupEmitter → t ≠ .onflight → s.tasks.pc t = .loop →
      ∀ chain, s.state chain = normalStart) ∧
    ∀ u, s.handlers u = .loop → ∀ chain, s.state chain = normalStart := by
  have hinv := phaseInvariant_run h
  refine ⟨?_, ?_, hinv.task_loop, hinv.handler_loop⟩
  · intro s' hpath chain
    refine h.monotone (f := fun s => s.state chain) ?_ hpath
    intro tr s a s' hrun ha
    exact ((phaseInvariant_run hrun).step ha).2 chain
  · intro c hc
    have hlap : (s.tasks.shared.evm c).lap = 2 ∧ s.tasks.shared.evm c ≠ normalStart := by
      rcases hc with hc | hc
      · rw [show s.tasks.shared.evm c = bootstrapSocketRelayQueue from hc]
        decide
      · rw [show s.tasks.shared.evm c = bootstrapSocketRelay from hc]
        decide
    have henabled := hinv.started.enabled hlap.2
    exact ⟨hinv.emitted henabled c (by omega), hinv.relayed henabled c hlap.1.ge⟩

/-- A whole bootstrap of one native chain and bitcoin. -/
def sampleBootstrap : List (PhaseStep Unit) :=
  [.task (.eventManager ()) .starting true, .task (.eventManager ()) .syncing true,
    .task (.eventManager ()) .flushing true,
    .task .roundupEmitter .enter true, .task .roundupEmitter .waiting true,
    .finished .roundupEmitter,
    .task .roundupRelay .enter true, .task .roundupRelay .waiting true, .finished .roundupRelay,
    .task (.queuePoller ()) .enter true, .task (.queuePoller ()) .waiting true,
    .finished (.queuePoller ())]

/-- The steps from there to the main loops of the event manager and of a Bitcoin handler. -/
def sampleEnding : List (PhaseStep Unit) :=
  [.task (.socketRelay ()) .enter true, .task (.socketRelay ()) .waiting true,
    .finished (.socketRelay ()),
    .task .blockManager .starting true, .task .blockManager .syncing true,
    .task .blockManager .enter true, .task .blockManager .waiting true, .finished .blockManager,
    .task (.eventManager ()) .waitAll true, .handler .inbound]

/-- A bootstrap that comes to its end, and a state on the way there. -/
theorem phases_forward_and_gating_whole :
    ∃ tr s, (phaseSystem sampleConfig true).Run tr s ∧
      s.state (.evm ()) = bootstrapSocketRelay ∧
      PhaseStep.finished .roundupEmitter ∈ tr ∧ PhaseStep.finished .roundupRelay ∈ tr ∧
      ∃ tr' s', (phaseSystem sampleConfig true).Run (tr ++ tr') s' ∧
        s'.tasks.pc (.eventManager ()) = .loop ∧ s'.handlers .inbound = .loop ∧
        ∀ chain, s'.state chain = normalStart := by
  obtain ⟨s, hrun, hs⟩ := LabelledSystem.exists_run_of_foldlM
    (S := phaseSystem sampleConfig true) (f := phaseStep sampleConfig) rfl (fun _ _ _ h => h)
    sampleBootstrap (fun s => s.state (.evm ()) = bootstrapSocketRelay) (by decide)
  obtain ⟨s', hrun', hs'⟩ := LabelledSystem.exists_run_of_foldlM
    (S := phaseSystem sampleConfig true) (f := phaseStep sampleConfig) rfl (fun _ _ _ h => h)
    (sampleBootstrap ++ sampleEnding)
    (fun s => s.tasks.pc (.eventManager ()) = .loop ∧ s.handlers .inbound = .loop) (by decide)
  have hs := of_decide_eq_true hs
  have hs' := of_decide_eq_true hs'
  have hphase := phases_forward_and_gating sampleConfig true hrun
  have hend := phases_forward_and_gating sampleConfig true hrun'
  obtain ⟨hemitted, hrelayed⟩ := hphase.2.1 () (.inr hs)
  exact ⟨_, s, hrun, hs, hemitted, hrelayed, _, s', hrun', hs'.1, hs'.2,
    hend.2.2.2 .inbound hs'.2⟩

end Bootstrap

end BifrostRelayer
