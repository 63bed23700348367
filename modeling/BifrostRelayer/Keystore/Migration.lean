import BifrostRelayer.Keystore.Submission

/-!
# The keypair migrator and the migration cycle

The registration pool cycles through the service states, and its round grows by one when the
transfer of the outputs ends.  `initialize` looks at the state alone and loads the directory that
the state calls for.  A tick of `run` looks at the last state it has recorded as well, and loads
only on the transitions that it expects.

The chain moves on between two looks, so a tick can miss states of the cycle.  The system here is
the one of `Submission`, with a chain that follows the cycle and a history: the state of the chain
at the last poll, and how far the chain has moved since.  `loaded_round_of_polled_state` says when
the directory after a tick is the one that `initialize` would load in the state just polled: the
tick must not be at one of the pairs of `missed`, and the round must not change between the two
reads of one tick.
-/

namespace BifrostRelayer

namespace Keystore

/-! ### The cycle -/

/-- The next service state and round in the migration cycle. -/
def advance : ServiceState × UInt32 → ServiceState × UInt32
  | (.normal, r) => (.setExecutiveMembers, r)
  | (.setExecutiveMembers, r) => (.prepareNextSystemVault, r)
  | (.prepareNextSystemVault, r) => (.utxoTransfer, r)
  | (.utxoTransfer, r) => (.normal, r + 1)

/-- The round that `initialize` loads in a state of the chain. -/
def initializeRound (chain : ServiceState × UInt32) : UInt32 :=
  if initializeLoadsNext chain.1 then chain.2 + 1 else chain.2

/-- The ticks that miss a load, by the state recorded in `migration_sequence`, the state at the poll
before and the one just polled.  The first two differ only at the first tick after `initialize`,
which does not record its state. -/
def missed : ServiceState → ServiceState → ServiceState → Bool
  | _, .setExecutiveMembers, .normal => true
  | _, .utxoTransfer, .setExecutiveMembers => true
  | .utxoTransfer, .utxoTransfer, .prepareNextSystemVault => true
  | .normal, .utxoTransfer, .normal => true
  | .normal, .prepareNextSystemVault, .utxoTransfer => true
  | _, _, _ => false

/-- A load of a tick is the load of `initialize` in the state just polled. -/
lemma tickLoads_eq_some {recorded state : ServiceState} {next : Bool}
    (h : tickLoads recorded state = some next) : next = initializeLoadsNext state := by
  revert recorded state next
  decide

section Cycle

variable {recorded : ServiceState} {last : ServiceState × UInt32} {n : ℕ}

/-- A tick that loads nothing and misses nothing finds the right directory. -/
lemma initializeRound_of_not_missed (hn : n ≤ 3) (hrec : recorded = last.1 ∨ recorded = .normal)
    (hload : tickLoads recorded (advance^[n] last).1 = none)
    (hcaught : missed recorded last.1 (advance^[n] last).1 = false) :
    initializeRound (advance^[n] last) = initializeRound last := by
  obtain ⟨state, r⟩ := last
  interval_cases n <;> cases state <;> rcases hrec with rfl | rfl <;>
    simp_all [advance, missed, tickLoads, initializeRound, initializeLoadsNext]

/-- A tick that misses a load finds the wrong directory. -/
lemma initializeRound_of_missed (hn : n ≤ 3) (hrec : recorded = last.1 ∨ recorded = .normal)
    (hmissed : missed recorded last.1 (advance^[n] last).1 = true) :
    tickLoads recorded (advance^[n] last).1 = none ∧
      initializeRound last ≠ initializeRound (advance^[n] last) := by
  obtain ⟨state, r⟩ := last
  interval_cases n <;> cases state <;> rcases hrec with rfl | rfl <;>
    simp_all [advance, missed, tickLoads, initializeRound, initializeLoadsNext, UInt32.add_assoc]

end Cycle

/-! ### The system with its history -/

variable {A K : Type}

/-- The system, the chain at the last poll of the migrator, and the number of its moves since. -/
structure Migration (A K : Type) where
  state : State A K
  polled : ServiceState × UInt32
  moved : ℕ

/-- The service state and the round of the chain. -/
def Migration.chain (m : Migration A K) : ServiceState × UInt32 :=
  (m.state.store.serviceState, m.state.store.currentRound)

/-- The migrator reads the service state next. -/
def MigratorPc.polls : MigratorPc → Bool
  | .initializing => true
  | .tick => true
  | _ => false

/-- One step.  The chain follows the cycle, and makes less than a full cycle between two polls. -/
def migrationStep [DecidableEq A] (generate : ℕ → K) (self systemVault : A) (m : Migration A K) :
    Action A → Option (Migration A K)
  | .chain serviceState currentRound =>
      if (serviceState, currentRound) = advance m.chain ∧ m.moved < 3 then
        (act generate self systemVault m.state (.chain serviceState currentRound)).map fun s =>
          ⟨s, m.polled, m.moved + 1⟩
      else none
  | .migrator =>
      (act generate self systemVault m.state .migrator).map fun s =>
        if m.state.migrator.polls then ⟨s, m.chain, 0⟩ else ⟨s, m.polled, m.moved⟩
  | .submitter reply =>
      (act generate self systemVault m.state (.submitter reply)).map fun s => { m with state := s }
  | .presubmitter reply =>
      (act generate self systemVault m.state (.presubmitter reply)).map fun s =>
        { m with state := s }

/-- The system after a step of the migrator. -/
def Migration.migrated (m : Migration A K) : State A K :=
  let r := migratorStep m.state.store m.state.migrator
  { m.state with store := r.1, migrator := r.2 }

/-- A step of the migrator that polls, and one that does not. -/
lemma migrationStep_migrator [DecidableEq A] (generate : ℕ → K) (self systemVault : A)
    (m : Migration A K) :
    migrationStep generate self systemVault m .migrator =
      some (if m.state.migrator.polls then ⟨m.migrated, m.chain, 0⟩
        else ⟨m.migrated, m.polled, m.moved⟩) := rfl

/-- The process has started. -/
def Migration.initial (serviceState : ServiceState) (currentRound : UInt32) : Migration A K :=
  ⟨Keystore.initial serviceState currentRound, (serviceState, currentRound), 0⟩

/-- All interleavings of the tasks with a chain that follows the cycle, from any of its states. -/
def migrationSystem [DecidableEq A] (generate : ℕ → K) (self systemVault : A) :
    LabelledSystem (Migration A K) (Action A) where
  init m := ∃ serviceState currentRound, m = .initial serviceState currentRound
  step m a m' := migrationStep generate self systemVault m a = some m'

/-- The migrator stands between two ticks with the directory that `initialize` would load in the
state just polled. -/
def Migration.LoadedForPolled (m : Migration A K) : Prop :=
  m.state.migrator = .tick → m.state.store.loadedRound = initializeRound m.polled

/-- The condition on a step: a poll misses no load, and a read of the round finds the round that was
current at the poll before it. -/
def caught (m : Migration A K) : Action A → Bool
  | .migrator =>
      match m.state.migrator with
      | .tick => !missed m.state.store.migrationSequence m.polled.1 m.state.store.serviceState
      | .readRound _ _ => decide (m.state.store.currentRound = m.polled.2)
      | _ => true
  | _ => true

/-- `initializeRound` is what `initialize` loads if the chain does not move meanwhile. -/
theorem loadedRound_initialize (st : Store A K) :
    let r := (fun x : Store A K × MigratorPc => migratorStep x.1 x.2)^[4] (st, .initializing)
    r.2 = .tick ∧ r.1.loadedRound = initializeRound (st.serviceState, st.currentRound) := by
  simp [migratorStep, initializeRound]

/-! ### The invariant -/

/-- What the migrator has recorded at the end of `initialize` or of a tick: a tick writes the state
just polled, `initialize` leaves the initial value. -/
def Recorded (st : Store A K) (polled : ServiceState × UInt32) : Option ServiceState → Prop
  | some state => state = polled.1
  | none => st.migrationSequence = .normal

/-- What holds at the points of the migrator. -/
def MigratorHolds (st : Store A K) (polled : ServiceState × UInt32) : MigratorPc → Prop
  | .initializing => st.migrationSequence = .normal
  | .tick => st.loadedRound = initializeRound polled ∧
      (st.migrationSequence = polled.1 ∨ st.migrationSequence = .normal)
  | .lock state => state = polled.1 ∧
      (tickLoads st.migrationSequence state = none → st.loadedRound = initializeRound polled)
  | .readRound after next => next = initializeLoadsNext polled.1 ∧ Recorded st polled after
  | .load after round => round = initializeRound polled ∧ Recorded st polled after
  | .loaded after round => round = initializeRound polled ∧ Recorded st polled after
  | .store state => state = polled.1 ∧ st.loadedRound = initializeRound polled

/-- The invariant of the system with its history. -/
structure Cycled (m : Migration A K) : Prop where
  /-- The chain has followed the cycle since the last poll. -/
  chain_eq : m.chain = advance^[m.moved] m.polled
  /-- It has not made a full cycle. -/
  moved_le : m.moved ≤ 3
  migrator : MigratorHolds m.state.store m.polled m.state.migrator

/-- The invariant holds at the start. -/
lemma cycled_initial (serviceState : ServiceState) (currentRound : UInt32) :
    Cycled (Migration.initial serviceState currentRound : Migration A K) where
  chain_eq := rfl
  moved_le := Nat.zero_le 3
  migrator := rfl

/-- What the migrator relies on depends on two variables only. -/
lemma MigratorHolds.frame {st st' : Store A K} {polled : ServiceState × UInt32} {p : MigratorPc}
    (h : MigratorHolds st polled p) (hseq : st'.migrationSequence = st.migrationSequence)
    (hloaded : st'.loadedRound = st.loadedRound) : MigratorHolds st' polled p := by
  have hrec : ∀ after, Recorded st polled after → Recorded st' polled after := by
    rintro (_ | state) hafter
    · exact hseq.trans hafter
    · exact hafter
  cases p with
  | initializing => exact hseq.trans h
  | tick => exact ⟨hloaded.trans h.1, hseq ▸ h.2⟩
  | lock state => exact ⟨h.1, fun hload => hloaded.trans (h.2 (hseq ▸ hload))⟩
  | readRound after next => exact ⟨h.1, hrec after h.2⟩
  | load after round => exact ⟨h.1, hrec after h.2⟩
  | loaded after round => exact ⟨h.1, hrec after h.2⟩
  | store state => exact ⟨h.1, hloaded.trans h.2⟩

/-! ### The steps -/

/-- The submitters change neither the chain nor what the migrator works with. -/
structure KeepsMigration (st st' : Store A K) : Prop where
  serviceState : st'.serviceState = st.serviceState
  currentRound : st'.currentRound = st.currentRound
  migrationSequence : st'.migrationSequence = st.migrationSequence
  loadedRound : st'.loadedRound = st.loadedRound

/-- Creating a key changes nothing else. -/
lemma keepsMigration_createNewKeypair {generate : ℕ → K} {st st' : Store A K} {key : K}
    (h : st.createNewKeypair generate = some (st', key)) : KeepsMigration st st' := by
  obtain ⟨r, -, -, rfl⟩ := createNewKeypair_eq_some h
  exact ⟨rfl, rfl, rfl, rfl⟩

/-- A step of the submitter changes nothing else. -/
lemma keepsMigration_submitterStep [DecidableEq A] {generate : ℕ → K} {self systemVault : A}
    {st st' : Store A K} {p p' : SubmitterPc A K} {reply : Reply A}
    (h : submitterStep generate self systemVault st p reply = some (st', p')) :
    KeepsMigration st st' := by
  rcases submitterStep_cases h with ⟨-, -, -, -, key, hcreate, -⟩ | ⟨-, -, -, -, -, rfl, -⟩ |
    ⟨-, -, -, -, -, -, rfl, -⟩ | ⟨rfl, -⟩
  · exact keepsMigration_createNewKeypair hcreate
  all_goals exact ⟨rfl, rfl, rfl, rfl⟩

/-- A step of the pre-submitter changes nothing else. -/
lemma keepsMigration_presubmitterStep {generate : ℕ → K} {st st' : Store A K}
    {p p' : PresubmitterPc K} {reply : Reply A}
    (h : presubmitterStep generate st p reply = some (st', p')) : KeepsMigration st st' := by
  rcases presubmitterStep_cases h with ⟨-, -, -, key, -, hcreate, -⟩ | ⟨-, -, rfl, -⟩ |
    ⟨-, -, rfl, -⟩ | ⟨rfl, -⟩
  · exact keepsMigration_createNewKeypair hcreate
  all_goals exact ⟨rfl, rfl, rfl, rfl⟩

/-- A step that keeps what the migrator works with keeps the invariant. -/
lemma Cycled.keeps {m : Migration A K} (h : Cycled m) {s : State A K}
    (hkeeps : KeepsMigration m.state.store s.store) (hpc : s.migrator = m.state.migrator) :
    Cycled { m with state := s } where
  chain_eq := by
    rw [← h.chain_eq, Migration.chain, Migration.chain, hkeeps.serviceState, hkeeps.currentRound]
  moved_le := h.moved_le
  migrator := by
    rw [hpc]
    exact h.migrator.frame hkeeps.migrationSequence hkeeps.loadedRound

/-- A move of the chain along the cycle keeps the invariant. -/
lemma Cycled.advance {m : Migration A K} (h : Cycled m) {serviceState : ServiceState}
    {currentRound : UInt32} (hnext : (serviceState, currentRound) = advance m.chain)
    (hmoved : m.moved < 3) :
    Cycled ⟨{ m.state with store := { m.state.store with
      serviceState := serviceState, currentRound := currentRound } }, m.polled, m.moved + 1⟩ where
  chain_eq := by
    rw [Function.iterate_succ_apply', ← h.chain_eq]
    exact hnext
  moved_le := hmoved
  migrator := h.migrator.frame rfl rfl

/-- A poll starts a new history. -/
lemma Cycled.poll {m : Migration A K} (h : Cycled m) (hpoll : m.state.migrator.polls = true)
    (hcaught : caught m (.migrator : Action A) = true) :
    MigratorHolds (migratorStep m.state.store m.state.migrator).1 m.chain
      (migratorStep m.state.store m.state.migrator).2 := by
  obtain ⟨hchain, hmoved, hpc⟩ := h
  cases hp : m.state.migrator with
  | initializing =>
    rw [hp] at hpc
    exact ⟨rfl, hpc⟩
  | tick =>
    rw [hp] at hpc
    obtain ⟨hloaded, hrec⟩ := hpc
    refine ⟨rfl, fun hload => ?_⟩
    have hkept : initializeRound m.chain = initializeRound m.polled := by
      rw [hchain]
      refine initializeRound_of_not_missed hmoved hrec ?_ ?_
      · rw [← hchain]
        exact hload
      · rw [← hchain]
        simpa [caught, hp, Migration.chain] using hcaught
    rw [hkept]
    exact hloaded
  | _ => simp [hp, MigratorPc.polls] at hpoll

/-- The other steps of the migrator. -/
lemma Cycled.migratorStep {m : Migration A K} (h : Cycled m)
    (hpoll : m.state.migrator.polls = false) (hcaught : caught m (.migrator : Action A) = true) :
    MigratorHolds (migratorStep m.state.store m.state.migrator).1 m.polled
      (migratorStep m.state.store m.state.migrator).2 := by
  have hpc := h.migrator
  cases hp : m.state.migrator with
  | initializing => simp [hp, MigratorPc.polls] at hpoll
  | tick => simp [hp, MigratorPc.polls] at hpoll
  | lock state =>
    rw [hp] at hpc
    obtain ⟨rfl, hloaded⟩ := hpc
    cases hload : tickLoads m.state.store.migrationSequence m.polled.1 with
    | none => simpa [Keystore.migratorStep, hload, MigratorHolds] using hloaded hload
    | some next =>
      simpa [Keystore.migratorStep, hload, MigratorHolds, Recorded] using tickLoads_eq_some hload
  | readRound after next =>
    rw [hp] at hpc
    obtain ⟨rfl, hafter⟩ := hpc
    have hround : m.state.store.currentRound = m.polled.2 := by simpa [caught, hp] using hcaught
    exact ⟨by rw [hround, initializeRound], hafter⟩
  | load after round =>
    rw [hp] at hpc
    obtain ⟨rfl, hafter⟩ := hpc
    cases after with
    | none => exact ⟨rfl, hafter⟩
    | some state => exact ⟨rfl, hafter⟩
  | loaded after round =>
    rw [hp] at hpc
    obtain ⟨rfl, hafter⟩ := hpc
    cases after with
    | none => exact ⟨rfl, .inr hafter⟩
    | some state => exact ⟨hafter, rfl⟩
  | store state =>
    rw [hp] at hpc
    obtain ⟨rfl, hloaded⟩ := hpc
    exact ⟨hloaded, .inl rfl⟩

/-- The migrator does not touch the chain. -/
lemma migratorStep_chain (st : Store A K) (p : MigratorPc) :
    (migratorStep st p).1.serviceState = st.serviceState ∧
      (migratorStep st p).1.currentRound = st.currentRound := by
  cases p <;> exact ⟨rfl, rfl⟩

/-- A step that meets the condition keeps the invariant. -/
lemma Cycled.step [DecidableEq A] {generate : ℕ → K} {self systemVault : A} {m m' : Migration A K}
    {a : Action A} (h : Cycled m) (hcaught : caught m a = true)
    (hstep : migrationStep generate self systemVault m a = some m') : Cycled m' := by
  cases a with
  | chain serviceState currentRound =>
    simp only [migrationStep] at hstep
    split at hstep
    case isFalse => cases hstep
    case isTrue hnext =>
      obtain rfl := Option.some.inj hstep
      exact h.advance hnext.1 hnext.2
  | migrator =>
    rw [migrationStep_migrator] at hstep
    obtain rfl := Option.some.inj hstep
    obtain ⟨hstate, hround⟩ := migratorStep_chain m.state.store m.state.migrator
    by_cases hpoll : m.state.migrator.polls = true
    · rw [if_pos hpoll]
      refine ⟨?_, Nat.zero_le 3, h.poll hpoll hcaught⟩
      exact Prod.ext hstate hround
    · rw [if_neg hpoll]
      refine ⟨?_, h.moved_le, h.migratorStep (by simpa using hpoll) hcaught⟩
      exact (Prod.ext hstate hround).trans h.chain_eq
  | submitter reply =>
    obtain ⟨s, hact, rfl⟩ := Option.map_eq_some_iff.1 hstep
    obtain ⟨r, hr, rfl⟩ := Option.map_eq_some_iff.1 hact
    exact h.keeps (keepsMigration_submitterStep hr) rfl
  | presubmitter reply =>
    obtain ⟨s, hact, rfl⟩ := Option.map_eq_some_iff.1 hstep
    obtain ⟨r, hr, rfl⟩ := Option.map_eq_some_iff.1 hact
    exact h.keeps (keepsMigration_presubmitterStep hr) rfl

/-! ### Runs -/

/-- In every run in which no poll misses a load and no read of the round is late, the directory that
is loaded after every tick is the one that `initialize` would load in the state just polled. -/
theorem loaded_round_of_polled_state [DecidableEq A] (generate : ℕ → K) (self systemVault : A)
    {tr : List (Action A)} {m : Migration A K}
    (h : ((migrationSystem generate self systemVault).restrict fun m a => caught m a = true).Run
      tr m) : m.LoadedForPolled := by
  have hinv : Cycled m := by
    refine h.invariant (P := Cycled) ?_ ?_
    · rintro m ⟨serviceState, currentRound, rfl⟩
      exact cycled_initial serviceState currentRound
    · rintro m a m' hm ⟨hstep, hcaught⟩
      exact hm.step hcaught hstep
  intro hp
  have hpc := hinv.migrator
  rw [hp] at hpc
  exact hpc.1

/-- The condition is exact: after a poll that misses a load, or a read of the round that is late,
the migrator goes on to the end of its tick with the wrong directory. -/
theorem loaded_round_wrong_of_not_caught [DecidableEq A] (generate : ℕ → K) (self systemVault : A)
    {m : Migration A K} (h : Cycled m) (hcaught : caught m (.migrator : Action A) = false) :
    ∃ k m', (List.replicate k (.migrator : Action A)).foldlM
      (migrationStep generate self systemVault) m = some m' ∧ ¬m'.LoadedForPolled := by
  obtain ⟨hchain, hmoved, hpc⟩ := h
  cases hp : m.state.migrator with
  | tick =>
    rw [hp] at hpc
    obtain ⟨hloaded, hrec⟩ := hpc
    have hmissed : missed m.state.store.migrationSequence m.polled.1 m.chain.1 = true := by
      simpa [caught, hp, Migration.chain] using hcaught
    rw [hchain] at hmissed
    obtain ⟨hload, hwrong⟩ := initializeRound_of_missed hmoved hrec hmissed
    rw [← hchain] at hload hwrong
    -- the three steps of a tick that loads nothing
    have hload : tickLoads m.state.store.migrationSequence m.state.store.serviceState = none :=
      hload
    refine ⟨3, _, by simp [List.replicate, migrationStep_migrator]; rfl, ?_⟩
    simpa [Migration.LoadedForPolled, Migration.migrated, MigratorPc.polls, Keystore.migratorStep,
      hp, hload, hloaded] using hwrong
  | readRound after next =>
    rw [hp] at hpc
    obtain ⟨rfl, -⟩ := hpc
    have hlate : m.state.store.currentRound ≠ m.polled.2 := by simpa [caught, hp] using hcaught
    have hwrong : (if initializeLoadsNext m.polled.1 then m.state.store.currentRound + 1
        else m.state.store.currentRound) ≠ initializeRound m.polled := by
      unfold initializeRound
      split
      · simpa using hlate
      · exact hlate
    cases after with
    | none =>
      refine ⟨3, _, by simp [List.replicate, migrationStep_migrator]; rfl, ?_⟩
      simpa [Migration.LoadedForPolled, Migration.migrated, MigratorPc.polls,
        Keystore.migratorStep, hp] using hwrong
    | some state =>
      refine ⟨4, _, by simp [List.replicate, migrationStep_migrator]; rfl, ?_⟩
      simpa [Migration.LoadedForPolled, Migration.migrated, MigratorPc.polls,
        Keystore.migratorStep, hp] using hwrong
  | _ => simp [caught, hp] at hcaught

/-! ### A migration -/

/-- The steps of `initialize`. -/
def initializeMigrator : List (Action ℕ) := List.replicate 4 .migrator

/-- A tick that loads nothing. -/
def idleTick : List (Action ℕ) := List.replicate 3 .migrator

/-- A tick that loads a directory. -/
def loadingTick : List (Action ℕ) := List.replicate 6 .migrator

/-- A migration from round 1 to round 2 in which the ticks miss one of the states. -/
def sampleMigration : List (Action ℕ) :=
  [initializeMigrator, idleTick, [.chain .setExecutiveMembers 1, .chain .prepareNextSystemVault 1],
    loadingTick, [.chain .utxoTransfer 1], loadingTick, [.chain .normal 2], loadingTick].flatten

/-- A migration whose states are polled closely enough. -/
theorem loaded_round_of_polled_state_migrated :
    ∃ tr m, ((migrationSystem (K := ℕ) id 1 0).restrict fun m a => caught m a = true).Run tr m ∧
      m.state.migrator = .tick ∧ m.polled = (.normal, 2) ∧ m.state.store.loadedRound = 2 ∧
      m.LoadedForPolled := by
  have hrun := LabelledSystem.exists_restrict_run_of_foldlM (S := migrationSystem (K := ℕ) id 1 0)
    (C := fun m a => caught m a = true) (f := migrationStep id 1 0) ⟨.normal, 1, rfl⟩
    (fun _ _ _ h => h) sampleMigration
    (fun m => m.state.migrator = .tick ∧ m.polled = (.normal, 2) ∧
      m.state.store.loadedRound = 2) (by decide)
  obtain ⟨m, hrun, hm⟩ := hrun
  obtain ⟨hp, hpolled, hloaded⟩ := of_decide_eq_true hm
  exact ⟨_, m, hrun, hp, hpolled, hloaded, loaded_round_of_polled_state id 1 0 hrun⟩

/-- The relayer polls the end of the transfer, misses the state after it, and polls the next one: it
stays with the directory of round 1, where `initialize` would load that of round 2. -/
theorem loaded_round_left_behind :
    ∃ tr m, (migrationSystem (K := ℕ) id 1 0).Run tr m ∧ ¬m.LoadedForPolled := by
  have hrun := LabelledSystem.exists_run_of_foldlM (S := migrationSystem (K := ℕ) id 1 0)
    (f := migrationStep id 1 0) ⟨.utxoTransfer, 1, rfl⟩ (fun _ _ _ h => h)
    [initializeMigrator, idleTick, [.chain .normal 2, .chain .setExecutiveMembers 2],
      idleTick].flatten
    (fun m => m.state.migrator = .tick ∧ m.polled = (.setExecutiveMembers, 2) ∧
      m.state.store.loadedRound = 1) (by decide)
  obtain ⟨m, hrun, hm⟩ := hrun
  obtain ⟨hp, hpolled, hloaded⟩ := of_decide_eq_true hm
  refine ⟨_, m, hrun, fun hmatch => ?_⟩
  have hround := hmatch hp
  rw [hpolled, hloaded] at hround
  exact absurd hround (by decide)

end Keystore

end BifrostRelayer
