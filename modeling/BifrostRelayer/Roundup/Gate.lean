import BifrostRelayer.Foundation.Barrier
import BifrostRelayer.Foundation.Interleaving
import BifrostRelayer.Foundation.Runs
import BifrostRelayer.Roundup.Emitter
import BifrostRelayer.SocketRelay.Direction

/-!
# The gate of the round-up bootstrap

A `RoundupRelayHandler` leaves its bootstrap only when every external chain has the latest round of
Bifrost.  For each of them `wait_if_latest_round` spawns a task that compares the two rounds until
the external one is not behind, and then waits at `roundup_barrier`; the handler waits there too.

The size of the barrier is computed from the list of providers, while the tasks are spawned for the
map of clients.  A task whose call fails panics, so it never arrives, and nothing takes its place.
`gate_can_open_iff` says when the handler can still pass, and `gate_sound_iff` that the gate keeps
what it is there for exactly if there are not two handlers.
-/

namespace BifrostRelayer

namespace Roundup

open SocketRelay

/-! ### The tasks at the gate -/

/-- The tasks that meet at `roundup_barrier`: the handlers, and the tasks that `wait_if_latest_round`
of a handler spawns. -/
inductive GateTask (ι κ : Type) where
  | handler (i : ι)
  | poll (i : ι) (c : κ)
deriving DecidableEq

/-- Where a task stands. -/
inductive GatePc where
  /-- A handler before `wait_if_latest_round`, or a task that is not spawned. -/
  | idle
  /-- Before the call of `latest_round` of the external chain. -/
  | readTarget
  /-- Before the call of `latest_round` of Bifrost. -/
  | readBifrost (target : U256)
  /-- Before `wait`. -/
  | arriving
  | waiting (ticket : ℕ)
  | passed
  /-- A call of `latest_round` failed, and its result was unwrapped. -/
  | panicked
deriving DecidableEq

/-- The task has called `wait`. -/
def GatePc.hasArrived : GatePc → Bool
  | .waiting _ | .passed => true
  | _ => false

/-- The barrier and the latest rounds of the chains. -/
structure GateStore (κ : Type) where
  barrier : Barrier
  bifrostRound : U256
  round : κ → U256

/-- The store and where every task stands. -/
abbrev GateState (ι κ : Type) := Interleaved (GateTask ι κ) GatePc (GateStore κ)

/-- A step of a task, or of the authority contract of a chain. -/
inductive GateAction (ι κ : Type) where
  | spawn (i : ι)
  | readTarget (i : ι) (c : κ) (ok : Bool)
  | readBifrost (i : ι) (c : κ) (ok : Bool)
  | wait (t : GateTask ι κ)
  | pass (t : GateTask ι κ)
  | setBifrostRound (round : U256)
  | setRound (c : κ) (round : U256)
deriving DecidableEq

variable {ι κ : Type} [DecidableEq ι] [DecidableEq κ]

/-- The loop of `wait_if_latest_round`: it spawns one task for each external chain. -/
def spawned (s : GateState ι κ) (i : ι) : GateState ι κ where
  shared := s.shared
  pc := fun t =>
    match t with
    | .handler j => if j = i then .arriving else s.pc t
    | .poll j _ => if j = i then .readTarget else s.pc t

/-- The step after both rounds are read: the task waits only if the target is not behind. -/
def compared (target bifrostRound : U256) : GatePc :=
  if target < bifrostRound then .readTarget else .arriving

/-- One step at the gate. -/
def gateStep (s : GateState ι κ) : GateAction ι κ → Option (GateState ι κ)
  | .spawn i => if s.pc (.handler i) = .idle then some (spawned s i) else none
  | .readTarget i c ok =>
      if s.pc (.poll i c) = .readTarget then
        some (s.move (.poll i c) s.shared
          (if ok then .readBifrost (s.shared.round c) else .panicked))
      else none
  | .readBifrost i c ok =>
      match s.pc (.poll i c) with
      | .readBifrost target =>
          some (s.move (.poll i c) s.shared
            (if ok then compared target s.shared.bifrostRound else .panicked))
      | _ => none
  | .wait t =>
      if s.pc t = .arriving then
        some (s.move t { s.shared with barrier := s.shared.barrier.arrive.1 }
          (.waiting s.shared.barrier.arrive.2))
      else none
  | .pass t =>
      match s.pc t with
      | .waiting ticket =>
          if s.shared.barrier.isOver ticket then some (s.move t s.shared .passed) else none
      | _ => none
  | .setBifrostRound round => some { s with shared := { s.shared with bifrostRound := round } }
  | .setRound c round =>
      some { s with shared := { s.shared with round := Function.update s.shared.round c round } }

/-- The authority contracts never go back to an earlier round. -/
def RoundsGrow (s : GateState ι κ) : GateAction ι κ → Prop
  | .setBifrostRound round => s.shared.bifrostRound ≤ round
  | .setRound c round => s.shared.round c ≤ round
  | _ => True

instance (s : GateState ι κ) (a : GateAction ι κ) : Decidable (RoundsGrow s a) :=
  match a with
  | .setBifrostRound round => inferInstanceAs (Decidable (s.shared.bifrostRound ≤ round))
  | .setRound c round => inferInstanceAs (Decidable (s.shared.round c ≤ round))
  | .spawn _ | .readTarget _ _ _ | .readBifrost _ _ _ | .wait _ | .pass _ => .isTrue trivial

/-- No task has been spawned. -/
def gateStart (size : ℕ) (bifrostRound : U256) (round : κ → U256) : GateState ι κ where
  shared := ⟨.new size, bifrostRound, round⟩
  pc := fun _ => .idle

/-- The interleavings of the tasks at a barrier of the given size, while the rounds of the chains
grow. -/
def gateSystem (size : ℕ) (bifrostRound : U256) (round : κ → U256) :
    LabelledSystem (GateState ι κ) (GateAction ι κ) where
  init s := s = gateStart size bifrostRound round
  step s a s' := gateStep s a = some s' ∧ RoundsGrow s a

/-! ### The gate of a configuration -/

/-- The size of `roundup_barrier` in `BootstrapSharedData::new`.  The addition saturates only for a
list that does not fit into the memory. -/
def roundupBarrierSize (evmProviders : List EvmProvider) : ℕ :=
  (evmProviders.filter fun p => !p.saysNative).length + 1

/-- The client of the chain is not native. -/
def isExternal (evmProviders : List EvmProvider) (c : ChainId) : Bool :=
  (newClients evmProviders c).any fun client => !client.isNative

/-- The keys of `external_clients`. -/
def externalClients (evmProviders : List EvmProvider) : Finset ChainId :=
  (evmProviders.map EvmProvider.id).toFinset.filter fun c => isExternal evmProviders c = true

/-- The chains of the external providers. -/
def externalIds (evmProviders : List EvmProvider) : List ChainId :=
  (evmProviders.filter fun p => !p.saysNative).map EvmProvider.id

/-- No two external providers have the same chain, and no provider behind an external one calls
itself native with the same chain. -/
def DistinctExternals (evmProviders : List EvmProvider) : Prop :=
  (externalIds evmProviders).Nodup ∧ ∀ c ∈ externalIds evmProviders, isExternal evmProviders c = true

/-! ### What one step does -/

section Steps

variable {s s' : GateState ι κ} {i : ι} {c : κ}

omit [DecidableEq κ] in
lemma shared_spawned : (spawned s i).shared = s.shared := rfl

/-- A task at the gate makes a step by itself: where it goes, and what it leaves of the store. -/
inductive GateMove (s : GateState ι κ) : GateTask ι κ → GateStore κ → GatePc → Prop where
  | readTarget {i : ι} {c : κ} (hpc : s.pc (.poll i c) = .readTarget) :
      GateMove s (.poll i c) s.shared (.readBifrost (s.shared.round c))
  | behind {i : ι} {c : κ} {target : U256} (hpc : s.pc (.poll i c) = .readBifrost target)
      (hlt : target < s.shared.bifrostRound) : GateMove s (.poll i c) s.shared .readTarget
  | notBehind {i : ι} {c : κ} {target : U256} (hpc : s.pc (.poll i c) = .readBifrost target)
      (hle : s.shared.bifrostRound ≤ target) : GateMove s (.poll i c) s.shared .arriving
  | panic {i : ι} {c : κ} (hpc : s.pc (.poll i c) = .readTarget ∨
      ∃ target, s.pc (.poll i c) = .readBifrost target) :
      GateMove s (.poll i c) s.shared .panicked
  | wait {t : GateTask ι κ} (hpc : s.pc t = .arriving) :
      GateMove s t { s.shared with barrier := s.shared.barrier.arrive.1 }
        (.waiting s.shared.barrier.generation)
  | pass {t : GateTask ι κ} {ticket : ℕ} (hpc : s.pc t = .waiting ticket)
      (hover : ticket < s.shared.barrier.generation) : GateMove s t s.shared .passed

/-- A step spawns tasks, moves one task, or raises the round of a chain. -/
lemma gateStep_cases {a : GateAction ι κ} (h : gateStep s a = some s') :
    (∃ i, a = .spawn i ∧ s.pc (.handler i) = .idle ∧ s' = spawned s i) ∨
    (∃ t b p, GateMove s t b p ∧ s' = s.move t b p) ∨
    (∃ round, a = .setBifrostRound round ∧
      s' = { s with shared := { s.shared with bifrostRound := round } }) ∨
    (∃ c round, a = .setRound c round ∧
      s' = { s with shared :=
        { s.shared with round := Function.update s.shared.round c round } }) := by
  cases a with
  | spawn i =>
    simp only [gateStep, Option.ite_none_right_eq_some, Option.some.injEq] at h
    exact .inl ⟨i, rfl, h.1, h.2.symm⟩
  | readTarget i c ok =>
    simp only [gateStep, Option.ite_none_right_eq_some, Option.some.injEq] at h
    obtain ⟨hpc, rfl⟩ := h
    cases ok with
    | true => exact .inr (.inl ⟨_, _, _, .readTarget hpc, rfl⟩)
    | false => exact .inr (.inl ⟨_, _, _, .panic (.inl hpc), rfl⟩)
  | readBifrost i c ok =>
    simp only [gateStep] at h
    split at h
    · next target hpc =>
      obtain rfl := Option.some.inj h
      cases ok with
      | false => exact .inr (.inl ⟨_, _, _, .panic (.inr ⟨target, hpc⟩), rfl⟩)
      | true =>
        by_cases hlt : target < s.shared.bifrostRound
        · exact .inr (.inl ⟨_, _, _, .behind hpc hlt, by simp [compared, hlt]⟩)
        · exact .inr (.inl ⟨_, _, _, .notBehind hpc (BitVec.not_lt.mp hlt),
            by simp [compared, hlt]⟩)
    · cases h
  | wait t =>
    simp only [gateStep, Option.ite_none_right_eq_some, Option.some.injEq,
      Barrier.ticket_arrive] at h
    obtain ⟨hpc, rfl⟩ := h
    exact .inr (.inl ⟨_, _, _, .wait hpc, rfl⟩)
  | pass t =>
    simp only [gateStep] at h
    split at h
    · next ticket hpc =>
      simp only [Option.ite_none_right_eq_some, Option.some.injEq, Barrier.isOver,
        decide_eq_true_eq] at h
      obtain ⟨hover, rfl⟩ := h
      exact .inr (.inl ⟨_, _, _, .pass hpc hover, rfl⟩)
    · cases h
  | setBifrostRound round => exact .inr (.inr (.inl ⟨round, rfl, (Option.some.inj h).symm⟩))
  | setRound c round => exact .inr (.inr (.inr ⟨c, round, rfl, (Option.some.inj h).symm⟩))

/-- A task can always make its step. -/
lemma GateMove.exists_step {t : GateTask ι κ} {b : GateStore κ} {p : GatePc}
    (h : GateMove s t b p) : ∃ a, gateStep s a = some (s.move t b p) ∧ RoundsGrow s a := by
  cases h with
  | @readTarget i c hpc => exact ⟨.readTarget i c true, by simp [gateStep, hpc], trivial⟩
  | @behind i c target hpc hlt =>
    exact ⟨.readBifrost i c true, by simp [gateStep, hpc, compared, hlt], trivial⟩
  | @notBehind i c target hpc hle =>
    exact ⟨.readBifrost i c true,
      by simp [gateStep, hpc, compared, BitVec.not_lt.mpr hle], trivial⟩
  | @panic i c hpc =>
    rcases hpc with hpc | ⟨target, hpc⟩
    · exact ⟨.readTarget i c false, by simp [gateStep, hpc], trivial⟩
    · exact ⟨.readBifrost i c false, by simp [gateStep, hpc], trivial⟩
  | wait hpc => exact ⟨.wait t, by simp [gateStep, hpc], trivial⟩
  | pass hpc hover => exact ⟨.pass t, by simp [gateStep, hpc, Barrier.isOver, hover], trivial⟩

omit [DecidableEq ι] [DecidableEq κ] in
/-- A task that makes a step was spawned, and it stays at the gate. -/
lemma GateMove.ne_idle {t : GateTask ι κ} {b : GateStore κ} {p : GatePc} (h : GateMove s t b p) :
    s.pc t ≠ .idle ∧ p ≠ .idle := by
  cases h with
  | panic hpc => rcases hpc with hpc | ⟨target, hpc⟩ <;> simp [hpc]
  | _ => simp_all

omit [DecidableEq ι] [DecidableEq κ] in
/-- No step is made from where a task panicked. -/
lemma GateMove.ne_panicked {t : GateTask ι κ} {b : GateStore κ} {p : GatePc}
    (h : GateMove s t b p) : s.pc t ≠ .panicked := by
  cases h with
  | panic hpc => rcases hpc with hpc | ⟨target, hpc⟩ <;> simp [hpc]
  | _ => simp_all

/-- A handler that has passed stays so. -/
lemma passed_gateStep {a : GateAction ι κ} (h : gateStep s a = some s')
    (hpassed : s.pc (.handler i) = .passed) : s'.pc (.handler i) = .passed := by
  obtain ⟨j, rfl, hj, rfl⟩ | ⟨t, b, p, hmove, rfl⟩ | ⟨_, rfl, rfl⟩ | ⟨_, _, rfl, rfl⟩ :=
    gateStep_cases h
  · have hij : i ≠ j := by
      rintro rfl
      simp [hpassed] at hj
    simpa [spawned, hij] using hpassed
  · have hne : GateTask.handler i ≠ t := by
      rintro rfl
      cases hmove <;> simp_all
    simpa [Interleaved.move, hne] using hpassed
  · exact hpassed
  · exact hpassed

end Steps

/-! ### Counting the arrivals -/

/-- The tasks as a sum. -/
def gateTaskEquiv (ι κ : Type) : ι ⊕ ι × κ ≃ GateTask ι κ where
  toFun t := t.elim .handler fun ic => .poll ic.1 ic.2
  invFun t :=
    match t with
    | .handler i => .inl i
    | .poll i c => .inr (i, c)
  left_inv t := by rcases t with i | ⟨i, c⟩ <;> rfl
  right_inv t := by cases t <;> rfl

instance [Fintype ι] [Fintype κ] : Fintype (GateTask ι κ) :=
  .ofEquiv _ (gateTaskEquiv ι κ)

omit [DecidableEq ι] [DecidableEq κ] in
/-- A handler has one task for each chain. -/
lemma card_gateTask [Fintype ι] [Fintype κ] :
    Fintype.card (GateTask ι κ) = Fintype.card ι + Fintype.card ι * Fintype.card κ := by
  rw [← Fintype.card_congr (gateTaskEquiv ι κ), Fintype.card_sum, Fintype.card_prod]

/-- What holds at the gate: the barrier has counted the tasks that have arrived, a ticket is of a
generation that has begun, and no task passes before the first generation is over.  The tasks of a
handler are spawned together with its arrival. -/
structure GateInvariant [Fintype ι] [Fintype κ] (size : ℕ) (s : GateState ι κ) : Prop where
  size_eq : s.shared.barrier.size = max size 1
  count : s.numAt GatePc.hasArrived = s.shared.barrier.total
  ticket : ∀ t k, s.pc t = .waiting k → k * s.shared.barrier.size < s.shared.barrier.total
  passed : ∀ t, s.pc t = .passed → 0 < s.shared.barrier.generation
  idle_iff : ∀ i c, s.pc (.poll i c) = .idle ↔ s.pc (.handler i) = .idle
  handler : ∀ i, s.pc (.handler i) = .idle ∨ s.pc (.handler i) = .arriving ∨
    (s.pc (.handler i)).hasArrived = true

section Invariant

variable [Fintype ι] [Fintype κ] {size : ℕ} {s s' : GateState ι κ}

omit [DecidableEq ι] [DecidableEq κ] in
lemma gateInvariant_start (size : ℕ) (bifrostRound : U256) (round : κ → U256) :
    GateInvariant size (gateStart size bifrostRound round : GateState ι κ) where
  size_eq := rfl
  count := by simp [gateStart, Interleaved.numAt, GatePc.hasArrived]
  ticket t k h := by simp [gateStart] at h
  passed t h := by simp [gateStart] at h
  idle_iff i c := by simp [gateStart]
  handler i := .inl rfl

/-- A task is counted when it arrives. -/
lemma GateMove.count {t : GateTask ι κ} {b : GateStore κ} {p : GatePc} (h : GateMove s t b p)
    (hs : s.numAt GatePc.hasArrived = s.shared.barrier.total) :
    (s.move t b p).numAt GatePc.hasArrived = b.barrier.total := by
  cases h with
  | readTarget hpc => rw [Interleaved.numAt_move_of_eq (by simp [hpc, GatePc.hasArrived]), hs]
  | behind hpc => rw [Interleaved.numAt_move_of_eq (by simp [hpc, GatePc.hasArrived]), hs]
  | notBehind hpc => rw [Interleaved.numAt_move_of_eq (by simp [hpc, GatePc.hasArrived]), hs]
  | @panic i c hpc =>
    have hold : GatePc.hasArrived .panicked = (s.pc (.poll i c)).hasArrived := by
      rcases hpc with hpc | ⟨target, hpc⟩ <;> simp [hpc, GatePc.hasArrived]
    rw [Interleaved.numAt_move_of_eq hold, hs]
  | wait hpc =>
    rw [Interleaved.numAt_move_of_new (by simp [hpc, GatePc.hasArrived]) rfl, hs]
    exact Barrier.total_arrive.symm
  | pass hpc => rw [Interleaved.numAt_move_of_eq (by simp [hpc, GatePc.hasArrived]), hs]

omit [DecidableEq ι] [DecidableEq κ] [Fintype ι] [Fintype κ] in
/-- The barrier only goes forward. -/
lemma GateMove.barrier {t : GateTask ι κ} {b : GateStore κ} {p : GatePc} (h : GateMove s t b p) :
    b.barrier.size = s.shared.barrier.size ∧ s.shared.barrier.total ≤ b.barrier.total ∧
      s.shared.barrier.generation ≤ b.barrier.generation := by
  cases h with
  | wait hpc => exact ⟨Barrier.size_arrive, by simp, Barrier.generation_le_arrive⟩
  | _ => exact ⟨rfl, le_rfl, le_rfl⟩

lemma GateInvariant.move {t : GateTask ι κ} {b : GateStore κ} {p : GatePc}
    (h : GateInvariant size s) (hmove : GateMove s t b p) :
    GateInvariant size (s.move t b p) := by
  obtain ⟨hsize, htotal, hgeneration⟩ := hmove.barrier
  obtain ⟨hold, hnew⟩ := hmove.ne_idle
  have hidle : ∀ u, (s.move t b p).pc u = .idle ↔ s.pc u = .idle := by
    intro u
    by_cases hu : u = t
    · subst hu
      simp [Interleaved.move, hold, hnew]
    · simp [Interleaved.move, hu]
  constructor
  · exact hsize.trans h.size_eq
  · exact hmove.count h.count
  · intro u k hk
    by_cases hu : u = t
    · subst hu
      obtain rfl : p = .waiting k := by simpa [Interleaved.move] using hk
      cases hmove with
      | wait hpc =>
        have hle : s.shared.barrier.generation * s.shared.barrier.size ≤ _ :=
          Barrier.generation_mul_le
        simpa [Interleaved.move] using Nat.lt_succ_of_le hle
    · have hbefore := h.ticket u k (by simpa [Interleaved.move, hu] using hk)
      exact (hsize ▸ hbefore).trans_le htotal
  · intro u hpassed
    by_cases hu : u = t
    · subst hu
      obtain rfl : p = .passed := by simpa [Interleaved.move] using hpassed
      cases hmove with
      | pass hpc hover => exact Nat.zero_lt_of_lt hover
    · exact (h.passed u (by simpa [Interleaved.move, hu] using hpassed)).trans_le hgeneration
  · intro i c
    rw [hidle, hidle]
    exact h.idle_iff i c
  · intro i
    by_cases hu : GateTask.handler i = t
    · subst hu
      refine .inr (.inr ?_)
      cases hmove <;> simp [Interleaved.move, GatePc.hasArrived]
    · simpa [Interleaved.move, hu] using h.handler i

/-- Every step keeps the invariant. -/
lemma GateInvariant.step {a : GateAction ι κ} (h : GateInvariant size s)
    (hstep : gateStep s a = some s') : GateInvariant size s' := by
  obtain ⟨i, rfl, hidle, rfl⟩ | ⟨t, b, p, hmove, rfl⟩ | ⟨round, rfl, rfl⟩ | ⟨c, round, rfl, rfl⟩ :=
    gateStep_cases hstep
  · -- None of the tasks that are spawned had arrived before.
    have hbefore : ∀ t, (spawned s i).pc t = s.pc t ∨
        s.pc t = .idle ∧ ((spawned s i).pc t = .arriving ∨ (spawned s i).pc t = .readTarget) := by
      rintro (j | ⟨j, c⟩)
      · by_cases hj : j = i
        · subst hj
          exact .inr ⟨hidle, .inl (by simp [spawned])⟩
        · exact .inl (by simp [spawned, hj])
      · by_cases hj : j = i
        · subst hj
          exact .inr ⟨(h.idle_iff j c).mpr hidle, .inr (by simp [spawned])⟩
        · exact .inl (by simp [spawned, hj])
    constructor
    · exact h.size_eq
    · rw [Interleaved.numAt_congr (s := s)]
      · exact h.count
      · intro t
        rcases hbefore t with heq | ⟨hold, hnew | hnew⟩
        · rw [heq]
        · rw [hold, hnew]
          rfl
        · rw [hold, hnew]
          rfl
    · intro t k hk
      rcases hbefore t with heq | ⟨-, hnew | hnew⟩
      · exact h.ticket t k (heq ▸ hk)
      · simp [hnew] at hk
      · simp [hnew] at hk
    · intro t hpassed
      rcases hbefore t with heq | ⟨-, hnew | hnew⟩
      · exact h.passed t (heq ▸ hpassed)
      · simp [hnew] at hpassed
      · simp [hnew] at hpassed
    · intro j c
      by_cases hj : j = i
      · simp [spawned, hj]
      · simpa [spawned, hj] using h.idle_iff j c
    · intro j
      by_cases hj : j = i
      · simp [spawned, hj]
      · simpa [spawned, hj] using h.handler j
  · exact h.move hmove
  · exact ⟨h.size_eq, h.count, h.ticket, h.passed, h.idle_iff, h.handler⟩
  · exact ⟨h.size_eq, h.count, h.ticket, h.passed, h.idle_iff, h.handler⟩

lemma gateInvariant_of_run {bifrostRound : U256} {round : κ → U256} {tr : List (GateAction ι κ)}
    (h : (gateSystem size bifrostRound round).Run tr s) : GateInvariant size s := by
  refine h.invariant ?_ fun s a s' hs hstep => hs.step hstep.1
  rintro s rfl
  exact gateInvariant_start size bifrostRound round

omit [DecidableEq ι] [DecidableEq κ] in
/-- A task has passed only if the barrier was full. -/
lemma GateInvariant.full (h : GateInvariant size s) {t : GateTask ι κ}
    (hpassed : s.pc t = .passed) : size ≤ s.shared.barrier.total :=
  calc size ≤ s.shared.barrier.size := by rw [h.size_eq]; exact le_max_left _ _
    _ ≤ s.shared.barrier.generation * s.shared.barrier.size :=
        Nat.le_mul_of_pos_left _ (h.passed t hpassed)
    _ ≤ s.shared.barrier.total := Barrier.generation_mul_le

omit [DecidableEq ι] [DecidableEq κ] in
/-- If a barrier has a place for every task, none passes before all have arrived. -/
lemma GateInvariant.all_arrived (h : GateInvariant size s)
    (hcard : Fintype.card (GateTask ι κ) ≤ size) {t : GateTask ι κ} (hpassed : s.pc t = .passed)
    (u : GateTask ι κ) : (s.pc u).hasArrived = true :=
  Interleaved.forall_of_numAt (hcard.trans ((h.full hpassed).trans_eq h.count.symm)) u

end Invariant

/-! ### What the gate is there for -/

/-- The handler spawned its tasks at an earlier moment of the run, and since then every external
chain has reached the round that Bifrost had at that moment. -/
def CaughtUp (size : ℕ) (bifrostRound : U256) (round : κ → U256) (tr : List (GateAction ι κ))
    (s : GateState ι κ) (i : ι) : Prop :=
  ∃ before after s₁, tr = before ++ .spawn i :: after ∧
    (gateSystem size bifrostRound round).Run before s₁ ∧
    ∀ c, s₁.shared.bifrostRound ≤ s.shared.round c

/-- The gate lets no handler pass before the external chains have caught up. -/
def GateSound (ι κ : Type) [DecidableEq ι] [DecidableEq κ] (size : ℕ) : Prop :=
  ∀ (bifrostRound : U256) (round : κ → U256) (tr : List (GateAction ι κ)) (s : GateState ι κ)
    (i : ι), (gateSystem size bifrostRound round).Run tr s → s.pc (.handler i) = .passed →
      CaughtUp size bifrostRound round tr s i

/-- What a task of the handler `i` knows where it stands, if Bifrost had the round `past` when it was
spawned. -/
def knows (i : ι) (past : U256) : GateTask ι κ → GatePc → GateStore κ → Prop
  | .poll j c, .readBifrost target, b =>
      (j = i → target ≤ b.round c) ∧ past ≤ b.bifrostRound
  | .poll j c, .arriving, b => (j = i → past ≤ b.round c) ∧ past ≤ b.bifrostRound
  | .poll j c, .waiting _, b => (j = i → past ≤ b.round c) ∧ past ≤ b.bifrostRound
  | .poll j c, .passed, b => (j = i → past ≤ b.round c) ∧ past ≤ b.bifrostRound
  | _, _, b => past ≤ b.bifrostRound

section Knowledge

variable {s s' : GateState ι κ} {i : ι} {past : U256}

omit [DecidableEq ι] [DecidableEq κ] in
lemma le_of_knows {t : GateTask ι κ} {p : GatePc} {b : GateStore κ} (h : knows i past t p b) :
    past ≤ b.bifrostRound := by
  cases t <;> cases p <;> first | exact h | exact h.2

omit [DecidableEq ι] [DecidableEq κ] in
/-- What a task knows stays true while the rounds grow. -/
lemma knows_mono {t : GateTask ι κ} {p : GatePc} {b b' : GateStore κ}
    (hbifrost : b.bifrostRound ≤ b'.bifrostRound) (hround : ∀ c, b.round c ≤ b'.round c)
    (h : knows i past t p b) : knows i past t p b' := by
  have hpast := BitVec.le_trans (le_of_knows h) hbifrost
  cases t with
  | handler j => cases p <;> exact hpast
  | poll j c =>
    cases p with
    | readBifrost _ => exact ⟨fun hj => BitVec.le_trans (h.1 hj) (hround c), hpast⟩
    | arriving => exact ⟨fun hj => BitVec.le_trans (h.1 hj) (hround c), hpast⟩
    | waiting _ => exact ⟨fun hj => BitVec.le_trans (h.1 hj) (hround c), hpast⟩
    | passed => exact ⟨fun hj => BitVec.le_trans (h.1 hj) (hround c), hpast⟩
    | _ => exact hpast

/-- The two reads of a task prove that the chain has caught up. -/
lemma Asserts.gateMove {t : GateTask ι κ} {b : GateStore κ} {p : GatePc}
    (h : s.Asserts (knows i past)) (hmove : GateMove s t b p) :
    (s.move t b p).Asserts (knows i past) := by
  have hown := h t
  have hothers : ∀ u, u ≠ t → knows i past u (s.pc u) s.shared → knows i past u (s.pc u) b := by
    intro u _ hu
    cases hmove with
    | wait _ => exact knows_mono (b := s.shared) (BitVec.le_refl _) (fun _ => BitVec.le_refl _) hu
    | _ => exact hu
  refine h.move ?_ hothers
  cases hmove with
  | readTarget hpc => exact ⟨fun _ => BitVec.le_refl _, le_of_knows hown⟩
  | behind hpc hlt => exact le_of_knows hown
  | notBehind hpc hle =>
    rw [hpc] at hown
    exact ⟨fun hj => BitVec.le_trans hown.2 (BitVec.le_trans hle (hown.1 hj)), hown.2⟩
  | panic hpc => exact le_of_knows hown
  | wait hpc =>
    rw [hpc] at hown
    cases t with
    | handler j => exact hown
    | poll j c => exact hown
  | pass hpc hover =>
    rw [hpc] at hown
    cases t with
    | handler j => exact hown
    | poll j c => exact hown

/-- Every step keeps what the tasks know. -/
lemma Asserts.gateStep {a : GateAction ι κ} (h : s.Asserts (knows i past))
    (hstep : gateStep s a = some s') (hgrow : RoundsGrow s a) : s'.Asserts (knows i past) := by
  obtain ⟨j, rfl, hidle, rfl⟩ | ⟨t, b, p, hmove, rfl⟩ | ⟨round, rfl, rfl⟩ | ⟨c, round, rfl, rfl⟩ :=
    gateStep_cases hstep
  · intro t
    have hbefore := h t
    have hpast := le_of_knows hbefore
    cases t with
    | handler k => cases hpc : (spawned s j).pc (.handler k) <;> exact hpast
    | poll k c =>
      by_cases hk : k = j
      · have hpc : (spawned s j).pc (.poll k c) = .readTarget := by simp [spawned, hk]
        rw [hpc]
        exact hpast
      · simpa [spawned, hk] using hbefore
  · exact Asserts.gateMove h hmove
  · exact fun t => knows_mono hgrow (fun _ => BitVec.le_refl _) (h t)
  · refine fun t => knows_mono (b := s.shared) (BitVec.le_refl _) (fun d => ?_) (h t)
    by_cases hd : d = c
    · subst hd
      simpa [RoundsGrow] using hgrow
    · simp [hd]

omit [DecidableEq κ] in
/-- At the moment when the tasks of a handler are spawned they know the round of Bifrost. -/
lemma asserts_spawned : (spawned s i).Asserts (knows i s.shared.bifrostRound) := by
  rintro (j | ⟨j, c⟩)
  · cases (spawned s i).pc (.handler j) <;> exact BitVec.le_refl _
  · by_cases hj : j = i
    · have hpc : (spawned s i).pc (.poll j c) = .readTarget := by simp [spawned, hj]
      rw [hpc]
      exact BitVec.le_refl _
    · cases (spawned s i).pc (.poll j c) <;>
        first | exact BitVec.le_refl _ | exact ⟨fun h => absurd h hj, BitVec.le_refl _⟩

end Knowledge

section Runs

variable {size : ℕ} {bifrostRound : U256} {round : κ → U256}
  {tr : List (GateAction ι κ)} {s : GateState ι κ} {i : ι}

/-- In every run there is the moment when a handler spawned its tasks, and they know the round that
Bifrost had then. -/
lemma exists_spawned_of_run (h : (gateSystem size bifrostRound round).Run tr s)
    (hspawned : s.pc (.handler i) ≠ .idle) :
    ∃ before after s₁, tr = before ++ .spawn i :: after ∧
      (gateSystem size bifrostRound round).Run before s₁ ∧
      s.Asserts (knows i s₁.shared.bifrostRound) := by
  revert hspawned
  refine h.induction (P := fun tr s => s.pc (.handler i) ≠ .idle →
    ∃ before after s₁, tr = before ++ .spawn i :: after ∧
      (gateSystem size bifrostRound round).Run before s₁ ∧
      s.Asserts (knows i s₁.shared.bifrostRound)) ?_ ?_
  · rintro s rfl hspawned
    exact absurd rfl hspawned
  · rintro tr s a s' hrun ih ⟨hstep, hgrow⟩ hspawned
    by_cases hidle : s.pc (.handler i) = .idle
    · obtain ⟨j, rfl, hj, rfl⟩ | ⟨t, b, p, hmove, rfl⟩ | ⟨round, rfl, rfl⟩ | ⟨c, round, rfl, rfl⟩ :=
        gateStep_cases hstep
      · by_cases hij : i = j
        · subst hij
          exact ⟨tr, [], s, rfl, hrun, asserts_spawned⟩
        · exact absurd (by simp [spawned, hij, hidle]) hspawned
      · have hne : GateTask.handler i ≠ t := by
          rintro rfl
          exact hmove.ne_idle.1 hidle
        exact absurd (by simp [Interleaved.move, hne, hidle]) hspawned
      · exact absurd hidle hspawned
      · exact absurd hidle hspawned
    · obtain ⟨before, after, s₁, rfl, hbefore, hknows⟩ := ih hidle
      exact ⟨before, after ++ [a], s₁, by simp, hbefore,
        Asserts.gateStep hknows hstep hgrow⟩

/-- If all tasks of a handler have arrived, the external chains have caught up. -/
lemma caughtUp_of_arrived (h : (gateSystem size bifrostRound round).Run tr s)
    (hspawned : s.pc (.handler i) ≠ .idle)
    (harrived : ∀ c, (s.pc (.poll i c)).hasArrived = true) :
    CaughtUp size bifrostRound round tr s i := by
  obtain ⟨before, after, s₁, htr, hbefore, hknows⟩ := exists_spawned_of_run h hspawned
  refine ⟨before, after, s₁, htr, hbefore, fun c => ?_⟩
  have hown := hknows (.poll i c)
  have hpc := harrived c
  cases hp : s.pc (.poll i c) with
  | waiting k =>
    rw [hp] at hown
    exact hown.1 rfl
  | passed =>
    rw [hp] at hown
    exact hown.1 rfl
  | _ => simp [hp, GatePc.hasArrived] at hpc

/-- The round of Bifrost is never less than at the start. -/
lemma bifrostRound_le_of_run (h : (gateSystem size bifrostRound round).Run tr s) :
    bifrostRound ≤ s.shared.bifrostRound := by
  refine h.invariant (P := fun s => bifrostRound ≤ s.shared.bifrostRound) ?_ ?_
  · rintro s rfl
    exact BitVec.le_refl _
  · rintro s a s' hle ⟨hstep, hgrow⟩
    obtain ⟨j, rfl, hj, rfl⟩ | ⟨t, b, p, hmove, rfl⟩ | ⟨round, rfl, rfl⟩ | ⟨c, round, rfl, rfl⟩ :=
      gateStep_cases hstep
    · exact hle
    · cases hmove <;> exact hle
    · exact BitVec.le_trans hle hgrow
    · exact hle

end Runs

/-! ### Whether the gate can open -/

/-- The state `s'` can be reached from `s`. -/
def GateReach : GateState ι κ → GateState ι κ → Prop :=
  Relation.ReflTransGen fun s s' => ∃ a, gateStep s a = some s' ∧ RoundsGrow s a

/-- The state `s'` is reached from `s` by steps of the task `t`, and of the contract of its chain. -/
structure MovesAlone (t : GateTask ι κ) (s s' : GateState ι κ) : Prop where
  reach : GateReach s s'
  pc : ∀ u, u ≠ t → s'.pc u = s.pc u
  bifrostRound : s'.shared.bifrostRound = s.shared.bifrostRound
  round : ∀ d, (∀ j, t ≠ .poll j d) → s'.shared.round d = s.shared.round d

namespace MovesAlone

variable {s s' s'' : GateState ι κ} {t : GateTask ι κ}

lemma refl (s : GateState ι κ) (t : GateTask ι κ) : MovesAlone t s s :=
  ⟨.refl, fun _ _ => rfl, rfl, fun _ _ => rfl⟩

lemma trans (h : MovesAlone t s s') (h' : MovesAlone t s' s'') : MovesAlone t s s'' where
  reach := h.reach.trans h'.reach
  pc u hu := (h'.pc u hu).trans (h.pc u hu)
  bifrostRound := h'.bifrostRound.trans h.bifrostRound
  round d hd := (h'.round d hd).trans (h.round d hd)

lemma move {b : GateStore κ} {p : GatePc} (h : GateMove s t b p) :
    MovesAlone t s (s.move t b p) where
  reach := .single h.exists_step
  pc u hu := by simp [Interleaved.move, hu]
  bifrostRound := by cases h <;> rfl
  round d _ := by cases h <;> rfl

/-- The chain of a task catches up with Bifrost. -/
lemma raise (s : GateState ι κ) (i : ι) (c : κ) :
    ∃ s', MovesAlone (.poll i c) s s' ∧ s'.pc (.poll i c) = s.pc (.poll i c) ∧
      s'.shared.bifrostRound ≤ s'.shared.round c := by
  by_cases hle : s.shared.bifrostRound ≤ s.shared.round c
  · exact ⟨s, refl s _, rfl, hle⟩
  · have hlt : s.shared.round c < s.shared.bifrostRound := BitVec.not_le.mp hle
    refine ⟨{ s with shared :=
      { s.shared with round := Function.update s.shared.round c s.shared.bifrostRound } },
      ⟨.single ⟨.setRound c s.shared.bifrostRound, rfl, BitVec.le_of_lt hlt⟩, fun _ _ => rfl, rfl,
        fun d hd => ?_⟩, rfl, by simp⟩
    have hne : d ≠ c := by
      rintro rfl
      exact hd i rfl
    simp [hne]

/-- A task before `wait` arrives. -/
lemma arrives (hpc : s.pc t = .arriving) :
    ∃ s', MovesAlone t s s' ∧ (s'.pc t).hasArrived = true :=
  ⟨_, move (.wait hpc), by simp [Interleaved.move, GatePc.hasArrived]⟩

/-- A task that begins to compare arrives, if its chain is not behind. -/
lemma arrives_of_readTarget {i : ι} {c : κ} (hpc : s.pc (.poll i c) = .readTarget)
    (hle : s.shared.bifrostRound ≤ s.shared.round c) :
    ∃ s', MovesAlone (.poll i c) s s' ∧ (s'.pc (.poll i c)).hasArrived = true := by
  have hread := move (.readTarget hpc)
  generalize hs₁ : s.move (.poll i c) s.shared (.readBifrost (s.shared.round c)) = s₁ at hread
  have hpc₁ : s₁.pc (.poll i c) = .readBifrost (s.shared.round c) := by
    simp [← hs₁, Interleaved.move]
  have hle₁ : s₁.shared.bifrostRound ≤ s.shared.round c := by
    simpa [← hs₁, Interleaved.move] using hle
  have hcompared := move (.notBehind hpc₁ hle₁)
  obtain ⟨s', hwait, harrived⟩ :=
    arrives (s := s₁.move (.poll i c) s₁.shared .arriving) (t := .poll i c)
      (by simp [Interleaved.move])
  exact ⟨s', (hread.trans hcompared).trans hwait, harrived⟩

/-- A task that was spawned and did not panic arrives, once its chain has caught up. -/
lemma poll_arrives {i : ι} {c : κ} (hidle : s.pc (.poll i c) ≠ .idle)
    (hpanicked : s.pc (.poll i c) ≠ .panicked) :
    ∃ s', MovesAlone (.poll i c) s s' ∧ (s'.pc (.poll i c)).hasArrived = true := by
  obtain ⟨s₁, hraise, hpc, hle⟩ := raise s i c
  cases hp : s.pc (.poll i c) with
  | idle => exact absurd hp hidle
  | readTarget =>
    obtain ⟨s₂, hmoves, harrived⟩ := arrives_of_readTarget (hpc.trans hp) hle
    exact ⟨s₂, hraise.trans hmoves, harrived⟩
  | readBifrost target =>
    by_cases hlt : target < s₁.shared.bifrostRound
    · have hbehind := move (.behind (hpc.trans hp) hlt)
      obtain ⟨s₂, hmoves, harrived⟩ :=
        arrives_of_readTarget (s := s₁.move (.poll i c) s₁.shared .readTarget) (i := i)
          (by simp [Interleaved.move]) hle
      exact ⟨s₂, (hraise.trans hbehind).trans hmoves, harrived⟩
    · have hcompared := move (.notBehind (hpc.trans hp) (BitVec.not_lt.mp hlt))
      obtain ⟨s₂, hmoves, harrived⟩ :=
        arrives (s := s₁.move (.poll i c) s₁.shared .arriving) (t := .poll i c)
          (by simp [Interleaved.move])
      exact ⟨s₂, (hraise.trans hcompared).trans hmoves, harrived⟩
  | arriving =>
    obtain ⟨s₂, hmoves, harrived⟩ := arrives hp
    exact ⟨s₂, hmoves, harrived⟩
  | waiting k => exact ⟨s, refl s _, by simp [hp, GatePc.hasArrived]⟩
  | passed => exact ⟨s, refl s _, by simp [hp, GatePc.hasArrived]⟩
  | panicked => exact absurd hp hpanicked

end MovesAlone

section Opening

variable {s s' : GateState ι κ} {i : ι}

/-- A handler that is done with its logs spawns its tasks. -/
lemma reach_spawned (hidle : s.pc (.handler i) = .idle) : GateReach s (spawned s i) :=
  .single ⟨.spawn i, by simp [gateStep, hidle], trivial⟩

/-- The tasks for a set of chains arrive one after the other. -/
lemma polls_arrive (i : ι) (K : Finset κ) (hidle : ∀ c ∈ K, s.pc (.poll i c) ≠ .idle)
    (hpanicked : ∀ c ∈ K, s.pc (.poll i c) ≠ .panicked) :
    ∃ s', GateReach s s' ∧ (∀ c ∈ K, (s'.pc (.poll i c)).hasArrived = true) ∧
      (∀ t, (∀ c ∈ K, t ≠ .poll i c) → s'.pc t = s.pc t) ∧
      s'.shared.bifrostRound = s.shared.bifrostRound ∧
      ∀ c, c ∉ K → s'.shared.round c = s.shared.round c := by
  induction K using Finset.induction_on with
  | empty => exact ⟨s, .refl, by simp, fun _ _ => rfl, rfl, fun _ _ => rfl⟩
  | insert c K hc ih =>
    obtain ⟨s₁, hreach, harrived, hpc, hbifrost, hround⟩ :=
      ih (fun d hd => hidle d (Finset.mem_insert_of_mem hd))
        (fun d hd => hpanicked d (Finset.mem_insert_of_mem hd))
    have hsame : s₁.pc (.poll i c) = s.pc (.poll i c) := by
      refine hpc _ fun d hd heq => ?_
      obtain ⟨-, rfl⟩ := GateTask.poll.inj heq
      exact hc hd
    obtain ⟨s₂, hmoves, hlast⟩ :=
      MovesAlone.poll_arrives (hsame ▸ hidle c (Finset.mem_insert_self c K))
        (hsame ▸ hpanicked c (Finset.mem_insert_self c K))
    refine ⟨s₂, hreach.trans hmoves.reach, ?_, ?_, hmoves.bifrostRound.trans hbifrost, ?_⟩
    · intro d hd
      rcases Finset.mem_insert.mp hd with rfl | hd
      · exact hlast
      · have hne : GateTask.poll i d ≠ .poll i c := by
          intro heq
          exact hc ((GateTask.poll.inj heq).2 ▸ hd)
        rw [hmoves.pc _ hne]
        exact harrived d hd
    · intro t ht
      rw [hmoves.pc t (ht c (Finset.mem_insert_self c K))]
      exact hpc t fun d hd => ht d (Finset.mem_insert_of_mem hd)
    · intro d hd
      rw [Finset.mem_insert, not_or] at hd
      rw [hmoves.round d (by simpa using Ne.symm hd.1), hround d hd.2]

variable {size : ℕ} {bifrostRound : U256} {round : κ → U256} {tr : List (GateAction ι κ)}

/-- What is reached after a run is the end of a longer run. -/
lemma GateReach.run (h : GateReach s s')
    (hrun : (gateSystem size bifrostRound round).Run tr s) :
    ∃ tr', (gateSystem size bifrostRound round).Run tr' s' := by
  induction h with
  | refl => exact ⟨tr, hrun⟩
  | tail _ hstep ih =>
    obtain ⟨tr', hrun'⟩ := ih
    obtain ⟨a, ha⟩ := hstep
    exact ⟨tr' ++ [a], hrun'.snoc ha⟩

/-- A task that panicked stays so. -/
lemma GateReach.panicked [Fintype ι] [Fintype κ] (h : GateReach s s') {c : κ}
    (hs : GateInvariant size s) (hpc : s.pc (.poll i c) = .panicked) :
    s'.pc (.poll i c) = .panicked := by
  have hboth : GateInvariant size s' ∧ s'.pc (.poll i c) = .panicked := by
    induction h with
    | refl => exact ⟨hs, hpc⟩
    | tail _ hstep ih =>
      obtain ⟨hinv, hp⟩ := ih
      obtain ⟨a, ha, -⟩ := hstep
      refine ⟨hinv.step ha, ?_⟩
      obtain ⟨j, rfl, hj, rfl⟩ | ⟨t, b, p, hmove, rfl⟩ | ⟨_, rfl, rfl⟩ | ⟨_, _, rfl, rfl⟩ :=
        gateStep_cases ha
      · have hij : i ≠ j := by
          rintro rfl
          simp [(hinv.idle_iff i c).mpr hj] at hp
        simpa [spawned, hij] using hp
      · have hne : GateTask.poll i c ≠ t := by
          rintro rfl
          exact hmove.ne_panicked hp
        simpa [Interleaved.move, hne] using hp
      · exact hp
      · exact hp
  exact hboth.2

/-- A waiting task passes when the first generation is full and its ticket is for that. -/
lemma passes_of_full [Fintype ι] [Fintype κ] (hs : GateInvariant size s) (hsize : 0 < size)
    {t : GateTask ι κ} (harrived : (s.pc t).hasArrived = true)
    (hfull : size ≤ s.shared.barrier.total)
    (hfirst : s.shared.barrier.total = size ∨ s.pc t = .waiting 0) :
    ∃ s', GateReach s s' ∧ s'.pc t = .passed ∧ s'.shared = s.shared := by
  have hbarrier : s.shared.barrier.size = size := by
    rw [hs.size_eq]
    omega
  cases hp : s.pc t with
  | waiting k =>
    have hk : k = 0 := by
      rcases hfirst with htotal | hwaiting
      · have hlt := hs.ticket t k hp
        rw [hbarrier, htotal] at hlt
        exact Nat.lt_one_iff.mp (lt_of_mul_lt_mul_right (by simpa using hlt) hsize.le)
      · simpa [hp] using hwaiting
    have hover : k < s.shared.barrier.generation := by
      rw [Barrier.ticket_lt_iff, hk, hbarrier]
      simpa using hfull
    exact ⟨_, (MovesAlone.move (.pass hp hover)).reach, by simp [Interleaved.move], rfl⟩
  | passed => exact ⟨s, .refl, hp, rfl⟩
  | _ => simp [hp, GatePc.hasArrived] at harrived

/-- From a state in which no task panicked, a single handler passes a barrier that has exactly its
places, if the environment plays along. -/
lemma can_pass [Fintype ι] [Fintype κ] [Subsingleton ι] (i : ι)
    (hrun : (gateSystem (Fintype.card κ + 1) bifrostRound round).Run tr s)
    (hpanicked : ∀ c, s.pc (.poll i c) ≠ .panicked) :
    ∃ s', GateReach s s' ∧ s'.pc (.handler i) = .passed := by
  -- First the handler spawns its tasks, if it has not.
  obtain ⟨s₁, hreach₁, hspawned, hpanicked₁⟩ : ∃ s₁, GateReach s s₁ ∧
      s₁.pc (.handler i) ≠ .idle ∧ ∀ c, s₁.pc (.poll i c) ≠ .panicked := by
    by_cases hidle : s.pc (.handler i) = .idle
    · exact ⟨spawned s i, reach_spawned hidle, by simp [spawned], by simp [spawned]⟩
    · exact ⟨s, .refl, hidle, hpanicked⟩
  obtain ⟨tr₁, hrun₁⟩ := hreach₁.run hrun
  have hinv₁ := gateInvariant_of_run hrun₁
  -- Then all of them arrive, and the handler does.
  obtain ⟨s₂, hreach₂, harrived₂, hpc₂, -, -⟩ := polls_arrive i Finset.univ
    (fun c _ => mt (hinv₁.idle_iff i c).mp hspawned) (fun c _ => hpanicked₁ c)
  have hhandler₂ : s₂.pc (.handler i) = s₁.pc (.handler i) := hpc₂ _ (by simp)
  obtain ⟨s₃, hmoves₃, harrived₃⟩ :
      ∃ s₃, MovesAlone (.handler i) s₂ s₃ ∧ (s₃.pc (.handler i)).hasArrived = true := by
    rcases hinv₁.handler i with hidle | harriving | harrived
    · exact absurd hidle hspawned
    · exact MovesAlone.arrives (hhandler₂.trans harriving)
    · exact ⟨s₂, .refl s₂ _, by rw [hhandler₂]; exact harrived⟩
  have hreach₃ : GateReach s s₃ := (hreach₁.trans hreach₂).trans hmoves₃.reach
  obtain ⟨tr₃, hrun₃⟩ := hreach₃.run hrun
  have hinv₃ := gateInvariant_of_run hrun₃
  -- Now the barrier has counted all tasks there are.
  have hall : ∀ t, (s₃.pc t).hasArrived = true := by
    rintro (j | ⟨j, c⟩)
    · rw [Subsingleton.elim j i]
      exact harrived₃
    · rw [Subsingleton.elim j i, hmoves₃.pc _ (by simp)]
      exact harrived₂ c (Finset.mem_univ c)
  have hcard : Fintype.card ι = 1 :=
    le_antisymm (Fintype.card_le_one_iff_subsingleton.mpr ‹_›) (Fintype.card_pos_iff.mpr ⟨i⟩)
  have htotal : s₃.shared.barrier.total = Fintype.card κ + 1 := by
    rw [← hinv₃.count, Interleaved.numAt, Finset.filter_true_of_mem fun t _ => hall t,
      Finset.card_univ, card_gateTask, hcard]
    omega
  obtain ⟨s₄, hreach₄, hpassed, -⟩ :=
    passes_of_full hinv₃ (Nat.succ_pos _) harrived₃ htotal.ge (.inl htotal)
  exact ⟨s₄, hreach₃.trans hreach₄, hpassed⟩

end Opening

/-! ### The places of the barrier -/

section Configuration

variable {evmProviders : List EvmProvider}

/-- A chain whose client is not native has an external provider. -/
lemma externalClients_subset :
    externalClients evmProviders ⊆ (externalIds evmProviders).toFinset := by
  intro c hc
  rw [externalClients, Finset.mem_filter, isExternal, Option.any_eq_true] at hc
  obtain ⟨-, client, hclient, hexternal⟩ := hc
  obtain ⟨p, hp, hid, rfl⟩ := exists_provider_of_newClients hclient
  have hsays : (!p.saysNative) = true := hexternal
  exact List.mem_toFinset.mpr (List.mem_map.mpr ⟨p, List.mem_filter.mpr ⟨hp, hsays⟩, hid⟩)

/-- There is a place for every external chain and for one handler, and no other place exactly if the
external chains are distinct. -/
lemma card_externalClients (evmProviders : List EvmProvider) :
    (externalClients evmProviders).card + 1 ≤ roundupBarrierSize evmProviders ∧
    (roundupBarrierSize evmProviders = (externalClients evmProviders).card + 1 ↔
      DistinctExternals evmProviders) := by
  have hsize : roundupBarrierSize evmProviders = (externalIds evmProviders).length + 1 := by
    simp [roundupBarrierSize, externalIds]
  have hsub : (externalClients evmProviders).card ≤ (externalIds evmProviders).toFinset.card :=
    Finset.card_le_card externalClients_subset
  have hlength := (externalIds evmProviders).toFinset_card_le
  refine ⟨by omega, ?_, ?_⟩
  · intro heq
    have hnodup : (externalIds evmProviders).Nodup :=
      Multiset.toFinset_card_eq_card_iff_nodup.mp
        (show (externalIds evmProviders).toFinset.card = (externalIds evmProviders).length by omega)
    have hall : externalClients evmProviders = (externalIds evmProviders).toFinset :=
      Finset.eq_of_subset_of_card_le externalClients_subset (by omega)
    refine ⟨hnodup, fun c hc => ?_⟩
    have hmem : c ∈ externalClients evmProviders := hall ▸ List.mem_toFinset.mpr hc
    exact (Finset.mem_filter.mp hmem).2
  · rintro ⟨hnodup, hexternal⟩
    have hall : (externalIds evmProviders).toFinset ⊆ externalClients evmProviders := by
      intro c hc
      have hc' := List.mem_toFinset.mp hc
      obtain ⟨p, hp, hid⟩ := List.mem_map.mp hc'
      refine Finset.mem_filter.mpr ⟨List.mem_toFinset.mpr ?_, hexternal c hc'⟩
      exact List.mem_map.mpr ⟨p, List.mem_of_mem_filter hp, hid⟩
    have hcard := Finset.card_le_card hall
    rw [List.toFinset_card_of_nodup hnodup] at hcard hsub
    omega

lemma card_externals (evmProviders : List EvmProvider) :
    Fintype.card (externalClients evmProviders) = (externalClients evmProviders).card :=
  Fintype.card_coe _

/-- With one handler, the gate can still open exactly if the external chains are distinct and no task
has panicked.  Otherwise it stays shut for ever. -/
theorem gate_can_open_iff (evmProviders : List EvmProvider) {bifrostRound : U256}
    {round : externalClients evmProviders → U256}
    {tr : List (GateAction Unit (externalClients evmProviders))}
    {s : GateState Unit (externalClients evmProviders)}
    (h : (gateSystem (roundupBarrierSize evmProviders) bifrostRound round).Run tr s) :
    (∃ s', GateReach s s' ∧ s'.pc (.handler ()) = .passed) ↔
      DistinctExternals evmProviders ∧ ∀ c, s.pc (.poll () c) ≠ .panicked := by
  obtain ⟨hle, hiff⟩ := card_externalClients evmProviders
  constructor
  · rintro ⟨s', hreach, hpassed⟩
    obtain ⟨tr', hrun'⟩ := hreach.run h
    have hinv' := gateInvariant_of_run hrun'
    have htasks : Fintype.card (GateTask Unit (externalClients evmProviders)) =
        (externalClients evmProviders).card + 1 := by
      rw [card_gateTask, card_externals, Fintype.card_unit]
      omega
    constructor
    · refine hiff.mp (le_antisymm ?_ hle)
      calc roundupBarrierSize evmProviders ≤ s'.shared.barrier.total := hinv'.full hpassed
        _ = s'.numAt GatePc.hasArrived := hinv'.count.symm
        _ ≤ (externalClients evmProviders).card + 1 :=
            (Interleaved.numAt_le _ s').trans_eq htasks
    · intro c hpanicked
      have harrived := hinv'.all_arrived (htasks.trans_le hle) hpassed (.poll () c)
      rw [hreach.panicked (gateInvariant_of_run h) hpanicked] at harrived
      cases harrived
  · rintro ⟨hdistinct, hpanicked⟩
    rw [hiff.mpr hdistinct, ← card_externals] at h
    exact can_pass () h hpanicked

end Configuration

/-! ### Two handlers -/

section TwoHandlers

variable [Fintype ι] [Fintype κ]

/-- One handler passes only after all its tasks. -/
lemma gateSound_of_subsingleton [Subsingleton ι] : GateSound ι κ (Fintype.card κ + 1) := by
  intro bifrostRound round tr s i hrun hpassed
  have hone : Fintype.card ι ≤ 1 := Fintype.card_le_one_iff_subsingleton.mpr ‹_›
  have htasks : Fintype.card (GateTask ι κ) ≤ Fintype.card κ + 1 := by
    rw [card_gateTask]
    have hmul := Nat.mul_le_mul_right (Fintype.card κ) hone
    omega
  have hall := (gateInvariant_of_run hrun).all_arrived htasks hpassed
  exact caughtUp_of_arrived hrun (by simp [hpassed]) fun c => hall (.poll i c)

omit [Fintype ι] [Fintype κ] in
/-- Without external chains there is nothing to wait for. -/
lemma gateSound_of_isEmpty [IsEmpty κ] (size : ℕ) : GateSound ι κ size :=
  fun _ _ _ _ _ hrun hpassed => caughtUp_of_arrived hrun (by simp [hpassed]) isEmptyElim

/-- A second handler takes the place of a chain that is behind. -/
lemma not_gateSound {i j : ι} (hij : i ≠ j) (c : κ) : ¬GateSound ι κ (Fintype.card κ + 1) := by
  intro hsound
  -- Only the chain `c` is behind Bifrost.
  generalize hround : (fun d => if d = c then 0 else 1 : κ → U256) = round
  have hstart : (gateSystem (Fintype.card κ + 1) 1 round).Run []
      (gateStart (Fintype.card κ + 1) 1 round : GateState ι κ) := .start rfl
  -- Both handlers spawn their tasks and wait.
  let s₀ : GateState ι κ := gateStart (Fintype.card κ + 1) 1 round
  let s₂ := spawned (spawned s₀ i) j
  have hspawned : GateReach s₀ s₂ :=
    (reach_spawned (s := s₀) rfl).trans
      (reach_spawned (s := spawned s₀ i) (by simp [spawned, s₀, gateStart, hij.symm]))
  have hi₂ : s₂.pc (.handler i) = .arriving := by simp [s₂, spawned, hij]
  have hfirst := MovesAlone.move (.wait hi₂)
  generalize hs₃ : s₂.move (.handler i) _ _ = s₃ at hfirst
  have hi₃ : s₃.pc (.handler i) = .waiting 0 := by
    simp [← hs₃, Interleaved.move, s₂, s₀, shared_spawned, gateStart, Barrier.new]
  have hj₃ : s₃.pc (.handler j) = .arriving := by
    rw [hfirst.pc _ (by simpa using hij.symm)]
    simp [s₂, spawned]
  have hsecond := MovesAlone.move (.wait hj₃)
  generalize hs₄ : s₃.move (.handler j) _ _ = s₄ at hsecond
  have hi₄ : s₄.pc (.handler i) = .waiting 0 := by
    rw [hsecond.pc _ (by simpa using hij), hi₃]
  have hj₄ : (s₄.pc (.handler j)).hasArrived = true := by
    simp [← hs₄, Interleaved.move, GatePc.hasArrived]
  -- The tasks for the other chains arrive.
  have hpolls : ∀ d, s₄.pc (.poll i d) = .readTarget := by
    intro d
    rw [hsecond.pc _ (by simp), hfirst.pc _ (by simp)]
    simp [s₂, spawned, hij]
  obtain ⟨s₅, hothers, harrived, hpc, hbifrost, hrounds⟩ :=
    polls_arrive i (Finset.univ.erase c) (s := s₄) (by simp [hpolls]) (by simp [hpolls])
  have hreach₅ : GateReach s₀ s₅ :=
    ((hspawned.trans hfirst.reach).trans hsecond.reach).trans hothers
  obtain ⟨tr₅, hrun₅⟩ := hreach₅.run hstart
  have hinv₅ := gateInvariant_of_run hrun₅
  have hi₅ : s₅.pc (.handler i) = .waiting 0 := (hpc _ (by simp)).trans hi₄
  have hj₅ : (s₅.pc (.handler j)).hasArrived = true := by rwa [hpc _ (by simp)]
  -- The two handlers and these tasks fill the barrier.
  have hfull : Fintype.card κ + 1 ≤ s₅.shared.barrier.total := by
    let polled : Finset (GateTask ι κ) := (Finset.univ.erase c).image (GateTask.poll i)
    have hcard : (insert (.handler i) (insert (.handler j) polled)).card = Fintype.card κ + 1 := by
      have hpos : 0 < Fintype.card κ := Fintype.card_pos_iff.mpr ⟨c⟩
      rw [Finset.card_insert_of_notMem (by simp [hij, polled]),
        Finset.card_insert_of_notMem (by simp [polled]),
        Finset.card_image_of_injective _ fun _ _ h => (GateTask.poll.inj h).2,
        Finset.card_erase_of_mem (Finset.mem_univ c), Finset.card_univ]
      omega
    rw [← hcard, ← hinv₅.count]
    refine Finset.card_le_card fun t ht => Finset.mem_filter.mpr ⟨Finset.mem_univ t, ?_⟩
    rcases Finset.mem_insert.mp ht with rfl | ht
    · rw [hi₅]
      rfl
    rcases Finset.mem_insert.mp ht with rfl | ht
    · exact hj₅
    · obtain ⟨d, hd, rfl⟩ := Finset.mem_image.mp ht
      exact harrived d hd
  obtain ⟨s₆, hpass, hpassed, hshared⟩ :=
    passes_of_full hinv₅ (Nat.succ_pos _) (by simp [hi₅, GatePc.hasArrived]) hfull (.inr hi₅)
  have hreach₆ : GateReach s₀ s₆ := hreach₅.trans hpass
  obtain ⟨tr₆, hrun₆⟩ := hreach₆.run hstart
  obtain ⟨before, -, s₁, -, hbefore, hcaught⟩ := hsound 1 round tr₆ s₆ i hrun₆ hpassed
  have hlow : s₆.shared.round c = 0 := by
    rw [hshared, hrounds c (by simp), hsecond.round c (by simp), hfirst.round c (by simp)]
    simp [s₂, s₀, shared_spawned, gateStart, ← hround]
  have hone : (1 : U256) ≤ 0 :=
    BitVec.le_trans (bifrostRound_le_of_run hbefore) (hlow ▸ hcaught c)
  exact absurd hone (by decide)

end TwoHandlers

/-- Several handlers share the barrier, which has a place for one of them.  They keep each other from
waiting for the external chains, unless there is no such chain. -/
theorem gate_sound_iff {evmProviders : List EvmProvider} (h : DistinctExternals evmProviders)
    (handlers : ℕ) :
    GateSound (Fin handlers) (externalClients evmProviders) (roundupBarrierSize evmProviders) ↔
      handlers ≤ 1 ∨ externalClients evmProviders = ∅ := by
  rw [(card_externalClients evmProviders).2.mpr h, ← card_externals]
  constructor
  · intro hsound
    by_contra hneither
    rw [not_or, not_le] at hneither
    obtain ⟨hmany, hsome⟩ := hneither
    obtain ⟨c, hc⟩ := Finset.nonempty_iff_ne_empty.mpr hsome
    have hne : (⟨0, Nat.zero_lt_of_lt hmany⟩ : Fin handlers) ≠ ⟨1, hmany⟩ := by simp
    exact not_gateSound hne ⟨c, hc⟩ hsound
  · rintro (hone | hnone)
    · have : Subsingleton (Fin handlers) := Fin.subsingleton_iff_le_one.mpr hone
      exact gateSound_of_subsingleton
    · have : IsEmpty (externalClients evmProviders) := ⟨fun c => by simpa [hnone] using c.2⟩
      exact gateSound_of_isEmpty _

/-! ### A sample configuration -/

/-- Bifrost and two external chains. -/
def sampleChains : List EvmProvider := [⟨1, some true⟩, ⟨2, none⟩, ⟨3, some false⟩]

/-- The first external chain. -/
def sampleChain : externalClients sampleChains := ⟨2, by decide⟩

lemma distinctExternals_sampleChains : DistinctExternals sampleChains := by
  refine ⟨by decide, ?_⟩
  decide

/-- The gate of the sample configuration keeps one handler waiting, and not three. -/
theorem gate_sound_sample :
    GateSound (Fin 1) (externalClients sampleChains) (roundupBarrierSize sampleChains) ∧
      ¬GateSound (Fin 3) (externalClients sampleChains) (roundupBarrierSize sampleChains) := by
  refine ⟨(gate_sound_iff distinctExternals_sampleChains 1).mpr (.inl le_rfl), ?_⟩
  rw [gate_sound_iff distinctExternals_sampleChains 3]
  decide

/-- A task of the sample configuration panics, and the gate stays shut. -/
theorem gate_cannot_open_after_panic :
    ∃ s : GateState Unit (externalClients sampleChains),
      (∃ tr, (gateSystem (roundupBarrierSize sampleChains) 1 fun _ => 0).Run tr s) ∧
      ¬∃ s', GateReach s s' ∧ s'.pc (.handler ()) = .passed := by
  let s₀ : GateState Unit (externalClients sampleChains) :=
    gateStart (roundupBarrierSize sampleChains) 1 fun _ => 0
  have hinit : (gateSystem (roundupBarrierSize sampleChains) 1 fun _ => 0).init s₀ := rfl
  obtain ⟨s, hrun, hpc⟩ := LabelledSystem.exists_run_of_foldlM
    (f := fun (s : GateState Unit (externalClients sampleChains)) a =>
      if RoundsGrow s a then gateStep s a else none) hinit
    (by
      intro s a s' hs
      rw [Option.ite_none_right_eq_some] at hs
      exact ⟨hs.2, hs.1⟩)
    [.spawn (), .readTarget () sampleChain false]
    (fun s => decide (s.pc (.poll () sampleChain) = .panicked)) (by decide)
  refine ⟨s, ⟨_, hrun⟩, ?_⟩
  rw [gate_can_open_iff sampleChains hrun]
  rintro ⟨-, hnone⟩
  exact hnone sampleChain (by simpa using hpc)

end Roundup

end BifrostRelayer
