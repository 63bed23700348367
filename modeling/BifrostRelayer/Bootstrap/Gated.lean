import BifrostRelayer.Bootstrap.Phases
import BifrostRelayer.Roundup.Gate

/-!
# The bootstrap behind the gate

The write with which the round-up relay handler ends its bootstrap stands behind `roundup_barrier`.
Here the tasks of the bootstrap run together with the tasks at the gate: the handler spawns them when
it is at work, an error can occur only before that, and its write waits for the barrier.

Nothing else moves a chain past `BootstrapRoundUpPhase2`.  So no relay is made before the external
chains have caught up with Bifrost, and one failed call of `latest_round` stops the relayer for ever
without stopping a single task that is restarted.
-/

namespace BifrostRelayer

namespace Bootstrap

open BootstrapState Roundup

variable {κ : Type} [DecidableEq κ]

/-- The chains of `external_clients`. -/
abbrev External (cfg : BootstrapConfig κ) : Type := {c : κ // c ≠ cfg.bifrost}

/-- The tasks of the bootstrap, and the tasks at the gate. -/
structure Gated (cfg : BootstrapConfig κ) where
  phases : Phases κ
  gate : GateState Unit (External cfg)

/-- A step of the bootstrap or at the gate. -/
inductive GatedStep (cfg : BootstrapConfig κ) where
  | phase (a : PhaseStep κ)
  | gate (a : GateAction Unit (External cfg))
deriving DecidableEq

variable {cfg : BootstrapConfig κ}

/-- The handler ends its bootstrap when it has passed the gate; an error ends it only before it has
spawned its tasks. -/
def Gated.allows (s : Gated cfg) : PhaseStep κ → Bool
  | .task .roundupRelay .working true => decide (s.gate.pc (.handler ()) = .passed)
  | .task .roundupRelay .working false => decide (s.gate.pc (.handler ()) = .idle)
  | _ => true

/-- The handler spawns its tasks when it is at work. -/
def Gated.allowsGate (s : Gated cfg) : GateAction Unit (External cfg) → Bool
  | .spawn _ => decide (s.phases.tasks.pc .roundupRelay = .working)
  | _ => true

/-- One step. -/
def gatedStep [Fintype κ] (s : Gated cfg) : GatedStep cfg → Option (Gated cfg)
  | .phase a =>
      if s.allows a then (phaseStep cfg s.phases a).map fun phases => { s with phases := phases }
      else none
  | .gate a =>
      if s.allowsGate a then (gateStep s.gate a).map fun gate => { s with gate := gate } else none

/-- The authority contracts never go back to an earlier round. -/
def GatedGrow (s : Gated cfg) : GatedStep cfg → Prop
  | .phase _ => True
  | .gate a => RoundsGrow s.gate a

instance (s : Gated cfg) (a : GatedStep cfg) : Decidable (GatedGrow s a) :=
  match a with
  | .phase _ => .isTrue trivial
  | .gate a => inferInstanceAs (Decidable (RoundsGrow s.gate a))

/-- The start of an enabled bootstrap, with a place at the barrier for every external chain. -/
def startGated [Fintype κ] (cfg : BootstrapConfig κ) (bifrostRound : U256)
    (round : External cfg → U256) : Gated cfg where
  phases := startPhases true
  gate := gateStart (Fintype.card (External cfg) + 1) bifrostRound round

/-- The interleavings of all tasks. -/
def gatedSystem [Fintype κ] (cfg : BootstrapConfig κ) (bifrostRound : U256)
    (round : External cfg → U256) : LabelledSystem (Gated cfg) (GatedStep cfg) where
  init s := s = startGated cfg bifrostRound round
  step s a s' := gatedStep s a = some s' ∧ GatedGrow s a

/-- The part of a trace that is at the gate. -/
def gateTrace (tr : List (GatedStep cfg)) : List (GateAction Unit (External cfg)) :=
  tr.filterMap fun
    | .phase _ => none
    | .gate a => some a

/-! ### The relayer before the gate is open -/

/-- No chain is past the phase that ends with the gate. -/
def Held (b : Board κ) : Prop := ∀ c, b.evm c ≤ bootstrapRoundUpPhase2

/-- A task before the gate is open: it has not gone to work for a later phase, and only the round-up
emitter can be in its main loop. -/
def stalled : Task κ → Pc → Board κ → Prop
  | .roundupEmitter, _, b => Held b
  | .queuePoller _, p, b | .socketRelay _, p, b | .onflight, p, b =>
      Held b ∧ p ≠ .working ∧ p ≠ .loop
  | _, p, b => Held b ∧ p ≠ .loop

/-- No chain is past the phase, and no handler is in its main loop. -/
structure Stalled (s : Phases κ) : Prop where
  tasks : s.tasks.Asserts stalled
  handlers : ∀ u, s.handlers u = .waitAll

section Stalling

variable {b b' : Board κ} {t : Task κ} {p p' : Pc}

omit [DecidableEq κ] in
lemma held_of_stalled (h : stalled t p b) : Held b := by
  cases t with
  | roundupEmitter => exact h
  | _ => exact h.1

omit [DecidableEq κ] in
lemma not_loop_of_stalled (h : stalled t p b) (ht : t ≠ .roundupEmitter) : p ≠ .loop := by
  cases t with
  | roundupEmitter => exact absurd rfl ht
  | queuePoller c | socketRelay c | onflight => exact h.2.2
  | _ => exact h.2

omit [DecidableEq κ] in
/-- Where a task stands does not depend on how far the chains are. -/
lemma stalled_mono (h : stalled t p b) (hheld : Held b') : stalled t p b' := by
  cases t with
  | roundupEmitter => exact hheld
  | _ => exact ⟨hheld, h.2⟩

omit [DecidableEq κ] in
/-- No chain has finished. -/
lemma Held.ne_normalStart (h : Held b) (c : κ) : b.evm c ≠ normalStart := by
  intro heq
  have hle := h c
  rw [heq] at hle
  exact absurd hle (by decide)

omit [DecidableEq κ] in
/-- Nobody gets past `wait_for_all_chains_bootstrapped`. -/
lemma Held.not_allBootstrapped [Fintype κ] [Nonempty κ] (h : Held b) :
    allBootstrapped b = false := by
  obtain ⟨c⟩ := ‹Nonempty κ›
  simp only [allBootstrapped, Bool.and_eq_false_iff, decide_eq_false_iff_not]
  exact .inl fun hall => h.ne_normalStart c (hall c)

omit [DecidableEq κ] in
/-- A task that neither works nor is in its main loop is before the gate with its chains. -/
lemma stalled_of_held (h : Held b) (hworking : p ≠ .working) (hloop : p ≠ .loop) :
    stalled t p b := by
  cases t with
  | roundupEmitter => exact h
  | queuePoller c | socketRelay c | onflight => exact ⟨h, hworking, hloop⟩
  | _ => exact ⟨h, hloop⟩

omit [DecidableEq κ] in
lemma stalled_runStart (h : Held b) : stalled t t.runStart b := by
  cases t <;> exact stalled_of_held h (by simp [Task.runStart]) (by simp [Task.runStart])

/-- One chain moves on, and not past the phase. -/
lemma Held.update (h : Held b) {c : κ} {x : BootstrapState} (hx : x ≤ bootstrapRoundUpPhase2) :
    Held { b with evm := Function.update b.evm c x } := by
  intro d
  by_cases hd : d = c
  · subst hd
    simpa using hx
  · simpa [hd] using h d

omit [DecidableEq κ] in
/-- A task goes to work only for a phase that its chain is in. -/
lemma stalled_working [Fintype κ] (h : Held b) (hready : isReady cfg b t = true) :
    stalled t .working b := by
  have hno : ∀ c x, bootstrapRoundUpPhase2 < x → b.evm c ≠ x := by
    rintro c x hlt rfl
    exact absurd (h c) (not_le.mpr hlt)
  cases t with
  | roundupEmitter => exact h
  | queuePoller c => exact absurd (of_decide_eq_true hready) (hno c _ (by decide))
  | socketRelay c => exact absurd (of_decide_eq_true hready) (hno c _ (by decide))
  | onflight => exact absurd (of_decide_eq_true hready) (hno cfg.bifrost _ (by decide))
  | _ => exact ⟨h, by simp⟩

omit [DecidableEq κ] in
/-- A task that is not called to bootstrap goes on to its wait for all chains, since no chain has
finished. -/
lemma stalled_entered (h : Held b) :
    stalled t (if shouldBootstrap cfg b t then .waiting else t.afterBootstrap) b := by
  split
  · exact stalled_of_held h (by simp) (by simp)
  · next hno =>
    cases t with
    | roundupEmitter => exact h
    | onflight => simp [shouldBootstrap] at hno
    | _ => exact stalled_of_held h (by simp [Task.afterBootstrap]) (by simp [Task.afterBootstrap])

/-- A step of a task other than the write behind the gate keeps all chains before the gate. -/
lemma stalled_step [Fintype κ] [Nonempty κ] {ok : Bool} (h : stalled t p b)
    (hstep : taskStep cfg b t p ok = some (b', p'))
    (hgate : ¬(t = .roundupRelay ∧ p = .working ∧ ok = true)) : stalled t p' b' := by
  have hheld := held_of_stalled h
  cases ok with
  | false =>
    simp only [taskStep, Bool.false_eq_true, if_false, Option.ite_none_right_eq_some,
      Option.some.injEq, Prod.mk.injEq] at hstep
    obtain ⟨-, rfl, rfl⟩ := hstep
    exact stalled_runStart hheld
  | true =>
    cases p with
    | starting =>
      simp only [taskStep, if_true, Option.some.injEq, Prod.mk.injEq] at hstep
      obtain ⟨rfl, rfl⟩ := hstep
      split
      · exact stalled_of_held hheld (by simp) (by simp)
      · exact stalled_runStart hheld
    | syncing =>
      cases t with
      | eventManager c =>
        obtain ⟨rfl, rfl⟩ : _ = b' ∧ _ = p' := by simpa [taskStep, synced] using hstep
        exact ⟨hheld.update (by decide), by simp⟩
      | blockManager =>
        obtain ⟨rfl, rfl⟩ : _ = b' ∧ _ = p' := by simpa [taskStep, synced] using hstep
        exact ⟨hheld, by simp⟩
      | _ => simp [taskStep, synced] at hstep
    | flushing =>
      cases t with
      | eventManager c =>
        obtain ⟨rfl, rfl⟩ : _ = b' ∧ _ = p' := by simpa [taskStep, flushed] using hstep
        exact ⟨hheld.update (by decide), by simp⟩
      | _ => simp [taskStep, flushed] at hstep
    | enter =>
      simp only [taskStep, if_true, Option.some.injEq, Prod.mk.injEq] at hstep
      obtain ⟨rfl, rfl⟩ := hstep
      exact stalled_entered hheld
    | waiting =>
      simp only [taskStep, if_true, Option.ite_none_right_eq_some, Option.some.injEq,
        Prod.mk.injEq] at hstep
      obtain ⟨hready, rfl, rfl⟩ := hstep
      exact stalled_working hheld hready
    | working =>
      simp only [taskStep, if_true, Option.some.injEq, Prod.mk.injEq] at hstep
      obtain ⟨rfl, rfl⟩ := hstep
      cases t with
      | eventManager c => exact ⟨hheld, by simp [Task.afterBootstrap]⟩
      | roundupEmitter => exact fun _ => le_rfl
      | roundupRelay => exact absurd ⟨rfl, rfl, rfl⟩ hgate
      | queuePoller c | socketRelay c | onflight => exact absurd rfl h.2.1
      | blockManager => exact ⟨hheld, by simp [Task.afterBootstrap]⟩
    | waitAll => simp [taskStep, hheld.not_allBootstrapped] at hstep
    | loop =>
      simp only [taskStep, if_true, Option.some.injEq, Prod.mk.injEq] at hstep
      obtain ⟨rfl, rfl⟩ := hstep
      exact stalled_runStart hheld

end Stalling

/-! ### Runs -/

variable [Fintype κ] {bifrostRound : U256} {round : External cfg → U256}
  {tr : List (GatedStep cfg)} {s s' : Gated cfg}

/-- A step of the bootstrap, or one at the gate. -/
lemma gatedStep_cases {a : GatedStep cfg} (h : gatedStep s a = some s') :
    (∃ x, a = .phase x ∧ s.allows x = true ∧ phaseStep cfg s.phases x = some s'.phases ∧
        s'.gate = s.gate) ∨
      ∃ x, a = .gate x ∧ gateStep s.gate x = some s'.gate ∧ s'.phases = s.phases := by
  cases a with
  | phase x =>
    simp only [gatedStep, Option.ite_none_right_eq_some, Option.map_eq_some_iff] at h
    obtain ⟨hallows, phases, hphase, rfl⟩ := h
    exact .inl ⟨x, rfl, hallows, hphase, rfl⟩
  | gate x =>
    simp only [gatedStep, Option.ite_none_right_eq_some, Option.map_eq_some_iff] at h
    obtain ⟨-, gate, hgate, rfl⟩ := h
    exact .inr ⟨x, rfl, hgate, rfl⟩

/-- What happens at the gate is a run of the gate. -/
lemma gate_run (h : (gatedSystem cfg bifrostRound round).Run tr s) :
    (gateSystem (Fintype.card (External cfg) + 1) bifrostRound round).Run (gateTrace tr) s.gate := by
  refine h.induction (P := fun tr s =>
    (gateSystem (Fintype.card (External cfg) + 1) bifrostRound round).Run (gateTrace tr) s.gate)
    ?_ ?_
  · rintro s rfl
    exact .start rfl
  · rintro tr s a s' - ih ⟨hstep, hgrow⟩
    rcases gatedStep_cases hstep with ⟨x, rfl, -, -, hgate⟩ | ⟨x, rfl, hgate, -⟩
    · simpa [gateTrace, hgate] using ih
    · have hsnoc := ih.snoc (S := gateSystem (Fintype.card (External cfg) + 1) bifrostRound round)
        (a := x) ⟨hgate, hgrow⟩
      simpa [gateTrace] using hsnoc

omit [DecidableEq κ] [Fintype κ] in
/-- The chains start before the gate. -/
lemma stalled_startPhases : Stalled (startPhases true : Phases κ) where
  tasks t := by
    cases t <;>
      exact stalled_of_held (fun _ => by simp [startPhases]; decide)
        (by simp [startPhases, initial]) (by simp [startPhases, initial])
  handlers _ := rfl

/-- A step that the gate allows before it is open keeps the chains before the gate. -/
lemma Stalled.phaseStep {phases phases' : Phases κ} {a : PhaseStep κ} (h : Stalled phases)
    (hstep : phaseStep cfg phases a = some phases')
    (hgate : a ≠ .task .roundupRelay .working true) : Stalled phases' := by
  have : Nonempty κ := ⟨cfg.bifrost⟩
  rcases phaseStep_cases hstep with ⟨t, ok, rfl, hact, hhandlers⟩ | ⟨u, p, rfl, hmove, rfl⟩
  · obtain ⟨-, b', p', htask, htasks⟩ := act_eq_some hact
    have hown := stalled_step (h.tasks t) htask fun ⟨ht, hp, hok⟩ => hgate (by rw [ht, hok, ← hp, ht])
    constructor
    · rw [htasks]
      exact h.tasks.move hown fun u _ hu => stalled_mono hu (held_of_stalled hown)
    · rw [hhandlers]
      exact h.handlers
  · have hheld := held_of_stalled (h.tasks .roundupEmitter)
    simp [handlerStep, h.handlers u, hheld.not_allBootstrapped] at hmove

/-- Before the handler has passed the gate, no chain is past the phase. -/
lemma stalled_of_run (h : (gatedSystem cfg bifrostRound round).Run tr s)
    (hshut : s.gate.pc (.handler ()) ≠ .passed) : Stalled s.phases := by
  revert hshut
  refine h.invariant (P := fun s => s.gate.pc (.handler ()) ≠ .passed → Stalled s.phases) ?_ ?_
  · rintro s rfl -
    exact stalled_startPhases
  · rintro s a s' ih ⟨hstep, -⟩ hshut
    rcases gatedStep_cases hstep with ⟨x, rfl, hallows, hphase, hgate⟩ | ⟨x, rfl, hgate, hphases⟩
    · rw [hgate] at hshut
      refine (ih hshut).phaseStep hphase ?_
      rintro rfl
      exact hshut (of_decide_eq_true hallows)
    · rw [hphases]
      exact ih fun hpassed => hshut (passed_gateStep hgate hpassed)

/-- Some chain is past `BootstrapRoundUpPhase2`, or a task that relays is in its main loop. -/
def Relaying (s : Phases κ) : Prop :=
  (∃ c, bootstrapRoundUpPhase2 < s.tasks.shared.evm c) ∨
    (∃ t, t ≠ .roundupEmitter ∧ s.tasks.pc t = .loop) ∨ ∃ u, s.handlers u = .loop

omit [DecidableEq κ] [Fintype κ] in
lemma Stalled.not_relaying {phases : Phases κ} (h : Stalled phases) : ¬Relaying phases := by
  rintro (⟨c, hc⟩ | ⟨t, ht, hloop⟩ | ⟨u, hu⟩)
  · exact absurd (held_of_stalled (h.tasks .roundupEmitter) c) (not_le.mpr hc)
  · exact not_loop_of_stalled (h.tasks t) ht hloop
  · simp [h.handlers u] at hu

/-- Nothing is relayed before every external chain has reached the round that Bifrost had when the
round-up relay handler came to the gate. -/
theorem relaying_behind_gate (h : (gatedSystem cfg bifrostRound round).Run tr s)
    (hrelaying : Relaying s.phases) :
    CaughtUp (Fintype.card (External cfg) + 1) bifrostRound round (gateTrace tr) s.gate () := by
  have hpassed : s.gate.pc (.handler ()) = .passed := by
    by_contra hshut
    exact (stalled_of_run h hshut).not_relaying hrelaying
  exact gateSound_of_subsingleton _ _ _ _ _ (gate_run h) hpassed

/-- A failed call of `latest_round` at the gate stops the relayer for ever: nothing is relayed in any
state that is reached from there. -/
theorem panic_stops_bootstrap (h : (gatedSystem cfg bifrostRound round).Run tr s)
    {c : External cfg} (hpanicked : s.gate.pc (.poll () c) = .panicked)
    (hpath : Relation.ReflTransGen
      (fun s s' => ∃ a, (gatedSystem cfg bifrostRound round).step s a s') s s') :
    ¬Relaying s'.phases := by
  obtain ⟨⟨tr', hrun'⟩, hreach⟩ : (∃ tr', (gatedSystem cfg bifrostRound round).Run tr' s') ∧
      GateReach s.gate s'.gate := by
    induction hpath with
    | refl => exact ⟨⟨tr, h⟩, .refl⟩
    | tail _ ha ih =>
      obtain ⟨⟨tr', hrun'⟩, hreach⟩ := ih
      obtain ⟨a, ha⟩ := ha
      refine ⟨⟨tr' ++ [a], hrun'.snoc ha⟩, ?_⟩
      rcases gatedStep_cases ha.1 with ⟨x, rfl, -, -, hgate⟩ | ⟨x, rfl, hgate, -⟩
      · rwa [hgate]
      · exact hreach.tail ⟨x, hgate, ha.2⟩
  have hstill := hreach.panicked (gateInvariant_of_run (gate_run h)) hpanicked
  refine (stalled_of_run hrun' fun hpassed => ?_).not_relaying
  have htasks : Fintype.card (GateTask Unit (External cfg)) ≤ Fintype.card (External cfg) + 1 := by
    rw [card_gateTask, Fintype.card_unit]
    omega
  have harrived :=
    (gateInvariant_of_run (gate_run hrun')).all_arrived htasks hpassed (.poll () c)
  rw [hstill] at harrived
  cases harrived

/-! ### A sample run -/

/-- Bifrost and one external chain. -/
def gatedSample : BootstrapConfig Bool := ⟨false, true, fun _ => true, true⟩

/-- The external chain. -/
def gatedChain : External gatedSample := ⟨true, by decide⟩

/-- The chains come to the phase that ends with the gate, and the handler goes to work. -/
def stepsToGate : List (GatedStep gatedSample) :=
  [.phase (.task (.eventManager false) .starting true),
    .phase (.task (.eventManager false) .syncing true),
    .phase (.task (.eventManager false) .flushing true),
    .phase (.task (.eventManager true) .starting true),
    .phase (.task (.eventManager true) .syncing true),
    .phase (.task (.eventManager true) .flushing true),
    .phase (.task .roundupEmitter .enter true),
    .phase (.task .roundupEmitter .waiting true),
    .phase (.task .roundupEmitter .working true),
    .phase (.task .roundupRelay .enter true),
    .phase (.task .roundupRelay .waiting true),
    .gate (.spawn ())]

/-- The external chain is behind at first, and then both tasks pass. -/
def stepsThroughGate : List (GatedStep gatedSample) :=
  [.gate (.wait (.handler ())),
    .gate (.readTarget () gatedChain true),
    .gate (.readBifrost () gatedChain true),
    .gate (.setRound gatedChain 5),
    .gate (.readTarget () gatedChain true),
    .gate (.readBifrost () gatedChain true),
    .gate (.wait (.poll () gatedChain)),
    .gate (.pass (.handler ())),
    .phase (.task .roundupRelay .working true)]

/-- The steps of the sample runs can be computed. -/
lemma exists_gated_run (steps : List (GatedStep gatedSample)) (P : Gated gatedSample → Bool)
    (h : (steps.foldlM (fun s a => if GatedGrow s a then gatedStep s a else none)
      (startGated gatedSample 5 fun _ => 4)).any P = true) :
    ∃ s, (gatedSystem gatedSample 5 fun _ => 4).Run steps s ∧ P s = true := by
  refine LabelledSystem.exists_run_of_foldlM (S := gatedSystem gatedSample 5 fun _ => 4)
    (f := fun s a => if GatedGrow s a then gatedStep s a else none) rfl ?_ steps P h
  intro s a s' hs
  rw [Option.ite_none_right_eq_some] at hs
  exact ⟨hs.2, hs.1⟩

/-- The chains of the sample go on, and the external one has caught up. -/
theorem relaying_behind_gate_sample :
    ∃ s : Gated gatedSample, Relaying s.phases ∧
      CaughtUp (Fintype.card (External gatedSample) + 1) 5 (fun _ => 4)
        (gateTrace (stepsToGate ++ stepsThroughGate)) s.gate () := by
  obtain ⟨s, hrun, hpast⟩ := exists_gated_run (stepsToGate ++ stepsThroughGate)
    (fun s => decide (bootstrapRoundUpPhase2 < s.phases.tasks.shared.evm true)) (by decide)
  have hrelaying : Relaying s.phases := .inl ⟨true, of_decide_eq_true hpast⟩
  exact ⟨s, hrelaying, relaying_behind_gate hrun hrelaying⟩

/-- The call for the external chain of the sample fails, and nothing is ever relayed. -/
theorem panic_stops_bootstrap_sample :
    ∃ s : Gated gatedSample, s.gate.pc (.poll () gatedChain) = .panicked ∧
      ∀ s', Relation.ReflTransGen
        (fun s s' => ∃ a, (gatedSystem gatedSample 5 fun _ => 4).step s a s') s s' →
        ¬Relaying s'.phases := by
  obtain ⟨s, hrun, hpanicked⟩ := exists_gated_run
    (stepsToGate ++ [.gate (.readTarget () gatedChain false)])
    (fun s => decide (s.gate.pc (.poll () gatedChain) = .panicked)) (by decide)
  have hpc := of_decide_eq_true hpanicked
  exact ⟨s, hpc, fun s' hpath => panic_stops_bootstrap hrun hpc hpath⟩

end Bootstrap

end BifrostRelayer
