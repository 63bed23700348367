import BifrostRelayer.Foundation.Runs
import BifrostRelayer.Primitives.Signatures

/-!
# The round-up emitter

The emitter polls the latest round of the Bifrost chain.  When it has grown, the emitter fetches the
relayers of the new round, polls for them with a `round_control_poll` if it was selected in the
round before, and only then records the round and updates the signer of its client.  Four calls can
fail on the way.  `run` then returns, `service.rs` calls it again on the same instance, and the
first thing that `run` does is to read the latest round into `current_round`.

The model starts in the main loop, with all chains in `NormalStart`, so a restarted `run` goes from
this read straight back to the loop.  A step is one tick of the loop or one start of `run`, and its
label lists what was read and requested.
-/

namespace BifrostRelayer

namespace Roundup

open SolidityAbi

/-- `U256`, the type of round numbers. -/
abbrev U256 : Type := BitVec 256

/-- The order of addresses, by their bytes. -/
def addressLe (a b : Address) : Bool := decide (a.bytes.val ≤ b.bytes.val)

/-- `Address::default()`. -/
def zeroAddress : Address := ⟨FixedBytes.repeatByte 20 0⟩

/-- The round before. -/
def prevRound (round : U256) : U256 := round - 1

/-- `Round_Up_Submit`. -/
structure RoundUpSubmit where
  round : U256
  newRelayers : List Address
  sigs : Signatures
deriving DecidableEq

/-! ### The tasks of one tick -/

/-- A request of the emitter: `round_control_poll` with its argument and sender. -/
structure RoundControlPoll where
  submit : RoundUpSubmit
  sender : Address
deriving DecidableEq

/-- The replies that the calls of one tick get. -/
structure TickReplies where
  /-- `latest_round` of the authority. -/
  latestRound : Except Report U256
  /-- `previous_selected_relayers` for a round. -/
  previousSelectedRelayers : U256 → Except Report (List Address)
  /-- `is_previous_selected_relayer` for a round and an account. -/
  isPreviousSelectedRelayer : U256 → Address → Except Report Bool
  /-- `sign_message`. -/
  signMessage : List UInt8 → Except Report Signature

/-- What the emitter reads and requests, in order. -/
inductive Action where
  /-- `get_latest_round` returned `latest` while `current_round` was `before`. -/
  | readLatestRound (before latest : U256)
  /-- `fetch_validator_list` returned the relayers of a round. -/
  | fetchedValidatorList (round : U256) (relayers : List Address)
  /-- `is_selected_relayer` was evaluated for a round. -/
  | checkedSelected (round : U256) (selected : Bool)
  /-- `round_control_poll` was requested. -/
  | requestedPoll (poll : RoundControlPoll)
  /-- `update_default_address` was called with relayers. -/
  | updatedDefaultAddress (relayers : List Address)
deriving DecidableEq

/-- The emitter and the signer of its client. -/
structure EmitterState where
  currentRound : U256
  /-- `default_address` of the client. -/
  defaultAddress : Address
  /-- `run` is in its main loop. -/
  running : Bool
deriving DecidableEq

/-- `fetch_validator_list`. -/
def fetchValidatorList (r : TickReplies) (round : U256) : Except Report (List Address) :=
  (r.previousSelectedRelayers round).map fun addresses =>
    addresses.insertionSort fun a b => addressLe a b = true

/-- `build_transaction`. -/
def buildTransaction (r : TickReplies) (round : U256) (newRelayers : List Address)
    (sender : Address) : Except Report RoundControlPoll :=
  (r.signMessage (encodeRoundupParam round newRelayers)).map fun signature =>
    ⟨⟨round, newRelayers, .ofSignature signature⟩, sender⟩

/-- `update_default_address(Some(new_relayers))`: the first signer that is among the relayers. -/
def updateDefaultAddress (signers newRelayers : List Address) : Address :=
  (signers.find? fun a => newRelayers.contains a).getD zeroAddress

/-- `run` has returned with an error. -/
def EmitterState.stopped (s : EmitterState) : EmitterState := { s with running := false }

/-- The round is recorded and the signer is updated. -/
def EmitterState.recorded (signers : List Address) (s : EmitterState) (round : U256)
    (newRelayers : List Address) : EmitterState :=
  { s with currentRound := round, defaultAddress := updateDefaultAddress signers newRelayers }

/-- One iteration of the loop of `run`. -/
def tick (signers : List Address) (r : TickReplies) (s : EmitterState) :
    EmitterState × List Action :=
  match r.latestRound with
  | .error _ => (s.stopped, [])
  | .ok latest =>
    let read := Action.readLatestRound s.currentRound latest
    if s.currentRound < latest then
      match fetchValidatorList r latest with
      | .error _ => (s.stopped, [read])
      | .ok newRelayers =>
        let fetched := [read, .fetchedValidatorList latest newRelayers]
        match r.isPreviousSelectedRelayer (prevRound latest) s.defaultAddress with
        | .error _ => (s.stopped, fetched)
        | .ok false =>
          (s.recorded signers latest newRelayers,
            fetched ++
              [.checkedSelected (prevRound latest) false, .updatedDefaultAddress newRelayers])
        | .ok true =>
          match buildTransaction r latest newRelayers s.defaultAddress with
          | .error _ => (s.stopped, fetched ++ [.checkedSelected (prevRound latest) true])
          | .ok poll =>
            (s.recorded signers latest newRelayers,
              fetched ++ [.checkedSelected (prevRound latest) true, .requestedPoll poll,
                .updatedDefaultAddress newRelayers])
    else (s, [read])

/-- The start of `run`, with all chains in `NormalStart`. -/
def start (latestRound : Except Report U256) (s : EmitterState) : EmitterState × List Action :=
  match latestRound with
  | .error _ => (s, [])
  | .ok latest =>
    ({ s with currentRound := latest, running := true }, [.readLatestRound s.currentRound latest])

/-! ### Runs -/

/-- A tick of the loop, or a call of `run` after it has returned. -/
inductive EmitterInput where
  | tick (r : TickReplies)
  | start (latestRound : Except Report U256)

/-- A step of the emitter. -/
def emitterStep (signers : List Address) (s : EmitterState) :
    EmitterInput → Option (EmitterState × List Action)
  | .tick r => if s.running then some (tick signers r s) else none
  | .start latestRound => if s.running then none else some (start latestRound s)

/-- The emitter from its main loop on. -/
def emitterSystem (signers : List Address) :
    LabelledSystem EmitterState (EmitterInput × List Action) where
  init s := s.running = true
  step s a s' := emitterStep signers s a.1 = some (s', a.2)

/-- All actions of a trace. -/
def actionsOf (tr : List (EmitterInput × List Action)) : List Action :=
  tr.flatMap fun a => a.2

/-- The emitter has read the latest round `round` while its own was smaller. -/
def ReadAbove (actions : List Action) (round : U256) : Prop :=
  ∃ before, before < round ∧ .readLatestRound before round ∈ actions

/-- The round-up to `round` was handled: the selection in the round before was evaluated, the poll
was requested if it was true, and the signer was then updated with the relayers of the round. -/
def Handled (actions : List Action) (round : U256) : Prop :=
  ∃ newRelayers,
    [.fetchedValidatorList round newRelayers, .checkedSelected (prevRound round) false,
      .updatedDefaultAddress newRelayers].Sublist actions ∨
    ∃ poll : RoundControlPoll, poll.submit.round = round ∧ poll.submit.newRelayers = newRelayers ∧
      [.fetchedValidatorList round newRelayers, .checkedSelected (prevRound round) true,
        .requestedPoll poll, .updatedDefaultAddress newRelayers].Sublist actions

/-- Every call of the tick that follows the read of a larger round succeeds. -/
def TickReplies.Completes (r : TickReplies) (s : EmitterState) : Prop :=
  ∀ latest, r.latestRound = .ok latest → s.currentRound < latest →
    ∃ newRelayers, fetchValidatorList r latest = .ok newRelayers ∧
      (r.isPreviousSelectedRelayer (prevRound latest) s.defaultAddress = .ok false ∨
        r.isPreviousSelectedRelayer (prevRound latest) s.defaultAddress = .ok true ∧
          ∃ poll, buildTransaction r latest newRelayers s.defaultAddress = .ok poll)

/-- The condition on a step under which no round-up is lost: a tick that reads a larger round goes
through, and a call of `run` reads no larger round than the one recorded. -/
def Undisturbed (s : EmitterState) (a : EmitterInput × List Action) : Prop :=
  match a.1 with
  | .tick r => r.Completes s
  | .start latestRound => ∀ latest, latestRound = .ok latest → latest ≤ s.currentRound

variable {signers : List Address} {s s' : EmitterState}

/-- More actions keep a round handled. -/
lemma Handled.mono {l l' : List Action} {round : U256} (h : Handled l round)
    (hsub : l.Sublist l') : Handled l' round := by
  obtain ⟨newRelayers, hno | ⟨poll, hround, hrel, hyes⟩⟩ := h
  · exact ⟨newRelayers, .inl (hno.trans hsub)⟩
  · exact ⟨newRelayers, .inr ⟨poll, hround, hrel, hyes.trans hsub⟩⟩

/-- A tick that was not selected in the round before. -/
lemma tick_not_selected {r : TickReplies} {latest : U256} {newRelayers : List Address}
    (hlatest : r.latestRound = .ok latest) (hlt : s.currentRound < latest)
    (hfetch : fetchValidatorList r latest = .ok newRelayers)
    (hsel : r.isPreviousSelectedRelayer (prevRound latest) s.defaultAddress = .ok false) :
    tick signers r s = (s.recorded signers latest newRelayers,
      [.readLatestRound s.currentRound latest, .fetchedValidatorList latest newRelayers,
        .checkedSelected (prevRound latest) false, .updatedDefaultAddress newRelayers]) := by
  simp [tick, hlatest, hlt, hfetch, hsel]

/-- A tick that was selected in the round before. -/
lemma tick_selected {r : TickReplies} {latest : U256} {newRelayers : List Address}
    {poll : RoundControlPoll} (hlatest : r.latestRound = .ok latest)
    (hlt : s.currentRound < latest) (hfetch : fetchValidatorList r latest = .ok newRelayers)
    (hsel : r.isPreviousSelectedRelayer (prevRound latest) s.defaultAddress = .ok true)
    (hbuild : buildTransaction r latest newRelayers s.defaultAddress = .ok poll) :
    tick signers r s = (s.recorded signers latest newRelayers,
      [.readLatestRound s.currentRound latest, .fetchedValidatorList latest newRelayers,
        .checkedSelected (prevRound latest) true, .requestedPoll poll,
        .updatedDefaultAddress newRelayers]) := by
  simp [tick, hlatest, hlt, hfetch, hsel, hbuild]

/-- A transaction carries the round and the relayers that it was built for. -/
lemma buildTransaction_eq_ok {r : TickReplies} {round : U256} {newRelayers : List Address}
    {sender : Address} {poll : RoundControlPoll}
    (h : buildTransaction r round newRelayers sender = .ok poll) :
    poll.submit.round = round ∧ poll.submit.newRelayers = newRelayers := by
  rw [buildTransaction] at h
  cases hsign : r.signMessage (encodeRoundupParam round newRelayers) with
  | error e => simp [hsign, Except.map] at h
  | ok signature =>
    obtain rfl : _ = poll := by simpa [hsign, Except.map] using h
    exact ⟨rfl, rfl⟩

/-- The only read of a tick is that of the latest round, above the recorded one. -/
lemma readAbove_tick {r : TickReplies} {round : U256}
    (hread : ReadAbove (tick signers r s).2 round) :
    r.latestRound = .ok round ∧ s.currentRound < round := by
  obtain ⟨before, hbefore, hmem⟩ := hread
  cases hlatest : r.latestRound with
  | error e => simp [tick, hlatest] at hmem
  | ok latest =>
    obtain ⟨rfl, rfl⟩ : before = s.currentRound ∧ round = latest := by
      simp only [tick, hlatest] at hmem
      split at hmem <;> [skip; simpa using hmem]
      split at hmem <;> [simpa using hmem; skip]
      split at hmem <;> [simpa using hmem; simpa using hmem; skip]
      split at hmem <;> simpa using hmem
    exact ⟨rfl, hbefore⟩

/-- A tick that goes through handles every larger round that it reads. -/
lemma handled_tick {r : TickReplies} (hcomplete : r.Completes s) {round : U256}
    (hread : ReadAbove (tick signers r s).2 round) : Handled (tick signers r s).2 round := by
  obtain ⟨hlatest, hlt⟩ := readAbove_tick hread
  obtain ⟨newRelayers, hfetch, hsel | ⟨hsel, poll, hbuild⟩⟩ := hcomplete round hlatest hlt
  · rw [tick_not_selected hlatest hlt hfetch hsel]
    exact ⟨newRelayers, .inl (List.sublist_cons_self _ _)⟩
  · rw [tick_selected hlatest hlt hfetch hsel hbuild]
    obtain ⟨hround, hrel⟩ := buildTransaction_eq_ok hbuild
    exact ⟨newRelayers, .inr ⟨poll, hround, hrel, List.sublist_cons_self _ _⟩⟩

/-- A call of `run` reads a larger round only if it is not undisturbed. -/
lemma readAbove_start {latestRound : Except Report U256} {round : U256}
    (hread : ReadAbove (start latestRound s).2 round) :
    latestRound = .ok round ∧ s.currentRound < round := by
  obtain ⟨before, hbefore, hmem⟩ := hread
  cases latestRound with
  | error e => simp [start] at hmem
  | ok latest =>
    obtain ⟨rfl, rfl⟩ : before = s.currentRound ∧ round = latest := by simpa [start] using hmem
    exact ⟨rfl, hbefore⟩

/-- What a step does. -/
lemma emitterStep_cases {a : EmitterInput × List Action}
    (hstep : emitterStep signers s a.1 = some (s', a.2)) :
    (∃ r, a.1 = .tick r ∧ s.running = true ∧ tick signers r s = (s', a.2)) ∨
      ∃ latestRound, a.1 = .start latestRound ∧ s.running = false ∧
        start latestRound s = (s', a.2) := by
  obtain ⟨i, actions⟩ := a
  cases i with
  | tick r =>
    simp only [emitterStep, Option.ite_none_right_eq_some, Option.some.injEq] at hstep
    exact .inl ⟨r, rfl, hstep⟩
  | start latestRound =>
    simp only [emitterStep, Option.ite_none_left_eq_some, Option.some.injEq] at hstep
    exact .inr ⟨latestRound, rfl, by simpa using hstep.1, hstep.2⟩

/-- An undisturbed step handles every larger round that it reads. -/
lemma handled_step {a : EmitterInput × List Action}
    (hstep : emitterStep signers s a.1 = some (s', a.2)) (hcond : Undisturbed s a) {round : U256}
    (hread : ReadAbove a.2 round) : Handled a.2 round := by
  obtain ⟨i, actions⟩ := a
  rcases emitterStep_cases hstep with ⟨r, rfl, -, htick⟩ | ⟨latestRound, rfl, -, hstart⟩
  · obtain rfl : (tick signers r s).2 = actions := by rw [htick]
    exact handled_tick hcond hread
  · obtain rfl : (start latestRound s).2 = actions := by rw [hstart]
    obtain ⟨hlatest, hlt⟩ := readAbove_start hread
    exact absurd (hcond round hlatest) (by simpa using hlt)

/-- No round-up is lost in a run all of whose steps are undisturbed: each latest round that was
read above the recorded one has been handled, so that the recorded round does not reach it
without this. -/
theorem round_up_not_lost (signers : List Address) {tr : List (EmitterInput × List Action)}
    {s : EmitterState} (h : ((emitterSystem signers).restrict Undisturbed).Run tr s)
    (round : U256) (hread : ReadAbove (actionsOf tr) round) : Handled (actionsOf tr) round := by
  induction h with
  | start h₀ => simp [ReadAbove, actionsOf] at hread
  | @snoc tr s s' a _ hstep ih =>
    obtain ⟨hstep, hcond⟩ := hstep
    have happ : actionsOf (tr ++ [a]) = actionsOf tr ++ a.2 := by simp [actionsOf]
    rw [happ] at hread ⊢
    obtain ⟨before, hbefore, hmem⟩ := hread
    rcases List.mem_append.1 hmem with hold | hnew
    · exact (ih ⟨before, hbefore, hold⟩).mono (List.sublist_append_left _ _)
    · have hnow := handled_step hstep hcond ⟨before, hbefore, hnew⟩
      exact hnow.mono (List.sublist_append_right _ _)

/-! ### The condition is exact -/

/-- Nothing is handled without an update of the signer. -/
lemma not_handled {l : List Action} (h : ∀ newRelayers, .updatedDefaultAddress newRelayers ∉ l)
    (round : U256) : ¬Handled l round := by
  rintro ⟨newRelayers, hno | ⟨poll, -, -, hyes⟩⟩
  · exact h newRelayers (hno.subset (by simp))
  · exact h newRelayers (hyes.subset (by simp))

/-- A tick that does not go through reads a larger round, records nothing and ends `run`. -/
lemma tick_not_completes (signers : List Address) {r : TickReplies} (h : ¬r.Completes s) :
    ∃ latest, s.currentRound < latest ∧ ReadAbove (tick signers r s).2 latest ∧
      (tick signers r s).1 = s.stopped ∧
      ∀ newRelayers, .updatedDefaultAddress newRelayers ∉ (tick signers r s).2 := by
  simp only [TickReplies.Completes, not_forall] at h
  obtain ⟨latest, hlatest, hlt, hfail⟩ := h
  have hread {l : List Action} : ReadAbove (.readLatestRound s.currentRound latest :: l) latest :=
    ⟨s.currentRound, hlt, List.mem_cons_self⟩
  refine ⟨latest, hlt, ?_⟩
  cases hfetch : fetchValidatorList r latest with
  | error e => simp [tick, hlatest, hlt, hfetch, hread]
  | ok newRelayers =>
    cases hsel : r.isPreviousSelectedRelayer (prevRound latest) s.defaultAddress with
    | error e => simp [tick, hlatest, hlt, hfetch, hsel, hread]
    | ok selected =>
      cases selected with
      | false => exact absurd ⟨newRelayers, hfetch, .inl hsel⟩ hfail
      | true =>
        cases hbuild : buildTransaction r latest newRelayers s.defaultAddress with
        | error e => simp [tick, hlatest, hlt, hfetch, hsel, hbuild, hread]
        | ok poll => exact absurd ⟨newRelayers, hfetch, .inr ⟨hsel, poll, hbuild⟩⟩ hfail

/-- A disturbed step loses a round-up, at once or with the next call of `run`, which cannot tell
the round it reads from one that was handled. -/
theorem round_up_lost_of_disturbed {a : EmitterInput × List Action}
    (hstep : emitterStep signers s a.1 = some (s', a.2)) (hcond : ¬Undisturbed s a) :
    ∃ round, ReadAbove a.2 round ∧
      (round ≤ s'.currentRound ∧ ¬Handled a.2 round ∨
        ∀ latest, round ≤ latest → ∃ s'' actions,
          emitterStep signers s' (.start (.ok latest)) = some (s'', actions) ∧
          round ≤ s''.currentRound ∧ ¬Handled (a.2 ++ actions) round) := by
  obtain ⟨i, actions⟩ := a
  rcases emitterStep_cases hstep with ⟨r, rfl, -, htick⟩ | ⟨latestRound, rfl, -, hstart⟩
  · obtain ⟨round, hlt, hread, hstop, hno⟩ := tick_not_completes signers hcond
    rw [htick] at hread hstop hno
    obtain rfl : s' = s.stopped := hstop
    refine ⟨round, hread, .inr fun latest hle => ?_⟩
    refine ⟨_, _, by simp [emitterStep, EmitterState.stopped, start]; exact ⟨rfl, rfl⟩, hle, ?_⟩
    exact not_handled (by simpa using hno) round
  · simp only [Undisturbed, not_forall, BitVec.not_le] at hcond
    obtain ⟨latest, rfl, hlt⟩ := hcond
    obtain ⟨rfl, rfl⟩ : _ = s' ∧ _ = actions := by simpa [start] using hstart
    refine ⟨latest, ⟨_, hlt, by simp⟩, .inl ⟨BitVec.le_refl _, ?_⟩⟩
    exact not_handled (by simp) latest

/-! ### Two rounds -/

/-- The replies for a round `2` with one relayer, where the list of relayers may not be
available. -/
def sampleReplies (available : Bool) : TickReplies where
  latestRound := .ok 2
  previousSelectedRelayers _ := if available then .ok [zeroAddress] else .error ⟨"timeout"⟩
  isPreviousSelectedRelayer _ _ := .ok true
  signMessage _ := .ok ⟨FixedBytes.repeatByte 32 1, FixedBytes.repeatByte 32 1, false⟩

/-- The emitter in its loop at round `1`. -/
def sampleEmitter : EmitterState := ⟨1, zeroAddress, true⟩

/-- A tick that goes through handles the second round. -/
theorem round_up_not_lost_polled :
    ∃ tr s, ((emitterSystem [zeroAddress]).restrict Undisturbed).Run tr s ∧
      s.currentRound = 2 ∧ ReadAbove (actionsOf tr) 2 ∧ Handled (actionsOf tr) 2 := by
  have hinit : ((emitterSystem [zeroAddress]).restrict Undisturbed).Run [] sampleEmitter :=
    .start rfl
  have hcomplete : (sampleReplies true).Completes sampleEmitter := by
    intro latest hlatest _
    obtain rfl : (2 : U256) = latest := by simpa [sampleReplies] using hlatest
    exact ⟨[zeroAddress], by decide, .inr ⟨rfl, _, rfl⟩⟩
  have hrun : ((emitterSystem [zeroAddress]).restrict Undisturbed).Run
      [(.tick (sampleReplies true), (tick [zeroAddress] (sampleReplies true) sampleEmitter).2)]
      (tick [zeroAddress] (sampleReplies true) sampleEmitter).1 :=
    hinit.snoc ⟨rfl, hcomplete⟩
  refine ⟨_, _, hrun, by decide, ⟨1, by decide, by decide⟩, ?_⟩
  exact round_up_not_lost _ hrun 2 ⟨1, by decide, by decide⟩

/-- The list of relayers is not available when the second round is read, and the restarted `run`
takes this round for a recorded one. -/
theorem round_up_lost :
    ∃ tr s, (emitterSystem [zeroAddress]).Run tr s ∧ ReadAbove (actionsOf tr) 2 ∧
      (2 : U256) ≤ s.currentRound ∧ ¬Handled (actionsOf tr) 2 := by
  have hinit : (emitterSystem [zeroAddress]).Run [] sampleEmitter := .start rfl
  have htick : (emitterSystem [zeroAddress]).Run
      [(.tick (sampleReplies false), [.readLatestRound 1 2])] sampleEmitter.stopped :=
    hinit.snoc rfl
  have hrun : (emitterSystem [zeroAddress]).Run
      [(.tick (sampleReplies false), [.readLatestRound 1 2]),
        (.start (.ok 2), [.readLatestRound 1 2])] ⟨2, zeroAddress, true⟩ :=
    htick.snoc rfl
  refine ⟨_, _, hrun, ⟨1, by decide, by decide⟩, by decide, ?_⟩
  exact not_handled (by simp [actionsOf]) 2

end Roundup

end BifrostRelayer
