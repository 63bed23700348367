import BifrostRelayer.Roundup.Emitter

/-!
# The bootstrap loop of the round-up emitter

Before the main loop of the emitter starts, `bootstrap` makes up for the rounds that were not rolled
up while the relayer was away.  It computes from the `RoundUp` logs which round is to be polled next,
polls for it, and waits until the logs call for a later one.  The loop ends when the round to be
polled next is the one behind `current_round`.

`current_round` was read before, and the chain goes on.  So the round that is observed next may be
past this point.  The loop then neither ends nor looks at the logs again: its two branches are for a
round that is equal to `current_round + 1` and for one that is at most `current_round`.
-/

namespace BifrostRelayer

namespace Roundup

open SolidityAbi

/-! ### The round to be polled next -/

/-- A `RoundUp` log, as far as it is read. -/
structure RoundUp where
  status : UInt8
  round : U256
deriving DecidableEq

/-- `RoundUpEventStatus`. -/
inductive RoundUpEventStatus where
  | nextAuthorityRelayed
  | nextAuthorityCommitted

/-- `RoundUpEventStatus::from_u8`; `none` is a panic. -/
def RoundUpEventStatus.fromU8 (status : UInt8) : Option RoundUpEventStatus :=
  if status = 9 then some .nextAuthorityRelayed
  else if status = 10 then some .nextAuthorityCommitted
  else none

/-- The largest round of a list. -/
def maxRound : List U256 → Option U256
  | [] => none
  | round :: rounds => some (rounds.foldl (fun m r => if m ≤ r then r else m) round)

/-- `get_next_poll_round`, from the logs; `none` is a panic. -/
def getNextPollRound (logs : List RoundUp) : Option U256 := do
  let max ← maxRound (logs.map RoundUp.round)
  let maxStatus ← ((logs.filter fun log => log.round = max).map RoundUp.status).max?
  match ← RoundUpEventStatus.fromU8 maxStatus with
  | .nextAuthorityRelayed => return max
  | .nextAuthorityCommitted => return max + 1

/-! ### The loop -/

/-- The state of the loop.  A state in the loop has the number of calls of `get_next_poll_round` so
far, and `next_poll_round`. -/
inductive LoopState where
  /-- The head of the outer loop. -/
  | checking (calls : ℕ) (next : U256)
  /-- The head of the inner loop. -/
  | waiting (calls : ℕ) (next : U256)
  /-- Behind the loop. -/
  | exited (next : U256)
  /-- `bootstrap` has returned an error. -/
  | failed (report : Report)
  /-- `bootstrap` has panicked. -/
  | panicked
deriving DecidableEq

namespace LoopState

/-- The loop is left. -/
def ended : LoopState → Bool
  | .checking _ _ | .waiting _ _ => false
  | .exited _ | .failed _ | .panicked => true

/-- The number of calls of `get_next_poll_round` so far. -/
def calls : LoopState → ℕ
  | .checking calls _ | .waiting calls _ => calls
  | .exited _ | .failed _ | .panicked => 0

end LoopState

/-- What a run of the loop meets. -/
structure BootstrapLoop where
  /-- `current_round`, read before. -/
  currentRound : U256
  /-- The signers of the client, and the one of the default address. -/
  signers : List Address
  defaultAddress : Address
  /-- The replies to the calls for a round to be polled. -/
  replies : U256 → TickReplies
  /-- The logs at each call of `get_next_poll_round`. -/
  logs : ℕ → List RoundUp

namespace BootstrapLoop

variable (b : BootstrapLoop)

/-- `relay_as`; an error panics. -/
def relayAs (next : U256) : Option Address :=
  match (b.replies next).previousSelectedRelayers (prevRound next) with
  | .ok prevRelayers => some (updateDefaultAddress b.signers prevRelayers)
  | .error _ => none

/-- The branch that polls: the request that is sent, if there is one. -/
def poll (next : U256) : Option (Except Report (Option RoundControlPoll)) :=
  (b.relayAs next).map fun relayAs => do
    if ← (b.replies next).isPreviousSelectedRelayer (prevRound next) b.defaultAddress then
      let newRelayers ← fetchValidatorList (b.replies next) next
      let request ← buildTransaction (b.replies next) next newRelayers relayAs
      return some request
    else return none

/-- One step of the loop. -/
def step : LoopState → LoopState
  | .checking calls next =>
      if next = b.currentRound + 1 then .exited next
      else if next ≤ b.currentRound then
        match b.poll next with
        | some (.ok _) => .waiting calls next
        | some (.error report) => .failed report
        | none => .panicked
      else .checking calls next
  | .waiting calls next =>
      match getNextPollRound (b.logs calls) with
      | some new => if next < new then .checking (calls + 1) new else .waiting (calls + 1) next
      | none => .panicked
  | .exited next => .exited next
  | .failed report => .failed report
  | .panicked => .panicked

/-- The loop as it is entered. -/
def start : LoopState :=
  match getNextPollRound (b.logs 0) with
  | some next => .checking 1 next
  | none => .panicked

/-- The loop after a number of steps. -/
def after (n : ℕ) : LoopState := b.step^[n] b.start

/-- What the loop is for: it leaves as soon as the round to be polled is past the current one, it
always leaves or reads the logs again, and it ends if the logs ever call for a round past the current
one. -/
structure Exits : Prop where
  leaves : ∀ n calls next, b.after n = .checking calls next → b.currentRound < next →
    b.after (n + 1) = .exited next
  progresses : ∀ n, ∃ m > n, (b.after m).ended = true ∨ (b.after n).calls < (b.after m).calls
  terminates : ∀ k next, getNextPollRound (b.logs k) = some next → b.currentRound < next →
    ∃ n, (b.after n).ended = true

/-- The calls for a round that is polled all succeed. -/
def PollSucceeds (next : U256) : Prop := ∃ request, b.poll next = some (.ok request)

/-- The first round past the current one that the logs call for is the one behind it, unless a call
fails before. -/
def NoJump : Prop :=
  ∀ k next, getNextPollRound (b.logs k) = some next → b.currentRound < next →
    (∀ j < k, ∃ before, getNextPollRound (b.logs j) = some before ∧ before ≤ b.currentRound ∧
      b.PollSucceeds before) → next = b.currentRound + 1

/-! ### The states of the loop -/

variable {b : BootstrapLoop}

/-- One more step. -/
lemma after_succ (n : ℕ) : b.after (n + 1) = b.step (b.after n) :=
  Function.iterate_succ_apply' b.step n b.start

/-- A round that is to be polled is polled, and the loop waits. -/
lemma step_checking_of_succeeds {calls : ℕ} {next : U256} (hne : next ≠ b.currentRound + 1)
    (hle : next ≤ b.currentRound) (hpoll : b.PollSucceeds next) :
    b.step (.checking calls next) = .waiting calls next := by
  obtain ⟨request, hrequest⟩ := hpoll
  simp only [step, if_neg hne, if_pos hle, hrequest]

/-- What the loop can do at its head. -/
lemma step_checking (calls : ℕ) (next : U256) :
    (b.step (.checking calls next)).ended = true ∨
      (next ≤ b.currentRound ∧ b.PollSucceeds next ∧
        b.step (.checking calls next) = .waiting calls next) ∨
      (b.currentRound < next ∧ next ≠ b.currentRound + 1 ∧
        b.step (.checking calls next) = .checking calls next) := by
  by_cases hexit : next = b.currentRound + 1
  · left
    simp only [step, if_pos hexit, LoopState.ended]
  · by_cases hle : next ≤ b.currentRound
    · cases hpoll : b.poll next with
      | none =>
        left
        simp only [step, if_neg hexit, if_pos hle, hpoll, LoopState.ended]
      | some reply =>
        cases reply with
        | error report =>
          left
          simp only [step, if_neg hexit, if_pos hle, hpoll, LoopState.ended]
        | ok request =>
          have hsucceeds : b.PollSucceeds next := ⟨request, hpoll⟩
          exact .inr (.inl ⟨hle, hsucceeds, step_checking_of_succeeds hexit hle hsucceeds⟩)
    · have hstep : b.step (.checking calls next) = .checking calls next := by
        simp only [step, if_neg hexit, if_neg hle]
      exact .inr (.inr ⟨BitVec.not_le.1 hle, hexit, hstep⟩)

section Observed

variable {obs : ℕ → U256}

/-- The calls before a number of them called for rounds that were polled. -/
def Polled (b : BootstrapLoop) (obs : ℕ → U256) (k : ℕ) : Prop :=
  ∀ j < k, obs j ≤ b.currentRound ∧ b.PollSucceeds (obs j)

/-- What is known of a state in the loop: the round to be polled is the last one observed. -/
def Observed (b : BootstrapLoop) (obs : ℕ → U256) : LoopState → Prop
  | .checking calls next => ∃ k, calls = k + 1 ∧ next = obs k ∧ b.Polled obs k
  | .waiting calls next => ∃ k, calls = k + 1 ∧ next = obs k ∧ b.Polled obs (k + 1)
  | _ => True

/-- One more round was polled. -/
lemma Polled.succ {k : ℕ} (h : b.Polled obs k) (hle : obs k ≤ b.currentRound)
    (hpoll : b.PollSucceeds (obs k)) : b.Polled obs (k + 1) := by
  intro j hj
  rcases Nat.lt_succ_iff_lt_or_eq.1 hj with hj | rfl
  · exact h j hj
  · exact ⟨hle, hpoll⟩

variable (hobs : ∀ k, getNextPollRound (b.logs k) = some (obs k))
  (hmono : ∀ j k, j ≤ k → obs j ≤ obs k)

include hobs in
/-- The loop is entered with the first round observed. -/
lemma start_eq : b.start = .checking 1 (obs 0) := by
  rw [start, hobs]

include hobs in
/-- The inner loop takes the next observation. -/
lemma step_waiting (calls : ℕ) (next : U256) :
    b.step (.waiting calls next) =
      if next < obs calls then .checking (calls + 1) (obs calls) else .waiting (calls + 1) next := by
  simp only [step, hobs]

include hobs hmono in
/-- A step keeps what is known. -/
lemma Observed.step {s : LoopState} (h : b.Observed obs s) : b.Observed obs (b.step s) := by
  cases s with
  | checking calls next =>
    obtain ⟨k, rfl, rfl, hpolled⟩ := h
    rcases step_checking (b := b) (k + 1) (obs k) with hend | ⟨hle, hpoll, hstep⟩ | ⟨_, _, hstep⟩
    · cases hs : b.step (.checking (k + 1) (obs k)) with
      | checking _ _ | waiting _ _ =>
        rw [hs] at hend
        cases hend
      | exited _ | failed _ | panicked => trivial
    · rw [hstep]
      exact ⟨k, rfl, rfl, hpolled.succ hle hpoll⟩
    · rw [hstep]
      exact ⟨k, rfl, rfl, hpolled⟩
  | waiting calls next =>
    obtain ⟨k, rfl, rfl, hpolled⟩ := h
    rw [step_waiting hobs]
    split_ifs with hlt
    · exact ⟨k + 1, rfl, rfl, hpolled⟩
    · -- an observation that is not larger is the same one
      have hsame : obs (k + 1) = obs k :=
        BitVec.le_antisymm (BitVec.not_lt.1 hlt) (hmono k (k + 1) k.le_succ)
      obtain ⟨hle, hpoll⟩ := hpolled k k.lt_succ_self
      exact ⟨k + 1, rfl, hsame.symm, hpolled.succ (hsame ▸ hle) (hsame ▸ hpoll)⟩
  | exited _ | failed _ | panicked => trivial

include hobs hmono in
/-- What is known of every state of the loop. -/
lemma observed_after (n : ℕ) : b.Observed obs (b.after n) := by
  induction n with
  | zero =>
    rw [after, Function.iterate_zero_apply, start_eq hobs]
    exact ⟨0, rfl, rfl, nofun⟩
  | succ n ih =>
    rw [after_succ]
    exact ih.step hobs hmono

/-! ### When the loop exits -/

/-- The condition, in terms of the observations. -/
lemma noJump_iff (hobs : ∀ k, getNextPollRound (b.logs k) = some (obs k)) :
    b.NoJump ↔ ∀ k, b.Polled obs k → b.currentRound < obs k → obs k = b.currentRound + 1 := by
  unfold NoJump Polled
  simp only [hobs, Option.some.injEq, exists_eq_left', forall_eq']
  exact forall_congr' fun k => ⟨fun h hpolled hlt => h hlt hpolled, fun h hlt hpolled => h hpolled hlt⟩

include hobs hmono in
/-- The loop leaves when the round to be polled is past the current one. -/
lemma exited_of_noJump (hjump : b.NoJump) {n calls : ℕ} {next : U256}
    (hn : b.after n = .checking calls next) (hlt : b.currentRound < next) :
    b.after (n + 1) = .exited next := by
  have hobserved := observed_after hobs hmono n
  rw [hn] at hobserved
  obtain ⟨k, rfl, rfl, hpolled⟩ := hobserved
  rw [after_succ, hn, step, if_pos ((noJump_iff hobs).1 hjump k hpolled hlt)]

include hobs hmono in
/-- The loop ends or reads the logs again, within two steps. -/
lemma progress_of_noJump (hjump : b.NoJump) (n : ℕ) :
    ∃ m > n, (b.after m).ended = true ∨ (b.after n).calls < (b.after m).calls := by
  cases hn : b.after n with
  | checking calls next =>
    rcases step_checking (b := b) calls next with hend | ⟨hle, hpoll, hstep⟩ | ⟨hlt, hne, hstep⟩
    · refine ⟨n + 1, n.lt_succ_self, .inl ?_⟩
      rw [after_succ, hn, hend]
    · refine ⟨n + 2, by omega, .inr ?_⟩
      rw [after_succ, after_succ, hn, hstep, step_waiting hobs]
      split_ifs <;> exact calls.lt_succ_self
    · have hexit := exited_of_noJump hobs hmono hjump hn hlt
      rw [after_succ, hn, hstep] at hexit
      cases hexit
  | waiting calls next =>
    refine ⟨n + 1, n.lt_succ_self, .inr ?_⟩
    rw [after_succ, hn, step_waiting hobs]
    split_ifs <;> exact calls.lt_succ_self
  | exited _ | failed _ | panicked =>
    refine ⟨n + 1, n.lt_succ_self, .inl ?_⟩
    rw [after_succ, hn]
    rfl

include hobs hmono in
/-- A loop that does not end reads the logs as often as one likes. -/
lemma calls_unbounded (hjump : b.NoJump) (hforever : ∀ n, (b.after n).ended = false) (k : ℕ) :
    ∃ n, k ≤ (b.after n).calls := by
  induction k with
  | zero => exact ⟨0, Nat.zero_le _⟩
  | succ k ih =>
    obtain ⟨n, hn⟩ := ih
    obtain ⟨m, -, hend | hlt⟩ := progress_of_noJump hobs hmono hjump n
    · rw [hforever m] at hend
      cases hend
    · exact ⟨m, by omega⟩

include hobs hmono in
/-- In a state that is reached with enough calls no observation was past the current round. -/
lemma observed_le {n k : ℕ} (hend : (b.after n).ended = false) (hcalls : k + 2 ≤ (b.after n).calls) :
    obs k ≤ b.currentRound := by
  have hobserved := observed_after hobs hmono n
  cases hn : b.after n with
  | checking calls next =>
    rw [hn] at hobserved hcalls
    obtain ⟨k', rfl, rfl, hpolled⟩ := hobserved
    exact (hpolled k (by simp only [LoopState.calls] at hcalls; omega)).1
  | waiting calls next =>
    rw [hn] at hobserved hcalls
    obtain ⟨k', rfl, rfl, hpolled⟩ := hobserved
    exact (hpolled k (by simp only [LoopState.calls] at hcalls; omega)).1
  | exited _ | failed _ | panicked =>
    rw [hn] at hend
    cases hend

include hobs hmono in
/-- As long as the rounds observed were polled, the loop waits behind the last of them. -/
lemma exists_waiting (hroom : ∀ j, obs j ≤ b.currentRound → obs j ≠ b.currentRound + 1) {k : ℕ}
    (hpolled : b.Polled obs (k + 1)) : ∃ n, b.after n = .waiting (k + 1) (obs k) := by
  induction k with
  | zero =>
    obtain ⟨hle, hpoll⟩ := hpolled 0 Nat.one_pos
    refine ⟨1, ?_⟩
    rw [after_succ, after, Function.iterate_zero_apply, start_eq hobs]
    exact step_checking_of_succeeds (hroom 0 hle) hle hpoll
  | succ k ih =>
    obtain ⟨n, hn⟩ := ih fun j hj => hpolled j (by omega)
    obtain ⟨hle, hpoll⟩ := hpolled (k + 1) (by omega)
    have hstep := step_waiting hobs (b := b) (k + 1) (obs k)
    by_cases hlt : obs k < obs (k + 1)
    · refine ⟨n + 2, ?_⟩
      rw [after_succ, after_succ, hn, hstep, if_pos hlt]
      exact step_checking_of_succeeds (hroom (k + 1) hle) hle hpoll
    · refine ⟨n + 1, ?_⟩
      rw [after_succ, hn, hstep, if_neg hlt,
        BitVec.le_antisymm (BitVec.not_lt.1 hlt) (hmono k (k + 1) k.le_succ)]

include hobs hmono in
/-- An observation past the current round, the ones before having been polled, is checked. -/
lemma exists_checking {k : ℕ} (hpolled : b.Polled obs k) (hlt : b.currentRound < obs k) :
    ∃ n, b.after n = .checking (k + 1) (obs k) := by
  cases k with
  | zero => exact ⟨0, start_eq hobs⟩
  | succ k =>
    have hroom : ∀ j, obs j ≤ b.currentRound → obs j ≠ b.currentRound + 1 := by
      -- the round behind the current one does not wrap around
      intro j hle heq
      bv_omega
    obtain ⟨n, hn⟩ := exists_waiting hobs hmono hroom hpolled
    obtain ⟨hle, -⟩ := hpolled k k.lt_succ_self
    have hnew : obs k < obs (k + 1) := by bv_omega
    refine ⟨n + 1, ?_⟩
    rw [after_succ, hn, step_waiting hobs, if_pos hnew]

end Observed

/-- For rounds observed that never decrease, the loop exits as it should just if the first of them
past the current round is the one behind it, or a call fails before. -/
theorem bootstrap_exits_iff {obs : ℕ → U256} (hobs : ∀ k, getNextPollRound (b.logs k) = some (obs k))
    (hmono : ∀ j k, j ≤ k → obs j ≤ obs k) : b.Exits ↔ b.NoJump := by
  constructor
  · intro hexits
    rw [noJump_iff hobs]
    intro k hpolled hlt
    by_contra hne
    obtain ⟨n, hn⟩ := exists_checking hobs hmono hpolled hlt
    have hleft := hexits.leaves n (k + 1) (obs k) hn hlt
    rw [after_succ, hn, step, if_neg hne, if_neg (BitVec.not_le.2 hlt)] at hleft
    cases hleft
  · intro hjump
    refine ⟨fun n calls next => exited_of_noJump hobs hmono hjump,
      progress_of_noJump hobs hmono hjump, ?_⟩
    intro k next hk hlt
    rw [hobs, Option.some.injEq] at hk
    by_contra hforever
    push Not at hforever
    have hgoing : ∀ n, (b.after n).ended = false := fun n => Bool.eq_false_iff.2 (hforever n)
    obtain ⟨n, hn⟩ := calls_unbounded hobs hmono hjump hgoing (k + 2)
    have hle := observed_le hobs hmono (hgoing n) hn
    rw [hk] at hle
    exact BitVec.not_lt.2 hle hlt

/-- Replies of a chain on which the relayer is not selected. -/
def sampleReplies : TickReplies where
  latestRound := .ok 0
  previousSelectedRelayers _ := .ok []
  isPreviousSelectedRelayer _ _ := .ok false
  signMessage _ := .error ⟨"no signer"⟩

/-- A loop that starts behind round 6, with logs at each call. -/
def sampleLoop (logs : ℕ → List RoundUp) : BootstrapLoop where
  currentRound := 6
  signers := []
  defaultAddress := zeroAddress
  replies _ := sampleReplies
  logs := logs

/-- The round-up of round 6 is committed after two calls: the loop ends. -/
theorem bootstrap_exits_after_commit :
    (sampleLoop fun k => if k < 2 then [⟨9, 6⟩] else [⟨9, 6⟩, ⟨10, 6⟩]).Exits := by
  have hobs : ∀ k, getNextPollRound ((sampleLoop fun k =>
      if k < 2 then [⟨9, 6⟩] else [⟨9, 6⟩, ⟨10, 6⟩]).logs k) = some (if k < 2 then 6 else 7) := by
    intro k
    by_cases hk : k < 2
    · simp only [sampleLoop, if_pos hk]
      decide
    · simp only [sampleLoop, if_neg hk]
      decide
  refine (bootstrap_exits_iff hobs ?_).2 ?_
  · intro j k hjk
    split_ifs <;> first | decide | omega
  · intro k next hnext hlt _
    rw [hobs, Option.some.injEq] at hnext
    subst hnext
    by_cases hk : k < 2
    · rw [if_pos hk] at hlt
      exact absurd hlt (by decide)
    · rw [if_neg hk]
      rfl

/-- The logs already call for round 8: the loop neither ends nor reads the logs again. -/
theorem bootstrap_spins_after_jump :
    (∀ k, getNextPollRound ((sampleLoop fun _ => [⟨10, 7⟩]).logs k) = some 8) ∧
      (∀ n, (sampleLoop fun _ => [⟨10, 7⟩]).after n = .checking 1 8) ∧
      ¬ (sampleLoop fun _ => [⟨10, 7⟩]).Exits := by
  have hobs : ∀ k, getNextPollRound ((sampleLoop fun _ => [⟨10, 7⟩]).logs k) = some 8 := by
    intro k
    simp only [sampleLoop]
    decide
  have hspins : ∀ n, (sampleLoop fun _ => [⟨10, 7⟩]).after n = .checking 1 8 := by
    intro n
    induction n with
    | zero => exact start_eq hobs
    | succ n ih =>
      rw [after_succ, ih]
      decide
  refine ⟨hobs, hspins, fun hexits => ?_⟩
  obtain ⟨n, hn⟩ := hexits.terminates 0 8 (hobs 0) (by decide)
  rw [hspins n] at hn
  cases hn

end BootstrapLoop

end Roundup

end BifrostRelayer
