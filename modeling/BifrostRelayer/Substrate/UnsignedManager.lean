import BifrostRelayer.Foundation.Loops
import BifrostRelayer.Hooks.Executor

/-!
# Sending unsigned transactions to Bifrost

The task of an unsigned transaction is a chain of calls between four methods.
`try_send_unsigned_transaction` makes an attempt, and hands a failure over to
`handle_failed_tx_creation` or `handle_failed_tx_request`.  These log how many retries are left,
with a subtraction that nothing checks, and call `retry_transaction`, which counts the retry and
tries again.  Some errors of the pallets are not retried, which depends on the kind of the request.

All calls are tail calls, so the task is a loop whose state is the method that runs next with its
arguments.  The outcomes of the attempts are an arbitrary sequence.  What was submitted is
determined by the number of attempts, and the attempts end with the first outcome that is not
retried, or with the last retry: `SendTask.Inv`.
-/

namespace BifrostRelayer

namespace Substrate

open Loops
open Hooks (containsText)

/-! ### Requests -/

/-- The kinds of `XtRequest`. -/
inductive XtRequestKind where
  | vaultKeyPresubmission
  | submitSystemVaultKey
  | submitVaultKey
  | submitExecutedRequest
  | submitRollbackPoll
  | submitSignedPsbt
  | broadcastPoll
  | submitFeeRate
  | submitUtxos
  | submitOutboundRequests
  | onFlightPoll
  | finalizePoll
  | submitUnsignedPsbt
  | removeOutboundMessages
  | approveSetRefunds
deriving DecidableEq, Repr

/-- `XtRequest`: the payload of a call. -/
structure XtRequest where
  kind : XtRequestKind
  payload : List UInt8
deriving DecidableEq, Repr

/-- `XtRequestMetadata`, without the values that are only displayed. -/
inductive XtRequestMetadata where
  | submitVaultKey
  | submitSignedPsbt
  | submitUnsignedPsbt
  | submitExecutedRequest
  | submitRollbackPoll
  | vaultKeyPresubmission
  | submitUtxos
  | broadcastPoll
  | submitOutboundRequests
  | submitFeeRate
  | removeOutboundMessages
  | approveSetRefunds
  | onFlightPoll
  | finalizePoll
deriving DecidableEq, Repr

/-- `XtRequestMessage`. -/
structure XtRequestMessage where
  retriesRemaining : UInt8
  /-- In milliseconds. -/
  retryInterval : UInt64
  call : XtRequest
  metadata : XtRequestMetadata
deriving DecidableEq, Repr

namespace XtRequestMessage

/-- `DEFAULT_TX_RETRIES`. -/
def defaultTxRetries : UInt8 := 3

/-- `DEFAULT_TX_RETRY_INTERVAL_MS`. -/
def defaultTxRetryIntervalMs : UInt64 := 3000

/-- `XtRequestMessage::new`. -/
def new (call : XtRequest) (metadata : XtRequestMetadata) : XtRequestMessage :=
  ⟨defaultTxRetries, defaultTxRetryIntervalMs, call, metadata⟩

/-- `build_retry_event`: `saturating_sub(1)`. -/
def buildRetryEvent (msg : XtRequestMessage) : XtRequestMessage :=
  { msg with retriesRemaining := .ofNat (msg.retriesRemaining.toNat - 1) }

/-- The value of `retries_remaining - 1`, if it does not underflow. -/
def retriesLeft (msg : XtRequestMessage) : Option UInt8 :=
  if msg.retriesRemaining = 0 then none else some (msg.retriesRemaining - 1)

end XtRequestMessage

/-- The errors of `handle_failed_tx_request` that are not retried. -/
def notRetryable (metadata : XtRequestMetadata) (error : String) : Bool :=
  match metadata with
  | .submitSignedPsbt => containsText error "BtcSocketQueue::RequestDNE"
  | .submitExecutedRequest =>
      containsText error "BtcSocketQueue::RequestDNE" ||
        containsText error "BtcSocketQueue::BroadcastAlreadyConfirmed"
  | .broadcastPoll => containsText error "Blaze::AlreadySpent"
  | .onFlightPoll => containsText error "CCCPRelayQueue::TransferAlreadyOnFlight"
  | .finalizePoll => containsText error "CCCPRelayQueue::TransferAlreadyFinalized"
  | _ => false

/-! ### The task -/

/-- How an attempt ends. -/
inductive SendOutcome where
  /-- `sub_client.tx()` fails. -/
  | clientError (error : String)
  /-- `create_unsigned` fails. -/
  | creationError (error : String)
  /-- `submit_and_watch` fails. -/
  | submissionError (error : String)
  /-- `wait_for_finalized_success` fails. -/
  | finalizationError (error : String)
  | success
deriving DecidableEq, Repr

namespace SendOutcome

/-- The attempt has come to `submit_and_watch`. -/
def isSubmitted : SendOutcome → Bool
  | .clientError _ => false
  | .creationError _ => false
  | .submissionError _ => true
  | .finalizationError _ => true
  | .success => true

/-- The attempt is the last one, whatever retries are left. -/
def isLast (metadata : XtRequestMetadata) : SendOutcome → Bool
  | .clientError _ => false
  | .creationError _ => false
  | .submissionError error => notRetryable metadata error
  | .finalizationError error => notRetryable metadata error
  | .success => true

end SendOutcome

/-- The method that runs next. -/
inductive SendCall where
  | trySendUnsignedTransaction (msg : XtRequestMessage)
  | handleFailedTxRequest (msg : XtRequestMessage) (error : String)
  | handleFailedTxCreation (msg : XtRequestMessage) (error : String)
  | retryTransaction (msg : XtRequestMessage)
  /-- All calls have returned. -/
  | returned
  /-- The subtraction in a log message has underflowed. -/
  | underflow
deriving DecidableEq, Repr

/-- A task, with what it has done. -/
structure SendTask where
  call : SendCall
  /-- How many attempts were made. -/
  attempts : ℕ
  /-- What was passed to `submit_and_watch`. -/
  submitted : List XtRequest
  /-- The retries that were logged as left. -/
  logged : List UInt8
deriving DecidableEq, Repr

namespace SendTask

/-- The task of a message. -/
def start (msg : XtRequestMessage) : SendTask :=
  ⟨.trySendUnsignedTransaction msg, 0, [], []⟩

/-- The end of both failure handlers: the retries left are logged, and the message is retried. -/
def logAndRetry (task : SendTask) (msg : XtRequestMessage) : SendTask :=
  match msg.retriesLeft with
  | none => { task with call := .underflow }
  | some left => { task with call := .retryTransaction msg, logged := task.logged ++ [left] }

/-- One call of the task, up to the call at its end. -/
def step (outcomes : ℕ → SendOutcome) (task : SendTask) : Option SendTask :=
  match task.call with
  | .trySendUnsignedTransaction msg =>
      if msg.retriesRemaining = 0 then some { task with call := .returned }
      else
        match outcomes task.attempts with
        | .clientError error | .creationError error =>
            some { task with
              call := .handleFailedTxCreation msg error
              attempts := task.attempts + 1 }
        | .submissionError error | .finalizationError error =>
            some { task with
              call := .handleFailedTxRequest msg error
              attempts := task.attempts + 1
              submitted := task.submitted ++ [msg.call] }
        | .success =>
            some { task with
              call := .returned
              attempts := task.attempts + 1
              submitted := task.submitted ++ [msg.call] }
  | .handleFailedTxRequest msg error =>
      if notRetryable msg.metadata error then some { task with call := .returned }
      else some (task.logAndRetry msg)
  | .handleFailedTxCreation msg _ => some (task.logAndRetry msg)
  | .retryTransaction msg =>
      some { task with call := .trySendUnsignedTransaction msg.buildRetryEvent }
  | .returned => none
  | .underflow => none

end SendTask

/-! ### What a task has done -/

/-- The message after some retries. -/
def XtRequestMessage.afterRetries (msg : XtRequestMessage) (n : ℕ) : XtRequestMessage :=
  { msg with retriesRemaining := .ofNat (msg.retriesRemaining.toNat - n) }

namespace XtRequestMessage

lemma afterRetries_zero (msg : XtRequestMessage) : msg.afterRetries 0 = msg := by
  rw [afterRetries, Nat.sub_zero, UInt8.ofNat_toNat]

lemma toNat_afterRetries (msg : XtRequestMessage) (n : ℕ) :
    (msg.afterRetries n).retriesRemaining.toNat = msg.retriesRemaining.toNat - n := by
  have hlt := msg.retriesRemaining.toNat_lt
  rw [afterRetries, UInt8.toNat_ofNat', Nat.mod_eq_of_lt (by omega)]

lemma buildRetryEvent_afterRetries (msg : XtRequestMessage) (n : ℕ) :
    (msg.afterRetries n).buildRetryEvent = msg.afterRetries (n + 1) := by
  rw [buildRetryEvent, toNat_afterRetries]
  rfl

/-- The early return of `try_send_unsigned_transaction`. -/
lemma afterRetries_eq_zero_iff (msg : XtRequestMessage) (n : ℕ) :
    (msg.afterRetries n).retriesRemaining = 0 ↔ msg.retriesRemaining.toNat ≤ n := by
  rw [← UInt8.toNat_inj, toNat_afterRetries, UInt8.toNat_zero, Nat.sub_eq_zero_iff_le]

end XtRequestMessage

/-- None of the first `n` attempts is the last one by its outcome. -/
def AllRetried (metadata : XtRequestMetadata) (outcomes : ℕ → SendOutcome) (n : ℕ) : Prop :=
  ∀ i < n, (outcomes i).isLast metadata = false

lemma AllRetried.succ {metadata : XtRequestMetadata} {outcomes : ℕ → SendOutcome} {n : ℕ}
    (h : AllRetried metadata outcomes n) (hn : (outcomes n).isLast metadata = false) :
    AllRetried metadata outcomes (n + 1) := by
  intro i hi
  obtain hlt | rfl := Nat.lt_succ_iff_lt_or_eq.mp hi
  · exact h i hlt
  · exact hn

lemma AllRetried.le_of_isLast {metadata : XtRequestMetadata}
    {outcomes : ℕ → SendOutcome} {n i : ℕ}
    (h : AllRetried metadata outcomes n) (hi : (outcomes i).isLast metadata = true) : n ≤ i := by
  by_contra hlt
  rw [h i (not_le.mp hlt)] at hi
  cases hi

/-- What `n` attempts submit. -/
def submissions (msg : XtRequestMessage) (outcomes : ℕ → SendOutcome) : ℕ → List XtRequest
  | 0 => []
  | n + 1 => submissions msg outcomes n ++ if (outcomes n).isSubmitted then [msg.call] else []

lemma length_submissions_le (msg : XtRequestMessage) (outcomes : ℕ → SendOutcome) (n : ℕ) :
    (submissions msg outcomes n).length ≤ n := by
  induction n with
  | zero => rfl
  | succ n ih =>
    rw [submissions, List.length_append]
    split_ifs
    · simpa using ih
    · simpa using Nat.le_succ_of_le ih

lemma eq_of_mem_submissions {msg : XtRequestMessage} {outcomes : ℕ → SendOutcome} {n : ℕ}
    {call : XtRequest} (h : call ∈ submissions msg outcomes n) : call = msg.call := by
  induction n with
  | zero => simp [submissions] at h
  | succ n ih =>
    rw [submissions, List.mem_append] at h
    obtain h | h := h
    · exact ih h
    · split_ifs at h
      · exact List.mem_singleton.mp h
      · simp at h

namespace SendTask

/-- Where a task is after some attempts, in each of its methods. -/
def Located (msg : XtRequestMessage) (outcomes : ℕ → SendOutcome) (attempts : ℕ) :
    SendCall → Prop
  | .trySendUnsignedTransaction m =>
      m = msg.afterRetries attempts ∧ AllRetried msg.metadata outcomes attempts
  | .handleFailedTxRequest m error =>
      ∃ n, attempts = n + 1 ∧ m = msg.afterRetries n ∧ AllRetried msg.metadata outcomes n ∧
        (outcomes n = .submissionError error ∨ outcomes n = .finalizationError error)
  | .handleFailedTxCreation m _ =>
      ∃ n, attempts = n + 1 ∧ m = msg.afterRetries n ∧ AllRetried msg.metadata outcomes attempts
  | .retryTransaction m =>
      ∃ n, attempts = n + 1 ∧ m = msg.afterRetries n ∧ AllRetried msg.metadata outcomes attempts
  | .returned =>
      (attempts = msg.retriesRemaining.toNat ∧ AllRetried msg.metadata outcomes attempts) ∨
        ∃ n, attempts = n + 1 ∧ AllRetried msg.metadata outcomes n ∧
          (outcomes n).isLast msg.metadata = true
  | .underflow => False

/-- The invariant of the task of a message. -/
structure Inv (msg : XtRequestMessage) (outcomes : ℕ → SendOutcome) (task : SendTask) : Prop where
  attempts_le : task.attempts ≤ msg.retriesRemaining.toNat
  submitted : task.submitted = submissions msg outcomes task.attempts
  located : Located msg outcomes task.attempts task.call

/-- How many calls are at most to come. -/
def callsLeft (task : SendTask) : ℕ :=
  match task.call with
  | .trySendUnsignedTransaction msg => 3 * msg.retriesRemaining.toNat + 1
  | .handleFailedTxRequest msg _ => 3 * msg.retriesRemaining.toNat
  | .handleFailedTxCreation msg _ => 3 * msg.retriesRemaining.toNat
  | .retryTransaction msg => 3 * msg.retriesRemaining.toNat - 1
  | .returned => 0
  | .underflow => 0

section Steps

variable {msg : XtRequestMessage} {outcomes : ℕ → SendOutcome} {task task' : SendTask}

lemma inv_start (msg : XtRequestMessage) (outcomes : ℕ → SendOutcome) :
    Inv msg outcomes (start msg) where
  attempts_le := Nat.zero_le _
  submitted := rfl
  located := ⟨msg.afterRetries_zero.symm, fun i hi => absurd hi (Nat.not_lt_zero i)⟩

/-- The failure handlers run in an attempt, which `try_send_unsigned_transaction` only makes with
retries remaining. -/
lemma inv_logAndRetry (hinv : Inv msg outcomes task) {n : ℕ} (hn : task.attempts = n + 1)
    (hretried : AllRetried msg.metadata outcomes task.attempts) :
    Inv msg outcomes (task.logAndRetry (msg.afterRetries n)) ∧
      (task.logAndRetry (msg.afterRetries n)).callsLeft <
        3 * (msg.afterRetries n).retriesRemaining.toNat := by
  have hle := hinv.attempts_le
  have hpos : (msg.afterRetries n).retriesRemaining ≠ 0 := by
    rw [Ne, msg.afterRetries_eq_zero_iff]
    omega
  have hleft : (msg.afterRetries n).retriesLeft =
      some ((msg.afterRetries n).retriesRemaining - 1) := by
    rw [XtRequestMessage.retriesLeft, if_neg hpos]
  rw [logAndRetry, hleft]
  refine ⟨⟨hle, hinv.submitted, n, hn, rfl, hretried⟩, ?_⟩
  simp only [callsLeft, XtRequestMessage.toNat_afterRetries]
  omega

lemma inv_step_trySend (hinv : Inv msg outcomes task) {m : XtRequestMessage}
    (hcall : task.call = .trySendUnsignedTransaction m) (hstep : step outcomes task = some task') :
    Inv msg outcomes task' ∧ task'.callsLeft < task.callsLeft := by
  have hle := hinv.attempts_le
  have hsubmitted := hinv.submitted
  obtain ⟨rfl, hretried⟩ : Located msg outcomes task.attempts (.trySendUnsignedTransaction m) :=
    hcall ▸ hinv.located
  have hleft : task.callsLeft = 3 * (msg.retriesRemaining.toNat - task.attempts) + 1 := by
    rw [callsLeft, hcall, ← XtRequestMessage.toNat_afterRetries]
  rw [step, hcall] at hstep
  dsimp only at hstep
  rw [hleft]
  split_ifs at hstep with hzero
  · obtain rfl := Option.some.inj hstep
    rw [XtRequestMessage.afterRetries_eq_zero_iff] at hzero
    refine ⟨⟨hle, hsubmitted, .inl ⟨le_antisymm hle hzero, hretried⟩⟩, ?_⟩
    simp only [callsLeft]
    omega
  · rw [XtRequestMessage.afterRetries_eq_zero_iff, not_le] at hzero
    -- An attempt that is retried goes on to a failure handler, which knows the retries remaining.
    have hsucc (hsubmit : (outcomes task.attempts).isSubmitted = true) :
        task.submitted ++ [msg.call] = submissions msg outcomes (task.attempts + 1) := by
      rw [submissions, hsubmit, if_pos rfl, hsubmitted]
    have hsame (hsubmit : (outcomes task.attempts).isSubmitted = false) :
        task.submitted = submissions msg outcomes (task.attempts + 1) := by
      rw [submissions, hsubmit, hsubmitted]
      exact (List.append_nil _).symm
    have hcalls : 3 * (msg.afterRetries task.attempts).retriesRemaining.toNat <
        3 * (msg.retriesRemaining.toNat - task.attempts) + 1 := by
      rw [XtRequestMessage.toNat_afterRetries]
      omega
    cases houtcome : outcomes task.attempts with
    | clientError error =>
      simp only [houtcome, Option.some.injEq] at hstep
      subst hstep
      exact ⟨⟨hzero, hsame (by rw [houtcome]; rfl), task.attempts, rfl, rfl,
        hretried.succ (by rw [houtcome]; rfl)⟩, hcalls⟩
    | creationError error =>
      simp only [houtcome, Option.some.injEq] at hstep
      subst hstep
      exact ⟨⟨hzero, hsame (by rw [houtcome]; rfl), task.attempts, rfl, rfl,
        hretried.succ (by rw [houtcome]; rfl)⟩, hcalls⟩
    | submissionError error =>
      simp only [houtcome, Option.some.injEq] at hstep
      subst hstep
      exact ⟨⟨hzero, hsucc (by rw [houtcome]; rfl), task.attempts, rfl, rfl, hretried,
        .inl houtcome⟩, hcalls⟩
    | finalizationError error =>
      simp only [houtcome, Option.some.injEq] at hstep
      subst hstep
      exact ⟨⟨hzero, hsucc (by rw [houtcome]; rfl), task.attempts, rfl, rfl, hretried,
        .inr houtcome⟩, hcalls⟩
    | success =>
      simp only [houtcome, Option.some.injEq] at hstep
      subst hstep
      exact ⟨⟨hzero, hsucc (by rw [houtcome]; rfl), .inr ⟨task.attempts, rfl, hretried,
        by rw [houtcome]; rfl⟩⟩, Nat.succ_pos _⟩

/-- A call keeps the invariant, and is counted. -/
lemma inv_step (hinv : Inv msg outcomes task) (hstep : step outcomes task = some task') :
    Inv msg outcomes task' ∧ task'.callsLeft < task.callsLeft := by
  have hlocated := hinv.located
  cases hcall : task.call with
  | trySendUnsignedTransaction m => exact inv_step_trySend hinv hcall hstep
  | handleFailedTxRequest m error =>
    rw [hcall] at hlocated
    obtain ⟨n, hn, rfl, hretried, houtcome⟩ := hlocated
    have hlast : (outcomes n).isLast msg.metadata = notRetryable msg.metadata error := by
      obtain houtcome | houtcome := houtcome <;> rw [houtcome] <;> rfl
    have hpos := hinv.attempts_le
    simp only [step, hcall] at hstep
    split_ifs at hstep with hterminal
    · obtain rfl := Option.some.inj hstep
      refine ⟨⟨hinv.attempts_le, hinv.submitted, .inr ⟨n, hn, hretried, hlast.trans hterminal⟩⟩, ?_⟩
      simp only [callsLeft, hcall, XtRequestMessage.toNat_afterRetries]
      omega
    · obtain rfl := Option.some.inj hstep
      have hretried' : AllRetried msg.metadata outcomes task.attempts :=
        hn ▸ hretried.succ (hlast.trans (Bool.eq_false_iff.mpr hterminal))
      rw [callsLeft.eq_def task, hcall]
      exact inv_logAndRetry hinv hn hretried'
  | handleFailedTxCreation m error =>
    rw [hcall] at hlocated
    obtain ⟨n, hn, rfl, hretried⟩ := hlocated
    simp only [step, hcall, Option.some.injEq] at hstep
    subst hstep
    rw [callsLeft.eq_def task, hcall]
    exact inv_logAndRetry hinv hn hretried
  | retryTransaction m =>
    rw [hcall] at hlocated
    obtain ⟨n, hn, rfl, hretried⟩ := hlocated
    have hpos := hinv.attempts_le
    simp only [step, hcall, XtRequestMessage.buildRetryEvent_afterRetries, ← hn,
      Option.some.injEq] at hstep
    subst hstep
    refine ⟨⟨hinv.attempts_le, hinv.submitted, rfl, hretried⟩, ?_⟩
    simp only [callsLeft, hcall, XtRequestMessage.toNat_afterRetries]
    omega
  | returned => simp [step, hcall] at hstep
  | underflow => simp [step, hcall] at hstep

/-- Attempts are not taken back. -/
lemma attempts_le_of_step (hstep : step outcomes task = some task') :
    task.attempts ≤ task'.attempts := by
  have hretry (m : XtRequestMessage) : (task.logAndRetry m).attempts = task.attempts := by
    rw [logAndRetry]
    split <;> rfl
  rw [step] at hstep
  split at hstep
  · split_ifs at hstep
    · obtain rfl := Option.some.inj hstep
      exact le_rfl
    · split at hstep <;> obtain rfl := Option.some.inj hstep <;> exact Nat.le_succ _
  · split_ifs at hstep <;> obtain rfl := Option.some.inj hstep
    · exact le_rfl
    · exact (hretry _).ge
  · obtain rfl := Option.some.inj hstep
    exact (hretry _).ge
  · obtain rfl := Option.some.inj hstep
    exact le_rfl
  · cases hstep
  · cases hstep

/-- There is no attempt behind one that is the last by its outcome. -/
lemma Inv.attempts_le_of_isLast (hinv : Inv msg outcomes task) {i : ℕ}
    (hi : (outcomes i).isLast msg.metadata = true) : task.attempts ≤ i + 1 := by
  have hlocated := hinv.located
  cases hcall : task.call with
  | trySendUnsignedTransaction m =>
    rw [hcall] at hlocated
    exact Nat.le_succ_of_le (hlocated.2.le_of_isLast hi)
  | handleFailedTxRequest m error =>
    rw [hcall] at hlocated
    obtain ⟨n, hn, -, hretried, -⟩ := hlocated
    exact hn ▸ Nat.succ_le_succ (hretried.le_of_isLast hi)
  | handleFailedTxCreation m error =>
    rw [hcall] at hlocated
    obtain ⟨n, -, -, hretried⟩ := hlocated
    exact Nat.le_succ_of_le (hretried.le_of_isLast hi)
  | retryTransaction m =>
    rw [hcall] at hlocated
    obtain ⟨n, -, -, hretried⟩ := hlocated
    exact Nat.le_succ_of_le (hretried.le_of_isLast hi)
  | returned =>
    rw [hcall] at hlocated
    obtain ⟨-, hretried⟩ | ⟨n, hn, hretried, -⟩ := hlocated
    · exact Nat.le_succ_of_le (hretried.le_of_isLast hi)
    · exact hn ▸ Nat.succ_le_succ (hretried.le_of_isLast hi)
  | underflow =>
    rw [hcall] at hlocated
    exact hlocated.elim

end Steps

/-- The task of a message after some calls. -/
def after (msg : XtRequestMessage) (outcomes : ℕ → SendOutcome) (calls : ℕ) : SendTask :=
  run (step outcomes) calls (start msg)

lemma inv_after (msg : XtRequestMessage) (outcomes : ℕ → SendOutcome) (calls : ℕ) :
    Inv msg outcomes (after msg outcomes calls) :=
  run_invariant (fun _ _ hinv hstep => (inv_step hinv hstep).1) (inv_start msg outcomes) calls

lemma attempts_after_le (msg : XtRequestMessage) (outcomes : ℕ → SendOutcome) (calls more : ℕ) :
    (after msg outcomes calls).attempts ≤ (after msg outcomes (calls + more)).attempts := by
  rw [after, after, run_add]
  exact run_invariant (P := fun task => _ ≤ task.attempts)
    (fun _ _ hle hstep => hle.trans (attempts_le_of_step hstep)) le_rfl more

/-- The last call returns. -/
lemma after_returned (msg : XtRequestMessage) (outcomes : ℕ → SendOutcome) :
    (after msg outcomes (3 * msg.retriesRemaining.toNat + 1)).call = .returned := by
  have hleft : step outcomes (after msg outcomes (3 * msg.retriesRemaining.toNat + 1)) = none :=
    step_run_eq_none (fun _ _ => inv_step) (inv_start msg outcomes) le_rfl
  have hlocated := (inv_after msg outcomes (3 * msg.retriesRemaining.toNat + 1)).located
  rw [step] at hleft
  split at hleft
  · split_ifs at hleft
    split at hleft <;> cases hleft
  · split_ifs at hleft
  · cases hleft
  · cases hleft
  · assumption
  · rename_i hcall
    rw [hcall] at hlocated
    exact hlocated.elim

lemma located_returned (msg : XtRequestMessage) (outcomes : ℕ → SendOutcome) :
    Located msg outcomes (after msg outcomes (3 * msg.retriesRemaining.toNat + 1)).attempts
      .returned := by
  rw [← after_returned msg outcomes]
  exact (inv_after msg outcomes _).located

/-- What is submitted is a matter of the attempts, and not more than the retries. -/
lemma length_submitted_le (msg : XtRequestMessage) (outcomes : ℕ → SendOutcome) (calls : ℕ) :
    (after msg outcomes calls).submitted.length ≤ msg.retriesRemaining.toNat := by
  rw [(inv_after msg outcomes calls).submitted]
  exact (length_submissions_le msg outcomes _).trans (inv_after msg outcomes calls).attempts_le

end SendTask

/-- A message is created with three retries: it is submitted at most three times, and its task
returns within ten calls. -/
theorem XtRequestMessage.new_returned (call : XtRequest) (metadata : XtRequestMetadata)
    (outcomes : ℕ → SendOutcome) :
    (SendTask.after (.new call metadata) outcomes 10).call = .returned ∧
      ∀ calls, (SendTask.after (.new call metadata) outcomes calls).submitted.length ≤ 3 :=
  ⟨SendTask.after_returned (.new call metadata) outcomes,
    SendTask.length_submitted_le (.new call metadata) outcomes⟩

/-- For all outcomes of the attempts, the calls of a task return after at most `3 * k + 1` calls,
where `k` is the number of retries remaining.  On the way the subtraction does not underflow, the
extrinsic is submitted by each attempt that comes so far and by nothing else, at most `k` times, and
nothing is submitted behind an outcome that is not retried.  Without such an outcome there are `k`
attempts, and with one, it is the last. -/
theorem unsigned_retries_bounded (msg : XtRequestMessage) (outcomes : ℕ → SendOutcome) :
    (∀ calls, (SendTask.after msg outcomes calls).call ≠ .underflow ∧
      (SendTask.after msg outcomes calls).submitted =
        submissions msg outcomes (SendTask.after msg outcomes calls).attempts ∧
      (SendTask.after msg outcomes calls).submitted.length ≤ msg.retriesRemaining.toNat ∧
      (∀ call ∈ (SendTask.after msg outcomes calls).submitted, call = msg.call) ∧
      ∀ i, (outcomes i).isLast msg.metadata = true →
        (SendTask.after msg outcomes calls).attempts = i + 1 →
        ∀ more, (SendTask.after msg outcomes (calls + more)).submitted =
          (SendTask.after msg outcomes calls).submitted) ∧
    ∃ calls ≤ 3 * msg.retriesRemaining.toNat + 1,
      (SendTask.after msg outcomes calls).call = .returned ∧
      ((∀ i < msg.retriesRemaining.toNat, (outcomes i).isLast msg.metadata = false) →
        (SendTask.after msg outcomes calls).attempts = msg.retriesRemaining.toNat) ∧
      ∀ i < msg.retriesRemaining.toNat, (outcomes i).isLast msg.metadata = true →
        (∀ j < i, (outcomes j).isLast msg.metadata = false) →
        (SendTask.after msg outcomes calls).attempts = i + 1 := by
  have hinv := SendTask.inv_after msg outcomes
  refine ⟨fun calls => ⟨?_, (hinv calls).submitted, ?_, ?_, ?_⟩,
    3 * msg.retriesRemaining.toNat + 1, le_rfl, SendTask.after_returned msg outcomes, ?_, ?_⟩
  · intro hcall
    have hlocated := (hinv calls).located
    rw [hcall] at hlocated
    exact hlocated
  · exact SendTask.length_submitted_le msg outcomes calls
  · intro call hmem
    rw [(hinv calls).submitted] at hmem
    exact eq_of_mem_submissions hmem
  · intro i hi hattempts more
    have hsame : (SendTask.after msg outcomes (calls + more)).attempts = i + 1 :=
      le_antisymm ((hinv (calls + more)).attempts_le_of_isLast hi)
        (hattempts ▸ SendTask.attempts_after_le msg outcomes calls more)
    rw [(hinv (calls + more)).submitted, (hinv calls).submitted, hsame, hattempts]
  · intro hretried
    obtain ⟨hattempts, -⟩ | ⟨n, hn, -, hlast⟩ := SendTask.located_returned msg outcomes
    · exact hattempts
    · have hle := (hinv (3 * msg.retriesRemaining.toNat + 1)).attempts_le
      rw [hretried n (by omega)] at hlast
      cases hlast
  · intro i hik hi hretried
    obtain ⟨hattempts, hall⟩ | ⟨n, hn, hall, hlast⟩ := SendTask.located_returned msg outcomes
    · exact absurd (hall.le_of_isLast hi) (by omega)
    · have hin : i ≤ n := AllRetried.le_of_isLast hretried hlast
      have hni : n ≤ i := hall.le_of_isLast hi
      omega

/-- The message of a poll, as it is created. -/
def samplePoll : XtRequestMessage := .new ⟨.onFlightPoll, [1, 2]⟩ .onFlightPoll

/-- The first attempt fails before it submits, the second one is retried, and the third one finds
the work done. -/
def sampleOutcomes : ℕ → SendOutcome
  | 0 => .clientError "connection closed"
  | 1 => .finalizationError "timeout"
  | _ => .submissionError "CCCPRelayQueue::TransferAlreadyOnFlight"

/-- The poll is attempted three times within ten calls, and two of the attempts submit it. -/
theorem unsigned_retries_bounded_created :
    ∃ calls ≤ 10, (SendTask.after samplePoll sampleOutcomes calls).call = .returned ∧
      (SendTask.after samplePoll sampleOutcomes calls).attempts = 3 ∧
      (SendTask.after samplePoll sampleOutcomes calls).submitted =
        [samplePoll.call, samplePoll.call] := by
  obtain ⟨hcalls, calls, hle, hreturned, -, hlast⟩ :=
    unsigned_retries_bounded samplePoll sampleOutcomes
  have hattempts : (SendTask.after samplePoll sampleOutcomes calls).attempts = 3 :=
    hlast 2 (by decide) (by decide) (by decide)
  obtain ⟨-, hsubmitted, -⟩ := hcalls calls
  refine ⟨calls, hle, hreturned, hattempts, ?_⟩
  rw [hsubmitted, hattempts]
  decide

end Substrate

end BifrostRelayer
