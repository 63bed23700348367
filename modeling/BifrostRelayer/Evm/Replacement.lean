import BifrostRelayer.Evm.FlushTransactions
import BifrostRelayer.Foundation.Binary64

/-!
# Replacing stalled transactions

The loop of `flush_stalled_transactions` sends the queue one request at a time.  A request that is
not confirmed in time goes back to the front and is sent again at a higher price.  A pool accepts it
in place of the old one only if the price has gone up by a tenth, and the price is computed in
double precision.

The requests are followed here through all rounds of the loop: each is sent with the nonce that the
account has at this time, no request is left out or overtaken, and whatever takes the place of an
earlier transaction has a price that is high enough.
-/

namespace BifrostRelayer

namespace Evm

open Fallible

/-! ### The new price -/

/-- `1.1`, in units of `2 ^ -52`. -/
def onePointOne : ℕ := 4953959590107546

/-- `((fee as f64) * 1.1).ceil() as u128`; the conversion saturates. -/
def raiseFee (fee : BitVec 128) : BitVec 128 :=
  .ofNat 128 (min (Binary64.mulCeil onePointOne fee.toNat) (2 ^ 128 - 1))

/-- `max`. -/
def maxFee (a b : BitVec 128) : BitVec 128 := if a.toNat ≤ b.toNat then b else a

/-- What the chain says about the price of gas. -/
structure FeeReplies where
  gasPrice : Except Report (BitVec 128)
  /-- `estimate_eip1559_fees`: `max_fee_per_gas` and `max_priority_fee_per_gas`. -/
  eip1559Fees : Except Report (BitVec 128 × BitVec 128)

/-- The fees for the next attempt.  A request of the queue is of one of the two types. -/
def FeeReplies.replace (r : FeeReplies) : Fees → Except Report Fees
  | .legacy gasPrice => do
      let currentGasPrice ← r.gasPrice
      return .legacy (maxFee (raiseFee gasPrice) currentGasPrice)
  | .eip1559 maxFeePerGas maxPriorityFeePerGas => do
      let currentGasPrice ← r.eip1559Fees
      return .eip1559 (maxFee (raiseFee maxFeePerGas) currentGasPrice.1)
        (maxFee (raiseFee maxPriorityFeePerGas) currentGasPrice.2)

/-- The largest price for which the computation is known not to lose anything, in wei. -/
def exactFeeBound : ℕ := 10 ^ 15

/-- The second fee is not lower, and a tenth higher than the first as long as this is below the
bound. -/
def Outbids (old new : BitVec 128) : Prop :=
  old.toNat ≤ new.toNat ∧ (old.toNat ≤ exactFeeBound → 11 * old.toNat ≤ 10 * new.toNat)

/-- All fees of the second request outbid those of the first. -/
def Fees.Outbid : Fees → Fees → Prop
  | .legacy old, .legacy new => Outbids old new
  | .eip1559 old oldPriority, .eip1559 new newPriority =>
      Outbids old new ∧ Outbids oldPriority newPriority
  | _, _ => False

lemma Outbids.trans {a b c : BitVec 128} (hab : Outbids a b) (hbc : Outbids b c) : Outbids a c := by
  refine ⟨hab.1.trans hbc.1, fun hle => (hab.2 hle).trans ?_⟩
  exact Nat.mul_le_mul_left 10 hbc.1

lemma Fees.Outbid.trans {a b c : Fees} (hab : a.Outbid b) (hbc : b.Outbid c) : a.Outbid c := by
  cases a <;> cases b <;> cases c <;> simp only [Fees.Outbid] at hab hbc ⊢
  · exact ⟨hab.1.trans hbc.1, hab.2.trans hbc.2⟩
  · exact Outbids.trans hab hbc

/-- The rounding does not spoil the raise. -/
lemma outbids_raiseFee (fee : BitVec 128) : Outbids fee (raiseFee fee) := by
  have hlt := fee.isLt
  have hle : fee.toNat ≤ Binary64.mulCeil onePointOne fee.toNat :=
    Binary64.le_mulCeil (by decide) _
  have hvalue : (raiseFee fee).toNat =
      min (Binary64.mulCeil onePointOne fee.toNat) (2 ^ 128 - 1) := by
    rw [raiseFee, BitVec.toNat_ofNat]
    exact Nat.mod_eq_of_lt (by omega)
  rw [Outbids, hvalue, exactFeeBound]
  refine ⟨by omega, fun hbound => ?_⟩
  have htenth : 11 * fee.toNat ≤ 10 * Binary64.mulCeil onePointOne fee.toNat := by
    refine Binary64.mul_le_mul_mulCeil (by decide) (by decide) (by omega) ?_
    rw [onePointOne]
    omega
  omega

lemma Outbids.maxFee_right {old new : BitVec 128} (h : Outbids old new) (current : BitVec 128) :
    Outbids old (maxFee new current) := by
  have hle : new.toNat ≤ (maxFee new current).toNat := by
    rw [maxFee]
    split <;> omega
  exact ⟨h.1.trans hle, fun hbound => (h.2 hbound).trans (Nat.mul_le_mul_left 10 hle)⟩

/-- The new price outbids the old one. -/
lemma outbid_replace {r : FeeReplies} {old new : Fees} (h : r.replace old = .ok new) :
    old.Outbid new := by
  cases old with
  | legacy gasPrice =>
    simp only [FeeReplies.replace, bind_eq_ok, pure, Except.pure, Except.ok.injEq] at h
    obtain ⟨current, -, rfl⟩ := h
    exact (outbids_raiseFee gasPrice).maxFee_right current
  | eip1559 maxFeePerGas maxPriorityFeePerGas =>
    simp only [FeeReplies.replace, bind_eq_ok, pure, Except.pure, Except.ok.injEq] at h
    obtain ⟨current, -, rfl⟩ := h
    exact ⟨(outbids_raiseFee _).maxFee_right _, (outbids_raiseFee _).maxFee_right _⟩

/-! ### The rounds of the loop -/

/-- The request was confirmed. -/
def ResubmitReplies.isConfirmed (r : ResubmitReplies) : Bool :=
  match r.outcome with
  | .confirmed => true
  | _ => false

/-- How many requests are confirmed in the first rounds. -/
def confirmedBefore (rounds : List ResubmitReplies) (i : ℕ) : ℕ :=
  (rounds.take i).countP ResubmitReplies.isConfirmed

lemma confirmedBefore_zero (rounds : List ResubmitReplies) : confirmedBefore rounds 0 = 0 := rfl

lemma confirmedBefore_succ_confirmed {round : ResubmitReplies} (h : round.outcome = .confirmed)
    (rounds : List ResubmitReplies) (i : ℕ) :
    confirmedBefore (round :: rounds) (i + 1) = confirmedBefore rounds i + 1 := by
  simp [confirmedBefore, ResubmitReplies.isConfirmed, h]

lemma confirmedBefore_succ_unconfirmed {round : ResubmitReplies} (h : round.outcome = .unconfirmed)
    (rounds : List ResubmitReplies) (i : ℕ) :
    confirmedBefore (round :: rounds) (i + 1) = confirmedBefore rounds i := by
  simp [confirmedBefore, ResubmitReplies.isConfirmed, h]

/-- The first round sends the request at the front at the new price. -/
lemma resubmit_zero_cases {round : ResubmitReplies} {rounds : List ResubmitReplies}
    {tx sent : TransactionRequest} {transactions : List TransactionRequest}
    (h : (resubmit (round :: rounds) (tx :: transactions))[0]? = some sent) :
    ∃ fees, round.raiseFees tx.fees = .ok fees ∧ sent = { tx with fees } := by
  unfold resubmit at h
  cases hfees : round.raiseFees tx.fees with
  | error report => simp [hfees] at h
  | ok fees =>
    refine ⟨fees, rfl, ?_⟩
    cases houtcome : round.outcome <;> simpa [hfees, houtcome] using h.symm

/-- The later rounds go on without the request if it was confirmed, and with the request at the
front if it was not. -/
lemma resubmit_succ_cases {round : ResubmitReplies} {rounds : List ResubmitReplies}
    {tx sent : TransactionRequest} {transactions : List TransactionRequest} {i : ℕ}
    (h : (resubmit (round :: rounds) (tx :: transactions))[i + 1]? = some sent) :
    ∃ fees, round.raiseFees tx.fees = .ok fees ∧
      (round.outcome = .confirmed ∧ (resubmit rounds transactions)[i]? = some sent ∨
        round.outcome = .unconfirmed ∧
          (resubmit rounds ({ tx with fees } :: transactions))[i]? = some sent) := by
  unfold resubmit at h
  cases hfees : round.raiseFees tx.fees with
  | error report => simp [hfees] at h
  | ok fees =>
    refine ⟨fees, rfl, ?_⟩
    cases houtcome : round.outcome with
    | confirmed => exact .inl ⟨rfl, by simpa [hfees, houtcome] using h⟩
    | unconfirmed => exact .inr ⟨rfl, by simpa [hfees, houtcome] using h⟩
    | failed => simp [hfees, houtcome] at h

/-- The round raises prices as it should. -/
def ResubmitReplies.Raises (r : ResubmitReplies) : Prop :=
  ∀ old new, r.raiseFees old = .ok new → old.Outbid new

/-- The request of the round is the same transaction at a price that outbids it. -/
def Replaces (request sent : TransactionRequest) : Prop :=
  { sent with fees := request.fees } = request ∧ request.fees.Outbid sent.fees

lemma Replaces.trans {a b c : TransactionRequest} (hab : Replaces a b) (hbc : Replaces b c) :
    Replaces a c := by
  obtain ⟨habEq, habFees⟩ := hab
  obtain ⟨hbcEq, hbcFees⟩ := hbc
  refine ⟨?_, habFees.trans hbcFees⟩
  rw [← hbcEq] at habEq
  exact habEq

lemma ResubmitReplies.Raises.replaces {round : ResubmitReplies} (h : round.Raises)
    {tx : TransactionRequest} {fees : Fees} (hfees : round.raiseFees tx.fees = .ok fees) :
    Replaces tx { tx with fees } :=
  ⟨rfl, h _ _ hfees⟩

/-- In every round the loop sends the request behind those that were confirmed. -/
lemma replaces_of_resubmit {rounds : List ResubmitReplies} (hraises : ∀ r ∈ rounds, r.Raises)
    {queue : List TransactionRequest} {i : ℕ} {sent : TransactionRequest}
    (h : (resubmit rounds queue)[i]? = some sent) :
    ∃ request, queue[confirmedBefore rounds i]? = some request ∧ Replaces request sent := by
  induction rounds generalizing queue i with
  | nil => simp [resubmit] at h
  | cons round rounds ih =>
    have hround := hraises round List.mem_cons_self
    have hrest := fun r hr => hraises r (List.mem_cons_of_mem _ hr)
    cases queue with
    | nil => simp [resubmit] at h
    | cons tx transactions =>
      cases i with
      | zero =>
        obtain ⟨fees, hfees, rfl⟩ := resubmit_zero_cases h
        exact ⟨tx, rfl, hround.replaces hfees⟩
      | succ i =>
        obtain ⟨fees, hfees, ⟨houtcome, h⟩ | ⟨houtcome, h⟩⟩ := resubmit_succ_cases h
        · rw [confirmedBefore_succ_confirmed houtcome, List.getElem?_cons_succ]
          exact ih hrest h
        · -- The request is back at the front, at the price it was sent with.
          rw [confirmedBefore_succ_unconfirmed houtcome]
          obtain ⟨request, hrequest, hreplaces⟩ := ih hrest h
          cases hcount : confirmedBefore rounds i with
          | zero =>
            obtain rfl : { tx with fees } = request := by simpa [hcount] using hrequest
            exact ⟨tx, rfl, (hround.replaces hfees).trans hreplaces⟩
          | succ k =>
            rw [hcount] at hrequest
            exact ⟨request, hrequest, hreplaces⟩

/-- A request that takes the place of an earlier one outbids it. -/
lemma replaces_of_resubmit_twice {rounds : List ResubmitReplies} (hraises : ∀ r ∈ rounds, r.Raises)
    {queue : List TransactionRequest} {i j : ℕ} {sent sent' : TransactionRequest} (hij : i < j)
    (h : (resubmit rounds queue)[i]? = some sent) (h' : (resubmit rounds queue)[j]? = some sent')
    (hsame : confirmedBefore rounds i = confirmedBefore rounds j) : Replaces sent sent' := by
  induction rounds generalizing queue i j with
  | nil => simp [resubmit] at h
  | cons round rounds ih =>
    have hrest := fun r hr => hraises r (List.mem_cons_of_mem _ hr)
    obtain ⟨j, rfl⟩ : ∃ k, j = k + 1 := ⟨j - 1, by omega⟩
    cases queue with
    | nil => simp [resubmit] at h
    | cons tx transactions =>
      obtain ⟨fees, hfees, ⟨houtcome, h'⟩ | ⟨houtcome, h'⟩⟩ := resubmit_succ_cases h'
      · rw [confirmedBefore_succ_confirmed houtcome] at hsame
        cases i with
        | zero => simp [confirmedBefore_zero] at hsame
        | succ i =>
          rw [confirmedBefore_succ_confirmed houtcome] at hsame
          obtain ⟨-, -, ⟨-, h⟩ | ⟨hother, -⟩⟩ := resubmit_succ_cases h
          · exact ih hrest (by omega) h h' (by omega)
          · simp [houtcome] at hother
      · rw [confirmedBefore_succ_unconfirmed houtcome] at hsame
        cases i with
        | zero =>
          -- The request of the first round is at the front until it is confirmed.
          obtain ⟨fees', hfees', rfl⟩ := resubmit_zero_cases h
          obtain rfl : fees = fees' := by simpa [hfees] using hfees'
          obtain ⟨request, hrequest, hreplaces⟩ := replaces_of_resubmit hrest h'
          rw [← hsame, confirmedBefore_zero, List.getElem?_cons_zero, Option.some.injEq] at hrequest
          rwa [hrequest]
        | succ i =>
          rw [confirmedBefore_succ_unconfirmed houtcome] at hsame
          obtain ⟨fees', hfees', ⟨hother, -⟩ | ⟨-, h⟩⟩ := resubmit_succ_cases h
          · simp [houtcome] at hother
          · obtain rfl : fees = fees' := by simpa [hfees] using hfees'
            exact ih hrest (by omega) h h' hsame

/-! ### A flush -/

/-- A round with the replies of the chain. -/
def roundOf (r : FeeReplies × SendOutcome) : ResubmitReplies := ⟨r.1.replace, r.2⟩

lemma raises_map_roundOf (rounds : List (FeeReplies × SendOutcome)) :
    ∀ r ∈ rounds.map roundOf, r.Raises :=
  List.forall_mem_map.mpr fun _ _ _ _ h => outbid_replace h

/-- The chain says the price that fees of this type are compared with. -/
def FeeReplies.Answers (r : FeeReplies) : Fees → Prop
  | .legacy _ => ∃ gasPrice, r.gasPrice = .ok gasPrice
  | .eip1559 _ _ => ∃ fees, r.eip1559Fees = .ok fees

lemma FeeReplies.Answers.exists_replace {r : FeeReplies} {fees : Fees} (h : r.Answers fees) :
    ∃ new, r.replace fees = .ok new := by
  cases fees with
  | legacy gasPrice =>
    obtain ⟨current, hcurrent⟩ := h
    exact ⟨_, bind_eq_ok.mpr ⟨current, hcurrent, rfl⟩⟩
  | eip1559 maxFeePerGas maxPriorityFeePerGas =>
    obtain ⟨current, hcurrent⟩ := h
    exact ⟨_, bind_eq_ok.mpr ⟨current, hcurrent, rfl⟩⟩

/-- Fees that outbid others are of the same type. -/
lemma FeeReplies.Answers.of_outbid {r : FeeReplies} {old new : Fees} (hbid : old.Outbid new)
    (h : r.Answers old) : r.Answers new := by
  cases old <;> cases new <;> first | exact h | exact hbid.elim

/-- In every round the chain says the price that the next request needs, and sending does not
fail. -/
def Proceeds (rounds : List (FeeReplies × SendOutcome)) (queue : List TransactionRequest) : Prop :=
  ∀ (i : ℕ) r request, rounds[i]? = some r →
    queue[confirmedBefore (rounds.map roundOf) i]? = some request →
    r.1.Answers request.fees ∧ r.2 ≠ .failed

/-- While nothing fails, every round sends a request until all are confirmed. -/
lemma exists_resubmit {rounds : List (FeeReplies × SendOutcome)} {queue : List TransactionRequest}
    (hproceeds : Proceeds rounds queue) {i : ℕ} (hi : i < rounds.length)
    (hleft : confirmedBefore (rounds.map roundOf) i < queue.length) :
    ∃ sent, (resubmit (rounds.map roundOf) queue)[i]? = some sent := by
  induction rounds generalizing queue i with
  | nil => simp at hi
  | cons round rounds ih =>
    cases queue with
    | nil => simp at hleft
    | cons tx transactions =>
      obtain ⟨hanswers, houtcome⟩ := hproceeds 0 round tx rfl rfl
      obtain ⟨fees, hfees⟩ := hanswers.exists_replace
      have hraise : (roundOf round).raiseFees tx.fees = .ok fees := hfees
      rw [List.map_cons]
      cases i with
      | zero =>
        unfold resubmit
        simp only [hraise]
        cases (roundOf round).outcome <;> simp
      | succ i =>
        rw [List.map_cons] at hleft
        unfold resubmit
        simp only [hraise]
        cases hround : (roundOf round).outcome with
        | confirmed =>
          rw [confirmedBefore_succ_confirmed hround, List.length_cons,
            Nat.add_lt_add_iff_right] at hleft
          have hrest : Proceeds rounds transactions := by
            intro j r request hr hrequest
            refine hproceeds (j + 1) r request hr ?_
            rw [List.map_cons, confirmedBefore_succ_confirmed hround]
            exact hrequest
          simpa using ih hrest (Nat.lt_of_succ_lt_succ hi) hleft
        | unconfirmed =>
          rw [confirmedBefore_succ_unconfirmed hround] at hleft
          have hleft' : confirmedBefore (rounds.map roundOf) i <
              ({ tx with fees } :: transactions).length := by
            simpa using hleft
          -- The request at the front keeps its type.
          have hrest : Proceeds rounds ({ tx with fees } :: transactions) := by
            intro j r request hr hrequest
            have hbefore := hproceeds (j + 1) r
            rw [List.map_cons, confirmedBefore_succ_unconfirmed hround] at hbefore
            cases hcount : confirmedBefore (rounds.map roundOf) j with
            | zero =>
              rw [hcount] at hrequest hbefore
              obtain rfl := Option.some.inj hrequest
              obtain ⟨hanswers', houtcome'⟩ := hbefore tx hr rfl
              exact ⟨hanswers'.of_outbid (outbid_replace hfees), houtcome'⟩
            | succ k =>
              rw [hcount] at hrequest hbefore
              exact hbefore request hr hrequest
          simpa using ih hrest (Nat.lt_of_succ_lt_succ hi) hleft'
        | failed => exact absurd hround houtcome

/-- A flush of a pool that can be flushed replaces its transactions one after the other, and every
replacement can be accepted.  The queue stands for the transactions of the pool, with their fees.  In
each round the request that is sent has the nonce that follows the transactions confirmed so far,
which is the one the account has then; it is the next request of the queue but for its fees, and
these outbid the fees it had in the pool and those of all earlier rounds.  While nothing fails, every
round sends a request until all are confirmed. -/
theorem flush_replaces_in_order {replies : FlushReplies} {content : TxpoolContentFrom}
    {count : UInt64} (hreads : ReadsPool replies content count)
    (hpool : PoolFlushable content count) :
    ∃ queue, flushStalledTransactions replies = some (.ok queue) ∧
      List.Forall₂ Renews content.sorted queue ∧
      ∀ rounds : List (FeeReplies × SendOutcome),
        (∀ i sent, (resubmit (rounds.map roundOf) queue)[i]? = some sent →
          sent.nonce = .ofNat (count.toNat + confirmedBefore (rounds.map roundOf) i) ∧
          ∃ request, queue[confirmedBefore (rounds.map roundOf) i]? = some request ∧
            Replaces request sent) ∧
        (∀ i j sent sent', i < j → (resubmit (rounds.map roundOf) queue)[i]? = some sent →
          (resubmit (rounds.map roundOf) queue)[j]? = some sent' →
          confirmedBefore (rounds.map roundOf) i = confirmedBefore (rounds.map roundOf) j →
          Replaces sent sent') ∧
        (Proceeds rounds queue → ∀ i < rounds.length,
          confirmedBefore (rounds.map roundOf) i < queue.length →
          ∃ sent, (resubmit (rounds.map roundOf) queue)[i]? = some sent) := by
  obtain ⟨transactions, queue, hperm, hsorted, hqueue, hrenews, hnonces⟩ :=
    rebuildsQueue_of_poolFlushable hreads hpool
  rw [List.filter_eq_self.mpr fun tx htx => by simpa using hpool.unmined tx htx] at hperm
  obtain rfl := TxpoolContentFrom.eq_sorted hperm hsorted
  refine ⟨queue, hqueue, hrenews, fun rounds => ⟨?_, ?_, ?_⟩⟩
  · intro i sent hsent
    obtain ⟨request, hrequest, hreplaces⟩ := replaces_of_resubmit (raises_map_roundOf rounds) hsent
    refine ⟨?_, request, hrequest, hreplaces⟩
    rw [hnonces, consecutive, List.getElem?_mapIdx, Option.map_eq_some_iff] at hrequest
    obtain ⟨original, -, rfl⟩ := hrequest
    exact congrArg TransactionRequest.nonce hreplaces.1
  · intro i j sent sent' hij hsent hsent' hsame
    exact replaces_of_resubmit_twice (raises_map_roundOf rounds) hij hsent hsent' hsame
  · intro hproceeds i hi hleft
    exact exists_resubmit hproceeds hi hleft

/-- The price that the chain asks for. -/
def sampleFees : FeeReplies := ⟨.ok 5, .ok (200, 20)⟩

/-- Three rounds, of which the first does not end in time. -/
def sampleRounds : List (FeeReplies × SendOutcome) :=
  [(sampleFees, .unconfirmed), (sampleFees, .confirmed), (sampleFees, .confirmed)]

/-- Two transactions are replaced.  The first one is not confirmed at once, so its price goes up
twice; the fees of the second one are those that the chain asks for where these are higher. -/
theorem flush_replaces_in_order_sample :
    ∃ queue, flushStalledTransactions
        (sampleFlushReplies [sampleTransaction 7, sampleDynamicTransaction 8] 7) =
          some (.ok queue) ∧
      (resubmit (sampleRounds.map roundOf) queue).map (fun sent => (sent.nonce, sent.fees)) =
        [(7, .legacy 11), (7, .legacy 13), (8, .eip1559 200 33)] ∧
      ∀ i < 3, ∃ sent, (resubmit (sampleRounds.map roundOf) queue)[i]? = some sent ∧
        sent.nonce = .ofNat (7 + confirmedBefore (sampleRounds.map roundOf) i) := by
  have hall : (contentOf [sampleTransaction 7, sampleDynamicTransaction 8]).transactions =
      [sampleTransaction 7, sampleDynamicTransaction 8] := by decide +kernel
  have hplain : ∀ tx ∈ (contentOf [sampleTransaction 7, sampleDynamicTransaction 8]).transactions,
      tx.Plain := by
    intro tx htx
    rw [hall, List.mem_pair] at htx
    obtain rfl | rfl := htx
    · exact ⟨rfl, rfl, .inr ⟨rfl, by decide⟩⟩
    · exact ⟨rfl, rfl, .inl ⟨rfl, by decide, by decide⟩⟩
  obtain ⟨queue, hqueue, -, hrounds⟩ := @flush_replaces_in_order
    (sampleFlushReplies [sampleTransaction 7, sampleDynamicTransaction 8] 7)
    (contentOf [sampleTransaction 7, sampleDynamicTransaction 8]) 7
    ⟨rfl, .inl rfl, rfl⟩ ⟨by decide +kernel, hplain, by decide +kernel, by decide +kernel⟩
  have hvalue : flushStalledTransactions
      (sampleFlushReplies [sampleTransaction 7, sampleDynamicTransaction 8] 7) =
        some (.ok [(sampleTransaction 7).request, (sampleDynamicTransaction 8).request]) := by
    rw [flushStalledTransactions_eq ⟨rfl, .inl rfl, rfl⟩]
    decide +kernel
  obtain rfl : [(sampleTransaction 7).request, (sampleDynamicTransaction 8).request] = queue := by
    simpa [hvalue] using hqueue
  have hproceeds : Proceeds sampleRounds
      [(sampleTransaction 7).request, (sampleDynamicTransaction 8).request] := by
    intro i r request hr _
    have hround : ∀ r ∈ sampleRounds, r.1 = sampleFees ∧ r.2 ≠ .failed := by simp [sampleRounds]
    obtain ⟨hfees, houtcome⟩ := hround r (List.mem_of_getElem? hr)
    refine ⟨?_, houtcome⟩
    rw [hfees]
    cases request.fees <;> exact ⟨_, rfl⟩
  refine ⟨_, hqueue, by decide +kernel, fun i hi => ?_⟩
  obtain ⟨hin, -, hevery⟩ := hrounds sampleRounds
  have hleft : confirmedBefore (sampleRounds.map roundOf) i < 2 := by interval_cases i <;> decide
  obtain ⟨sent, hsent⟩ := hevery hproceeds i hi hleft
  exact ⟨sent, hsent, (hin i sent hsent).1⟩

end Evm

end BifrostRelayer
