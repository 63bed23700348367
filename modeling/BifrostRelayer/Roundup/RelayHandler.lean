import BifrostRelayer.Foundation.PartitionPoint
import BifrostRelayer.Roundup.Emitter

/-!
# The round-up relay handler

A committed round-up has to be relayed to every external chain.  `broadcast_roundup` goes through
the chains: it records the round-up as pending for the chain, asks the chain for its latest round,
and sends the relay if the round-up is ahead.  Every ten minutes `retry_pending_relays` goes through
the chains with pending round-ups, forgets those that have caught up with Bifrost, and sends again
what the others are missing.

`pending_relays` is a map from chains to lists of round-ups.  Its iteration order is not specified,
so a retry takes the order in which it meets the keys as an input.
-/

namespace BifrostRelayer

namespace Roundup

open SolidityAbi

/-! ### The pending relays -/

/-- `pending_relays`. -/
abbrev PendingRelays : Type := ChainId → Option (List RoundUpSubmit)

namespace PendingRelays

/-- The round-ups that are pending for a chain. -/
def of (pending : PendingRelays) (c : ChainId) : List RoundUpSubmit := (pending c).getD []

/-- A round-up of the given round is pending for the chain. -/
def Holds (pending : PendingRelays) (c : ChainId) (round : U256) : Prop :=
  ∃ submit ∈ pending.of c, submit.round = round

instance (pending : PendingRelays) (c : ChainId) (round : U256) :
    Decidable (pending.Holds c round) :=
  inferInstanceAs (Decidable (∃ submit ∈ pending.of c, submit.round = round))

/-- The recording part of the loop of `broadcast_roundup`. -/
def record (submit : RoundUpSubmit) (pending : PendingRelays) (c : ChainId) : PendingRelays :=
  let relays := pending.of c
  Function.update pending c <| some <|
    if relays.any fun r => r.round == submit.round then relays
    else relays.insertIdx (partitionPoint (fun r => decide (r.round < submit.round)) relays) submit

/-- `remove`. -/
def remove (pending : PendingRelays) (c : ChainId) : PendingRelays := Function.update pending c none

/-- The order of the round-ups of a chain. -/
def Before (a b : RoundUpSubmit) : Prop := a.round < b.round

instance : IsTrans RoundUpSubmit Before := ⟨fun _ _ _ => BitVec.lt_trans⟩

/-- Every list is strictly ascending by round. -/
def Sorted (pending : PendingRelays) : Prop := ∀ c, (pending.of c).Pairwise Before

variable {pending : PendingRelays} {submit : RoundUpSubmit} {c d : ChainId}

/-- Recording for a chain leaves the other chains alone. -/
lemma of_record_ne (h : d ≠ c) : (pending.record submit c).of d = pending.of d := by
  simp [record, of, h]

/-- Recording adds the round-up, unless one of its round is there. -/
lemma of_record_self :
    (pending.record submit c).of c =
      if pending.Holds c submit.round then pending.of c
      else (pending.of c).insertIdx
        (partitionPoint (fun r => decide (r.round < submit.round)) (pending.of c)) submit := by
  by_cases h : pending.Holds c submit.round
  · have hany : ((pending.of c).any fun r => r.round == submit.round) = true := by
      simpa [Holds] using h
    rw [if_pos h, record, if_pos hany]
    simp [of]
  · have hany : ¬((pending.of c).any fun r => r.round == submit.round) = true := by
      simpa [Holds] using h
    rw [if_neg h, record, if_neg hany]
    simp [of]

/-- After recording, the round is pending. -/
lemma holds_record : (pending.record submit c).Holds c submit.round := by
  by_cases h : pending.Holds c submit.round
  · rw [Holds, of_record_self, if_pos h]
    exact h
  · rw [Holds, of_record_self, if_neg h]
    exact ⟨submit, mem_insertIdx_partitionPoint.2 (.inl rfl), rfl⟩

/-- Recording forgets nothing. -/
lemma mem_record {e : RoundUpSubmit} (he : e ∈ pending.of d) :
    e ∈ (pending.record submit c).of d := by
  by_cases hd : d = c
  · subst hd
    rw [of_record_self]
    split
    · exact he
    · exact mem_insertIdx_partitionPoint.2 (.inr he)
  · rwa [of_record_ne hd]

/-- Two rounds that differ are in order one way or the other. -/
lemma before_or_before {a b : RoundUpSubmit} (h : a.round ≠ b.round) :
    decide (a.round < b.round) = true ∨ Before b a := by
  have hne : a.round.toNat ≠ b.round.toNat := fun heq => h (BitVec.eq_of_toNat_eq heq)
  rcases Nat.lt_or_gt_of_ne hne with hlt | hlt
  · exact .inl (decide_eq_true hlt)
  · exact .inr hlt

/-- Recording keeps the lists sorted. -/
lemma Sorted.record (h : pending.Sorted) : (pending.record submit c).Sorted := by
  intro d
  by_cases hd : d = c
  · subst hd
    rw [of_record_self]
    split
    next => exact h d
    next hnew =>
      refine pairwise_insertIdx_partitionPoint (h d) (fun r _ => of_decide_eq_true) ?_
      exact fun r hr => before_or_before fun heq => hnew ⟨r, hr, heq⟩
  · rw [of_record_ne hd]
    exact h d

/-- Removing a chain leaves the other chains alone. -/
lemma of_remove_ne (h : d ≠ c) : (pending.remove c).of d = pending.of d := by
  simp [remove, of, h]

/-- Removing a chain keeps the lists sorted. -/
lemma Sorted.remove (h : pending.Sorted) : (pending.remove c).Sorted := by
  intro d
  by_cases hd : d = c
  · subst hd
    simp [PendingRelays.remove, of]
  · rw [of_remove_ne hd]
    exact h d

end PendingRelays

/-! ### Broadcasting -/

/-- The handler's clients. -/
structure RelayConfig where
  /-- The chains of `external_clients`, in the order of the map. -/
  externalClients : List ChainId
  ascending : externalClients.Pairwise (· < ·)
  /-- The signers of the Bifrost client. -/
  signers : List Address

/-- The transaction `round_control_relay` for a chain. -/
structure RoundControlRelay where
  dstChainId : ChainId
  submit : RoundUpSubmit
  sender : Address
deriving DecidableEq

/-- The outcome of one `sync_send_transaction`: with `nonce too low` the stalled transactions are
flushed before the next attempt. -/
inductive SyncSend where
  | sent
  | nonceTooLow (flush : Except Report Unit)
  | failed (report : Report)

/-- The loop around `sync_send_transaction`, from the outcomes of its attempts; `none` if it still
goes on. -/
def syncSendLoop : List SyncSend → Option (Except Report Unit)
  | [] => none
  | .sent :: _ => some (.ok ())
  | .nonceTooLow (.ok _) :: rest => syncSendLoop rest
  | .nonceTooLow (.error e) :: _ => some (.error e)
  | .failed e :: _ => some (.error e)

/-- The replies that the calls of a broadcast get. -/
structure BroadcastReplies where
  /-- `latest_round` of the authority on a chain. -/
  latestRound : ChainId → Except Report U256
  /-- The attempts to send to a chain in bootstrap. -/
  syncSend : ChainId → List SyncSend

/-- What a broadcast or a retry leaves: the pending round-ups, the relays that were sent, and what
it returned, if it returned. -/
structure RelayResult where
  pending : PendingRelays
  sent : List RoundControlRelay
  result : Option (Except Report Unit)

/-- The result with relays that were sent before. -/
def RelayResult.after (r : RelayResult) (relays : List RoundControlRelay) : RelayResult :=
  { r with sent := relays ++ r.sent }

/-- The loop of `broadcast_roundup`. -/
def broadcastLoop (replies : BroadcastReplies) (submit : RoundUpSubmit) (sender : Address)
    (isBootstrap : Bool) : PendingRelays → List ChainId → RelayResult
  | pending, [] => ⟨pending, [], some (.ok ())⟩
  | pending, c :: rest =>
    let pending := if isBootstrap then pending else pending.record submit c
    match replies.latestRound c with
    | .error e => ⟨pending, [], some (.error e)⟩
    | .ok latestRound =>
      if latestRound < submit.round then
        if isBootstrap then
          match syncSendLoop (replies.syncSend c) with
          | some (.ok ()) =>
              (broadcastLoop replies submit sender isBootstrap pending rest).after
                [⟨c, submit, sender⟩]
          | result => ⟨pending, [], result⟩
        else
          (broadcastLoop replies submit sender isBootstrap pending rest).after
            [⟨c, submit, sender⟩]
      else broadcastLoop replies submit sender isBootstrap pending rest

/-- `broadcast_roundup`. -/
def broadcastRoundup (cfg : RelayConfig) (replies : BroadcastReplies) (submit : RoundUpSubmit)
    (sender : Address) (isBootstrap : Bool) (pending : PendingRelays) : RelayResult :=
  if cfg.externalClients.isEmpty then ⟨pending, [], some (.ok ())⟩
  else broadcastLoop replies submit sender isBootstrap pending cfg.externalClients

/-! ### Retrying -/

/-- The replies that the calls of a retry get. -/
structure RetryReplies where
  /-- `latest_round` of the authority on Bifrost. -/
  bifrostLatestRound : Except Report U256
  /-- `latest_round` of the authority on a chain. -/
  latestRound : ChainId → Except Report U256
  /-- `previous_selected_relayers` for a round; the code panics without it. -/
  previousSelectedRelayers : U256 → Option (List Address)
  /-- The order in which the keys of `pending_relays` are met. -/
  chainIds : List ChainId

/-- `relay_as`; `none` is a panic. -/
def relayAs (cfg : RelayConfig) (replies : RetryReplies) (round : U256) : Option Address :=
  (replies.previousSelectedRelayers round).map fun prevRelayers =>
    (cfg.signers.find? fun a => prevRelayers.contains a).getD zeroAddress

/-- The relays that a retry sends to one chain, and whether it got through all of them: a panic of
`relay_as` comes after the earlier ones were sent. -/
def retryRelays (cfg : RelayConfig) (replies : RetryReplies) (c : ChainId) :
    List RoundUpSubmit → List RoundControlRelay × Bool
  | [] => ([], true)
  | submit :: rest =>
    match relayAs cfg replies (prevRound submit.round) with
    | some sender =>
        let relays := retryRelays cfg replies c rest
        (⟨c, submit, sender⟩ :: relays.1, relays.2)
    | none => ([], false)

/-- The round-ups of a chain that it has not reached. -/
def PendingRelays.ahead (pending : PendingRelays) (c : ChainId) (chainLatestRound : U256) :
    List RoundUpSubmit :=
  (pending.of c).filter fun r => decide (chainLatestRound < r.round)

/-- The loop of `retry_pending_relays`. -/
def retryLoop (cfg : RelayConfig) (replies : RetryReplies) (bifrostLatestRound : U256) :
    PendingRelays → List ChainId → RelayResult
  | pending, [] => ⟨pending, [], some (.ok ())⟩
  | pending, c :: rest =>
    if cfg.externalClients.contains c then
      match replies.latestRound c with
      | .error e => ⟨pending, [], some (.error e)⟩
      | .ok chainLatestRound =>
        if chainLatestRound = bifrostLatestRound then
          retryLoop cfg replies bifrostLatestRound (pending.remove c) rest
        else
          let relays := retryRelays cfg replies c (pending.ahead c chainLatestRound)
          if relays.2 then (retryLoop cfg replies bifrostLatestRound pending rest).after relays.1
          else ⟨pending, relays.1, none⟩
    else retryLoop cfg replies bifrostLatestRound (pending.remove c) rest

/-- `retry_pending_relays`. -/
def retryPendingRelays (cfg : RelayConfig) (replies : RetryReplies) (pending : PendingRelays) :
    RelayResult :=
  match replies.bifrostLatestRound with
  | .error e => ⟨pending, [], some (.error e)⟩
  | .ok bifrostLatestRound =>
      retryLoop cfg replies bifrostLatestRound pending replies.chainIds

/-! ### Every chain is recorded -/

section Broadcast

variable {replies : BroadcastReplies} {submit : RoundUpSubmit} {sender : Address}
  {pending : PendingRelays} {l : List ChainId} {d : ChainId}

/-- The chains that the loop gets to: up to the first one whose call fails. -/
def attempted (replies : BroadcastReplies) : List ChainId → List ChainId
  | [] => []
  | c :: rest =>
    match replies.latestRound c with
    | .error _ => [c]
    | .ok _ => c :: attempted replies rest

/-- The loop gets to no other chains than those it goes through. -/
lemma attempted_subset (replies : BroadcastReplies) (l : List ChainId) :
    attempted replies l ⊆ l := by
  induction l with
  | nil => exact List.Subset.refl _
  | cons c rest ih =>
    rw [attempted]
    split
    · simp
    · exact List.cons_subset_cons c ih

/-- The normal path records the round-up for the chains it gets to. -/
lemma pending_broadcastLoop :
    (broadcastLoop replies submit sender false pending l).pending =
      (attempted replies l).foldl (fun pending c => pending.record submit c) pending := by
  induction l generalizing pending with
  | nil => rfl
  | cons c rest ih =>
    cases hlatest : replies.latestRound c with
    | error e => simp [broadcastLoop, attempted, hlatest]
    | ok latestRound =>
      by_cases hlt : latestRound < submit.round
      · simp [broadcastLoop, attempted, hlatest, hlt, RelayResult.after, ih]
      · simp [broadcastLoop, attempted, hlatest, hlt, ih]

/-- The normal path always returns. -/
lemma isSome_result_broadcastLoop :
    (broadcastLoop replies submit sender false pending l).result.isSome = true := by
  induction l generalizing pending with
  | nil => rfl
  | cons c rest ih =>
    cases hlatest : replies.latestRound c with
    | error e => simp [broadcastLoop, hlatest]
    | ok latestRound =>
      by_cases hlt : latestRound < submit.round
      · simp [broadcastLoop, hlatest, hlt, RelayResult.after, ih]
      · simp [broadcastLoop, hlatest, hlt, ih]

/-- After recording for some chains, exactly these and those that had it before hold the round. -/
lemma holds_foldl_record :
    (l.foldl (fun pending c => pending.record submit c) pending).Holds d submit.round ↔
      d ∈ l ∨ pending.Holds d submit.round := by
  induction l generalizing pending with
  | nil => simp
  | cons c rest ih =>
    rw [List.foldl_cons, ih, List.mem_cons, or_assoc]
    by_cases hd : d = c
    · subst hd
      simp [PendingRelays.holds_record]
    · have hkeep : (pending.record submit c).Holds d submit.round ↔
          pending.Holds d submit.round := by
        rw [PendingRelays.Holds, PendingRelays.of_record_ne hd]
        rfl
      rw [hkeep]
      simp [hd]

/-- The loop gets to a chain if no call for an earlier one fails. -/
lemma mem_attempted (hsorted : l.Pairwise (· < ·)) :
    d ∈ attempted replies l ↔
      d ∈ l ∧ ∀ c ∈ l, c < d → ∀ e, replies.latestRound c ≠ .error e := by
  induction l with
  | nil => simp [attempted]
  | cons b rest ih =>
    obtain ⟨hb, hrest⟩ := List.pairwise_cons.1 hsorted
    have hfirst : ∀ c ∈ b :: rest, ¬c < b := by
      intro c hc hlt
      rcases List.mem_cons.1 hc with rfl | hc
      · exact lt_irrefl _ hlt
      · exact lt_asymm hlt (hb c hc)
    cases hlatest : replies.latestRound b with
    | error e =>
      have hattempted : attempted replies (b :: rest) = [b] := by simp [attempted, hlatest]
      rw [hattempted, List.mem_singleton]
      constructor
      · rintro rfl
        exact ⟨List.mem_cons_self, fun c hc hlt => absurd hlt (hfirst c hc)⟩
      · rintro ⟨hd, hok⟩
        rcases List.mem_cons.1 hd with rfl | hd
        · rfl
        · exact absurd hlatest (hok b List.mem_cons_self (hb d hd) e)
    | ok latestRound =>
      have hattempted : attempted replies (b :: rest) = b :: attempted replies rest := by
        simp [attempted, hlatest]
      rw [hattempted, List.mem_cons, ih hrest]
      constructor
      · rintro (rfl | ⟨hd, hok⟩)
        · exact ⟨List.mem_cons_self, fun c hc hlt => absurd hlt (hfirst c hc)⟩
        · refine ⟨List.mem_cons_of_mem _ hd, fun c hc hlt e => ?_⟩
          rcases List.mem_cons.1 hc with rfl | hc
          · simp [hlatest]
          · exact hok c hc hlt e
      · rintro ⟨hd, hok⟩
        rcases List.mem_cons.1 hd with rfl | hd
        · exact .inl rfl
        · exact .inr ⟨hd, fun c hc => hok c (List.mem_cons_of_mem _ hc)⟩

end Broadcast

/-- The normal path of a broadcast returns, and it leaves the round-up pending for every external
chain exactly if every chain that comes after one whose call fails had it pending before. -/
theorem broadcast_records_every_chain_iff (cfg : RelayConfig) (replies : BroadcastReplies)
    (submit : RoundUpSubmit) (sender : Address) (pending : PendingRelays) :
    (broadcastRoundup cfg replies submit sender false pending).result.isSome = true ∧
      ((∀ d ∈ cfg.externalClients,
          (broadcastRoundup cfg replies submit sender false pending).pending.Holds d
            submit.round) ↔
        ∀ c ∈ cfg.externalClients, ∀ d ∈ cfg.externalClients, c < d →
          (∃ e, replies.latestRound c = .error e) → pending.Holds d submit.round) := by
  by_cases hempty : cfg.externalClients = []
  · simp [broadcastRoundup, hempty]
  have hloop : broadcastRoundup cfg replies submit sender false pending =
      broadcastLoop replies submit sender false pending cfg.externalClients := by
    simp [broadcastRoundup, hempty]
  rw [hloop]
  refine ⟨isSome_result_broadcastLoop, ?_⟩
  simp only [pending_broadcastLoop, holds_foldl_record, mem_attempted cfg.ascending]
  constructor
  · rintro hall c hc d hd hlt ⟨e, he⟩
    rcases hall d hd with ⟨-, hok⟩ | hheld
    · exact absurd he (hok c hc hlt e)
    · exact hheld
  · intro hcond d hd
    by_cases hheld : pending.Holds d submit.round
    · exact .inr hheld
    · refine .inl ⟨hd, fun c hc hlt e he => hheld ?_⟩
      exact hcond c hc d hd hlt ⟨e, he⟩

/-- Two external chains. -/
def sampleRelayConfig : RelayConfig := ⟨[1, 2], by decide, []⟩

/-- The first of two chains does not answer, and the second is not recorded. -/
theorem broadcast_skips_second_chain :
    ¬∀ d ∈ sampleRelayConfig.externalClients,
      (broadcastRoundup sampleRelayConfig ⟨fun _ => .error ⟨"timeout"⟩, fun _ => []⟩ ⟨7, [], .empty⟩
        zeroAddress false (fun _ => none)).pending.Holds d 7 := by
  decide

end Roundup

end BifrostRelayer
