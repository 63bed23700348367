import BifrostRelayer.Roundup.RelayHandler

/-!
# Runs of the round-up relay handler

The handler makes broadcasts and retries in any order, with any replies and errors, and with the
keys of `pending_relays` met in any order.  The lists stay sorted sets throughout.  A retry sends
what a chain is missing up to the first round for which `relay_as` panics, and a panic ends the
handler.  It forgets the round-ups of a chain as a whole, when the round of the chain equals that of
Bifrost; this is sound as long as no pending round is ahead of Bifrost.
-/

namespace BifrostRelayer

namespace Roundup

open SolidityAbi

/-- A call of the handler. -/
inductive RelayInput where
  /-- `broadcast_roundup` on the normal path. -/
  | broadcast (submit : RoundUpSubmit) (sender : Address) (replies : BroadcastReplies)
  /-- `retry_pending_relays`. -/
  | retry (replies : RetryReplies)

/-- The effect of a call. -/
def relayCall (cfg : RelayConfig) (pending : PendingRelays) : RelayInput → RelayResult
  | .broadcast submit sender replies => broadcastRoundup cfg replies submit sender false pending
  | .retry replies => retryPendingRelays cfg replies pending

/-- A retry meets each key of `pending_relays` once. -/
def MeetsKeys (pending : PendingRelays) : RelayInput → Prop
  | .broadcast _ _ _ => True
  | .retry replies =>
      replies.chainIds.Nodup ∧ ∀ c, c ∈ replies.chainIds ↔ (pending c).isSome = true

/-- The handler; a panic ends its task. -/
structure RelayHandlerState where
  pending : PendingRelays
  panicked : Bool

/-- The handler, with the relays sent by each call as its output. -/
def relaySystem (cfg : RelayConfig) :
    LabelledSystem RelayHandlerState (RelayInput × List RoundControlRelay) where
  init s := s = ⟨fun _ => none, false⟩
  step s a s' :=
    s.panicked = false ∧ MeetsKeys s.pending a.1 ∧ (relayCall cfg s.pending a.1).sent = a.2 ∧
      s' = ⟨(relayCall cfg s.pending a.1).pending, (relayCall cfg s.pending a.1).result.isNone⟩

/-! ### The invariant -/

/-- The lists are sorted, and only external chains have one. -/
structure RelayInvariant (cfg : RelayConfig) (pending : PendingRelays) : Prop where
  sorted : pending.Sorted
  external : ∀ c, (pending c).isSome = true → c ∈ cfg.externalClients

variable {cfg : RelayConfig} {pending : PendingRelays} {c d : ChainId} {l : List ChainId}

/-- What a retry does with the first chain: it stops there with an error, forgets the chain, or sends
what the chain is missing, where a panic may stop it. -/
lemma retryLoop_cons (cfg : RelayConfig) (replies : RetryReplies) (bifrostLatestRound : U256)
    (pending : PendingRelays) (c : ChainId) (rest : List ChainId) :
    (∃ e, replies.latestRound c = .error e ∧
        retryLoop cfg replies bifrostLatestRound pending (c :: rest) =
          ⟨pending, [], some (.error e)⟩) ∨
      ((c ∈ cfg.externalClients → replies.latestRound c = .ok bifrostLatestRound) ∧
        retryLoop cfg replies bifrostLatestRound pending (c :: rest) =
          retryLoop cfg replies bifrostLatestRound (pending.remove c) rest) ∨
      ∃ chainLatestRound, c ∈ cfg.externalClients ∧
        replies.latestRound c = .ok chainLatestRound ∧ chainLatestRound ≠ bifrostLatestRound ∧
        retryLoop cfg replies bifrostLatestRound pending (c :: rest) =
          let relays := retryRelays cfg replies c (pending.ahead c chainLatestRound)
          if relays.2 then (retryLoop cfg replies bifrostLatestRound pending rest).after relays.1
          else ⟨pending, relays.1, none⟩ := by
  rw [retryLoop]
  by_cases hc : c ∈ cfg.externalClients
  · rw [if_pos (List.contains_iff_mem.2 hc)]
    cases hlatest : replies.latestRound c with
    | error e => exact .inl ⟨e, rfl, rfl⟩
    | ok chainLatestRound =>
      by_cases heq : chainLatestRound = bifrostLatestRound
      · subst heq
        exact .inr (.inl ⟨fun _ => rfl, if_pos rfl⟩)
      · exact .inr (.inr ⟨_, hc, rfl, heq, if_neg heq⟩)
  · refine .inr (.inl ⟨fun h => absurd h hc, if_neg ?_⟩)
    simpa using hc

namespace RelayInvariant

/-- Recording for an external chain keeps the invariant. -/
lemma record {submit : RoundUpSubmit} (h : RelayInvariant cfg pending)
    (hc : c ∈ cfg.externalClients) : RelayInvariant cfg (pending.record submit c) := by
  refine ⟨h.sorted.record, fun d hd => ?_⟩
  by_cases hne : d = c
  · exact hne ▸ hc
  · apply h.external
    simpa [PendingRelays.record, hne] using hd

/-- Removing a chain keeps the invariant. -/
lemma remove (h : RelayInvariant cfg pending) : RelayInvariant cfg (pending.remove c) := by
  refine ⟨h.sorted.remove, fun d hd => ?_⟩
  by_cases hne : d = c
  · subst hne
    simp [PendingRelays.remove] at hd
  · apply h.external
    simpa [PendingRelays.remove, hne] using hd

/-- A broadcast keeps the invariant. -/
lemma broadcastLoop {replies : BroadcastReplies} {submit : RoundUpSubmit} {sender : Address}
    (h : RelayInvariant cfg pending) (hl : l ⊆ cfg.externalClients) :
    RelayInvariant cfg (broadcastLoop replies submit sender false pending l).pending := by
  rw [pending_broadcastLoop]
  have hsub : attempted replies l ⊆ cfg.externalClients :=
    List.Subset.trans (attempted_subset replies l) hl
  generalize attempted replies l = m at hsub
  induction m generalizing pending with
  | nil => exact h
  | cons c rest ih =>
    obtain ⟨hc, hrest⟩ := List.cons_subset.1 hsub
    exact ih (h.record hc) hrest

/-- A retry keeps the invariant. -/
lemma retryLoop {replies : RetryReplies} {bifrostLatestRound : U256}
    (h : RelayInvariant cfg pending) :
    RelayInvariant cfg (retryLoop cfg replies bifrostLatestRound pending l).pending := by
  induction l generalizing pending with
  | nil => exact h
  | cons c rest ih =>
    rcases retryLoop_cons cfg replies bifrostLatestRound pending c rest with
      ⟨e, -, heq⟩ | ⟨-, heq⟩ | ⟨_, -, -, -, heq⟩
    · rw [heq]
      exact h
    · rw [heq]
      exact ih h.remove
    · rw [heq]
      dsimp only
      split
      · exact ih h
      · exact h

/-- Every call keeps the invariant. -/
lemma relayCall {i : RelayInput} (h : RelayInvariant cfg pending) :
    RelayInvariant cfg (relayCall cfg pending i).pending := by
  cases i with
  | broadcast submit sender replies =>
    rw [Roundup.relayCall, broadcastRoundup]
    split
    · exact h
    · exact h.broadcastLoop (List.Subset.refl _)
  | retry replies =>
    rw [Roundup.relayCall, retryPendingRelays]
    split
    · exact h
    · exact h.retryLoop

end RelayInvariant

/-- The invariant holds in every state reached. -/
theorem relayInvariant_of_run {tr : List (RelayInput × List RoundControlRelay)}
    {s : RelayHandlerState} (h : (relaySystem cfg).Run tr s) : RelayInvariant cfg s.pending := by
  refine h.invariant (P := fun s => RelayInvariant cfg s.pending) ?_ ?_
  · rintro s rfl
    exact ⟨fun c => by simp [PendingRelays.of], by simp⟩
  · rintro s a s' hs ⟨-, -, -, rfl⟩
    exact hs.relayCall

/-! ### What a retry sends -/

section Retry

variable {replies : RetryReplies} {bifrostLatestRound chainLatestRound : U256}

/-- `relay_as` does not panic for a round-up. -/
def RetryReplies.answersFor (replies : RetryReplies) (submit : RoundUpSubmit) : Bool :=
  (replies.previousSelectedRelayers (prevRound submit.round)).isSome

/-- The relays of one chain are its round-ups in order, up to the first panic. -/
lemma retryRelays_eq (cfg : RelayConfig) (replies : RetryReplies) (c : ChainId)
    (submits : List RoundUpSubmit) :
    (retryRelays cfg replies c submits).1.map (fun r => r.submit) =
        submits.takeWhile replies.answersFor ∧
      (∀ r ∈ (retryRelays cfg replies c submits).1, r.dstChainId = c) ∧
      (retryRelays cfg replies c submits).2 = submits.all replies.answersFor := by
  induction submits with
  | nil => simp [retryRelays]
  | cons submit rest ih =>
    obtain ⟨hmap, hdst, hall⟩ := ih
    cases hprev : replies.previousSelectedRelayers (prevRound submit.round) with
    | none => simp [retryRelays, relayAs, RetryReplies.answersFor, hprev]
    | some prevRelayers =>
      have hanswers : replies.answersFor submit = true := by simp [RetryReplies.answersFor, hprev]
      simp only [retryRelays, relayAs, hprev, Option.map_some]
      refine ⟨?_, ?_, ?_⟩
      · rw [List.map_cons, hmap, List.takeWhile_cons_of_pos hanswers]
      · intro r hr
        rcases List.mem_cons.1 hr with rfl | hr
        · rfl
        · exact hdst r hr
      · rw [hall, List.all_cons, hanswers, Bool.true_and]

/-- A retry sends only to chains that it goes through. -/
lemma dstChainId_mem_of_mem_sent {r : RoundControlRelay}
    (hr : r ∈ (retryLoop cfg replies bifrostLatestRound pending l).sent) : r.dstChainId ∈ l := by
  induction l generalizing pending with
  | nil => simp [retryLoop] at hr
  | cons c rest ih =>
    rcases retryLoop_cons cfg replies bifrostLatestRound pending c rest with
      ⟨e, -, heq⟩ | ⟨-, heq⟩ | ⟨latest, -, -, -, heq⟩
    · rw [heq] at hr
      cases hr
    · rw [heq] at hr
      exact List.mem_cons_of_mem _ (ih hr)
    · have hdst := (retryRelays_eq cfg replies c (pending.ahead c latest)).2.1
      rw [heq] at hr
      dsimp only at hr
      split at hr
      · rcases List.mem_append.1 hr with hr | hr
        · exact hdst r hr ▸ List.mem_cons_self
        · exact List.mem_cons_of_mem _ (ih hr)
      · exact hdst r hr ▸ List.mem_cons_self

/-- The relays of a result that go to a chain. -/
def RelayResult.sentTo (r : RelayResult) (c : ChainId) : List RoundControlRelay :=
  r.sent.filter fun relay => decide (relay.dstChainId = c)

/-- Relays that go to other chains do not count. -/
lemma sentTo_after_ne {r : RelayResult} {relays : List RoundControlRelay}
    (h : ∀ relay ∈ relays, relay.dstChainId = d) (hne : d ≠ c) :
    (r.after relays).sentTo c = r.sentTo c := by
  have hnone : relays.filter (fun relay => decide (relay.dstChainId = c)) = [] := by
    rw [List.filter_eq_nil_iff]
    intro relay hr
    simpa [h relay hr] using hne
  simp [RelayResult.sentTo, RelayResult.after, hnone]

/-- A retry that goes through chains other than the given one sends nothing to it. -/
lemma sentTo_retryLoop_of_notMem (hc : c ∉ l) :
    (retryLoop cfg replies bifrostLatestRound pending l).sentTo c = [] := by
  refine List.filter_eq_nil_iff.2 fun r hr => ?_
  simp only [decide_eq_true_eq]
  rintro rfl
  exact hc (dstChainId_mem_of_mem_sent hr)

/-- A retry gets past a chain: its round can be read, and `relay_as` does not panic for what it is
missing if it is not dropped. -/
def GetsPast (replies : RetryReplies) (bifrostLatestRound : U256) (pending : PendingRelays)
    (d : ChainId) : Prop :=
  ∃ latest, replies.latestRound d = .ok latest ∧
    (latest ≠ bifrostLatestRound → ∀ submit ∈ pending.ahead d latest,
      replies.answersFor submit = true)

/-- A retry that gets to a chain which it does not drop sends it the round-ups that are ahead of it,
in the order in which they are pending, up to the first one for which `relay_as` panics. -/
lemma sentTo_retryLoop {before after : List ChainId} (hnodup : (before ++ c :: after).Nodup)
    (hbefore : ∀ d ∈ before, GetsPast replies bifrostLatestRound pending d)
    (hc : c ∈ cfg.externalClients) (hlatest : replies.latestRound c = .ok chainLatestRound)
    (hne : chainLatestRound ≠ bifrostLatestRound) :
    ((retryLoop cfg replies bifrostLatestRound pending (before ++ c :: after)).sentTo c).map
      (fun r => r.submit) = (pending.ahead c chainLatestRound).takeWhile replies.answersFor := by
  induction before generalizing pending with
  | nil =>
    rw [List.nil_append] at hnodup ⊢
    rcases retryLoop_cons cfg replies bifrostLatestRound pending c after with
      ⟨e, he, -⟩ | ⟨hdrop, -⟩ | ⟨latest, -, hok, -, heq⟩
    · simp [hlatest] at he
    · have hsame := hdrop hc
      rw [hlatest] at hsame
      exact absurd (Except.ok.inj hsame) hne
    · obtain rfl : chainLatestRound = latest := Except.ok.inj (hlatest.symm.trans hok)
      obtain ⟨hmap, hdst, -⟩ := retryRelays_eq cfg replies c (pending.ahead c chainLatestRound)
      have hall := List.filter_eq_self.2 fun r hr => decide_eq_true (hdst r hr)
      have hrest : (retryLoop cfg replies bifrostLatestRound pending after).sentTo c = [] :=
        sentTo_retryLoop_of_notMem (List.nodup_cons.1 hnodup).1
      rw [RelayResult.sentTo] at hrest
      rw [heq, ← hmap, RelayResult.sentTo]
      dsimp only
      split
      · simp only [RelayResult.after, List.filter_append, hall, hrest, List.append_nil]
      · exact congrArg _ hall
  | cons d rest ih =>
    have hdc : d ≠ c := by
      rintro rfl
      simp at hnodup
    have hnodup' : (rest ++ c :: after).Nodup := (List.nodup_cons.1 hnodup).2
    have hd : d ∉ rest := fun hmem => (List.nodup_cons.1 hnodup).1 (List.mem_append_left _ hmem)
    rw [List.cons_append]
    rcases retryLoop_cons cfg replies bifrostLatestRound pending d (rest ++ c :: after) with
      ⟨e, he, -⟩ | ⟨-, heq⟩ | ⟨latest, -, hok, hahead, heq⟩
    · obtain ⟨latest, hok, -⟩ := hbefore d List.mem_cons_self
      rw [he] at hok
      cases hok
    · have hrest : ∀ d' ∈ rest, GetsPast replies bifrostLatestRound (pending.remove d) d' := by
        intro d' hd'
        have hne' : d' ≠ d := fun h => hd (h ▸ hd')
        simpa only [GetsPast, PendingRelays.ahead, PendingRelays.of_remove_ne hne'] using
          hbefore d' (List.mem_cons_of_mem _ hd')
      rw [heq, ih hnodup' hrest, PendingRelays.ahead, PendingRelays.of_remove_ne hdc.symm,
        PendingRelays.ahead]
    · obtain ⟨latest', hok', hanswers⟩ := hbefore d List.mem_cons_self
      obtain rfl : latest = latest' := Except.ok.inj (hok.symm.trans hok')
      obtain ⟨-, hdst, hthrough⟩ := retryRelays_eq cfg replies d (pending.ahead d latest)
      have htrue : (retryRelays cfg replies d (pending.ahead d latest)).2 = true :=
        hthrough.trans (List.all_eq_true.2 (hanswers hahead))
      rw [heq]
      dsimp only
      rw [if_pos htrue, sentTo_after_ne hdst hdc]
      exact ih hnodup' fun d' hd' => hbefore d' (List.mem_cons_of_mem _ hd')

/-! ### What a retry forgets -/

/-- A retry forgets a round-up of an external chain only if the chain is in the round of Bifrost. -/
lemma latestRound_of_forgotten {e : RoundUpSubmit} (he : e ∈ pending.of d)
    (hext : ∀ c ∈ l, c ∈ cfg.externalClients)
    (hgone : e ∉ (retryLoop cfg replies bifrostLatestRound pending l).pending.of d) :
    replies.latestRound d = .ok bifrostLatestRound := by
  induction l generalizing pending with
  | nil => exact absurd he hgone
  | cons c rest ih =>
    have hrest : ∀ c ∈ rest, c ∈ cfg.externalClients :=
      fun c hc => hext c (List.mem_cons_of_mem _ hc)
    rcases retryLoop_cons cfg replies bifrostLatestRound pending c rest with
      ⟨report, -, heq⟩ | ⟨hdrop, heq⟩ | ⟨_, -, -, -, heq⟩
    · rw [heq] at hgone
      exact absurd he hgone
    · rw [heq] at hgone
      by_cases hdc : d = c
      · rw [hdc]
        exact hdrop (hext c List.mem_cons_self)
      · apply ih ?_ hrest hgone
        rwa [PendingRelays.of_remove_ne hdc]
    · rw [heq] at hgone
      dsimp only at hgone
      split at hgone
      · exact ih he hrest hgone
      · exact absurd he hgone

end Retry

/-- A broadcast forgets nothing. -/
lemma mem_of_broadcastRoundup {replies : BroadcastReplies} {submit e : RoundUpSubmit}
    {sender : Address} (he : e ∈ pending.of d) :
    e ∈ (broadcastRoundup cfg replies submit sender false pending).pending.of d := by
  rw [broadcastRoundup]
  split
  · exact he
  · rw [pending_broadcastLoop]
    generalize attempted replies cfg.externalClients = m
    induction m generalizing pending with
    | nil => exact he
    | cons c rest ih => exact ih (PendingRelays.mem_record he)

/-! ### In every run -/

/-- A retry gets to a chain and does not drop it. -/
def Reaches (replies : RetryReplies) (pending : PendingRelays) (c : ChainId)
    (chainLatestRound : U256) : Prop :=
  ∃ bifrostLatestRound before after, replies.bifrostLatestRound = .ok bifrostLatestRound ∧
    replies.chainIds = before ++ c :: after ∧
    (∀ d ∈ before, GetsPast replies bifrostLatestRound pending d) ∧
    replies.latestRound c = .ok chainLatestRound ∧ chainLatestRound ≠ bifrostLatestRound

/-- A retry sends every chain that it gets to and does not drop exactly the pending round-ups that
are ahead of the chain, ascending. -/
def SendsPending (pending : PendingRelays) (replies : RetryReplies)
    (sent : List RoundControlRelay) : Prop :=
  ∀ c chainLatestRound, Reaches replies pending c chainLatestRound →
    (sent.filter fun r => decide (r.dstChainId = c)).map (fun r => r.submit) =
        (pending.of c).filter (fun r => decide (chainLatestRound < r.round)) ∧
      ((sent.filter fun r => decide (r.dstChainId = c)).map
        (fun r => r.submit)).Pairwise fun a b => a.round < b.round

/-- The relayers of the round before can be read for all that a retry has to send. -/
def RelayersKnown (pending : PendingRelays) (replies : RetryReplies) : Prop :=
  ∀ c chainLatestRound, Reaches replies pending c chainLatestRound →
    ∀ submit ∈ (pending.of c).filter (fun r => decide (chainLatestRound < r.round)),
      (replies.previousSelectedRelayers (prevRound submit.round)).isSome = true

/-- In every run the pending round-ups of a chain are strictly ascending.  A retry sends what it
should exactly if it can read the relayers of the round before for all of it; otherwise it panics
after those that come first.  A round-up is forgotten only by a retry, and only if the chain has
reached its round, provided that no pending round is ahead of Bifrost. -/
theorem pending_relays_sorted_and_kept (cfg : RelayConfig)
    {tr : List (RelayInput × List RoundControlRelay)} {s : RelayHandlerState}
    (h : (relaySystem cfg).Run tr s) :
    (∀ c, (s.pending.of c).Pairwise fun a b => a.round < b.round) ∧
    (∀ replies sent s', (relaySystem cfg).step s (.retry replies, sent) s' →
      (SendsPending s.pending replies sent ↔ RelayersKnown s.pending replies)) ∧
    (∀ a s', (relaySystem cfg).step s a s' →
      ∀ c e, e ∈ s.pending.of c → e ∉ s'.pending.of c →
        ∃ replies bifrostLatestRound, a.1 = .retry replies ∧
          replies.bifrostLatestRound = .ok bifrostLatestRound ∧
          ((∀ d, ∀ e ∈ s.pending.of d, e.round ≤ bifrostLatestRound) →
            ∃ chainLatestRound, replies.latestRound c = .ok chainLatestRound ∧
              e.round ≤ chainLatestRound)) := by
  have hinv := relayInvariant_of_run h
  refine ⟨hinv.sorted, ?_, ?_⟩
  · rintro replies sent s' ⟨-, ⟨hnodup, hkeys⟩, hout, -⟩
    have hsent : ∀ c chainLatestRound, Reaches replies s.pending c chainLatestRound →
        (sent.filter fun r => decide (r.dstChainId = c)).map (fun r => r.submit) =
          (s.pending.ahead c chainLatestRound).takeWhile replies.answersFor := by
      rintro c chainLatestRound ⟨bifrostLatestRound, before, after, hbifrost, horder, hbefore,
        hlatest, hne⟩
      have hc : c ∈ cfg.externalClients := by
        apply hinv.external
        rw [← hkeys, horder]
        simp
      simp only [relayCall, retryPendingRelays, hbifrost, horder] at hout
      rw [horder] at hnodup
      have hsentTo := sentTo_retryLoop hnodup hbefore hc hlatest hne
      rwa [RelayResult.sentTo, hout] at hsentTo
    constructor
    · intro hsends c chainLatestRound hreach submit hsubmit
      have hall := (hsent c chainLatestRound hreach).symm.trans
        (hsends c chainLatestRound hreach).1
      exact List.takeWhile_eq_self_iff.1 hall submit hsubmit
    · intro hknown c chainLatestRound hreach
      have hall := List.takeWhile_eq_self_iff.2 (hknown c chainLatestRound hreach)
      have heq := (hsent c chainLatestRound hreach).trans hall
      refine ⟨heq, ?_⟩
      rw [heq]
      exact (hinv.sorted c).sublist List.filter_sublist
  · rintro ⟨i, sent⟩ s' ⟨-, hkeys, -, rfl⟩ c e he hgone
    cases i with
    | broadcast submit sender replies => exact absurd (mem_of_broadcastRoundup he) hgone
    | retry replies =>
      simp only [relayCall, retryPendingRelays] at hgone
      cases hbifrost : replies.bifrostLatestRound with
      | error report => simp [hbifrost, he] at hgone
      | ok bifrostLatestRound =>
        simp only [hbifrost] at hgone
        have hext : ∀ d ∈ replies.chainIds, d ∈ cfg.externalClients :=
          fun d hd => hinv.external d ((hkeys.2 d).1 hd)
        have hlatest := latestRound_of_forgotten he hext hgone
        exact ⟨replies, bifrostLatestRound, rfl, hbifrost,
          fun hahead => ⟨bifrostLatestRound, hlatest, hahead c e he⟩⟩

/-! ### Two pending rounds -/

/-- The round-up of a round. -/
def sampleSubmit (round : U256) : RoundUpSubmit := ⟨round, [], .empty⟩

/-- A broadcast on the normal path returns, so the handler goes on. -/
lemma relaySystem_step_broadcast (cfg : RelayConfig) (pending : PendingRelays)
    (submit : RoundUpSubmit) (sender : Address) (replies : BroadcastReplies) :
    let r := relayCall cfg pending (.broadcast submit sender replies)
    (relaySystem cfg).step ⟨pending, false⟩ (.broadcast submit sender replies, r.sent)
      ⟨r.pending, false⟩ := by
  refine ⟨rfl, trivial, rfl, ?_⟩
  have hreturns : (relayCall cfg pending (.broadcast submit sender replies)).result.isSome =
      true := by
    rw [relayCall, broadcastRoundup]
    split
    · rfl
    · exact isSome_result_broadcastLoop
  rw [← Option.not_isSome, hreturns]
  rfl

/-- The broadcast of a round-up while both chains are at round 6. -/
def sampleBroadcast (round : U256) : RelayInput :=
  .broadcast (sampleSubmit round) zeroAddress ⟨fun _ => .ok 6, fun _ => []⟩

/-- What is pending after two broadcasts, the later round first. -/
def samplePending : PendingRelays :=
  (relayCall sampleRelayConfig
    (relayCall sampleRelayConfig (fun _ => none) (sampleBroadcast 8)).pending
    (sampleBroadcast 7)).pending

/-- The broadcasts are a run. -/
lemma run_samplePending : ∃ tr, (relaySystem sampleRelayConfig).Run tr ⟨samplePending, false⟩ :=
  ⟨_, ((LabelledSystem.Run.start rfl).snoc (relaySystem_step_broadcast _ _ _ _ _)).snoc
    (relaySystem_step_broadcast _ _ _ _ _)⟩

/-- A retry when chain 2 has caught up with Bifrost and chain 1 has not. -/
def sampleRetry (previousSelectedRelayers : U256 → Option (List Address)) : RetryReplies where
  bifrostLatestRound := .ok 8
  latestRound := fun c => if c = 1 then .ok 6 else .ok 8
  previousSelectedRelayers := previousSelectedRelayers
  chainIds := [2, 1]

/-- A retry meets the two chains that have pending round-ups. -/
lemma meetsKeys_sampleRetry (previousSelectedRelayers : U256 → Option (List Address)) :
    MeetsKeys samplePending (.retry (sampleRetry previousSelectedRelayers)) := by
  refine ⟨show [2, 1].Nodup by decide, fun c => ?_⟩
  show c ∈ [2, 1] ↔ (samplePending c).isSome = true
  by_cases h1 : c = 1
  · subst h1
    decide
  by_cases h2 : c = 2
  · subst h2
    decide
  simp [samplePending, sampleBroadcast, relayCall, broadcastRoundup, broadcastLoop,
    sampleRelayConfig, sampleSubmit, PendingRelays.record, RelayResult.after, h1, h2]

/-- The retry gets to chain 1. -/
lemma reaches_sampleRetry (previousSelectedRelayers : U256 → Option (List Address)) :
    Reaches (sampleRetry previousSelectedRelayers) samplePending 1 6 := by
  refine ⟨8, [2], [], rfl, rfl, ?_, rfl, by decide⟩
  intro d hd
  obtain rfl := List.mem_singleton.1 hd
  exact ⟨8, rfl, fun hne => absurd rfl hne⟩

/-- A retry drops chain 2 and sends both rounds to chain 1, in order. -/
theorem pending_relays_sorted_and_kept_retried :
    ∃ tr s sent s', (relaySystem sampleRelayConfig).Run tr s ∧
      (relaySystem sampleRelayConfig).step s (.retry (sampleRetry fun _ => some []), sent) s' ∧
      sent.map (fun r => (r.dstChainId, r.submit.round)) = [(1, 7), (1, 8)] ∧
      (s'.pending.of 1).map (fun r => r.round) = [7, 8] ∧ s'.pending.of 2 = [] ∧
      SendsPending s.pending (sampleRetry fun _ => some []) sent := by
  obtain ⟨tr, hrun⟩ := run_samplePending
  have hstep : (relaySystem sampleRelayConfig).step ⟨samplePending, false⟩
      (.retry (sampleRetry fun _ => some []), _) _ := ⟨rfl, meetsKeys_sampleRetry _, rfl, rfl⟩
  refine ⟨tr, _, _, _, hrun, hstep, by decide, by decide, by decide, ?_⟩
  refine ((pending_relays_sorted_and_kept sampleRelayConfig hrun).2.1 _ _ _ hstep).2 ?_
  exact fun c chainLatestRound _ submit _ => rfl

/-- The relayers of round 7 cannot be read, so the retry panics after it has sent round 7 only. -/
theorem retry_panics_between_rounds :
    ∃ tr s sent s', (relaySystem sampleRelayConfig).Run tr s ∧
      (relaySystem sampleRelayConfig).step s
        (.retry (sampleRetry fun round => if round = 7 then none else some []), sent) s' ∧
      sent.map (fun r => (r.dstChainId, r.submit.round)) = [(1, 7)] ∧ s'.panicked = true ∧
      ¬ SendsPending s.pending
        (sampleRetry fun round => if round = 7 then none else some []) sent := by
  obtain ⟨tr, hrun⟩ := run_samplePending
  have hstep : (relaySystem sampleRelayConfig).step ⟨samplePending, false⟩
      (.retry (sampleRetry fun round => if round = 7 then none else some []), _) _ :=
    ⟨rfl, meetsKeys_sampleRetry _, rfl, rfl⟩
  refine ⟨tr, _, _, _, hrun, hstep, by decide, by decide, fun hsends => ?_⟩
  have hlength := congrArg List.length (hsends 1 6 (reaches_sampleRetry _)).1
  exact absurd hlength (by decide)

end Roundup

end BifrostRelayer
