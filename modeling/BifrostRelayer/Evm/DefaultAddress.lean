import BifrostRelayer.Foundation.Interleaving
import BifrostRelayer.Roundup.Emitter

/-!
# The signer of the relayer

All clients share one `default_address`.  The round-up emitter sets it to the first signer among the
relayers of a new round, or to the zero address if there is none, while other tasks build signed
messages for Bifrost.  Such a message has an `authority_id` and a signature, and both come from the
default address, which is read for each of them.  `sign_message` panics on an address without a
signer.  Most tasks ask at first whether the default address is selected, and the chain never says
that of the zero address.

The tasks run interleaved with the updates, which come in the order of the rounds.
`signing_safe_iff` says for which relayers no task dies and every message is signed by its authority:
no round may take the default address away from a signer that has it.
-/

namespace BifrostRelayer

namespace Evm

open SolidityAbi Roundup

/-! ### The tasks -/

/-- The tasks that submit signed messages to Bifrost. -/
inductive SigningTask where
  | psbtSigner
  | psbtBroadcaster
  | pubKeySubmitter
  | pubKeyPreSubmitter
  | rollbackVerifier
  | inboundHandler
  | outboundHandler
  | feeRateFeeder
  | socketRelayHandler (chainId : ChainId)
  | socketQueuePoller (chainId : ChainId)
deriving DecidableEq

namespace SigningTask

/-- The task asks whether the default address is selected, or a relay executive, before it signs. -/
def asksFirst : SigningTask → Bool
  | .socketQueuePoller _ => false
  | _ => true

/-- The task reads `authority_id` before it signs, and not after. -/
def authorityFirst : SigningTask → Bool
  | .psbtBroadcaster | .socketRelayHandler _ | .socketQueuePoller _ => false
  | _ => true

end SigningTask

/-- Where a task stands. -/
inductive SigningPc where
  | idle
  /-- Before it builds a message. -/
  | ready
  /-- It has read `authority_id` and is about to sign. -/
  | hasAuthority (authority : Address)
  /-- It has signed and is about to read `authority_id`. -/
  | hasSignature (signer : Address)
  /-- There was no signer for the default address. -/
  | panicked
deriving DecidableEq

/-- A submitted message: its `authority_id`, and whose signature it has. -/
structure SignedMessage where
  authority : Address
  signer : Address
deriving DecidableEq

/-- A step of a task, or an update of the default address. -/
inductive SigningAction (τ : Type) where
  /-- `update_default_address` with the relayers of a round. -/
  | update (relayers : List Address)
  /-- The task begins, and its question is answered if it has one. -/
  | begin (t : τ) (selected : Bool)
  /-- There is nothing more to submit. -/
  | finish (t : τ)
  | readAuthority (t : τ)
  /-- `sign_message`; the signer may fail, which makes the task start again. -/
  | sign (t : τ) (ok : Bool)

/-- The default address, and where the tasks stand. -/
abbrev SigningState (τ : Type) : Type := Interleaved τ SigningPc Address

variable {τ : Type} [DecidableEq τ]

/-- A step, and what is submitted. -/
def signingStep (kind : τ → SigningTask) (signers : List Address) (s : SigningState τ) :
    SigningAction τ → Option (SigningState τ × Option SignedMessage)
  | .update relayers => some (⟨updateDefaultAddress signers relayers, s.pc⟩, none)
  | .begin t selected =>
      if s.pc t = .idle then
        some (s.move t s.shared
          (if (kind t).asksFirst && !selected then .idle else .ready), none)
      else none
  | .finish t => if s.pc t = .ready then some (s.move t s.shared .idle, none) else none
  | .readAuthority t =>
      match s.pc t with
      | .ready =>
          if (kind t).authorityFirst then some (s.move t s.shared (.hasAuthority s.shared), none)
          else none
      | .hasSignature signer => some (s.move t s.shared .ready, some ⟨s.shared, signer⟩)
      | _ => none
  | .sign t ok =>
      match s.pc t with
      | .ready =>
          if (kind t).authorityFirst then none
          else if s.shared ∉ signers then some (s.move t s.shared .panicked, none)
          else some (s.move t s.shared (if ok then .hasSignature s.shared else .idle), none)
      | .hasAuthority authority =>
          if s.shared ∉ signers then some (s.move t s.shared .panicked, none)
          else if ok then some (s.move t s.shared .ready, some ⟨authority, s.shared⟩)
          else some (s.move t s.shared .idle, none)
      | _ => none

/-- The runs of the tasks after the default address was set to a signer among the first relayers. -/
def signingSystem (kind : τ → SigningTask) (signers first : List Address) :
    LabelledSystem (SigningState τ) (SigningAction τ × Option SignedMessage) where
  init s := s = ⟨updateDefaultAddress signers first, fun _ => .idle⟩
  step s a s' := signingStep kind signers s a.1 = some (s', a.2)

/-- The relayers of the rounds that the emitter has seen, in their order. -/
def updatesOf (tr : List (SigningAction τ × Option SignedMessage)) : List (List Address) :=
  tr.filterMap fun a =>
    match a.1 with
    | .update relayers => some relayers
    | _ => none

/-- The chain does not say of the zero address that it is selected. -/
def Answered (kind : τ → SigningTask) (s : SigningState τ)
    (a : SigningAction τ × Option SignedMessage) : Prop :=
  match a.1 with
  | .begin t selected => (kind t).asksFirst = true → s.shared = zeroAddress → selected = false
  | _ => True

/-- No task has died, and every message was signed by its authority. -/
def SignedByAuthority (tr : List (SigningAction τ × Option SignedMessage)) (s : SigningState τ) :
    Prop :=
  (∀ t, s.pc t ≠ .panicked) ∧ ∀ a ∈ tr, ∀ msg, a.2 = some msg → msg.authority = msg.signer

/-- The default addresses of the relayer while the rounds go by. -/
def defaultAddresses (signers first : List Address) (rounds : List (List Address)) : List Address :=
  (first :: rounds).map (updateDefaultAddress signers)

/-- A default address that is a signer's is never changed, and one that is not is of no use to any
task. -/
structure KeepsSigner (kind : τ → SigningTask) (signers addresses : List Address) : Prop where
  kept : addresses.IsChain fun a b => a ∈ signers → b = a
  used : (∀ a ∈ addresses, a ∈ signers) ∨ ∀ t, (kind t).asksFirst = true

/-! ### The updates of a run -/

variable {kind : τ → SigningTask} {signers first : List Address} {rounds : List (List Address)}
  {s s' : SigningState τ} {tr : List (SigningAction τ × Option SignedMessage)}
  {a : SigningAction τ × Option SignedMessage}

/-- The default address is that of a signer, or zero. -/
lemma updateDefaultAddress_mem (signers relayers : List Address) :
    updateDefaultAddress signers relayers ∈ signers ∨
      updateDefaultAddress signers relayers = zeroAddress := by
  unfold updateDefaultAddress
  cases hfind : signers.find? fun a => relayers.contains a with
  | none => exact .inr rfl
  | some signer => exact .inl (List.mem_of_find?_eq_some hfind)

omit [DecidableEq τ] in
@[simp]
lemma updatesOf_append (tr tr' : List (SigningAction τ × Option SignedMessage)) :
    updatesOf (tr ++ tr') = updatesOf tr ++ updatesOf tr' :=
  List.filterMap_append

/-- Only an update changes the default address. -/
lemma shared_of_step (h : signingStep kind signers s a.1 = some (s', a.2)) :
    (∃ relayers, a.1 = .update relayers ∧ s' = ⟨updateDefaultAddress signers relayers, s.pc⟩ ∧
      a.2 = none) ∨
    (updatesOf [a] = [] ∧ s'.shared = s.shared) := by
  obtain ⟨action, output⟩ := a
  cases action with
  | update relayers =>
    obtain ⟨rfl, rfl⟩ := Prod.mk.inj (Option.some.inj h)
    exact .inl ⟨relayers, rfl, rfl, rfl⟩
  | begin | finish | readAuthority | sign =>
    refine .inr ⟨rfl, ?_⟩
    simp only [signingStep] at h
    repeat' split at h
    all_goals first
      | (obtain ⟨rfl, -⟩ := Prod.mk.inj (Option.some.inj h); rfl)
      | cases h

/-- The default address was set for the last round that the emitter has seen. -/
lemma shared_of_run (h : ((signingSystem kind signers first).restrict (Answered kind)).Run tr s) :
    s.shared = updateDefaultAddress signers ((updatesOf tr).getLastD first) := by
  refine h.induction (P := fun tr s =>
    s.shared = updateDefaultAddress signers ((updatesOf tr).getLastD first)) ?_ ?_
  · rintro s rfl
    rfl
  · rintro tr s a s' - hshared ⟨hstep, -⟩
    rcases shared_of_step hstep with ⟨relayers, ha, rfl, -⟩ | ⟨hnone, hsame⟩
    · simp [updatesOf, ha]
    · rw [updatesOf_append, hnone, List.append_nil, hsame, hshared]

/-- One more round after some of them. -/
lemma exists_split_of_prefix {α : Type} (first : α) {u rounds : List α} {r : α}
    (h : u ++ [r] <+: rounds) :
    ∃ before after, first :: rounds = before ++ u.getLastD first :: r :: after := by
  obtain ⟨after, rfl⟩ := h
  rcases u.eq_nil_or_concat with rfl | ⟨u, x, rfl⟩
  · exact ⟨[], after, rfl⟩
  · exact ⟨first :: u, after, by simp⟩

/-- The last of some rounds. -/
lemma exists_prefix_of_mem {α : Type} {rounds : List α} {x first : α} (h : x ∈ first :: rounds) :
    ∃ u, u <+: rounds ∧ u.getLastD first = x := by
  rcases List.mem_cons.mp h with rfl | h
  · exact ⟨[], List.nil_prefix, rfl⟩
  · obtain ⟨before, after, rfl⟩ := List.append_of_mem h
    exact ⟨before ++ [x], ⟨after, by simp⟩, by simp⟩

/-- Two neighbours among the rounds. -/
lemma exists_prefix_of_split {α : Type} {before after rounds : List α} {x r first : α}
    (h : first :: rounds = before ++ x :: r :: after) :
    ∃ u, u ++ [r] <+: rounds ∧ u.getLastD first = x := by
  cases before with
  | nil =>
    obtain ⟨rfl, rfl⟩ := List.cons.inj h
    exact ⟨[], ⟨after, rfl⟩, rfl⟩
  | cons b before =>
    obtain ⟨rfl, rfl⟩ := List.cons.inj h
    exact ⟨before ++ [x], ⟨after, by simp⟩, by simp⟩

/-! ### A signer that is kept is enough -/

/-- Where a task may stand while the default address is `b`: as long as it uses the address, this is
that of a signer. -/
def SigningPc.Uses (signers : List Address) (b : Address) : SigningPc → Prop
  | .idle => True
  | .ready => b ∈ signers
  | .hasAuthority authority => b ∈ signers ∧ authority = b
  | .hasSignature signer => b ∈ signers ∧ signer = b
  | .panicked => False

/-- A task uses no address, or that of a signer. -/
lemma SigningPc.Uses.idle_or_mem {b : Address} {p : SigningPc} (h : p.Uses signers b) :
    p = .idle ∨ b ∈ signers := by
  cases p with
  | idle => exact .inl rfl
  | ready => exact .inr h
  | hasAuthority => exact .inr h.1
  | hasSignature => exact .inr h.1
  | panicked => exact h.elim

/-- A step keeps the tasks right and submits only what is signed by its authority, if an update does
not change the address of a signer and a task begins with the address of a signer only. -/
lemma uses_step (h : s.Asserts fun _ p b => p.Uses signers b)
    (hstep : signingStep kind signers s a.1 = some (s', a.2))
    (hupdate : ∀ relayers, a.1 = .update relayers → s.shared ∈ signers →
      updateDefaultAddress signers relayers = s.shared)
    (hbegin : ∀ t selected, a.1 = .begin t selected →
      ((kind t).asksFirst && !selected) = false → s.shared ∈ signers) :
    (s'.Asserts fun _ p b => p.Uses signers b) ∧
      ∀ msg, a.2 = some msg → msg.authority = msg.signer := by
  obtain ⟨action, output⟩ := a
  cases action with
  | update relayers =>
    obtain ⟨rfl, rfl⟩ := Prod.mk.inj (Option.some.inj hstep)
    refine ⟨fun t => ?_, by simp⟩
    -- A task that uses the address still has it after the update.
    rcases (h t).idle_or_mem with hidle | hmem
    · show (s.pc t).Uses signers _
      rw [hidle]
      trivial
    · show (s.pc t).Uses signers (updateDefaultAddress signers relayers)
      rw [hupdate relayers rfl hmem]
      exact h t
  | begin t selected =>
    simp only [signingStep] at hstep
    split at hstep
    next =>
      obtain ⟨rfl, rfl⟩ := Prod.mk.inj (Option.some.inj hstep)
      refine ⟨h.goto ?_, by simp⟩
      split
      next => trivial
      next hgo => exact hbegin t selected rfl (by simpa using hgo)
    next => cases hstep
  | finish t =>
    simp only [signingStep] at hstep
    split at hstep
    next =>
      obtain ⟨rfl, rfl⟩ := Prod.mk.inj (Option.some.inj hstep)
      exact ⟨h.goto trivial, by simp⟩
    next => cases hstep
  | readAuthority t =>
    have huses := h t
    simp only [signingStep] at hstep
    split at hstep
    next hpc =>
      rw [hpc] at huses
      split at hstep
      · obtain ⟨rfl, rfl⟩ := Prod.mk.inj (Option.some.inj hstep)
        exact ⟨h.goto ⟨huses, rfl⟩, by simp⟩
      · cases hstep
    next signer hpc =>
      rw [hpc] at huses
      obtain ⟨rfl, rfl⟩ := Prod.mk.inj (Option.some.inj hstep)
      refine ⟨h.goto huses.1, fun msg hmsg => ?_⟩
      obtain rfl := Option.some.inj hmsg
      exact huses.2.symm
    next => cases hstep
  | sign t ok =>
    have huses := h t
    simp only [signingStep] at hstep
    split at hstep
    next hpc =>
      rw [hpc] at huses
      have hmem : s.shared ∈ signers := huses
      simp only [hmem, not_true_eq_false, if_false] at hstep
      split at hstep
      · cases hstep
      · obtain ⟨rfl, rfl⟩ := Prod.mk.inj (Option.some.inj hstep)
        refine ⟨h.goto ?_, by simp⟩
        cases ok with
        | true => exact ⟨hmem, rfl⟩
        | false => trivial
    next authority hpc =>
      rw [hpc] at huses
      have hmem : s.shared ∈ signers := huses.1
      simp only [hmem, not_true_eq_false, if_false] at hstep
      split at hstep
      · obtain ⟨rfl, rfl⟩ := Prod.mk.inj (Option.some.inj hstep)
        refine ⟨h.goto hmem, fun msg hmsg => ?_⟩
        obtain rfl := Option.some.inj hmsg
        exact huses.2
      · obtain ⟨rfl, rfl⟩ := Prod.mk.inj (Option.some.inj hstep)
        exact ⟨h.goto trivial, by simp⟩
    next => cases hstep

/-- If the signer is kept, every run is safe. -/
lemma signedByAuthority_of_run
    (hkeeps : KeepsSigner kind signers (defaultAddresses signers first rounds))
    (h : ((signingSystem kind signers first).restrict (Answered kind)).Run tr s)
    (hrounds : updatesOf tr <+: rounds) : SignedByAuthority tr s := by
  have hall : updatesOf tr <+: rounds → (s.Asserts fun _ p b => p.Uses signers b) ∧
      ∀ a ∈ tr, ∀ msg, a.2 = some msg → msg.authority = msg.signer := by
    refine h.induction (P := fun tr s => updatesOf tr <+: rounds →
      (s.Asserts fun _ p b => p.Uses signers b) ∧
        ∀ a ∈ tr, ∀ msg, a.2 = some msg → msg.authority = msg.signer) ?_ ?_
    · rintro s rfl -
      exact ⟨fun _ => trivial, by simp⟩
    · rintro tr s a s' hrun ih ⟨hstep, hanswered⟩ hprefix
      rw [updatesOf_append] at hprefix
      have hearlier : updatesOf tr <+: rounds := (List.prefix_append _ _).trans hprefix
      obtain ⟨hinv, hmsgs⟩ := ih hearlier
      have hshared := shared_of_run hrun
      have hupdate : ∀ relayers, a.1 = .update relayers → s.shared ∈ signers →
          updateDefaultAddress signers relayers = s.shared := by
        intro relayers ha hmem
        have hone : updatesOf [a] = [relayers] := by simp [updatesOf, ha]
        rw [hone] at hprefix
        -- The relayers of the update follow those of the last one.
        obtain ⟨before, after, hsplit⟩ := exists_split_of_prefix first hprefix
        have hchain := hkeeps.kept
        rw [defaultAddresses, hsplit, List.map_append, List.map_cons, List.map_cons,
          List.isChain_append_cons_cons] at hchain
        rw [hshared] at hmem ⊢
        exact hchain.2.1 hmem
      have hbegin : ∀ t selected, a.1 = .begin t selected →
          ((kind t).asksFirst && !selected) = false → s.shared ∈ signers := by
        intro t selected ha hgo
        rcases hkeeps.used with hknown | hasks
        · rw [hshared]
          refine hknown _ (List.mem_map_of_mem ?_)
          exact (List.cons_prefix_cons.mpr ⟨rfl, hearlier⟩).subset (List.getLastD_mem_cons ..)
        · rcases updateDefaultAddress_mem signers ((updatesOf tr).getLastD first) with hmem | hz
          · rwa [hshared]
          · rw [Answered, ha] at hanswered
            simp [hasks t, hanswered (hasks t) (hshared.trans hz)] at hgo
      obtain ⟨hinv', hmsg⟩ := uses_step hinv hstep hupdate hbegin
      refine ⟨hinv', fun b hb => ?_⟩
      rcases List.mem_append.mp hb with hb | hb
      · exact hmsgs b hb
      · obtain rfl := List.mem_singleton.mp hb
        exact hmsg
  obtain ⟨hinv, hmsgs⟩ := hall hrounds
  refine ⟨fun t hpc => ?_, hmsgs⟩
  have huses := hinv t
  rw [hpc] at huses
  exact huses

/-! ### A signer that is lost is too much -/

/-- A run goes on with a step. -/
lemma extend_run
    (hrun : ((signingSystem kind signers first).restrict (Answered kind)).Run tr s)
    (action : SigningAction τ) (output : Option SignedMessage)
    (hstep : signingStep kind signers s action = some (s', output))
    (hanswered : Answered kind s (action, output)) :
    ((signingSystem kind signers first).restrict (Answered kind)).Run
      (tr ++ [(action, output)]) s' :=
  hrun.snoc ⟨hstep, hanswered⟩

/-- The rounds go by while all tasks are idle. -/
lemma exists_idle_run (kind : τ → SigningTask) (signers first : List Address)
    (u : List (List Address)) :
    ∃ tr, ((signingSystem kind signers first).restrict (Answered kind)).Run tr
      ⟨updateDefaultAddress signers (u.getLastD first), fun _ => .idle⟩ ∧ updatesOf tr = u := by
  induction u using List.reverseRecOn with
  | nil => exact ⟨[], .start rfl, rfl⟩
  | append_singleton u relayers ih =>
    obtain ⟨tr, hrun, hu⟩ := ih
    refine ⟨tr ++ [(.update relayers, none)], ?_, ?_⟩
    · simpa using extend_run hrun (.update relayers) none rfl trivial
    · rw [updatesOf_append, hu]
      rfl

/-- A run that is not safe. -/
def Unsafe (kind : τ → SigningTask) (signers first : List Address)
    (rounds : List (List Address)) : Prop :=
  ∃ tr s, ((signingSystem kind signers first).restrict (Answered kind)).Run tr s ∧
    updatesOf tr <+: rounds ∧ ¬ SignedByAuthority tr s

/-- A task that does not ask signs with the zero address. -/
lemma unsafe_of_zero (hzero : zeroAddress ∉ signers) {t : τ}
    (hasks : (kind t).asksFirst = false) {u : List (List Address)} (hu : u <+: rounds)
    (haddress : updateDefaultAddress signers (u.getLastD first) = zeroAddress) :
    Unsafe kind signers first rounds := by
  obtain ⟨tr, hrun, rfl⟩ := exists_idle_run kind signers first u
  rw [haddress] at hrun
  have hlate : (kind t).authorityFirst = false := by
    cases hkind : kind t <;> simp_all [SigningTask.asksFirst, SigningTask.authorityFirst]
  have hbegin := extend_run hrun (.begin t true) none (by simp [signingStep]; rfl)
    (by simp [Answered, hasks])
  have hsign := extend_run hbegin (.sign t true) none
    (by simp [signingStep, Interleaved.move, hlate, hzero]; rfl) trivial
  exact ⟨_, _, hsign, by simpa [updatesOf] using hu, fun hsafe => hsafe.1 t (by simp)⟩

/-- An update comes between the two reads of a task. -/
lemma unsafe_of_change (hzero : zeroAddress ∉ signers) (t : τ) {u : List (List Address)}
    {relayers : List Address} (hu : u ++ [relayers] <+: rounds)
    (hmem : updateDefaultAddress signers (u.getLastD first) ∈ signers)
    (hne : updateDefaultAddress signers relayers ≠
      updateDefaultAddress signers (u.getLastD first)) :
    Unsafe kind signers first rounds := by
  obtain ⟨tr, hrun, rfl⟩ := exists_idle_run kind signers first u
  generalize updateDefaultAddress signers ((updatesOf tr).getLastD first) = x at hrun hmem hne
  have hx0 : x ≠ zeroAddress := fun h => hzero (h ▸ hmem)
  have hbegin := extend_run hrun (.begin t true) none (by simp [signingStep]; rfl)
    (by simp [Answered, hx0])
  cases hfirst : (kind t).authorityFirst with
  | true =>
    have hread := extend_run hbegin (.readAuthority t) none
      (by simp [signingStep, Interleaved.move, hfirst]; rfl) trivial
    have hupdate := extend_run hread (.update relayers) none rfl trivial
    by_cases hy : updateDefaultAddress signers relayers ∈ signers
    · have hsign := extend_run hupdate (.sign t true)
        (some ⟨x, updateDefaultAddress signers relayers⟩)
        (by simp [signingStep, hy]; rfl) trivial
      refine ⟨_, _, hsign, by simpa [updatesOf] using hu, fun hsafe => hne ?_⟩
      exact (hsafe.2 _ (List.mem_append_right _ List.mem_cons_self) _ rfl).symm
    · have hsign := extend_run hupdate (.sign t true) none (by simp [signingStep, hy]; rfl) trivial
      exact ⟨_, _, hsign, by simpa [updatesOf] using hu,
        fun hsafe => hsafe.1 t (by simp [Interleaved.move])⟩
  | false =>
    have hsign := extend_run hbegin (.sign t true) none
      (by simp [signingStep, Interleaved.move, hfirst, hmem]; rfl) trivial
    have hupdate := extend_run hsign (.update relayers) none rfl trivial
    have hread := extend_run hupdate (.readAuthority t)
      (some ⟨updateDefaultAddress signers relayers, x⟩) (by simp [signingStep]; rfl) trivial
    refine ⟨_, _, hread, by simpa [updatesOf] using hu, fun hsafe => hne ?_⟩
    exact hsafe.2 _ (List.mem_append_right _ List.mem_cons_self) _ rfl

/-- No task ever dies and every message is signed by its authority, in whatever way the tasks are
interleaved with the updates for the rounds, exactly if the first signer that becomes the default
stays it, and it is the default from the start or no task signs before it asks. -/
theorem signing_safe_iff [Nonempty τ] (kind : τ → SigningTask) {signers : List Address}
    (hzero : zeroAddress ∉ signers) (first : List Address) (rounds : List (List Address)) :
    (∀ tr s, ((signingSystem kind signers first).restrict (Answered kind)).Run tr s →
      updatesOf tr <+: rounds → SignedByAuthority tr s) ↔
      KeepsSigner kind signers (defaultAddresses signers first rounds) := by
  constructor
  · intro hsafe
    have hnot : ¬ Unsafe kind signers first rounds := by
      rintro ⟨tr, s, hrun, hrounds, hunsafe⟩
      exact hunsafe (hsafe tr s hrun hrounds)
    refine ⟨?_, ?_⟩
    · rw [defaultAddresses, List.isChain_map, List.isChain_iff_forall_rel_of_append_cons_cons]
      intro earlier relayers before after hsplit hmem
      obtain ⟨u, hu, rfl⟩ := exists_prefix_of_split hsplit
      by_contra hne
      exact hnot (unsafe_of_change hzero (Classical.arbitrary τ) hu hmem hne)
    · by_contra hnone
      simp only [not_or, not_forall, Bool.not_eq_true] at hnone
      obtain ⟨⟨x, hx, hmem⟩, t, hasks⟩ := hnone
      obtain ⟨relayers, hrelayers, rfl⟩ := List.mem_map.mp hx
      have hz := (updateDefaultAddress_mem signers relayers).resolve_left hmem
      obtain ⟨u, hu, rfl⟩ := exists_prefix_of_mem hrelayers
      exact hnot (unsafe_of_zero hzero hasks hu hz)
  · intro hkeeps tr s hrun hrounds
    exact signedByAuthority_of_run hkeeps hrun hrounds

/-- Two signers. -/
def sampleSigners : List Address := [⟨FixedBytes.repeatByte 20 1⟩, ⟨FixedBytes.repeatByte 20 2⟩]

/-- One task. -/
def sampleTasks : Unit → SigningTask := fun _ => .psbtSigner

/-- The relayer is safe as long as the second signer is selected, and not any longer when the first
one is selected instead. -/
theorem signing_safe_sample :
    (∀ tr s,
      ((signingSystem sampleTasks sampleSigners []).restrict (Answered sampleTasks)).Run tr s →
      updatesOf tr <+: [[], [sampleSigners.getLastD zeroAddress]] → SignedByAuthority tr s) ∧
    ¬ ∀ tr s,
      ((signingSystem sampleTasks sampleSigners []).restrict (Answered sampleTasks)).Run tr s →
      updatesOf tr <+: [[], [sampleSigners.getLastD zeroAddress], sampleSigners] →
        SignedByAuthority tr s := by
  rw [signing_safe_iff sampleTasks (by decide), signing_safe_iff sampleTasks (by decide)]
  constructor
  · exact ⟨by decide, .inr fun t => rfl⟩
  · intro hkeeps
    exact absurd hkeeps.kept (by decide)

end Evm

end BifrostRelayer
