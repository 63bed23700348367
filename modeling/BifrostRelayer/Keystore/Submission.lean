import BifrostRelayer.Foundation.Runs

/-!
# Vault keys and their rounds

The private keys of the vaults are kept in one keystore directory per round.  Three tasks share the
loaded directory: the keypair migrator switches it when the service state of the chain calls for
another round, and two submitters create keys in it and submit their public keys together with a
`pool_round`.  They learn about the migration through `migration_sequence`, which the migrator
updates with a lock of its own, and `loaded_round` is a third variable that `load` writes after it
has switched the directory.

The model has one step per access to a shared variable or to the chain, so the tasks and the changes
of the chain interleave in every way.  A submitter chooses the directory by creating a key, and
fills in `pool_round` later from a second look at the state.
`poolRound_is_stored_round` says when the two agree.
-/

namespace BifrostRelayer

namespace Keystore

/-! ### The shared state -/

/-- `ServiceState` of the registration pool, also the type `MigrationSequence`. -/
inductive ServiceState where
  | normal
  | setExecutiveMembers
  | prepareNextSystemVault
  | utxoTransfer
deriving DecidableEq, Repr

instance : Fintype ServiceState :=
  ⟨{.normal, .setExecutiveMembers, .prepareNextSystemVault, .utxoTransfer},
    by intro state; cases state <;> decide⟩

/-- The unsigned transactions that carry vault keys. -/
inductive XtRequest (A K : Type) where
  | submitVaultKey (who : A) (pubKey : K) (poolRound : UInt32)
  | submitSystemVaultKey (who : A) (pubKey : K) (poolRound : UInt32)
  | vaultKeyPresubmission (pubKeys : List K) (poolRound : UInt32)
deriving DecidableEq, Repr

namespace XtRequest

variable {A K : Type}

/-- The round that a submission names. -/
def poolRound : XtRequest A K → UInt32
  | submitVaultKey _ _ r => r
  | submitSystemVaultKey _ _ r => r
  | vaultKeyPresubmission _ r => r

/-- The public keys of a submission. -/
def pubKeys : XtRequest A K → List K
  | submitVaultKey _ k _ => [k]
  | submitSystemVaultKey _ k _ => [k]
  | vaultKeyPresubmission ks _ => ks

end XtRequest

/-- What the tasks share, and what they read of the chain. -/
structure Store (A K : Type) where
  /-- `service_state` on the chain. -/
  serviceState : ServiceState
  /-- `current_round` on the chain. -/
  currentRound : UInt32
  /-- The variable `migration_sequence`. -/
  migrationSequence : ServiceState
  /-- The migrator holds the write lock of `migration_sequence`. -/
  locked : Bool
  /-- The round of the directory that is loaded. -/
  db : Option UInt32
  /-- The number in `KeypairStorage` that `loaded_round` returns. -/
  loadedRound : UInt32
  /-- The keys that were created, each with the round of the directory it is stored in. -/
  stored : List (UInt32 × K)
  /-- The requests sent so far. -/
  sent : List (XtRequest A K)

/-- `saturating_add(1)`. -/
def saturatingSucc (r : UInt32) : UInt32 :=
  if r = UInt32.ofNat (UInt32.size - 1) then r else r + 1

/-- The round that the submitter wants: the current one in normal operation, else the next. -/
def roundFor (isNormal : Bool) (currentRound : UInt32) : UInt32 :=
  if isNormal then currentRound else saturatingSucc currentRound

section Steps

variable {A K : Type}

namespace Store

/-- `*migration_sequence.read().await == ServiceState::Normal`, if the lock is free. -/
def readIsNormal (st : Store A K) : Option Bool :=
  if st.locked then none else some (st.migrationSequence = .normal)

/-- `create_new_keypair`: the next generated key goes to the directory that is loaded.  Without one
the code panics. -/
def createNewKeypair (generate : ℕ → K) (st : Store A K) : Option (Store A K × K) :=
  let key := generate st.stored.length
  st.db.map fun r => ({ st with stored := (r, key) :: st.stored }, key)

/-- `request_send_transaction`. -/
def send (st : Store A K) (xt : XtRequest A K) : Store A K :=
  { st with sent := xt :: st.sent }

end Store

/-! ### The keypair migrator -/

/-- Where the migrator stands.  The loads in `initialize` and in a tick differ in what follows: the
write of the state that the tick has read. -/
inductive MigratorPc where
  /-- In `initialize`, before the service state is read. -/
  | initializing
  /-- Before the service state is read. -/
  | tick
  /-- Before the lock is taken, with the state that was read. -/
  | lock (state : ServiceState)
  /-- Before the current round is read; `next` asks for the round after it. -/
  | readRound (after : Option ServiceState) (next : Bool)
  /-- In `load`, before the directory is switched. -/
  | load (after : Option ServiceState) (round : UInt32)
  /-- In `load`, before the number of the round is written. -/
  | loaded (after : Option ServiceState) (round : UInt32)
  /-- Before the state is written and the lock is released. -/
  | store (state : ServiceState)
deriving DecidableEq, Repr

/-- The directory that `initialize` loads: that of the next round or of the current one. -/
def initializeLoadsNext : ServiceState → Bool
  | .normal => false
  | .setExecutiveMembers => false
  | .utxoTransfer => false
  | .prepareNextSystemVault => true

/-- The load of a tick, from the state known so far and the one that was read: none, or that of the
current round, or of the next one. -/
def tickLoads : ServiceState → ServiceState → Option Bool
  | .normal, .prepareNextSystemVault => some true
  | .setExecutiveMembers, .prepareNextSystemVault => some true
  | .prepareNextSystemVault, .utxoTransfer => some false
  | .utxoTransfer, .normal => some false
  | _, _ => none

/-- A step of `KeypairMigrator::run`. -/
def migratorStep (st : Store A K) : MigratorPc → Store A K × MigratorPc
  | .initializing => (st, .readRound none (initializeLoadsNext st.serviceState))
  | .tick => (st, .lock st.serviceState)
  | .lock state =>
      ({ st with locked := true },
        match tickLoads st.migrationSequence state with
        | some next => .readRound (some state) next
        | none => .store state)
  | .readRound after next =>
      (st, .load after (if next then st.currentRound + 1 else st.currentRound))
  | .load after round => ({ st with db := some round }, .loaded after round)
  | .loaded after round =>
      ({ st with loadedRound := round },
        match after with
        | some state => .store state
        | none => .tick)
  | .store state => ({ st with migrationSequence := state, locked := false }, .tick)

/-! ### The submitters -/

/-- What the environment answers to a step of a submitter. -/
inductive Reply (A : Type) where
  /-- The call succeeds, with nothing but the shared state to read. -/
  | ok
  /-- A call fails, and `run` returns. -/
  | error
  /-- `is_relay_executive`. -/
  | executive (isExecutive : Bool)
  /-- `get_pending_registrations`. -/
  | pending (registrations : List A)
  /-- `get_registration_info`: the user, the vault address and who has submitted. -/
  | info (user : A) (vaultAddress : String) (submitted : List A)
  /-- `max_pre_submission`, and the number of keys submitted for the round. -/
  | amount (maxPresubmission : ℕ) (submitted : Option ℕ)

/-- Where the submitter stands. -/
inductive SubmitterPc (A K : Type) where
  /-- Before `is_relay_executive`. -/
  | start
  /-- Before the first look at `migration_sequence`. -/
  | readSequence
  /-- Before the current round is read for the target round. -/
  | readRound (isNormal : Bool)
  /-- Before the pending registrations are fetched. -/
  | fetch (target : UInt32)
  /-- At the head of the loop over the registrations. -/
  | next (target : UInt32) (registrations : List A)
  /-- Before the registration of the user is fetched. -/
  | info (target : UInt32) (who : A) (rest : List A)
  /-- In the loop that waits for `loaded_round`. -/
  | wait (target : UInt32) (who : A) (rest : List A)
  /-- Before the key is created. -/
  | create (target : UInt32) (who : A) (rest : List A)
  /-- In `build_payload`, before the second look at `migration_sequence`. -/
  | payload (target : UInt32) (who : A) (rest : List A) (pubKey : K)
  /-- In `build_payload`, before the current round is read again. -/
  | payloadRound (target : UInt32) (who : A) (rest : List A) (pubKey : K) (isNormal : Bool)

/-- `build_unsigned_tx` of the submitter. -/
def vaultKeyRequest [DecidableEq A] (systemVault who : A) (pubKey : K) (poolRound : UInt32) :
    XtRequest A K :=
  if who = systemVault then .submitSystemVaultKey who pubKey poolRound
  else .submitVaultKey who pubKey poolRound

/-- A step of `PubKeySubmitter::run`. -/
def submitterStep [DecidableEq A] (generate : ℕ → K) (self systemVault : A) (st : Store A K) :
    SubmitterPc A K → Reply A → Option (Store A K × SubmitterPc A K)
  | .start, .executive isExecutive =>
      some (st, if isExecutive then .readSequence else .start)
  | .readSequence, .ok => st.readIsNormal.map fun b => (st, .readRound b)
  | .readRound isNormal, .ok => some (st, .fetch (roundFor isNormal st.currentRound))
  | .fetch target, .pending registrations => some (st, .next target registrations)
  | .next _ [], .ok => some (st, .start)
  | .next target (who :: rest), .ok =>
      st.readIsNormal.map fun b =>
        (st, if !b && who != systemVault then .next target rest else .info target who rest)
  | .info target who rest, .info user vaultAddress submitted =>
      some (st, if user != who || !vaultAddress.isEmpty || submitted.contains self then
        .next target rest else .wait target who rest)
  | .wait target who rest, .ok =>
      if st.loadedRound = target then some (st, .create target who rest) else none
  | .create target who rest, .ok =>
      (st.createNewKeypair generate).map fun r => (r.1, .payload target who rest r.2)
  | .payload target who rest pubKey, .ok =>
      st.readIsNormal.map fun b => (st, .payloadRound target who rest pubKey b)
  | .payloadRound target who rest pubKey isNormal, .ok =>
      some (st.send (vaultKeyRequest systemVault who pubKey (roundFor isNormal st.currentRound)),
        .next target rest)
  | .start, .error => some (st, .start)
  | .readRound _, .error => some (st, .start)
  | .fetch _, .error => some (st, .start)
  | .info _ _ _, .error => some (st, .start)
  | .payloadRound _ _ _ _ _, .error => some (st, .start)
  | _, _ => none

/-- Where the pre-submitter stands. -/
inductive PresubmitterPc (K : Type) where
  /-- Before `is_relay_executive`. -/
  | start
  /-- Before the look at `migration_sequence`. -/
  | readSequence
  /-- Before the presubmittable amount is fetched. -/
  | amount
  /-- In `create_pub_keys`, with the number of keys left and those created. -/
  | create (left : ℕ) (pubKeys : List K)
  /-- In `build_payload`, before the current round is read. -/
  | payload (pubKeys : List K)

/-- `get_presubmittable_amount`. -/
def presubmittableAmount (maxPresubmission : ℕ) : Option ℕ → ℕ
  | some submitted => if submitted > maxPresubmission then 0 else maxPresubmission - submitted
  | none => maxPresubmission

/-- A step of `PubKeyPreSubmitter::run`. -/
def presubmitterStep (generate : ℕ → K) (st : Store A K) :
    PresubmitterPc K → Reply A → Option (Store A K × PresubmitterPc K)
  | .start, .executive isExecutive =>
      some (st, if isExecutive then .readSequence else .start)
  | .readSequence, .ok => st.readIsNormal.map fun b => (st, if b then .amount else .start)
  | .amount, .amount maxPresubmission submitted =>
      let n := presubmittableAmount maxPresubmission submitted
      some (st, if n > 0 then .create n [] else .start)
  | .create 0 pubKeys, .ok => some (st, .payload pubKeys)
  | .create (left + 1) pubKeys, .ok =>
      (st.createNewKeypair generate).map fun r => (r.1, .create left (pubKeys ++ [r.2]))
  | .payload pubKeys, .ok =>
      some (st.send (.vaultKeyPresubmission pubKeys st.currentRound), .start)
  | .start, .error => some (st, .start)
  | .payload _, .error => some (st, .start)
  | _, _ => none

/-! ### The system -/

/-- The store and where the tasks stand. -/
structure State (A K : Type) where
  store : Store A K
  migrator : MigratorPc
  submitter : SubmitterPc A K
  presubmitter : PresubmitterPc K

/-- The steps of the system. -/
inductive Action (A : Type) where
  /-- The chain changes its service state and its current round. -/
  | chain (serviceState : ServiceState) (currentRound : UInt32)
  | migrator
  | submitter (reply : Reply A)
  | presubmitter (reply : Reply A)

/-- One step. -/
def act [DecidableEq A] (generate : ℕ → K) (self systemVault : A) (s : State A K) :
    Action A → Option (State A K)
  | .chain serviceState currentRound =>
      some { s with store := { s.store with
        serviceState := serviceState, currentRound := currentRound } }
  | .migrator =>
      let r := migratorStep s.store s.migrator
      some { s with store := r.1, migrator := r.2 }
  | .submitter reply =>
      (submitterStep generate self systemVault s.store s.submitter reply).map fun r =>
        { s with store := r.1, submitter := r.2 }
  | .presubmitter reply =>
      (presubmitterStep generate s.store s.presubmitter reply).map fun r =>
        { s with store := r.1, presubmitter := r.2 }

/-- The process has started: no directory is loaded and `migration_sequence` is `Normal`. -/
def initial (serviceState : ServiceState) (currentRound : UInt32) : State A K where
  store := ⟨serviceState, currentRound, .normal, false, none, 0, [], []⟩
  migrator := .initializing
  submitter := .start
  presubmitter := .start

/-- All interleavings of the tasks and the chain, from any state of the chain. -/
def submissionSystem [DecidableEq A] (generate : ℕ → K) (self systemVault : A) :
    LabelledSystem (State A K) (Action A) where
  init s := ∃ serviceState currentRound, s = initial serviceState currentRound
  step s a s' := act generate self systemVault s a = some s'

/-! ### Keys and directories -/

/-- Every submission that was sent names the round of the directory in which its keys are stored. -/
def SubmittedForStoredRound (st : Store A K) : Prop :=
  ∀ xt ∈ st.sent, ∀ k ∈ xt.pubKeys, ∀ r, (r, k) ∈ st.stored ↔ r = xt.poolRound

/-- The round that the state calls for at the moment. -/
def Store.calledRound (st : Store A K) : UInt32 :=
  roundFor (st.migrationSequence = .normal) st.currentRound

/-- The submitter has created a key and not yet read the round for its payload. -/
def SubmitterPc.holdsKey : SubmitterPc A K → Bool
  | .payload _ _ _ _ => true
  | .payloadRound _ _ _ _ _ => true
  | _ => false

/-- The submitter has created a key and not yet looked at `migration_sequence` for its payload. -/
def SubmitterPc.beforeSequence : SubmitterPc A K → Bool
  | .payload _ _ _ _ => true
  | _ => false

/-- The submitter creates a key next. -/
def SubmitterPc.creates : SubmitterPc A K → Bool
  | .create _ _ _ => true
  | _ => false

/-- The pre-submitter has created a key and not yet read the round for its payload. -/
def PresubmitterPc.holdsKey : PresubmitterPc K → Bool
  | .create _ pubKeys => !pubKeys.isEmpty
  | .payload _ => true
  | _ => false

/-- The pre-submitter creates a key next. -/
def PresubmitterPc.creates : PresubmitterPc K → Bool
  | .create (_ + 1) _ => true
  | _ => false

/-- The condition on a step.  A key is created in the directory of the round that the state calls
for, for the pre-submitter the current round.  Until its payload is built, the current round does
not change, and the migrator does not change whether `migration_sequence` is `Normal`. -/
def Permitted (s : State A K) : Action A → Prop
  | .chain _ currentRound => currentRound = s.store.currentRound ∨
      (s.submitter.holdsKey = false ∧ s.presubmitter.holdsKey = false)
  | .migrator => ∀ state, s.migrator = .store state →
      (state = .normal ↔ s.store.migrationSequence = .normal) ∨ s.submitter.beforeSequence = false
  | .submitter _ => s.submitter.creates = true → s.store.db = some s.store.calledRound
  | .presubmitter _ => s.presubmitter.creates = true → s.store.db = some s.store.currentRound

/-! ### The invariant -/

/-- What the submitter relies on: the key it holds is in the directory of the round it will read. -/
def SubmitterHolds (st : Store A K) : SubmitterPc A K → Prop
  | .payload _ _ _ pubKey => (st.calledRound, pubKey) ∈ st.stored
  | .payloadRound _ _ _ pubKey isNormal => (roundFor isNormal st.currentRound, pubKey) ∈ st.stored
  | _ => True

/-- What the pre-submitter relies on: the keys it holds are in the directory of the current
round. -/
def PresubmitterHolds (st : Store A K) : PresubmitterPc K → Prop
  | .create _ pubKeys => ∀ k ∈ pubKeys, (st.currentRound, k) ∈ st.stored
  | .payload pubKeys => ∀ k ∈ pubKeys, (st.currentRound, k) ∈ st.stored
  | _ => True

/-- The invariant of the system. -/
structure Consistent (generate : ℕ → K) (s : State A K) : Prop where
  /-- The keys were generated one after the other. -/
  generated : s.store.stored.map Prod.snd =
    (List.range s.store.stored.length).reverse.map generate
  /-- The keys of the requests are in the directories of their rounds. -/
  sent : ∀ xt ∈ s.store.sent, ∀ k ∈ xt.pubKeys, (xt.poolRound, k) ∈ s.store.stored
  submitter : SubmitterHolds s.store s.submitter
  presubmitter : PresubmitterHolds s.store s.presubmitter

/-- A submitter without a key relies on nothing. -/
lemma submitterHolds_of_not_holdsKey {st : Store A K} {p : SubmitterPc A K}
    (h : p.holdsKey = false) : SubmitterHolds st p := by
  cases p <;> trivial

/-- A pre-submitter without a key relies on nothing. -/
lemma presubmitterHolds_of_not_holdsKey {st : Store A K} {p : PresubmitterPc K}
    (h : p.holdsKey = false) : PresubmitterHolds st p := by
  cases p <;> simp_all [PresubmitterPc.holdsKey, PresubmitterHolds]

/-- What the submitter relies on survives a change of the store that keeps the keys, the round, and
whether `migration_sequence` is `Normal` as long as that matters. -/
lemma SubmitterHolds.frame {st st' : Store A K} {p : SubmitterPc A K} (h : SubmitterHolds st p)
    (hstored : st.stored ⊆ st'.stored) (hround : st'.currentRound = st.currentRound)
    (hnormal : (st'.migrationSequence = .normal ↔ st.migrationSequence = .normal) ∨
      p.beforeSequence = false) : SubmitterHolds st' p := by
  cases p with
  | payload target who rest pubKey =>
    have hiff : st'.migrationSequence = .normal ↔ st.migrationSequence = .normal := by
      simpa [SubmitterPc.beforeSequence] using hnormal
    have hcalled : st'.calledRound = st.calledRound := by
      simp [Store.calledRound, hround, hiff]
    simp only [SubmitterHolds, hcalled] at h ⊢
    exact hstored h
  | payloadRound target who rest pubKey isNormal =>
    simp only [SubmitterHolds, hround] at h ⊢
    exact hstored h
  | _ => trivial

/-- What the pre-submitter relies on survives a change of the store that keeps the keys and the
round. -/
lemma PresubmitterHolds.frame {st st' : Store A K} {p : PresubmitterPc K}
    (h : PresubmitterHolds st p) (hstored : st.stored ⊆ st'.stored)
    (hround : st'.currentRound = st.currentRound) : PresubmitterHolds st' p := by
  cases p with
  | create left pubKeys =>
    simp only [PresubmitterHolds, hround] at h ⊢
    exact fun k hk => hstored (h k hk)
  | payload pubKeys =>
    simp only [PresubmitterHolds, hround] at h ⊢
    exact fun k hk => hstored (h k hk)
  | _ => trivial

/-! ### The steps -/

/-- The migrator touches neither the keys nor the requests nor the chain, and writes
`migration_sequence` at one point only. -/
lemma migratorStep_frame (st : Store A K) (p : MigratorPc) :
    (migratorStep st p).1.stored = st.stored ∧ (migratorStep st p).1.sent = st.sent ∧
      (migratorStep st p).1.currentRound = st.currentRound ∧
      ((migratorStep st p).1.migrationSequence = st.migrationSequence ∨
        ∃ state, p = .store state ∧ (migratorStep st p).1.migrationSequence = state) := by
  cases p <;> simp [migratorStep]

/-- Looking at `migration_sequence`. -/
lemma readIsNormal_eq_some {st : Store A K} {isNormal : Bool}
    (h : st.readIsNormal = some isNormal) :
    decide (st.migrationSequence = .normal) = isNormal := by
  unfold Store.readIsNormal at h
  split at h
  · cases h
  · exact Option.some.inj h

/-- Creating a key. -/
lemma createNewKeypair_eq_some {generate : ℕ → K} {st st' : Store A K} {key : K}
    (h : st.createNewKeypair generate = some (st', key)) :
    ∃ r, st.db = some r ∧ key = generate st.stored.length ∧
      st' = { st with stored := (r, key) :: st.stored } := by
  obtain ⟨r, hr, heq⟩ := Option.map_eq_some_iff.1 h
  obtain ⟨rfl, rfl⟩ := Prod.mk.inj heq
  exact ⟨r, hr, rfl, rfl⟩

/-- What a step of the submitter does: it creates a key, looks at `migration_sequence` for the
payload, sends a request, or does nothing that concerns a key. -/
lemma submitterStep_cases [DecidableEq A] {generate : ℕ → K} {self systemVault : A}
    {st st' : Store A K} {p p' : SubmitterPc A K} {reply : Reply A}
    (h : submitterStep generate self systemVault st p reply = some (st', p')) :
    (p.creates = true ∧ ∃ target who rest key,
        st.createNewKeypair generate = some (st', key) ∧ p' = .payload target who rest key) ∨
      (∃ target who rest key, p = .payload target who rest key ∧ st' = st ∧
        p' = .payloadRound target who rest key (st.migrationSequence = .normal)) ∨
      (∃ target who rest key isNormal, p = .payloadRound target who rest key isNormal ∧
        st' = st.send
          (vaultKeyRequest systemVault who key (roundFor isNormal st.currentRound)) ∧
        p' = .next target rest) ∨
      (st' = st ∧ p'.holdsKey = false) := by
  cases p with
  | create target who rest =>
    cases reply <;> simp only [submitterStep, reduceCtorEq, Option.map_eq_some_iff] at h
    obtain ⟨r, hr, heq⟩ := h
    obtain ⟨rfl, rfl⟩ := Prod.mk.inj heq
    exact .inl ⟨rfl, target, who, rest, r.2, hr, rfl⟩
  | payload target who rest key =>
    cases reply <;> simp only [submitterStep, reduceCtorEq, Option.map_eq_some_iff] at h
    obtain ⟨isNormal, hread, heq⟩ := h
    obtain ⟨rfl, rfl⟩ := Prod.mk.inj heq
    obtain rfl := readIsNormal_eq_some hread
    exact .inr (.inl ⟨target, who, rest, key, rfl, rfl, rfl⟩)
  | payloadRound target who rest key isNormal =>
    cases reply <;> simp only [submitterStep, reduceCtorEq, Option.some.injEq, Prod.mk.injEq] at h
    · exact .inr (.inr (.inl ⟨target, who, rest, key, isNormal, rfl, h.1.symm, h.2.symm⟩))
    · exact .inr (.inr (.inr ⟨h.1.symm, by rw [← h.2]; rfl⟩))
  | next target registrations =>
    refine .inr (.inr (.inr ?_))
    cases registrations with
    | nil =>
      cases reply <;> simp only [submitterStep, reduceCtorEq, Option.some.injEq, Prod.mk.injEq] at h
      exact ⟨h.1.symm, by rw [← h.2]; rfl⟩
    | cons who rest =>
      cases reply <;> simp only [submitterStep, reduceCtorEq, Option.map_eq_some_iff] at h
      obtain ⟨isNormal, -, heq⟩ := h
      obtain ⟨rfl, rfl⟩ := Prod.mk.inj heq
      exact ⟨rfl, by split <;> rfl⟩
  | _ =>
    refine .inr (.inr (.inr ?_))
    cases reply <;> simp only [submitterStep, reduceCtorEq] at h <;>
      grind [SubmitterPc.holdsKey, Option.map_eq_some_iff]

/-- What a step of the pre-submitter does: it creates a key, goes on to the payload, sends a
request, or does nothing that concerns a key. -/
lemma presubmitterStep_cases {generate : ℕ → K} {st st' : Store A K} {p p' : PresubmitterPc K}
    {reply : Reply A} (h : presubmitterStep generate st p reply = some (st', p')) :
    (p.creates = true ∧ ∃ left keys key, p = .create (left + 1) keys ∧
        st.createNewKeypair generate = some (st', key) ∧ p' = .create left (keys ++ [key])) ∨
      (∃ keys, p = .create 0 keys ∧ st' = st ∧ p' = .payload keys) ∨
      (∃ keys, p = .payload keys ∧
        st' = st.send (.vaultKeyPresubmission keys st.currentRound) ∧ p' = .start) ∨
      (st' = st ∧ p'.holdsKey = false) := by
  cases p with
  | create left keys =>
    cases left with
    | zero =>
      cases reply <;>
        simp only [presubmitterStep, reduceCtorEq, Option.some.injEq, Prod.mk.injEq] at h
      exact .inr (.inl ⟨keys, rfl, h.1.symm, h.2.symm⟩)
    | succ left =>
      cases reply <;> simp only [presubmitterStep, reduceCtorEq, Option.map_eq_some_iff] at h
      obtain ⟨r, hr, heq⟩ := h
      obtain ⟨rfl, rfl⟩ := Prod.mk.inj heq
      exact .inl ⟨rfl, left, keys, r.2, rfl, hr, rfl⟩
  | payload keys =>
    cases reply <;>
      simp only [presubmitterStep, reduceCtorEq, Option.some.injEq, Prod.mk.injEq] at h
    · exact .inr (.inr (.inl ⟨keys, rfl, h.1.symm, h.2.symm⟩))
    · exact .inr (.inr (.inr ⟨h.1.symm, by rw [← h.2]; rfl⟩))
  | _ =>
    refine .inr (.inr (.inr ?_))
    cases reply <;> simp only [presubmitterStep, reduceCtorEq] at h <;>
      grind [PresubmitterPc.holdsKey, Option.map_eq_some_iff]

/-! ### Runs -/

/-- The invariant says more than that every submission names the round of its keys. -/
lemma Consistent.submittedForStoredRound {generate : ℕ → K} (hfresh : Function.Injective generate)
    {s : State A K} (h : Consistent generate s) : SubmittedForStoredRound s.store := by
  have hnodup : (s.store.stored.map Prod.snd).Nodup := by
    rw [h.generated]
    exact (List.nodup_reverse.2 List.nodup_range).map hfresh
  intro xt hxt k hk r
  have hmem := h.sent xt hxt k hk
  constructor
  · intro hr
    have heq := List.inj_on_of_nodup_map hnodup hr hmem rfl
    exact congrArg Prod.fst heq
  · rintro rfl
    exact hmem

/-- The requests are sent for keys that stay in their directories. -/
lemma sent_frame {st st' : Store A K} (hstored : st.stored ⊆ st'.stored)
    (hsent : st'.sent = st.sent)
    (h : ∀ xt ∈ st.sent, ∀ k ∈ xt.pubKeys, (xt.poolRound, k) ∈ st.stored) :
    ∀ xt ∈ st'.sent, ∀ k ∈ xt.pubKeys, (xt.poolRound, k) ∈ st'.stored := by
  rw [hsent]
  exact fun xt hxt k hk => hstored (h xt hxt k hk)

/-- The keys are generated one after the other. -/
lemma generated_create {generate : ℕ → K} {stored : List (UInt32 × K)} {r : UInt32}
    (h : stored.map Prod.snd = (List.range stored.length).reverse.map generate) :
    ((r, generate stored.length) :: stored).map Prod.snd =
      (List.range ((r, generate stored.length) :: stored).length).reverse.map generate := by
  simp [List.range_succ, h]

section Preservation

variable {generate : ℕ → K} {s : State A K}

/-- A step of the submitter keeps the invariant. -/
lemma Consistent.submitterStep [DecidableEq A] {self systemVault : A}
    (h : Consistent generate s) {reply : Reply A} {st' : Store A K} {p' : SubmitterPc A K}
    (hdb : s.submitter.creates = true → s.store.db = some s.store.calledRound)
    (hstep : submitterStep generate self systemVault s.store s.submitter reply = some (st', p')) :
    Consistent generate { s with store := st', submitter := p' } := by
  rcases submitterStep_cases hstep with ⟨hcreates, target, who, rest, key, hnew, rfl⟩ |
    ⟨target, who, rest, key, hp, rfl, rfl⟩ | ⟨target, who, rest, key, isNormal, hp, rfl, rfl⟩ |
    ⟨rfl, hnone⟩
  · -- the key goes to the directory of the round that the state calls for
    obtain ⟨r, hr, rfl, rfl⟩ := createNewKeypair_eq_some hnew
    obtain rfl : r = s.store.calledRound := Option.some.inj (hr.symm.trans (hdb hcreates))
    have hsub : s.store.stored ⊆ (s.store.calledRound, generate s.store.stored.length) ::
      s.store.stored := List.subset_cons_self _ _
    exact ⟨generated_create h.generated, sent_frame hsub rfl h.sent,
      List.mem_cons_self, h.presubmitter.frame hsub rfl⟩
  · have hkey := h.submitter
    rw [hp] at hkey
    exact ⟨h.generated, h.sent, hkey, h.presubmitter⟩
  · -- the request names the round that was read
    have hkey := h.submitter
    rw [hp] at hkey
    refine ⟨h.generated, ?_, trivial, h.presubmitter⟩
    intro xt hxt k hk
    rcases List.mem_cons.1 hxt with rfl | hxt
    · unfold vaultKeyRequest at hk ⊢
      split at hk <;> simp_all [XtRequest.pubKeys, XtRequest.poolRound, Store.send, SubmitterHolds]
    · exact h.sent xt hxt k hk
  · exact ⟨h.generated, h.sent, submitterHolds_of_not_holdsKey hnone, h.presubmitter⟩

/-- A step of the pre-submitter keeps the invariant. -/
lemma Consistent.presubmitterStep (h : Consistent generate s) {reply : Reply A} {st' : Store A K}
    {p' : PresubmitterPc K}
    (hdb : s.presubmitter.creates = true → s.store.db = some s.store.currentRound)
    (hstep : presubmitterStep generate s.store s.presubmitter reply = some (st', p')) :
    Consistent generate { s with store := st', presubmitter := p' } := by
  rcases presubmitterStep_cases hstep with ⟨hcreates, left, keys, key, hp, hnew, rfl⟩ |
    ⟨keys, hp, rfl, rfl⟩ | ⟨keys, hp, rfl, rfl⟩ | ⟨rfl, hnone⟩
  · obtain ⟨r, hr, rfl, rfl⟩ := createNewKeypair_eq_some hnew
    obtain rfl : r = s.store.currentRound := Option.some.inj (hr.symm.trans (hdb hcreates))
    have hsub : s.store.stored ⊆ (s.store.currentRound, generate s.store.stored.length) ::
      s.store.stored := List.subset_cons_self _ _
    have hkeys := h.presubmitter
    rw [hp] at hkeys
    refine ⟨generated_create h.generated, sent_frame hsub rfl h.sent,
      h.submitter.frame hsub rfl (.inl Iff.rfl), ?_⟩
    intro k hk
    rcases List.mem_append.1 hk with hk | hk
    · exact hsub (hkeys k hk)
    · obtain rfl := List.mem_singleton.1 hk
      exact List.mem_cons_self
  · have hkeys := h.presubmitter
    rw [hp] at hkeys
    exact ⟨h.generated, h.sent, h.submitter, hkeys⟩
  · have hkeys := h.presubmitter
    rw [hp] at hkeys
    refine ⟨h.generated, ?_, h.submitter, trivial⟩
    intro xt hxt k hk
    rcases List.mem_cons.1 hxt with rfl | hxt
    · exact hkeys k hk
    · exact h.sent xt hxt k hk
  · exact ⟨h.generated, h.sent, h.submitter, presubmitterHolds_of_not_holdsKey hnone⟩

/-- A step of the migrator keeps the invariant. -/
lemma Consistent.migratorStep (h : Consistent generate s)
    (hnormal : ∀ state, s.migrator = .store state →
      (state = .normal ↔ s.store.migrationSequence = .normal) ∨
        s.submitter.beforeSequence = false) :
    Consistent generate { s with
      store := (migratorStep s.store s.migrator).1,
      migrator := (migratorStep s.store s.migrator).2 } := by
  obtain ⟨hstored, hsent, hround, hseq⟩ := migratorStep_frame s.store s.migrator
  have hsub : s.store.stored ⊆ (Keystore.migratorStep s.store s.migrator).1.stored := by
    rw [hstored]
    exact List.Subset.refl _
  refine ⟨by simpa only [hstored] using h.generated, sent_frame hsub hsent h.sent,
    h.submitter.frame hsub hround ?_, h.presubmitter.frame hsub hround⟩
  rcases hseq with hseq | ⟨state, hp, hseq⟩
  · exact .inl (by rw [hseq])
  · rw [hseq]
    exact hnormal state hp

/-- A change of the chain keeps the invariant. -/
lemma Consistent.chain (h : Consistent generate s) {serviceState : ServiceState}
    {currentRound : UInt32} (hround : currentRound = s.store.currentRound ∨
      (s.submitter.holdsKey = false ∧ s.presubmitter.holdsKey = false)) :
    Consistent generate { s with store := { s.store with
      serviceState := serviceState, currentRound := currentRound } } := by
  rcases hround with rfl | ⟨hs, hp⟩
  · exact ⟨h.generated, h.sent, h.submitter.frame (List.Subset.refl _) rfl (.inl Iff.rfl),
      h.presubmitter.frame (List.Subset.refl _) rfl⟩
  · exact ⟨h.generated, h.sent, submitterHolds_of_not_holdsKey hs,
      presubmitterHolds_of_not_holdsKey hp⟩

/-- A permitted step keeps the invariant. -/
lemma Consistent.act [DecidableEq A] {self systemVault : A} (h : Consistent generate s)
    {a : Action A} {s' : State A K} (hperm : Permitted s a)
    (hact : act generate self systemVault s a = some s') :
    Consistent generate s' := by
  cases a with
  | chain serviceState currentRound =>
    obtain rfl := Option.some.inj hact
    exact h.chain hperm
  | migrator =>
    obtain rfl := Option.some.inj hact
    exact h.migratorStep hperm
  | submitter reply =>
    obtain ⟨r, hr, rfl⟩ := Option.map_eq_some_iff.1 hact
    exact h.submitterStep hperm hr
  | presubmitter reply =>
    obtain ⟨r, hr, rfl⟩ := Option.map_eq_some_iff.1 hact
    exact h.presubmitterStep hperm hr

end Preservation

/-- In every run all of whose steps are permitted, every submission names the round of the directory
in which its keys are stored. -/
theorem poolRound_is_stored_round [DecidableEq A] {generate : ℕ → K}
    (hfresh : Function.Injective generate) (self systemVault : A) {tr : List (Action A)}
    {s : State A K}
    (h : ((submissionSystem generate self systemVault).restrict Permitted).Run tr s) :
    SubmittedForStoredRound s.store := by
  have hinv : Consistent generate s := by
    refine h.invariant (P := Consistent generate) ?_ ?_
    · rintro s ⟨serviceState, currentRound, rfl⟩
      exact ⟨rfl, by simp [initial], trivial, trivial⟩
    · rintro s a s' hs ⟨hact, hperm⟩
      exact hs.act hperm hact
  exact hinv.submittedForStoredRound hfresh

end Steps

/-! ### Runs of the three tasks -/

/-- The steps of `initialize` that load a directory, up to the write of `loaded_round`. -/
def initializeSteps : List (Action ℕ) :=
  [.migrator, .migrator, .migrator]

/-- A pre-submission of one key. -/
def presubmissionSteps : List (Action ℕ) :=
  [.presubmitter (.executive true), .presubmitter .ok, .presubmitter (.amount 2 (some 1)),
    .presubmitter .ok, .presubmitter .ok, .presubmitter .ok]

/-- A submission for the registration of the user `7`. -/
def submissionSteps : List (Action ℕ) :=
  [.submitter (.executive true), .submitter .ok, .submitter .ok, .submitter (.pending [7]),
    .submitter .ok, .submitter (.info 7 "" []), .submitter .ok, .submitter .ok, .submitter .ok,
    .submitter .ok]

instance {A K : Type} (s : State A K) (a : Action A) : Decidable (Permitted s a) := by
  cases a <;> unfold Permitted <;> infer_instance

/-- In normal operation both submitters name the round of their keys. -/
theorem poolRound_is_stored_round_normal :
    ∃ tr s, ((submissionSystem (K := ℕ) id 1 0).restrict Permitted).Run tr s ∧
      s.store.sent = [.vaultKeyPresubmission [1] 5, .submitVaultKey 7 0 5] ∧
      SubmittedForStoredRound s.store := by
  have hrun := LabelledSystem.exists_restrict_run_of_foldlM
    (S := submissionSystem (K := ℕ) id 1 0) (C := Permitted) (f := act id 1 0)
    ⟨.normal, 5, rfl⟩ (fun _ _ _ h => h)
    (initializeSteps ++ [.migrator] ++ submissionSteps ++ presubmissionSteps)
    (fun s => s.store.sent = [.vaultKeyPresubmission [1] 5, .submitVaultKey 7 0 5]) (by decide)
  obtain ⟨s, hrun, hs⟩ := hrun
  exact ⟨_, s, hrun, of_decide_eq_true hs,
    poolRound_is_stored_round Function.injective_id 1 0 hrun⟩

/-- The process starts while the next system vault is prepared: `initialize` loads the directory of
the next round, `migration_sequence` is still `Normal`, and a pre-submission names the current
round for a key of the next. -/
theorem presubmission_for_other_round :
    ∃ tr s, (submissionSystem (K := ℕ) id 1 0).Run tr s ∧ ¬SubmittedForStoredRound s.store := by
  have hrun := LabelledSystem.exists_run_of_foldlM (S := submissionSystem (K := ℕ) id 1 0)
    (f := act id 1 0) ⟨.prepareNextSystemVault, 5, rfl⟩ (fun _ _ _ h => h)
    (initializeSteps ++ presubmissionSteps)
    (fun s => s.store.sent = [.vaultKeyPresubmission [0] 5] ∧ s.store.stored = [(6, 0)])
    (by decide)
  obtain ⟨s, hrun, hs⟩ := hrun
  obtain ⟨hsent, hstored⟩ := of_decide_eq_true hs
  refine ⟨_, s, hrun, fun hmatch => ?_⟩
  have hsix := (hmatch (.vaultKeyPresubmission [0] 5) (by simp [hsent]) 0
    (by simp [XtRequest.pubKeys]) 6).1 (by simp [hstored])
  exact absurd hsix (by decide)

end Keystore

end BifrostRelayer
